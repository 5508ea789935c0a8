import Mathlib.Data.List.Sort

/-! Tables with a primary key. A table carries the proof that no two of its rows share
the key, so a row is determined by it. -/
namespace Deckhand.Lib

structure Table {α κ : Type} (key : α → κ) where
  rows : List α
  nodup : (rows.map key).Nodup

namespace Table
section
variable {α κ : Type} [DecidableEq κ] {key : α → κ}

def empty : Table key := ⟨[], List.nodup_nil⟩

def find? (t : Table key) (k : κ) : Option α := t.rows.find? fun r => key r = k

/-- Insertion fails on a key that is already there. -/
def insert? (t : Table key) (r : α) : Option (Table key) :=
  if fresh : key r ∈ t.rows.map key then none
  else some ⟨t.rows ++ [r], by
    rw [List.map_append, List.nodup_append]
    refine ⟨t.nodup, List.nodup_singleton _, ?_⟩
    rintro a ha b hb rfl
    obtain rfl : a = key r := by simpa using hb
    exact fresh ha⟩

/-- `UPDATE ... WHERE key = k` with an assignment that leaves the key column alone. -/
def update (t : Table key) (k : κ) (f : α → α) (keeps : ∀ r, key (f r) = key r) :
    Table key where
  rows := t.rows.map fun r => if key r = k then f r else r
  nodup := by
    have same : (t.rows.map fun r => if key r = k then f r else r).map key = t.rows.map key := by
      rw [List.map_map]
      refine List.map_congr_left fun r _ => ?_
      by_cases h : key r = k <;> simp [h, keeps]
    exact same ▸ t.nodup

theorem find?_key {t : Table key} {k : κ} {r : α} (h : t.find? k = some r) : key r = k := by
  simpa using List.find?_some h

theorem find?_mem {t : Table key} {k : κ} {r : α} (h : t.find? k = some r) : r ∈ t.rows :=
  List.mem_of_find?_eq_some h

omit [DecidableEq κ] in
theorem key_unique {t : Table key} {r s : α} (hr : r ∈ t.rows) (hs : s ∈ t.rows)
    (same : key r = key s) : r = s :=
  List.inj_on_of_nodup_map t.nodup hr hs same

theorem find?_eq_some {t : Table key} {k : κ} {r : α} :
    t.find? k = some r ↔ r ∈ t.rows ∧ key r = k := by
  constructor
  · exact fun h => ⟨find?_mem h, find?_key h⟩
  · rintro ⟨member, rfl⟩
    cases h : t.find? (key r) with
    | none => simpa using List.find?_eq_none.mp h r member
    | some s => exact congrArg some (key_unique (find?_mem h) member (find?_key h))

theorem find?_eq_none {t : Table key} {k : κ} : t.find? k = none ↔ ∀ r ∈ t.rows, key r ≠ k := by
  simp [find?, List.find?_eq_none]

theorem find?_of_mem {t : Table key} {r : α} (h : r ∈ t.rows) : t.find? (key r) = some r :=
  find?_eq_some.mpr ⟨h, rfl⟩

@[simp] theorem find?_empty (k : κ) : (empty : Table key).find? k = none := rfl

theorem insert?_rows {t t' : Table key} {r : α} (h : t.insert? r = some t') :
    t'.rows = t.rows ++ [r] ∧ t.find? (key r) = none := by
  unfold insert? at h
  split at h
  · cases h
  · rename_i fresh
    cases Option.some.inj h
    refine ⟨rfl, find?_eq_none.mpr fun s hs same => fresh ?_⟩
    exact List.mem_map.mpr ⟨s, hs, same⟩

theorem find?_insert? {t t' : Table key} {r : α} (h : t.insert? r = some t') (k : κ) :
    t'.find? k = if k = key r then some r else t.find? k := by
  obtain ⟨rows, fresh⟩ := insert?_rows h
  unfold find? at fresh ⊢
  rw [rows, List.find?_append]
  by_cases same : k = key r
  · subst same
    simp [fresh]
  · have other : key r ≠ k := fun h => same h.symm
    simp [same, other]

@[simp] theorem update_rows (t : Table key) (k : κ) (f : α → α)
    (keeps : ∀ r, key (f r) = key r) :
    (t.update k f keeps).rows = t.rows.map fun r => if key r = k then f r else r := rfl

theorem find?_update (t : Table key) (k j : κ) (f : α → α) (keeps : ∀ r, key (f r) = key r) :
    (t.update k f keeps).find? j = if j = k then (t.find? j).map f else t.find? j := by
  have pointwise : ∀ r, key (if key r = k then f r else r) = key r := by
    intro r
    by_cases h : key r = k <;> simp [h, keeps]
  have found : (t.update k f keeps).find? j =
      (t.find? j).map fun r => if key r = k then f r else r := by
    simp only [find?, update_rows, List.find?_map, Function.comp_def, pointwise]
  rw [found]
  by_cases same : j = k
  · subst same
    rw [if_pos rfl]
    cases h : t.find? j with
    | none => rfl
    | some r => simp [find?_key h]
  · rw [if_neg same]
    cases h : t.find? j with
    | none => rfl
    | some r => simp [find?_key h, same]

end
end Table

/-- `ORDER BY` on a numeric column. Rows whose column ties come in whatever order the
database likes: `rank` is that choice. -/
def orderBy {α : Type} (column : α → Int) (rank : α → Nat) (rows : List α) : List α :=
  rows.insertionSort fun a b => column a < column b ∨ (column a = column b ∧ rank a ≤ rank b)

section
variable {α : Type} {column : α → Int} {rank : α → Nat}

@[simp] theorem mem_orderBy {rows : List α} {r : α} : r ∈ orderBy column rank rows ↔ r ∈ rows :=
  List.mem_insertionSort _

theorem orderBy_perm (rows : List α) : (orderBy column rank rows).Perm rows :=
  List.perm_insertionSort _ _

theorem orderBy_pairwise (column : α → Int) (rank : α → Nat) (rows : List α) :
    (orderBy column rank rows).Pairwise fun a b => column a ≤ column b := by
  have : Std.Total fun a b : α => column a < column b ∨ (column a = column b ∧ rank a ≤ rank b) :=
    ⟨fun a b => by omega⟩
  have : IsTrans α fun a b => column a < column b ∨ (column a = column b ∧ rank a ≤ rank b) :=
    ⟨fun a b c => by omega⟩
  exact (List.pairwise_insertionSort _ rows).imp fun h => by omega

theorem orderBy_map_nodup {κ : Type} {key : α → κ} {rows : List α}
    (nodup : (rows.map key).Nodup) : ((orderBy column rank rows).map key).Nodup :=
  ((orderBy_perm rows).map key).nodup_iff.mpr nodup

end
end Deckhand.Lib
