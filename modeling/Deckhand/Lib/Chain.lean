import Mathlib.Data.List.Infix
import Mathlib.Algebra.GroupWithZero.Nat

/-! Authenticated logs. Records are joined with a separator into the text a tag is computed
from, and each record carries the tag of the one before it. -/
namespace Deckhand.Lib

section Join
variable {α : Type} [DecidableEq α] (sep : α)

theorem count_intercalate (fields : List (List α)) :
    ([sep].intercalate fields).count sep =
      (fields.map (List.count sep)).sum + (fields.length - 1) := by
  induction fields with
  | nil => simp [List.intercalate]
  | cons f rest ih =>
    cases rest with
    | nil => simp [List.intercalate]
    | cons g rest =>
      rw [List.intercalate_cons_cons, List.count_append, List.count_append, ih]
      simp
      omega

/-- Joining is unambiguous against fields that may themselves hold the separator: they
would bring more separators than the honest text has. -/
theorem intercalate_inj {honest other : List (List α)} (clean : ∀ f ∈ honest, sep ∉ f)
    (size : other.length = honest.length) (nonempty : honest ≠ [])
    (same : [sep].intercalate other = [sep].intercalate honest) : other = honest := by
  have zero : (honest.map (List.count sep)).sum = 0 := by
    refine List.sum_eq_zero_iff_forall_eq_nat.mpr fun n hn => ?_
    obtain ⟨f, hf, rfl⟩ := List.mem_map.mp hn
    exact List.count_eq_zero.mpr (clean f hf)
  have counts : (other.map (List.count sep)).sum = 0 := by
    have h := congrArg (List.count sep) same
    rw [count_intercalate, count_intercalate, zero, size] at h
    omega
  have clean' : ∀ f ∈ other, sep ∉ f := by
    intro f hf
    exact List.count_eq_zero.mp
      (List.sum_eq_zero_iff_forall_eq_nat.mp counts _ (List.mem_map.mpr ⟨f, hf, rfl⟩))
  have nonempty' : other ≠ [] := by
    intro h
    exact nonempty (List.length_eq_zero_iff.mp (by rw [← size, h]; rfl))
  rw [← List.splitOn_intercalate sep clean' nonempty', same,
    List.splitOn_intercalate sep clean nonempty]

end Join

section Chain
variable {R H : Type} (link tag expected : R → H)

/-- Each record points at the tag of the one before it and carries the tag it should. -/
def Chained : H → List R → Prop
  | _, [] => True
  | p, r :: rest => link r = p ∧ tag r = expected r ∧ Chained (tag r) rest

variable {link tag expected}

theorem Chained.link_mem {p : H} {rs : List R} (h : Chained link tag expected p rs) :
    ∀ r ∈ rs, link r ∈ p :: rs.map tag := by
  induction rs generalizing p with
  | nil => intro r hr; cases hr
  | cons r rest ih =>
    intro x hx
    rcases List.mem_cons.mp hx with rfl | hx
    · simp [h.1]
    · exact List.mem_cons_of_mem _ (ih h.2.2 x hx)

theorem Chained.tagged {p : H} {rs : List R} (h : Chained link tag expected p rs) :
    ∀ r ∈ rs, tag r = expected r := by
  induction rs generalizing p with
  | nil => intro r hr; cases hr
  | cons r rest ih =>
    intro x hx
    rcases List.mem_cons.mp hx with rfl | hx
    · exact h.2.1
    · exact ih h.2.2 x hx

theorem Chained.of_initial {p : H} {rs ls : List R} (h : Chained link tag expected p ls)
    (sub : rs <+: ls) : Chained link tag expected p rs := by
  induction rs generalizing p ls with
  | nil => trivial
  | cons r rest ih =>
    obtain ⟨more, rfl⟩ := sub
    exact ⟨h.1, h.2.1, ih h.2.2 ⟨more, rfl⟩⟩

/-- The tag at which a list of records ends. -/
def lastTag (tag : R → H) (p : H) (rs : List R) : H := (rs.getLast?.map tag).getD p

theorem chained_snoc {p : H} {rs : List R} {r : R} :
    Chained link tag expected p (rs ++ [r]) ↔
      Chained link tag expected p rs ∧ link r = lastTag tag p rs ∧ tag r = expected r := by
  induction rs generalizing p with
  | nil => simp [Chained, lastTag]
  | cons x rest ih =>
    have last : lastTag tag p (x :: rest) = lastTag tag (tag x) rest := by
      cases h : rest.getLast? <;> simp [lastTag, List.getLast?_cons, h]
    simp only [List.cons_append, Chained, ih, last]
    tauto

/-- When every record of a table is a record of the honest log, no two honest tags
coincide and none is the genesis value, a table that chains from the genesis value is an
initial segment of the log: nothing was edited, inserted, reordered or removed except at
the end. -/
theorem Chained.prefix_of_subset {p : H} {ls rs : List R}
    (honest : Chained link tag expected p ls) (distinct : (p :: ls.map tag).Nodup)
    (h : Chained link tag expected p rs) (known : ∀ r ∈ rs, r ∈ ls) : rs <+: ls := by
  induction ls generalizing p rs with
  | nil =>
    cases rs with
    | nil => exact List.prefix_rfl
    | cons r rest => exact absurd (known r (by simp)) (by simp)
  | cons l ls ih =>
    cases rs with
    | nil => exact List.nil_prefix
    | cons r rest =>
      obtain ⟨fresh, distinct'⟩ := List.nodup_cons.mp distinct
      have head : r = l := by
        rcases List.mem_cons.mp (known r (by simp)) with rfl | later
        · rfl
        · have pointed := honest.2.2.link_mem r later
          rw [h.1] at pointed
          exact absurd pointed fresh
      subst head
      refine (List.prefix_cons_inj r).mpr (ih honest.2.2 distinct' h.2.2 fun x hx => ?_)
      rcases List.mem_cons.mp (known x (by simp [hx])) with rfl | later
      · have pointed := h.2.2.link_mem x hx
        rw [h.1] at pointed
        have among : p ∈ tag x :: ls.map tag := by
          rcases List.mem_cons.mp pointed with eq | inside
          · simp [eq]
          · obtain ⟨y, hy, rfl⟩ := List.mem_map.mp inside
            exact List.mem_map.mpr ⟨y, known y (by simp [hy]), rfl⟩
        exact absurd among fresh
      · exact later

end Chain
end Deckhand.Lib
