import Mathlib.Data.List.Infix
import Mathlib.Order.Lattice

/-! Reading a growing log by a cursor. The log's keys increase, a reader holds the key of
the last entry it took, and what it has not read is what lies beyond that key. -/
namespace Deckhand.Lib

section
variable {α κ : Type} {key : α → κ} {a : κ} {rows rows' read : List α}

/-- The cursor of a reader that started at `a` and has read these entries. -/
def reached (key : α → κ) (a : κ) (read : List α) : κ := (read.getLast?.map key).getD a

@[simp] theorem reached_nil : reached key a [] = a := rfl

@[simp] theorem reached_concat (r : α) : reached key a (read ++ [r]) = key r := by
  simp [reached]

variable [LinearOrder κ]

def beyond (key : α → κ) (a : κ) (rows : List α) : List α := rows.filter fun r => a < key r

theorem mem_beyond {r : α} : r ∈ beyond key a rows ↔ r ∈ rows ∧ a < key r := by
  simp [beyond]

theorem beyond_grows (grows : rows <+: rows') : beyond key a rows <+: beyond key a rows' :=
  grows.filter _

theorem beyond_ordered (ordered : (rows.map key).Pairwise (· < ·)) :
    ((beyond key a rows).map key).Pairwise (· < ·) := by
  rw [List.pairwise_map] at ordered ⊢
  exact ordered.filter _

theorem beyond_read (ordered : (read.map key).Pairwise (· < ·)) :
    beyond key (reached key a read) read = [] := by
  induction read using List.reverseRecOn with
  | nil => rfl
  | append_singleton read r _ =>
    rw [List.map_append, List.pairwise_append] at ordered
    rw [beyond, List.filter_eq_nil_iff, reached_concat]
    intro x member
    rcases List.mem_append.mp member with before | last
    · have less := ordered.2.2 (key x) (List.mem_map_of_mem before) (key r) (by simp)
      simpa using less.le
    · obtain rfl := List.mem_singleton.mp last
      simp

theorem reached_ge (above : ∀ r ∈ read, a < key r) : a ≤ reached key a read := by
  induction read using List.reverseRecOn with
  | nil => exact le_refl a
  | append_singleton read r _ =>
    rw [reached_concat]
    exact (above r (by simp)).le

/-- What a reader has read and what lies beyond its cursor are the whole of what lies
beyond the place where it started. -/
theorem beyond_split (ordered : (rows.map key).Pairwise (· < ·))
    (initial : read <+: beyond key a rows) :
    beyond key a rows = read ++ beyond key (reached key a read) rows := by
  obtain ⟨rest, whole⟩ := initial
  have sorted := beyond_ordered (a := a) ordered
  rw [← whole, List.map_append, List.pairwise_append] at sorted
  have above : ∀ r ∈ read, a < key r := by
    intro r member
    exact (mem_beyond.mp (whole ▸ List.mem_append_left rest member)).2
  have later : ∀ r ∈ rest, reached key a read < key r := by
    intro r member
    induction read using List.reverseRecOn with
    | nil => exact (mem_beyond.mp (whole ▸ List.mem_append_right [] member)).2
    | append_singleton read l _ =>
      rw [reached_concat]
      exact sorted.2.2 (key l) (by simp) (key r) (List.mem_map_of_mem member)
  have narrowed : beyond key (reached key a read) rows =
      beyond key (reached key a read) (beyond key a rows) := by
    rw [beyond, beyond, beyond, List.filter_filter]
    refine List.filter_congr fun r _ => ?_
    have := reached_ge above
    by_cases h : reached key a read < key r
    · simp [h, this.trans_lt h]
    · simp [h]
  have unread : beyond key (reached key a read) rest = rest := by
    rw [beyond, List.filter_eq_self]
    intro r member
    simpa using later r member
  rw [narrowed, ← whole]
  conv_rhs => rw [beyond, List.filter_append]
  change read ++ rest = read ++ (beyond key _ read ++ beyond key _ rest)
  rw [beyond_read sorted.1, unread, List.nil_append]

theorem batch_initial (ordered : (rows.map key).Pairwise (· < ·))
    (initial : read <+: beyond key a rows) (n : Nat) :
    read ++ (beyond key (reached key a read) rows).take n <+: beyond key a rows := by
  rw [beyond_split ordered initial]
  exact List.prefix_append_right_inj read |>.mpr (List.take_prefix n _)

theorem batch_whole (ordered : (rows.map key).Pairwise (· < ·))
    (initial : read <+: beyond key a rows) {n : Nat}
    (short : ((beyond key (reached key a read) rows).take n).length < n) :
    read ++ (beyond key (reached key a read) rows).take n = beyond key a rows := by
  have all : (beyond key (reached key a read) rows).length ≤ n := by
    rw [List.length_take] at short
    omega
  rw [List.take_of_length_le all, ← beyond_split ordered initial]

end
end Deckhand.Lib
