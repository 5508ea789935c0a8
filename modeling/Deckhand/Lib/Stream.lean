import Mathlib.Data.List.Basic
import Mathlib.Tactic.Common

/-! Reading so many elements of a stream that arrives in chunks. -/
namespace Deckhand.Lib

section
variable {α : Type}

def splitExact (n : Nat) (l : List α) : Option (List α × List α) :=
  if n ≤ l.length then some (l.take n, l.drop n) else none

/-- A buffered reader: what has arrived and was not read yet, and the chunks to come. -/
structure StreamReader (α : Type) where
  buffer : List α
  chunks : List (List α)

def StreamReader.rest (r : StreamReader α) : List α := r.buffer ++ r.chunks.flatten

/-- It waits for chunk after chunk until its buffer holds enough, and fails at the end. -/
def readexactly (n : Nat) (buffer : List α) : List (List α) → Option (List α × StreamReader α)
  | [] => if n ≤ buffer.length then some (buffer.take n, ⟨buffer.drop n, []⟩) else none
  | chunk :: chunks =>
    if n ≤ buffer.length then some (buffer.take n, ⟨buffer.drop n, chunk :: chunks⟩)
    else readexactly n (buffer ++ chunk) chunks

/-- A loop over `recv`, which hands over at most what is still wanted, out of one chunk. -/
def recvExact : Nat → List (List α) → Option (List α × List (List α))
  | 0, chunks => some ([], chunks)
  | _ + 1, [] => none
  | n + 1, chunk :: chunks =>
    if n + 1 < chunk.length then some (chunk.take (n + 1), chunk.drop (n + 1) :: chunks)
    else (recvExact (n + 1 - chunk.length) chunks).map fun r => (chunk ++ r.1, r.2)

theorem readexactly_split (n : Nat) (buffer : List α) (chunks : List (List α)) :
    (readexactly n buffer chunks).map (fun r => (r.1, r.2.rest)) =
      splitExact n (buffer ++ chunks.flatten) := by
  induction chunks generalizing buffer with
  | nil =>
    by_cases enough : n ≤ buffer.length
    · simp [readexactly, splitExact, enough, StreamReader.rest]
    · simp [readexactly, splitExact, enough]
  | cons chunk chunks ih =>
    rw [readexactly]
    split
    · rename_i enough
      have more : n ≤ (buffer ++ (chunk :: chunks).flatten).length := by
        rw [List.length_append]
        omega
      rw [splitExact, if_pos more, Option.map_some, List.take_append_of_le_length enough,
        List.drop_append_of_le_length enough]
      rfl
    · rw [ih, List.flatten_cons, List.append_assoc]

theorem recvExact_split (n : Nat) (chunks : List (List α)) :
    (recvExact n chunks).map (fun r => (r.1, r.2.flatten)) = splitExact n chunks.flatten := by
  induction chunks generalizing n with
  | nil => cases n <;> simp [recvExact, splitExact]
  | cons chunk chunks ih =>
    cases n with
    | zero => simp [recvExact, splitExact]
    | succ n =>
      rw [recvExact, List.flatten_cons]
      split
      · rename_i long
        have more : n + 1 ≤ (chunk ++ chunks.flatten).length := by
          rw [List.length_append]
          omega
        rw [splitExact, if_pos more, Option.map_some, List.take_append_of_le_length (by omega),
          List.drop_append_of_le_length (by omega), List.flatten_cons]
      · rename_i short
        have rest := ih (n + 1 - chunk.length)
        rw [Option.map_map]
        have front : (chunk ++ chunks.flatten).take (n + 1) =
            chunk ++ chunks.flatten.take (n + 1 - chunk.length) := by
          rw [List.take_append, List.take_of_length_le (by omega)]
        have back : (chunk ++ chunks.flatten).drop (n + 1) =
            chunks.flatten.drop (n + 1 - chunk.length) := by
          rw [List.drop_append, List.drop_of_length_le (by omega), List.nil_append]
        unfold splitExact at rest ⊢
        rw [front, back, List.length_append]
        by_cases enough : n + 1 - chunk.length ≤ chunks.flatten.length
        · rw [if_pos (by omega)]
          rw [if_pos enough] at rest
          obtain ⟨⟨first, left⟩, ran, same⟩ := Option.map_eq_some_iff.mp rest
          obtain ⟨rfl, flat⟩ := Prod.mk.inj same
          simp only [ran, Option.map_some, Function.comp_apply, flat]
        · rw [if_neg (by omega)]
          rw [if_neg enough, Option.map_eq_none_iff] at rest
          rw [rest, Option.map_none]

theorem splitExact_append (front back : List α) :
    splitExact front.length (front ++ back) = some (front, back) := by
  have enough : front.length ≤ (front ++ back).length := by
    rw [List.length_append]
    omega
  rw [splitExact, if_pos enough, List.take_left, List.drop_left]

theorem splitExact_some {n : Nat} {l front back : List α}
    (split : splitExact n l = some (front, back)) : l = front ++ back ∧ front.length = n := by
  unfold splitExact at split
  split at split
  · rename_i enough
    cases split
    exact ⟨(List.take_append_drop n l).symm, List.length_take_of_le enough⟩
  · cases split

end
end Deckhand.Lib
