import Deckhand.Lib.Interleave
import Mathlib.Algebra.Order.Ring.Unbundled.Rat
import Mathlib.Data.List.Chain
import Mathlib.Tactic.Linarith

/-! Runs with a clock: every event has an instant, and the calls of a process take a bounded
time each. -/
namespace Deckhand.Lib
open Prog

section
variable {σ Op Start : Type} {Note Ret : Op → Type} {ε α : Type}

abbrev TimedLog (σ : Type) {Op : Type} (Note Ret : Op → Type) := List (Int × Event σ Note Ret)

def untimed (timed : TimedLog σ Note Ret) : List (Event σ Note Ret) := timed.map Prod.snd

def ownOf (i : Nat) (timed : TimedLog σ Note Ret) : TimedLog σ Note Ret :=
  timed.filter fun x => x.2.caller == i

def InOrder (timed : TimedLog σ Note Ret) : Prop := timed.Pairwise fun x y => x.1 ≤ y.1

instance (timed : TimedLog σ Note Ret) : Decidable (InOrder timed) :=
  inferInstanceAs (Decidable (List.Pairwise _ _))

/-- At no moment has the call that process `i` is at taken longer than it may. -/
def Punctual (code : Start → Prog Ret ε α) (takes : Op → Rat) (i : Nat) (st : Start)
    (timed : TimedLog σ Note Ret) : Prop :=
  ∀ (a b : TimedLog σ Note Ret) (u : Int) (x : Event σ Note Ret), timed = a ++ (u, x) :: b →
    ∀ op, (code st).Calls (localOf i (untimed a)) op →
      ∀ (before : TimedLog σ Note Ret) (s : Int) (e : Event σ Note Ret),
        ownOf i a = before ++ [(s, e)] → (u : Rat) ≤ s + takes op

@[simp] theorem untimed_append (a b : TimedLog σ Note Ret) :
    untimed (a ++ b) = untimed a ++ untimed b := List.map_append

@[simp] theorem ownOf_append (i : Nat) (a b : TimedLog σ Note Ret) :
    ownOf i (a ++ b) = ownOf i a ++ ownOf i b := List.filter_append ..

theorem untimed_ownOf (i : Nat) (timed : TimedLog σ Note Ret) :
    untimed (ownOf i timed) = localOf i (untimed timed) := by
  rw [untimed, ownOf, localOf, untimed, List.filter_map]
  rfl

theorem mem_of_ownOf {i : Nat} {timed : TimedLog σ Note Ret} {x : Int × Event σ Note Ret}
    (h : x ∈ ownOf i timed) : x ∈ timed ∧ x.2.caller = i := by
  simpa [ownOf] using h

theorem mem_untimed {timed : TimedLog σ Note Ret} {x : Int × Event σ Note Ret}
    (h : x ∈ timed) : x.2 ∈ untimed timed := List.mem_map_of_mem h

theorem untimed_split {timed : TimedLog σ Note Ret} {a b : List (Event σ Note Ret)}
    {e : Event σ Note Ret} (h : untimed timed = a ++ e :: b) :
    ∃ a' t b', timed = a' ++ (t, e) :: b' ∧ untimed a' = a ∧ untimed b' = b := by
  obtain ⟨a', rest, rfl, rfl, later⟩ := List.map_eq_append_iff.mp h
  obtain ⟨⟨t, f⟩, b', rfl, rfl, rfl⟩ := List.map_eq_cons_iff.mp later
  exact ⟨a', t, b', rfl, rfl, rfl⟩

variable {sem : Semantics σ Note Ret} {code : Start → Prog Ret ε α} {start t : σ}
  {started : Nat → Option Start} {takes : Op → Rat} {i : Nat} {st : Start}
  {timed : TimedLog σ Note Ret}

/-- From one of its events on, a punctual process has spent no more than its calls may take. -/
theorem Punctual.waited (punctual : Punctual code takes i st timed)
    (run : Run sem code start started (untimed timed) t) (origin : started i = some st)
    {s : Int} {e : Event σ Note Ret} {xs ys a b : TimedLog σ Note Ret} {u : Int}
    {x : Event σ Note Ret} {op : Op} (split : timed = a ++ (u, x) :: b)
    (calls : (code st).Calls (localOf i (untimed a)) op)
    (own : ownOf i a = xs ++ (s, e) :: ys) :
    (u : Rat) ≤ s + ((ys.map fun y => takes y.2.op).sum + takes op) := by
  induction ys using List.reverseRecOn generalizing a b u x op with
  | nil => simpa using punctual a b u x split op calls xs s e own
  | append_singleton zs last ih =>
    obtain ⟨v, f⟩ := last
    have own : ownOf i a = (xs ++ (s, e) :: zs) ++ (v, f) :: [] := by simpa using own
    have now := punctual a b u x split op calls _ v f own
    -- the last own event, and the log before it
    obtain ⟨a₁, rest, rfl, first, later⟩ := List.filter_eq_append_iff.mp own
    obtain ⟨skipped, a₂, rfl, others, mine, -⟩ := List.filter_eq_cons_iff.mp later
    have whole : timed = (a₁ ++ skipped) ++ (v, f) :: (a₂ ++ (u, x) :: b) := by simp [split]
    have own₁ : ownOf i (a₁ ++ skipped) = xs ++ (s, e) :: zs := by
      rw [ownOf_append, ownOf, first, ownOf, List.filter_eq_nil_iff.mpr others, List.append_nil]
    have caller : f.caller = i := by simpa using mine
    have run' : Run sem code start started
        (untimed (a₁ ++ skipped) ++ f :: untimed (a₂ ++ (u, x) :: b)) t := by
      rw [whole, untimed_append] at run
      exact run
    obtain ⟨st', here, asked⟩ := run'.calls
    rw [caller] at here asked
    obtain rfl : st' = st := Option.some.inj (here.symm.trans origin)
    have before := ih whole asked own₁
    rw [List.map_append, List.sum_append, List.map_singleton, List.sum_singleton]
    linarith

/-- A process that ended, and took no longer between two of its events than it may, was
punctual. -/
theorem punctual_of_chain (run : Run sem code start started (untimed timed) t)
    (origin : started i = some st) (ordered : InOrder timed)
    (chain : (ownOf i timed).IsChain fun x y => (y.1 : Rat) ≤ x.1 + takes y.2.op)
    {r : Except ε α} (ended : (code st).Returns (localOf i (untimed timed)) r) :
    Punctual code takes i st timed := by
  rintro a b u x rfl op calls before s e own
  cases later : ownOf i ((u, x) :: b) with
  | nil =>
    rw [← untimed_ownOf, ownOf_append, later, List.append_nil, untimed_ownOf] at ended
    exact absurd calls ended.not_calls
  | cons y ys =>
    obtain ⟨v, f⟩ := y
    obtain ⟨member, caller⟩ := mem_of_ownOf (x := (v, f)) (later ▸ List.mem_cons_self)
    have mine : localOf i (untimed (a ++ (u, x) :: b)) =
        localOf i (untimed a) ++ f :: untimed ys := by
      rw [← untimed_ownOf, ownOf_append, later, untimed_append, untimed_ownOf]
      rfl
    obtain ⟨a', b', whole, same⟩ := localOf_split mine
    rw [whole] at run
    obtain ⟨st', here, asked⟩ := run.calls
    have caller : f.caller = i := caller
    rw [caller, same] at asked
    obtain rfl : st' = st := Option.some.inj ((caller ▸ here).symm.trans origin)
    obtain rfl := calls.unique asked
    rw [ownOf_append, own, later, List.append_assoc] at chain
    have step : (v : Rat) ≤ s + takes f.op := by
      have := (List.isChain_append.mp chain).2.1
      simp only [List.singleton_append, List.isChain_cons_cons] at this
      exact this.1
    have sooner : u ≤ v := by
      rcases List.mem_cons.mp member with same | member
      · exact (congrArg Prod.fst same).ge
      · exact (List.pairwise_cons.mp (List.pairwise_append.mp ordered).2.1).1 _ member
    exact (Int.cast_le.mpr sooner).trans step

end
end Deckhand.Lib
