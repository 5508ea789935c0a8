import Mathlib.Algebra.BigOperators.Group.List.Basic
import Mathlib.Algebra.GroupWithZero.Nat
import Mathlib.Algebra.Order.BigOperators.Group.List
import Deckhand.Lib.Interleave

/-! Credit: how often programs make certain calls, bounded by what the answers to other calls
pay for. -/
namespace Deckhand.Lib
open Prog

/-- What a call costs, and what its answer pays. -/
structure Tariff {Op : Type} (Ret : Op → Type) where
  cost : Op → Nat
  pays : (op : Op) → Ret op → Nat

namespace Tariff
variable {σ Op : Type} {Note Ret : Op → Type} {ε α β : Type} (t : Tariff Ret)

/-- Starting with that much credit, the program never makes a call it cannot pay. -/
def Affords : Nat → Prog Ret ε α → Prop
  | _, .ret _ => True
  | n, .call op k => t.cost op ≤ n ∧ ∀ r, Affords (n - t.cost op + t.pays op r) (k r)

def spent (es : List (Event σ Note Ret)) : Nat := (es.map fun e => t.cost e.op).sum

def paid (es : List (Event σ Note Ret)) : Nat := (es.map fun e => t.pays e.op e.ret).sum

variable {t} {n m : Nat} {p : Prog Ret ε α}

@[simp] theorem affords_ret {r : Except ε α} : t.Affords n (.ret r : Prog Ret ε α) := trivial

@[simp] theorem affords_pure {a : α} : t.Affords n (pure a : Prog Ret ε α) := trivial

@[simp] theorem affords_throw {x : ε} : t.Affords n (throw x : Prog Ret ε α) := trivial

@[simp] theorem affords_lift {r : Except ε α} : t.Affords n (lift r : Prog Ret ε α) := trivial

theorem Affords.mono (h : t.Affords n p) (le : n ≤ m) : t.Affords m p := by
  induction p generalizing n m with
  | ret r => trivial
  | call op k ih =>
    obtain ⟨enough, rest⟩ := h
    refine ⟨enough.trans le, fun r => ih r (rest r) ?_⟩
    omega

theorem affords_invoke {V : Type} {op : Op} {f : Ret op → Except ε V} (enough : t.cost op ≤ n) :
    t.Affords n (invoke op f : Prog Ret ε V) := ⟨enough, fun _ => trivial⟩

theorem Affords.bind {f : α → Prog Ret ε β} (h : t.Affords n p) (rest : ∀ a, t.Affords m (f a)) :
    t.Affords (n + m) (p >>= f) := by
  change t.Affords (n + m) (p.bind f)
  induction p generalizing n with
  | ret r =>
    cases r with
    | error x => trivial
    | ok a => exact (rest a).mono (Nat.le_add_left m n)
  | call op k ih =>
    obtain ⟨enough, later⟩ := h
    refine ⟨by omega, fun r => (ih r (later r)).mono ?_⟩
    omega

theorem affords_lift_bind {r : Except ε α} {f : α → Prog Ret ε β}
    (rest : ∀ a, t.Affords n (f a)) : t.Affords n (lift r >>= f) := by
  cases r with
  | error x => trivial
  | ok a => exact rest a

theorem affords_invoke_bind {V : Type} {op : Op} {g : Ret op → Except ε V} {f : V → Prog Ret ε β}
    (enough : t.cost op ≤ n)
    (rest : ∀ r v, g r = .ok v → t.Affords (n - t.cost op + t.pays op r) (f v)) :
    t.Affords n (invoke op g >>= f) := by
  refine ⟨enough, fun r => ?_⟩
  change t.Affords _ ((Prog.ret (g r)).bind f)
  cases answer : g r with
  | error x => trivial
  | ok v => exact rest r v answer

theorem Affords.tryCatch {handler : ε → Prog Ret ε α} (h : t.Affords n p)
    (rest : ∀ x, t.Affords m (handler x)) :
    t.Affords (n + m) (MonadExceptOf.tryCatch p handler) := by
  change t.Affords (n + m) (p.tryCatch handler)
  induction p generalizing n with
  | ret r =>
    cases r with
    | ok a => trivial
    | error x => exact (rest x).mono (Nat.le_add_left m n)
  | call op k ih =>
    obtain ⟨enough, later⟩ := h
    refine ⟨by omega, fun r => (ih r (later r)).mono ?_⟩
    omega

theorem affords_mapM {γ : Type} {xs : List γ} {f : γ → Prog Ret ε α} {w : γ → Nat}
    (round : ∀ x ∈ xs, t.Affords (w x) (f x)) : t.Affords (xs.map w).sum (xs.mapM f) := by
  induction xs with
  | nil => exact affords_pure
  | cons x xs ih =>
    rw [List.mapM_cons, List.map_cons, List.sum_cons]
    have tail := ih fun y member => round y (List.mem_cons_of_mem x member)
    refine (round x List.mem_cons_self).bind fun a => ?_
    exact tail.bind (m := 0) fun _ => affords_pure

theorem Affords.steps {es : List (Event σ Note Ret)} {q : Prog Ret ε α} (h : t.Affords n p)
    (steps : Prog.Steps p es q) : ∃ left, t.spent es + left = n + t.paid es ∧ t.Affords left q := by
  induction steps generalizing n with
  | nil p => exact ⟨n, by simp [spent, paid], h⟩
  | cons e r answered _ ih =>
    obtain ⟨enough, rest⟩ := h
    obtain ⟨left, balance, after⟩ := ih (rest r)
    refine ⟨left, ?_, after⟩
    cases answered
    simp only [spent, paid, List.map_cons, List.sum_cons] at balance ⊢
    omega

theorem Affords.call {es : List (Event σ Note Ret)} {op : Op} (h : t.Affords 0 p)
    (calls : Prog.Calls p es op) : t.spent es + t.cost op ≤ t.paid es := by
  obtain ⟨k, steps⟩ := calls
  obtain ⟨left, balance, enough, -⟩ := h.steps steps
  omega

section Log
variable {log : List (Event σ Note Ret)}

theorem sum_of_callers (f : Event σ Note Ret → Nat) (i : Nat) :
    (log.map f).sum = ((localOf i log).map f).sum +
      ((log.filter fun e => e.caller ≠ i).map f).sum := by
  induction log with
  | nil => rfl
  | cons e log ih =>
    by_cases own : e.caller = i
    · simp [localOf, own] at ih ⊢
      omega
    · simp [localOf, own] at ih ⊢
      omega

theorem sum_le_of_callers {f g : Event σ Note Ret → Nat}
    (each : ∀ i, ((localOf i log).map f).sum ≤ ((localOf i log).map g).sum) :
    (log.map f).sum ≤ (log.map g).sum := by
  induction size : log.length using Nat.strong_induction_on generalizing log with
  | _ n ih =>
    cases log with
    | nil => exact Nat.le_refl 0
    | cons e log =>
      rw [sum_of_callers f e.caller, sum_of_callers g e.caller]
      refine Nat.add_le_add (each e.caller) ?_
      have smaller : ((e :: log).filter fun d => d.caller ≠ e.caller).length < n := by
        have shorter := List.length_filter_le (fun d => decide (d.caller ≠ e.caller)) log
        rw [← size, List.filter_cons_of_neg (by simp)]
        exact Nat.lt_succ_of_le shorter
      refine ih _ smaller (fun i => ?_) rfl
      have part : localOf i ((e :: log).filter fun d => d.caller ≠ e.caller) =
          if i = e.caller then [] else localOf i (e :: log) := by
        unfold localOf
        rw [List.filter_filter]
        split
        · rename_i same
          refine List.filter_eq_nil_iff.mpr fun d _ => ?_
          simp [same]
        · rename_i other
          refine List.filter_congr fun d _ => ?_
          by_cases own : d.caller = i
          · simp [own, other]
          · simp [own]
      rw [part]
      split
      · exact Nat.le_refl 0
      · exact each i

end Log

end Tariff
end Deckhand.Lib
