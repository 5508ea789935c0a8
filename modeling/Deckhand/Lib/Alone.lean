import Deckhand.Lib.Interleave
import Mathlib.Logic.Relation

/-! What can follow a configuration, and one program left alone in it: whatever the other
programs stand at, a new one may be started and answered to its end with none of them calling. -/
namespace Deckhand.Lib

section
variable {σ Op Start : Type} {Note Ret : Op → Type} {ε α β : Type}

abbrev Leads (sem : Semantics σ Note Ret) (code : Start → Prog Ret ε α) :
    Config σ Start Note Ret ε α → Config σ Start Note Ret ε α → Prop :=
  Relation.ReflTransGen (Step sem code)

variable {sem : Semantics σ Note Ret} {code : Start → Prog Ret ε α} {s : σ}

theorem Leads.reachable {c d : Config σ Start Note Ret ε α} (leads : Leads sem code c d)
    (h : Reachable sem code s c) : Reachable sem code s d := by
  induction leads with
  | refl => exact h
  | tail _ step ih => exact .step ih step

/-- A property of the state that no call takes away, whoever makes it, holds in all that follows. -/
theorem Leads.stable {P : σ → Prop} {c d : Config σ Start Note Ret ε α}
    (leads : Leads sem code c d) (h : Reachable sem code s c) (start : P c.state)
    (keep : ∀ log e started t, Run sem code s started (log ++ [e]) t → P e.pre → P e.post) :
    P d.state := by
  induction leads with
  | refl => exact start
  | @tail b d leads step ih =>
    have run := reachable_run (.step (Leads.reachable leads h) step)
    cases step with
    | spawn => exact ih
    | crash => exact ih
    | call i st op k note r post => exact keep _ _ _ _ run ih

/-- Left alone from `s`, the program may end with `r` and leave `t`. -/
inductive Alone (sem : Semantics σ Note Ret) : Prog Ret ε α → σ → Except ε α → σ → Prop where
  | ret (r : Except ε α) (s : σ) : Alone sem (.ret r) s r s
  | call (op : Op) (k : Ret op → Prog Ret ε α) (note : Note op) (v : Ret op) (s u t : σ)
      (r : Except ε α) : sem op s note v u → Alone sem (k v) u r t →
      Alone sem (.call op k) s r t

namespace Alone
variable {t u : σ}

theorem bind {p : Prog Ret ε α} {f : α → Prog Ret ε β} {a : α} {r : Except ε β}
    (first : Alone sem p s (.ok a) u) (later : Alone sem (f a) u r t) :
    Alone sem (p >>= f) s r t := by
  change Alone sem (p.bind f) s r t
  generalize ended : Except.ok a = x at first
  induction first with
  | ret x s =>
    subst ended
    exact later
  | call op k note v s w t x answers _ ih =>
    exact .call op _ note v s w _ r answers (ih later ended)

theorem map {p : Prog Ret ε α} {f : α → β} {a : α} (h : Alone sem p s (.ok a) t) :
    Alone sem (f <$> p) s (.ok (f a)) t := by
  rw [map_eq_pure_bind]
  exact bind h (.ret _ t)

theorem lift {r : Except ε α} {a : α} (ends : r = .ok a) :
    Alone sem (Prog.lift r : Prog Ret ε α) s (.ok a) s := by
  subst ends
  exact .ret _ s

theorem raiseIf {c : Prop} [Decidable c] {x : ε} (passes : ¬ c) :
    Alone sem (Prog.raiseIf c x : Prog Ret ε Unit) s (.ok ()) s :=
  lift (if_neg passes)

theorem require {v : Option α} {x : ε} {a : α} (found : v = some a) :
    Alone sem (Prog.require v x : Prog Ret ε α) s (.ok a) s := by
  subst found
  exact .ret _ s

theorem invoke {V : Type} {op : Op} {f : Ret op → Except ε V} {note : Note op} {v : Ret op}
    (answers : sem op s note v t) : Alone sem (Prog.invoke op f : Prog Ret ε V) s (f v) t :=
  .call op _ note v s t t _ answers (.ret _ t)

theorem goes {c : Config σ Start Note Ret ε α} {i : Nat} {st : Start} {p : Prog Ret ε α}
    {r : Except ε α} (stands : c.procs[i]? = some (st, some p))
    (h : Alone sem p c.state r t) :
    ∃ d, Leads sem code c d ∧ d.state = t ∧ d.Ended i r := by
  generalize before : c.state = s at h
  induction h generalizing c with
  | ret r s => exact ⟨c, .refl, before, st, stands⟩
  | call op k note v s u t r answers _ ih =>
    subst before
    have inside := (List.getElem?_eq_some_iff.mp stands).1
    obtain ⟨d, leads, after, ended⟩ := ih
      (c := ⟨u, c.log ++ [⟨i, op, c.state, note, v, u⟩], c.procs.set i (st, some (k v))⟩)
      (by simp [inside]) rfl
    exact ⟨d, .head (.call c i st op k note v u stands answers) leads, after, ended⟩

theorem starts (c : Config σ Start Note Ret ε α) {st : Start} {r : Except ε α}
    (h : Alone sem (code st) c.state r t) :
    ∃ d, Leads sem code c d ∧ d.state = t ∧ d.Ended c.procs.length r := by
  have stands : (c.procs ++ [(st, some (code st))])[c.procs.length]? =
      some (st, some (code st)) := by simp
  obtain ⟨d, leads, after, ended⟩ :=
    goes (c := { c with procs := c.procs ++ [(st, some (code st))] }) stands h
  exact ⟨d, .head (.spawn c st) leads, after, ended⟩

end Alone
end
end Deckhand.Lib
