import Deckhand.Lib.Prog

/-! Weakest preconditions of programs. A ghost state goes with the program, and the answers to its
calls move it, so that a postcondition can speak of what the program was answered. -/
namespace Deckhand.Lib.Prog

/-- What a call may be answered with, and what the answer does to the ghost state. -/
structure Ghost {Op : Type} (Ret : Op → Type) (γ : Type) where
  possible : (op : Op) → Ret op → Prop
  move : γ → (op : Op) → Ret op → γ

section
variable {Op : Type} {Ret : Op → Type} {γ ε ε' α β : Type} (w : Ghost Ret γ)

/-- However its calls are answered, the program ends in `Q`. -/
def wp (Q : γ → Except ε α → Prop) : γ → Prog Ret ε α → Prop
  | g, .ret r => Q g r
  | g, .call op k => ∀ r, w.possible op r → wp Q (w.move g op r) (k r)

/-- What the first part of a sequence has to end in. -/
def onward (Q : γ → Except ε β → Prop) (f : α → Prog Ret ε β) (g : γ) : Except ε α → Prop
  | .ok a => wp w Q g (f a)
  | .error x => Q g (.error x)

/-- What the body under a handler has to end in. -/
def caught (Q : γ → Except ε α → Prop) (handler : ε → Prog Ret ε α) (g : γ) : Except ε α → Prop
  | .ok a => Q g (.ok a)
  | .error x => wp w Q g (handler x)

variable {w} {g : γ} {Q Q' : γ → Except ε α → Prop} {p : Prog Ret ε α}

theorem wp_mono (h : wp w Q g p) (weaker : ∀ g r, Q g r → Q' g r) : wp w Q' g p := by
  induction p generalizing g with
  | ret r => exact weaker g r h
  | call op k ih => exact fun r possible => ih r (h r possible)

theorem wp_bind {R : γ → Except ε β → Prop} {f : α → Prog Ret ε β}
    (h : wp w (onward w R f) g p) : wp w R g (p >>= f) := by
  change wp w R g (p.bind f)
  induction p generalizing g with
  | ret r =>
    cases r with
    | ok a => exact h
    | error x => exact h
  | call op k ih => exact fun r possible => ih r (h r possible)

theorem wp_tryCatch {handler : ε → Prog Ret ε α} (h : wp w (caught w Q handler) g p) :
    wp w Q g (tryCatch p handler) := by
  change wp w Q g (p.tryCatch handler)
  induction p generalizing g with
  | ret r =>
    cases r with
    | ok a => exact h
    | error x => exact h
  | call op k ih => exact fun r possible => ih r (h r possible)

theorem wp_attempt {R : γ → Except ε' (Except ε α) → Prop} (h : wp w (fun g r => R g (.ok r)) g p) :
    wp w R g p.attempt := by
  induction p generalizing g with
  | ret r => exact h
  | call op k ih => exact fun r possible => ih r (h r possible)

theorem wp_invoke {op : Op} {f : Ret op → Except ε α}
    (h : ∀ r, w.possible op r → Q (w.move g op r) (f r)) : wp w Q g (invoke op f) := h

end
end Deckhand.Lib.Prog
