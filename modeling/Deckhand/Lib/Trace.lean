import Mathlib.Data.List.Infix

/-! Histories of atomic calls on one shared state. An event keeps the state before
and after its call, so a property of a run is a property of its list of events. -/
namespace Deckhand.Lib

/-- One atomic call: who made it, what was asked, what the environment contributed
(`note`), what was answered, and the shared state on both sides. -/
structure Event (σ : Type) {Op : Type} (Note Ret : Op → Type) where
  caller : Nat
  op : Op
  pre : σ
  note : Note op
  ret : Ret op
  post : σ

/-- What a call may answer and how it may change the shared state. -/
abbrev Semantics (σ : Type) {Op : Type} (Note Ret : Op → Type) :=
  (op : Op) → σ → Note op → Ret op → σ → Prop

section
variable {σ Op : Type} {Note Ret : Op → Type}

/-- The event is a call of `op` that was answered with `r`. -/
inductive Event.Answered : Event σ Note Ret → (op : Op) → Ret op → Prop where
  | mk (caller : Nat) (op : Op) (pre : σ) (note : Note op) (r : Ret op) (post : σ) :
      Answered ⟨caller, op, pre, note, r, post⟩ op r

theorem Event.answered_self (e : Event σ Note Ret) : e.Answered e.op e.ret := .mk ..

theorem Event.Answered.op_eq {e : Event σ Note Ret} {op : Op} {r : Ret op}
    (h : e.Answered op r) : e.op = op := by cases h; rfl

theorem Event.Answered.unique {e : Event σ Note Ret} {op : Op} {r s : Ret op}
    (hr : e.Answered op r) (hs : e.Answered op s) : r = s := by
  cases hr
  cases hs
  rfl

def Event.Valid (sem : Semantics σ Note Ret) (e : Event σ Note Ret) : Prop :=
  sem e.op e.pre e.note e.ret e.post

theorem Event.Valid.answered {sem : Semantics σ Note Ret} {e : Event σ Note Ret} {op : Op}
    {r : Ret op} (valid : e.Valid sem) (h : e.Answered op r) :
    ∃ note, sem op e.pre note r e.post := by
  cases h
  exact ⟨_, valid⟩

inductive Trace (sem : Semantics σ Note Ret) (s : σ) : List (Event σ Note Ret) → σ → Prop where
  | nil : Trace sem s [] s
  | snoc (log : List (Event σ Note Ret)) (e : Event σ Note Ret) :
      Trace sem s log e.pre → e.Valid sem → Trace sem s (log ++ [e]) e.post

variable {sem : Semantics σ Note Ret} {s t : σ}

theorem Trace.snoc_inv {log : List (Event σ Note Ret)} {e : Event σ Note Ret}
    (h : Trace sem s (log ++ [e]) t) : Trace sem s log e.pre ∧ e.Valid sem ∧ t = e.post := by
  generalize whole : log ++ [e] = l at h
  cases h with
  | nil => simp at whole
  | snoc log' e' before valid =>
    obtain ⟨rfl, he⟩ := List.append_inj' whole rfl
    obtain rfl : e = e' := by simpa using he
    exact ⟨before, valid, rfl⟩

theorem Trace.nil_inv (h : Trace sem s [] t) : t = s := by
  generalize whole : ([] : List (Event σ Note Ret)) = l at h
  cases h with
  | nil => rfl
  | snoc log e => simp at whole

theorem Trace.unique {log : List (Event σ Note Ret)} {u : σ} (h : Trace sem s log t)
    (h' : Trace sem s log u) : u = t := by
  cases h with
  | nil => exact h'.nil_inv
  | snoc log e => exact h'.snoc_inv.2.2

theorem Trace.split {a b : List (Event σ Note Ret)} {e : Event σ Note Ret}
    (h : Trace sem s (a ++ e :: b) t) :
    Trace sem s a e.pre ∧ e.Valid sem ∧ Trace sem e.post b t := by
  induction b using List.reverseRecOn generalizing t with
  | nil =>
    obtain ⟨before, valid, rfl⟩ := h.snoc_inv
    exact ⟨before, valid, .nil⟩
  | append_singleton b last ih =>
    have whole : a ++ e :: (b ++ [last]) = (a ++ e :: b) ++ [last] := by simp
    rw [whole] at h
    obtain ⟨before, valid, rfl⟩ := h.snoc_inv
    obtain ⟨first, here, rest⟩ := ih before
    exact ⟨first, here, .snoc _ _ rest valid⟩

theorem Trace.append {l m : List (Event σ Note Ret)} {u : σ} (first : Trace sem s l t)
    (second : Trace sem t m u) : Trace sem s (l ++ m) u := by
  induction second with
  | nil => simpa using first
  | snoc m e _ valid ih =>
    rw [← List.append_assoc]
    exact .snoc _ _ ih valid

theorem Trace.valid {log : List (Event σ Note Ret)} (h : Trace sem s log t)
    {e : Event σ Note Ret} (member : e ∈ log) : e.Valid sem := by
  obtain ⟨a, b, rfl⟩ := List.append_of_mem member
  exact h.split.2.1

theorem places {α : Type} {a b a' b' : List α} {x x' : α} (h : a ++ x :: b = a' ++ x' :: b') :
    (∃ m, a' = a ++ x :: m ∧ b = m ++ x' :: b') ∨ (∃ m, a = a' ++ x' :: m ∧ b' = m ++ x :: b) ∨
      a = a' ∧ x = x' ∧ b = b' := by
  rcases List.append_eq_append_iff.mp h with ⟨m, rfl, tail⟩ | ⟨m, rfl, tail⟩
  · cases m with
    | nil => exact .inr (.inr ⟨by simp, List.cons.inj tail⟩)
    | cons y m =>
      obtain ⟨rfl, rfl⟩ := List.cons.inj tail
      exact .inl ⟨m, rfl, rfl⟩
  · cases m with
    | nil =>
      obtain ⟨rfl, rfl⟩ := List.cons.inj tail
      exact .inr (.inr ⟨by simp, rfl, rfl⟩)
    | cons y m =>
      obtain ⟨rfl, rfl⟩ := List.cons.inj tail
      exact .inr (.inl ⟨m, rfl, rfl⟩)

theorem same_place {α : Type} {P : α → Prop} {l a b a' b' : List α} {x x' : α}
    (once : ∀ a m b x x', l = a ++ x :: (m ++ x' :: b) → P x → ¬ P x')
    (h : l = a ++ x :: b) (h' : l = a' ++ x' :: b') (hx : P x) (hx' : P x') : a = a' ∧ x = x' := by
  rcases places (h.symm.trans h') with ⟨m, rfl, rfl⟩ | ⟨m, rfl, rfl⟩ | ⟨rfl, rfl, rfl⟩
  · exact absurd hx' (once _ _ _ _ _ h hx)
  · exact absurd hx (once _ _ _ _ _ h' hx')
  · exact ⟨rfl, rfl⟩

theorem Trace.stable {P : σ → Prop} {log : List (Event σ Note Ret)} (h : Trace sem s log t)
    (keep : ∀ e ∈ log, e.Valid sem → P e.pre → P e.post) (start : P s) : P t := by
  induction h with
  | nil => exact start
  | snoc log e _ valid ih =>
    exact keep e (by simp) valid (ih fun e' he' => keep e' (by simp [he']))

def visited (s : σ) (log : List (Event σ Note Ret)) : List σ := s :: log.map Event.post

/-- The events of a list of calls, where a call's answer and effect are computed. -/
def replay (answer : (op : Op) → Note op → σ → Ret op × σ) (s : σ) :
    List ((op : Op) × Note op) → List (Event σ Note Ret)
  | [] => []
  | ⟨op, note⟩ :: rest =>
    ⟨0, op, s, note, (answer op note s).1, (answer op note s).2⟩ ::
      replay answer (answer op note s).2 rest

def replayed (answer : (op : Op) → Note op → σ → Ret op × σ) (s : σ) :
    List ((op : Op) × Note op) → σ
  | [] => s
  | ⟨op, note⟩ :: rest => replayed answer (answer op note s).2 rest

theorem replay_trace (answer : (op : Op) → Note op → σ → Ret op × σ) (s : σ)
    (calls : List ((op : Op) × Note op)) :
    Trace (fun op s note r t => answer op note s = (r, t)) s (replay answer s calls)
      (replayed answer s calls) := by
  induction calls generalizing s with
  | nil => exact .nil
  | cons call rest ih =>
    obtain ⟨op, note⟩ := call
    have first : Trace (fun op s note r t => answer op note s = (r, t)) s
        ([] ++ [(⟨0, op, s, note, (answer op note s).1, (answer op note s).2⟩ :
          Event σ Note Ret)]) (answer op note s).2 := .snoc _ _ .nil rfl
    exact first.append (ih _)

/-- The same where some calls are not possible in some states. -/
def attempt (answer : (op : Op) → Note op → σ → Option (Ret op × σ)) (s : σ) :
    List ((op : Op) × Note op) → Option (List (Event σ Note Ret) × σ)
  | [] => some ([], s)
  | ⟨op, note⟩ :: rest => do
    let (r, t) ← answer op note s
    let (log, u) ← attempt answer t rest
    return (⟨0, op, s, note, r, t⟩ :: log, u)

theorem attempt_trace {answer : (op : Op) → Note op → σ → Option (Ret op × σ)} {s u : σ}
    {calls : List ((op : Op) × Note op)} {log : List (Event σ Note Ret)}
    (h : attempt answer s calls = some (log, u)) :
    Trace (fun op s note r t => answer op note s = some (r, t)) s log u := by
  induction calls generalizing s log with
  | nil =>
    obtain ⟨rfl, rfl⟩ : [] = log ∧ s = u := by simpa [attempt] using h
    exact .nil
  | cons call rest ih =>
    obtain ⟨op, note⟩ := call
    simp only [attempt, Option.bind_eq_bind, Option.bind_eq_some_iff] at h
    obtain ⟨⟨r, t⟩, here, ⟨later, v⟩, after, whole⟩ := h
    obtain ⟨rfl, rfl⟩ : _ ∧ v = u := by simpa using whole
    have first : Trace (fun op s note r t => answer op note s = some (r, t)) s
        ([] ++ [(⟨0, op, s, note, r, t⟩ : Event σ Note Ret)]) t := .snoc _ _ .nil here
    exact first.append (ih after)

theorem attempt_ops {answer : (op : Op) → Note op → σ → Option (Ret op × σ)} {s u : σ}
    {calls : List ((op : Op) × Note op)} {log : List (Event σ Note Ret)}
    (h : attempt answer s calls = some (log, u)) : log.map Event.op = calls.map Sigma.fst := by
  induction calls generalizing s log with
  | nil =>
    obtain ⟨rfl, -⟩ : [] = log ∧ s = u := by simpa [attempt] using h
    rfl
  | cons call rest ih =>
    obtain ⟨op, note⟩ := call
    simp only [attempt, Option.bind_eq_bind, Option.bind_eq_some_iff] at h
    obtain ⟨⟨r, t⟩, -, ⟨later, v⟩, after, whole⟩ := h
    obtain ⟨rfl, rfl⟩ : _ ∧ v = u := by simpa using whole
    exact congrArg (op :: ·) (ih after)

end
end Deckhand.Lib
