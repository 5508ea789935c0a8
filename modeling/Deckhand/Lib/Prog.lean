import Deckhand.Lib.Trace

/-! Programs that make atomic calls. A program is the tree of what it does next: it ends
with a value or an exception, or it calls and goes on with the answer. What others do
between two of its calls is not part of the program; see `Interleave`. -/
namespace Deckhand.Lib

inductive Prog {Op : Type} (Ret : Op → Type) (ε α : Type) : Type where
  | ret (r : Except ε α)
  | call (op : Op) (k : Ret op → Prog Ret ε α)

namespace Prog
section
variable {σ Op : Type} {Note Ret : Op → Type} {ε α β : Type}

protected def bind : Prog Ret ε α → (α → Prog Ret ε β) → Prog Ret ε β
  | .ret (.ok a), f => f a
  | .ret (.error x), _ => .ret (.error x)
  | .call op k, f => .call op fun r => (k r).bind f

protected def tryCatch : Prog Ret ε α → (ε → Prog Ret ε α) → Prog Ret ε α
  | .ret (.ok a), _ => .ret (.ok a)
  | .ret (.error x), handler => handler x
  | .call op k, handler => .call op fun r => (k r).tryCatch handler

instance : Monad (Prog Ret ε) where
  pure a := .ret (.ok a)
  bind := Prog.bind

theorem bind_ret (p : Prog Ret ε α) : p.bind (fun a => .ret (.ok a)) = p := by
  induction p with
  | ret r => cases r <;> rfl
  | call op k ih => exact congrArg (Prog.call op) (funext ih)

theorem bind_assoc {γ : Type} (p : Prog Ret ε α) (f : α → Prog Ret ε β)
    (g : β → Prog Ret ε γ) : (p.bind f).bind g = p.bind fun a => (f a).bind g := by
  induction p with
  | ret r => cases r <;> rfl
  | call op k ih => exact congrArg (Prog.call op) (funext ih)

instance : LawfulMonad (Prog Ret ε) :=
  LawfulMonad.mk' (Prog Ret ε) bind_ret (fun _ _ => rfl) bind_assoc

instance : MonadExceptOf ε (Prog Ret ε) where
  throw x := .ret (.error x)
  tryCatch := Prog.tryCatch

def lift (r : Except ε α) : Prog Ret ε α := .ret r

/-- A call whose answer is a value or an exception of the callee. -/
def invoke {V : Type} (op : Op) (f : Ret op → Except ε V) : Prog Ret ε V :=
  .call op fun r => .ret (f r)

def raiseIf (c : Prop) [Decidable c] (x : ε) : Prog Ret ε Unit :=
  .ret (if c then .error x else .ok ())

def require (v : Option α) (x : ε) : Prog Ret ε α :=
  .ret (v.elim (.error x) .ok)

/-- The program that ends with the outcome as a value, for what is done either way. -/
def attempt {ε' : Type} : Prog Ret ε α → Prog Ret ε' (Except ε α)
  | .ret r => .ret (.ok r)
  | .call op k => .call op fun r => (k r).attempt

inductive Steps : Prog Ret ε α → List (Event σ Note Ret) → Prog Ret ε α → Prop where
  | nil (p : Prog Ret ε α) : Steps p [] p
  | cons {op : Op} {k : Ret op → Prog Ret ε α} {es : List (Event σ Note Ret)}
      {q : Prog Ret ε α} (e : Event σ Note Ret) (r : Ret op) :
      e.Answered op r → Steps (k r) es q → Steps (.call op k) (e :: es) q

/-- Having seen the answers `es`, the program calls `op`. -/
def Calls (p : Prog Ret ε α) (es : List (Event σ Note Ret)) (op : Op) : Prop :=
  ∃ k, Steps p es (.call op k)

/-- Having seen the answers `es`, the program ends with `r`. -/
def Returns (p : Prog Ret ε α) (es : List (Event σ Note Ret)) (r : Except ε α) : Prop :=
  Steps p es (.ret r)

theorem Steps.snoc {p : Prog Ret ε α} {es : List (Event σ Note Ret)} {op : Op}
    {k : Ret op → Prog Ret ε α} (h : Steps p es (.call op k)) (e : Event σ Note Ret)
    (r : Ret op) (answered : e.Answered op r) : Steps p (es ++ [e]) (k r) := by
  generalize last : Prog.call op k = q at h
  induction h with
  | nil p =>
    subst last
    exact .cons e r answered (.nil _)
  | cons e' r' answered' _ ih => exact .cons e' r' answered' (ih last)

theorem Steps.unique {p q q' : Prog Ret ε α} {es : List (Event σ Note Ret)} (h : Steps p es q)
    (h' : Steps p es q') : q' = q := by
  induction h with
  | nil p =>
    cases h'
    rfl
  | cons e r answered _ ih =>
    cases h' with
    | cons _ r' answered' later =>
      obtain rfl := answered.unique answered'
      exact ih later

theorem Steps.called {p q : Prog Ret ε α} {es : List (Event σ Note Ret)} (h : Steps p es q)
    {e : Event σ Note Ret} (member : e ∈ es) : ∃ before : List (Event σ Note Ret),
    Calls p before e.op := by
  induction h with
  | nil => cases member
  | @cons op k es q d r answered rest ih =>
    rcases List.mem_cons.mp member with rfl | member
    · rw [answered.op_eq]
      exact ⟨[], k, .nil _⟩
    · obtain ⟨before, k', steps⟩ := ih member
      exact ⟨d :: before, k', .cons d r answered steps⟩

variable {es : List (Event σ Note Ret)} {op : Op}

theorem Calls.unique {p : Prog Ret ε α} {op' : Op} (h : Calls p es op) (h' : Calls p es op') :
    op = op' := by
  obtain ⟨k, steps⟩ := h
  obtain ⟨k', steps'⟩ := h'
  exact (Prog.call.inj (steps'.unique steps)).1

theorem Returns.cut {p : Prog Ret ε α} {a b x y : List (Event σ Note Ret)} {r s : Except ε α}
    (h : Returns p a r) (h' : Returns p b s) (whole : a ++ x = b ++ y) : a = b ∧ r = s := by
  induction p generalizing a b with
  | ret r' =>
    cases h
    cases h'
    exact ⟨rfl, rfl⟩
  | call op k ih =>
    cases h with
    | cons e v answered steps =>
      cases h' with
      | cons e' v' answered' steps' =>
        obtain ⟨rfl, rest⟩ := List.cons.inj whole
        obtain rfl := answered.unique answered'
        obtain ⟨rfl, rfl⟩ := ih _ steps steps' rest
        exact ⟨rfl, rfl⟩

theorem Returns.not_calls {p : Prog Ret ε α} {r : Except ε α} (h : Returns p es r) :
    ¬ Calls p es op := by
  rintro ⟨k, steps⟩
  cases steps.unique h

@[simp] theorem calls_ret {r : Except ε α} :
    ¬ Calls (.ret r : Prog Ret ε α) es op := by
  rintro ⟨k, h⟩
  cases h

@[simp] theorem returns_ret {r s : Except ε α} :
    Returns (.ret r : Prog Ret ε α) es s ↔ es = [] ∧ s = r := by
  constructor
  · intro h
    cases h
    exact ⟨rfl, rfl⟩
  · rintro ⟨rfl, rfl⟩
    exact .nil _

theorem calls_call {op' : Op} {k : Ret op' → Prog Ret ε α} :
    Calls (.call op' k) es op ↔
      (es = [] ∧ op = op') ∨
      ∃ e rest, ∃ r : Ret op', es = e :: rest ∧ e.Answered op' r ∧ Calls (k r) rest op := by
  constructor
  · rintro ⟨k', h⟩
    cases h with
    | nil => exact .inl ⟨rfl, rfl⟩
    | cons e r answered rest => exact .inr ⟨e, _, r, rfl, answered, k', rest⟩
  · rintro (⟨rfl, rfl⟩ | ⟨e, rest, r, rfl, answered, k', h⟩)
    · exact ⟨k, .nil _⟩
    · exact ⟨k', .cons e r answered h⟩

theorem returns_call {op' : Op} {k : Ret op' → Prog Ret ε α} {s : Except ε α} :
    Returns (.call op' k) es s ↔
      ∃ e rest, ∃ r : Ret op', es = e :: rest ∧ e.Answered op' r ∧ Returns (k r) rest s := by
  constructor
  · intro h
    cases h with
    | cons e r answered rest => exact ⟨e, _, r, rfl, answered, rest⟩
  · rintro ⟨e, rest, r, rfl, answered, h⟩
    exact .cons e r answered h

@[simp] theorem calls_lift {r : Except ε α} : ¬ Calls (lift r : Prog Ret ε α) es op := calls_ret

@[simp] theorem calls_pure {a : α} : ¬ Calls (pure a : Prog Ret ε α) es op := calls_ret

@[simp] theorem calls_throw {x : ε} : ¬ Calls (throw x : Prog Ret ε α) es op := calls_ret

@[simp] theorem calls_raiseIf {c : Prop} [Decidable c] {x : ε} :
    ¬ Calls (raiseIf c x : Prog Ret ε Unit) es op := calls_ret

@[simp] theorem calls_require {v : Option α} {x : ε} :
    ¬ Calls (require v x : Prog Ret ε α) es op := calls_ret

@[simp] theorem returns_lift {r s : Except ε α} :
    Returns (lift r : Prog Ret ε α) es s ↔ es = [] ∧ s = r := returns_ret

@[simp] theorem returns_pure {a : α} {s : Except ε α} :
    Returns (pure a : Prog Ret ε α) es s ↔ es = [] ∧ s = .ok a := returns_ret

@[simp] theorem returns_throw {x : ε} {s : Except ε α} :
    Returns (throw x : Prog Ret ε α) es s ↔ es = [] ∧ s = .error x := returns_ret

@[simp] theorem returns_raiseIf_ok {c : Prop} [Decidable c] {x : ε} {u : Unit} :
    Returns (raiseIf c x : Prog Ret ε Unit) es (.ok u) ↔ es = [] ∧ ¬ c := by
  by_cases h : c <;> simp [raiseIf, h]

theorem returns_raiseIf_error {c : Prop} [Decidable c] {x y : ε} :
    Returns (raiseIf c x : Prog Ret ε Unit) es (.error y) ↔ es = [] ∧ c ∧ y = x := by
  by_cases h : c <;> simp [raiseIf, h]

@[simp] theorem returns_require_ok {v : Option α} {x : ε} {a : α} :
    Returns (require v x : Prog Ret ε α) es (.ok a) ↔ es = [] ∧ v = some a := by
  cases v <;> simp [require, eq_comm]

@[simp] theorem calls_invoke {V : Type} {op' : Op} {f : Ret op' → Except ε V} :
    Calls (invoke op' f : Prog Ret ε V) es op ↔ es = [] ∧ op = op' := by
  simp [invoke, calls_call]

@[simp] theorem returns_invoke {V : Type} {op' : Op} {f : Ret op' → Except ε V}
    {s : Except ε V} :
    Returns (invoke op' f : Prog Ret ε V) es s ↔
      ∃ e, ∃ r : Ret op', es = [e] ∧ e.Answered op' r ∧ s = f r := by
  simp only [invoke, returns_call, returns_ret]
  constructor
  · rintro ⟨e, rest, r, rfl, answered, rfl, rfl⟩
    exact ⟨e, r, rfl, answered, rfl⟩
  · rintro ⟨e, r, rfl, answered, rfl⟩
    exact ⟨e, [], r, rfl, answered, rfl, rfl⟩

theorem returns_invoke_ok {V : Type} {op' : Op} {f : Ret op' → Except ε V} {v : V} {r : Ret op'}
    (only : ∀ s, f s = .ok v ↔ s = r) :
    Returns (invoke op' f : Prog Ret ε V) es (.ok v) ↔ ∃ e, es = [e] ∧ e.Answered op' r := by
  rw [returns_invoke]
  constructor
  · rintro ⟨e, s, rfl, answered, same⟩
    exact ⟨e, rfl, (only s).mp same.symm ▸ answered⟩
  · rintro ⟨e, rfl, answered⟩
    exact ⟨e, r, rfl, answered, ((only r).mpr rfl).symm⟩

theorem returns_invoke_error {V X : Type} {op' : Op} {f : Ret op' → Except ε V} {x : ε}
    {r : X → Ret op'} {h : X → ε} (only : ∀ s, f s = .error x ↔ ∃ y, s = r y ∧ h y = x) :
    Returns (invoke op' f : Prog Ret ε V) es (.error x) ↔
      ∃ e y, es = [e] ∧ e.Answered op' (r y) ∧ x = h y := by
  rw [returns_invoke]
  constructor
  · rintro ⟨e, s, rfl, answered, same⟩
    obtain ⟨y, rfl, rfl⟩ := (only s).mp same.symm
    exact ⟨e, y, rfl, answered, rfl⟩
  · rintro ⟨e, y, rfl, answered, rfl⟩
    exact ⟨e, r y, rfl, answered, ((only _).mpr ⟨y, rfl, rfl⟩).symm⟩

/-- The program, and then what is made of its outcome: a sequence, or a handler. -/
def continueWith {ε' : Type} : Prog Ret ε α → (Except ε α → Prog Ret ε' β) → Prog Ret ε' β
  | .ret r, k => k r
  | .call op k', k => .call op fun r => (k' r).continueWith k

theorem calls_continueWith {ε' : Type} {p : Prog Ret ε α} {k : Except ε α → Prog Ret ε' β} :
    Calls (p.continueWith k) es op ↔
      Calls p es op ∨
      ∃ r first rest, es = first ++ rest ∧ Returns p first r ∧ Calls (k r) rest op := by
  induction p generalizing es with
  | ret r => simp [continueWith]
  | call op' k' ih =>
    simp only [continueWith, calls_call, returns_call, ih]
    constructor
    · rintro (⟨rfl, rfl⟩ | ⟨e, rest, v, rfl, answered, here | ⟨r, first, last, rfl, back, h⟩⟩)
      · exact .inl (.inl ⟨rfl, rfl⟩)
      · exact .inl (.inr ⟨e, rest, v, rfl, answered, here⟩)
      · exact .inr ⟨r, e :: first, last, rfl, ⟨e, first, v, rfl, answered, back⟩, h⟩
    · rintro ((⟨rfl, rfl⟩ | ⟨e, rest, v, rfl, answered, here⟩) |
        ⟨r, first, last, rfl, ⟨e, rest, v, rfl, answered, back⟩, h⟩)
      · exact .inl ⟨rfl, rfl⟩
      · exact .inr ⟨e, rest, v, rfl, answered, .inl here⟩
      · exact .inr ⟨e, rest ++ last, v, rfl, answered, .inr ⟨r, rest, last, rfl, back, h⟩⟩

theorem returns_continueWith {ε' : Type} {p : Prog Ret ε α} {k : Except ε α → Prog Ret ε' β}
    {s : Except ε' β} : Returns (p.continueWith k) es s ↔
      ∃ r first rest, es = first ++ rest ∧ Returns p first r ∧ Returns (k r) rest s := by
  induction p generalizing es with
  | ret r => simp [continueWith]
  | call op' k' ih =>
    simp only [continueWith, returns_call, ih]
    constructor
    · rintro ⟨e, rest, v, rfl, answered, r, first, last, rfl, back, h⟩
      exact ⟨r, e :: first, last, rfl, ⟨e, first, v, rfl, answered, back⟩, h⟩
    · rintro ⟨r, first, last, rfl, ⟨e, rest, v, rfl, answered, back⟩, h⟩
      exact ⟨e, rest ++ last, v, rfl, answered, r, rest, last, rfl, back, h⟩

theorem bind_eq_continueWith (p : Prog Ret ε α) (f : α → Prog Ret ε β) :
    p >>= f = p.continueWith fun
      | .ok a => f a
      | .error x => .ret (.error x) := by
  change p.bind f = _
  induction p with
  | ret r => cases r <;> rfl
  | call op k ih => exact congrArg (Prog.call op) (funext ih)

theorem tryCatch_eq_continueWith (p : Prog Ret ε α) (handler : ε → Prog Ret ε α) :
    tryCatch p handler = p.continueWith fun
      | .ok a => .ret (.ok a)
      | .error x => handler x := by
  change p.tryCatch handler = _
  induction p with
  | ret r => cases r <;> rfl
  | call op k ih => exact congrArg (Prog.call op) (funext ih)

theorem attempt_eq_continueWith {ε' : Type} (p : Prog Ret ε α) :
    (p.attempt : Prog Ret ε' (Except ε α)) = p.continueWith fun r => .ret (.ok r) := by
  induction p with
  | ret r => rfl
  | call op k ih => exact congrArg (Prog.call op) (funext ih)

/-- A call of a sequence is a call of its first part, or of its second part after the
first part returned. -/
theorem calls_bind {p : Prog Ret ε α} {f : α → Prog Ret ε β} :
    Calls (p >>= f) es op ↔
      Calls p es op ∨
      ∃ a first rest, es = first ++ rest ∧ Returns p first (.ok a) ∧ Calls (f a) rest op := by
  rw [bind_eq_continueWith, calls_continueWith]
  constructor
  · rintro (here | ⟨r, first, rest, rfl, back, h⟩)
    · exact .inl here
    cases r with
    | error x => exact absurd h calls_ret
    | ok a => exact .inr ⟨a, first, rest, rfl, back, h⟩
  · rintro (here | ⟨a, first, rest, rfl, back, h⟩)
    · exact .inl here
    · exact .inr ⟨.ok a, first, rest, rfl, back, h⟩

theorem returns_bind {p : Prog Ret ε α} {f : α → Prog Ret ε β} {s : Except ε β} :
    Returns (p >>= f) es s ↔
      (∃ x, Returns p es (.error x) ∧ s = .error x) ∨
      ∃ a first rest, es = first ++ rest ∧ Returns p first (.ok a) ∧ Returns (f a) rest s := by
  rw [bind_eq_continueWith, returns_continueWith]
  constructor
  · rintro ⟨r, first, rest, rfl, back, h⟩
    cases r with
    | error x =>
      obtain ⟨rfl, rfl⟩ := returns_ret.mp h
      exact .inl ⟨x, by simpa using back, rfl⟩
    | ok a => exact .inr ⟨a, first, rest, rfl, back, h⟩
  · rintro (⟨x, back, rfl⟩ | ⟨a, first, rest, rfl, back, h⟩)
    · exact ⟨.error x, es, [], by simp, back, returns_ret.mpr ⟨rfl, rfl⟩⟩
    · exact ⟨.ok a, first, rest, rfl, back, h⟩

@[simp] theorem calls_map {p : Prog Ret ε α} {f : α → β} :
    Calls (f <$> p) es op ↔ Calls p es op := by
  rw [map_eq_pure_bind, calls_bind]
  simp

theorem returns_map {p : Prog Ret ε α} {f : α → β} {s : Except ε β}
    (h : Returns (f <$> p) es s) : ∃ r, Returns p es r ∧ s = r.map f := by
  rw [map_eq_pure_bind] at h
  rcases returns_bind.mp h with ⟨x, ran, rfl⟩ | ⟨a, first, rest, rfl, ran, later⟩
  · exact ⟨.error x, ran, rfl⟩
  · obtain ⟨rfl, rfl⟩ := returns_pure.mp later
    exact ⟨.ok a, by simpa using ran, rfl⟩

/-- A call under a handler is a call of the body, or of the handler after the body raised. -/
theorem calls_tryCatch {p : Prog Ret ε α} {handler : ε → Prog Ret ε α} :
    Calls (tryCatch p handler) es op ↔
      Calls p es op ∨
      ∃ x first rest, es = first ++ rest ∧ Returns p first (.error x) ∧
        Calls (handler x) rest op := by
  rw [tryCatch_eq_continueWith, calls_continueWith]
  constructor
  · rintro (here | ⟨r, first, rest, rfl, back, h⟩)
    · exact .inl here
    cases r with
    | error x => exact .inr ⟨x, first, rest, rfl, back, h⟩
    | ok a => exact absurd h calls_ret
  · rintro (here | ⟨x, first, rest, rfl, back, h⟩)
    · exact .inl here
    · exact .inr ⟨.error x, first, rest, rfl, back, h⟩

theorem returns_tryCatch {p : Prog Ret ε α} {handler : ε → Prog Ret ε α} {s : Except ε α} :
    Returns (tryCatch p handler) es s ↔
      (∃ a, Returns p es (.ok a) ∧ s = .ok a) ∨
      ∃ x first rest, es = first ++ rest ∧ Returns p first (.error x) ∧
        Returns (handler x) rest s := by
  rw [tryCatch_eq_continueWith, returns_continueWith]
  constructor
  · rintro ⟨r, first, rest, rfl, back, h⟩
    cases r with
    | error x => exact .inr ⟨x, first, rest, rfl, back, h⟩
    | ok a =>
      obtain ⟨rfl, rfl⟩ := returns_ret.mp h
      exact .inl ⟨a, by simpa using back, rfl⟩
  · rintro (⟨a, back, rfl⟩ | ⟨x, first, rest, rfl, back, h⟩)
    · exact ⟨.ok a, es, [], by simp, back, returns_ret.mpr ⟨rfl, rfl⟩⟩
    · exact ⟨.error x, first, rest, rfl, back, h⟩

@[simp] theorem calls_attempt {ε' : Type} {p : Prog Ret ε α} :
    Calls (p.attempt : Prog Ret ε' (Except ε α)) es op ↔ Calls p es op := by
  rw [attempt_eq_continueWith, calls_continueWith]
  simp

@[simp] theorem returns_attempt {ε' : Type} {p : Prog Ret ε α} {s : Except ε' (Except ε α)} :
    Returns p.attempt es s ↔ ∃ r, Returns p es r ∧ s = .ok r := by
  rw [attempt_eq_continueWith, returns_continueWith]
  simp

/-- A call made by a loop is made by its body for one of the elements, after the bodies
of the elements before it have returned. -/
theorem calls_mapM {γ : Type} {xs : List γ} {f : γ → Prog Ret ε α}
    (h : Calls (xs.mapM f) es op) :
    ∃ x ∈ xs, ∃ first rest, es = first ++ rest ∧ Calls (f x) rest op := by
  induction xs generalizing es with
  | nil => simp at h
  | cons x xs ih =>
    rw [List.mapM_cons, calls_bind] at h
    rcases h with here | ⟨a, first, rest, rfl, _, h⟩
    · exact ⟨x, by simp, [], es, rfl, here⟩
    · rw [calls_bind] at h
      rcases h with here | ⟨b, second, last, _, _, h⟩
      · obtain ⟨y, hy, between, last, rfl, there⟩ := ih here
        exact ⟨y, by simp [hy], first ++ between, last, by simp, there⟩
      · exact absurd h calls_pure

theorem returns_mapM {γ : Type} {xs : List γ} {f : γ → Prog Ret ε α}
    {P : γ → List (Event σ Note Ret) → Prop} {s : Except ε (List α)}
    (h : Returns (xs.mapM f) es s)
    (round : ∀ x ∈ xs, ∀ first seen rest r, es = first ++ seen ++ rest →
      Returns (f x) seen r → (∃ a, r = .ok a) ∧ P x seen) :
    ∀ x ∈ xs, ∃ first seen rest, es = first ++ seen ++ rest ∧ P x seen := by
  induction xs generalizing es s with
  | nil => simp
  | cons y ys ih =>
    rw [List.mapM_cons] at h
    rcases returns_bind.mp h with ⟨x, ran, -⟩ | ⟨a, seen, later, rfl, ran, h₁⟩
    · obtain ⟨⟨_, same⟩, -⟩ := round y (by simp) [] es [] _ (by simp) ran
      cases same
    have here := (round y (by simp) [] seen later _ (by simp) ran).2
    have rounds : ∀ x ∈ ys, ∀ first seen' rest r, later = first ++ seen' ++ rest →
        Returns (f x) seen' r → (∃ a, r = .ok a) ∧ P x seen' := by
      rintro x member first seen' rest r rfl ran
      exact round x (List.mem_cons_of_mem _ member) (seen ++ first) seen' rest r (by simp) ran
    have tail : ∀ x ∈ ys, ∃ first seen' rest, later = first ++ seen' ++ rest ∧ P x seen' := by
      rcases returns_bind.mp h₁ with ⟨x, ran, -⟩ | ⟨as, seen', last, rfl, ran, h₂⟩
      · exact ih ran rounds
      · obtain ⟨rfl, -⟩ := returns_pure.mp h₂
        rw [List.append_nil] at rounds ⊢
        exact ih ran rounds
    intro x member
    rcases List.mem_cons.mp member with rfl | member
    · exact ⟨[], seen, later, by simp, here⟩
    · obtain ⟨first, seen', rest, rfl, held⟩ := tail x member
      exact ⟨seen ++ first, seen', rest, by simp, held⟩

/-- The events and the end of a program that is alone and is answered by a function. -/
def follow (respond : (op : Op) → σ → Note op × Ret op × σ) (s : σ) :
    Prog Ret ε α → List (Event σ Note Ret) × Except ε α
  | .ret r => ([], r)
  | .call op k =>
    let rest := (k (respond op s).2.1).follow respond (respond op s).2.2
    (⟨0, op, s, (respond op s).1, (respond op s).2.1, (respond op s).2.2⟩ :: rest.1, rest.2)

theorem follow_returns (respond : (op : Op) → σ → Note op × Ret op × σ) (s : σ)
    (p : Prog Ret ε α) : Returns p (p.follow respond s).1 (p.follow respond s).2 := by
  induction p generalizing s with
  | ret r => exact .nil _
  | call op k ih => exact .cons _ _ (.mk ..) (ih _ _)

theorem follow_valid {sem : Semantics σ Note Ret}
    {respond : (op : Op) → σ → Note op × Ret op × σ}
    (sound : ∀ op s, sem op s (respond op s).1 (respond op s).2.1 (respond op s).2.2) (s : σ)
    (p : Prog Ret ε α) : ∀ e ∈ (p.follow respond s).1, e.Valid sem := by
  induction p generalizing s with
  | ret r => simp [follow]
  | call op k ih =>
    intro e member
    rcases List.mem_cons.mp member with rfl | member
    · exact sound op s
    · exact ih _ _ e member

end
end Prog
end Deckhand.Lib
