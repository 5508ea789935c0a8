import Mathlib.Data.List.Basic

/-! Transactions on a working copy. A body is a tree of statements; a fault plan makes the
n-th statement, or the commit after the last one, raise. Only a body that reaches its end
and commits replaces the stored state. -/
namespace Deckhand.Lib

/-- A statement either raises or yields the cursor's number (the row count of an update,
the row id of an insertion) and the new working copy. -/
inductive Txn (σ ε α : Type) : Type where
  | done (a : α)
  | fail (x : ε)
  | stmt (f : σ → Except ε (Nat × σ)) (k : Nat → σ → Txn σ ε α)

namespace Txn
section
variable {σ ε α β : Type}

protected def bind : Txn σ ε α → (α → Txn σ ε β) → Txn σ ε β
  | .done a, f => f a
  | .fail x, _ => .fail x
  | .stmt g k, f => .stmt g fun n s => (k n s).bind f

theorem bind_done (t : Txn σ ε α) : t.bind .done = t := by
  induction t with
  | done a => rfl
  | fail x => rfl
  | stmt g k ih => exact congrArg (Txn.stmt g) (funext fun n => funext (ih n))

theorem bind_assoc {γ : Type} (t : Txn σ ε α) (f : α → Txn σ ε β) (g : β → Txn σ ε γ) :
    (t.bind f).bind g = t.bind fun a => (f a).bind g := by
  induction t with
  | done a => rfl
  | fail x => rfl
  | stmt h k ih => exact congrArg (Txn.stmt h) (funext fun n => funext (ih n))

instance : Monad (Txn σ ε) where
  pure := .done
  bind := Txn.bind

instance : LawfulMonad (Txn σ ε) :=
  LawfulMonad.mk' (Txn σ ε) bind_done (fun _ _ => rfl) bind_assoc

def raise (x : ε) : Txn σ ε α := .fail x

def raiseIf (c : Prop) [Decidable c] (x : ε) : Txn σ ε Unit :=
  if c then .fail x else .done ()

def require (v : Option α) (x : ε) : Txn σ ε α := v.elim (.fail x) .done

def lift : Except ε α → Txn σ ε α
  | .ok a => .done a
  | .error x => .fail x

/-- A query: the working copy as it is now. -/
def read : Txn σ ε σ := .stmt (fun s => .ok (0, s)) fun _ s => .done s

/-- A statement for its effect; the value is the cursor's number. -/
def write (f : σ → Except ε (Nat × σ)) : Txn σ ε Nat := .stmt f fun n _ => .done n

/-- The body without faults. -/
def run : Txn σ ε α → σ → Except ε (α × σ)
  | .done a, s => .ok (a, s)
  | .fail x, _ => .error x
  | .stmt f k, s =>
    match f s with
    | .ok (n, s') => (k n s').run s'
    | .error x => .error x

/-- The body with a fault after the given number of statements; a fault that is due when
the body has ended strikes its commit. -/
def exec : Option (Nat × ε) → Txn σ ε α → σ → Except ε (α × σ)
  | some (0, x), .done _, _ => .error x
  | _, .done a, s => .ok (a, s)
  | _, .fail x, _ => .error x
  | some (0, x), .stmt _ _, _ => .error x
  | some (n + 1, x), .stmt f k, s =>
    match f s with
    | .ok (m, s') => (k m s').exec (some (n, x)) s'
    | .error y => .error y
  | none, .stmt f k, s =>
    match f s with
    | .ok (m, s') => (k m s').exec none s'
    | .error y => .error y

/-- Commit on success; on any exception the stored state stays, whatever was written to
the working copy. `wrap` is what the exception becomes on its way out. -/
def atomically (wrap : ε → ε) (fault : Option (Nat × ε)) (t : Txn σ ε α) (s : σ) :
    Except ε α × σ :=
  match t.exec fault s with
  | .ok (a, s') => (.ok a, s')
  | .error x => (.error (wrap x), s)

theorem exec_none (t : Txn σ ε α) (s : σ) : t.exec none s = t.run s := by
  induction t generalizing s with
  | done a => rfl
  | fail x => rfl
  | stmt f k ih =>
    simp only [exec, run]
    split
    · exact ih _ _ _
    · rfl

theorem exec_ok {fault : Option (Nat × ε)} {t : Txn σ ε α} {s : σ} {v : α × σ}
    (h : t.exec fault s = .ok v) : t.run s = .ok v := by
  induction t generalizing fault s with
  | done a =>
    match fault with
    | none => exact h
    | some (0, x) => cases h
    | some (n + 1, x) => exact h
  | fail x =>
    match fault with
    | none => cases h
    | some (0, y) => cases h
    | some (n + 1, y) => cases h
  | stmt f k ih =>
    match fault with
    | none =>
      rw [exec_none] at h
      exact h
    | some (0, x) => cases h
    | some (n + 1, x) =>
      simp only [exec] at h
      simp only [run]
      split at h
      · exact ih _ _ h
      · cases h

theorem atomically_ok {wrap : ε → ε} {fault : Option (Nat × ε)} {t : Txn σ ε α} {s s' : σ}
    {a : α} (h : t.atomically wrap fault s = (.ok a, s')) : t.run s = .ok (a, s') := by
  unfold atomically at h
  split at h
  · rename_i b u he
    obtain ⟨rfl, rfl⟩ : b = a ∧ u = s' := by simpa using h
    exact exec_ok he
  · cases h

theorem atomically_error {wrap : ε → ε} {fault : Option (Nat × ε)} {t : Txn σ ε α} {s s' : σ}
    {x : ε} (h : t.atomically wrap fault s = (.error x, s')) : s' = s := by
  unfold atomically at h
  split at h
  · cases h
  · exact (Prod.mk.inj h).2.symm

theorem atomically_none {wrap : ε → ε} {t : Txn σ ε α} {s : σ} :
    t.atomically wrap none s =
      match t.run s with
      | .ok (a, s') => (.ok a, s')
      | .error x => (.error (wrap x), s) := by
  simp only [atomically, exec_none]

@[simp] theorem run_pure {a b : α} {s s' : σ} :
    (pure a : Txn σ ε α).run s = .ok (b, s') ↔ b = a ∧ s' = s := by
  simp only [pure, run, Except.ok.injEq, Prod.mk.injEq]
  tauto

@[simp] theorem run_raise {x : ε} {s : σ} {v : α × σ} :
    (raise x : Txn σ ε α).run s = .ok v ↔ False := by
  simp [raise, run]

@[simp] theorem run_raiseIf {c : Prop} [Decidable c] {x : ε} {u : Unit} {s s' : σ} :
    (raiseIf c x : Txn σ ε Unit).run s = .ok (u, s') ↔ ¬ c ∧ s' = s := by
  by_cases h : c <;> simp [raiseIf, run, h, eq_comm]

@[simp] theorem run_require {v : Option α} {x : ε} {a : α} {s s' : σ} :
    (require v x : Txn σ ε α).run s = .ok (a, s') ↔ v = some a ∧ s' = s := by
  cases v <;> simp [require, run, eq_comm]

@[simp] theorem run_lift {r : Except ε α} {a : α} {s s' : σ} :
    (lift r : Txn σ ε α).run s = .ok (a, s') ↔ r = .ok a ∧ s' = s := by
  cases r <;> simp [lift, run, eq_comm]

@[simp] theorem run_read {s t s' : σ} :
    (read : Txn σ ε σ).run s = .ok (t, s') ↔ t = s ∧ s' = s := by
  simp only [read, run, Except.ok.injEq, Prod.mk.injEq]
  tauto

@[simp] theorem run_write {f : σ → Except ε (Nat × σ)} {n : Nat} {s s' : σ} :
    (write f : Txn σ ε Nat).run s = .ok (n, s') ↔ f s = .ok (n, s') := by
  simp only [write, run]
  cases h : f s with
  | error x => simp
  | ok v => obtain ⟨m, u⟩ := v; simp

theorem run_bind {t : Txn σ ε α} {f : α → Txn σ ε β} {s : σ} {v : β × σ} :
    (t >>= f).run s = .ok v ↔ ∃ a s', t.run s = .ok (a, s') ∧ (f a).run s' = .ok v := by
  change (t.bind f).run s = .ok v ↔ _
  induction t generalizing s with
  | done a => simp [Txn.bind, run]
  | fail x => simp [Txn.bind, run]
  | stmt g k ih =>
    simp only [Txn.bind, run]
    split
    · exact ih _ _
    · simp

theorem run_forM {γ : Type} {I : List γ → σ → Prop} {f : γ → Txn σ ε Unit} (xs : List γ)
    (keep : ∀ x rest s s' u, I (x :: rest) s → (f x).run s = .ok (u, s') → I rest s')
    {s s' : σ} {u : Unit} (start : I xs s) (h : (xs.forM f).run s = .ok (u, s')) : I [] s' := by
  induction xs generalizing s with
  | nil =>
    obtain ⟨-, rfl⟩ : u = () ∧ s' = s := by simpa using h
    exact start
  | cons x xs ih =>
    rw [List.forM_eq_forM, List.forM_cons, run_bind] at h
    obtain ⟨_, _, first, rest⟩ := h
    exact ih (keep x xs _ _ _ start first) rest

theorem run_forM_ends {γ : Type} {I : σ → Prop} {f : γ → Txn σ ε Unit} (xs : List γ)
    (round : ∀ x s, I s → ∃ s', (f x).run s = .ok ((), s') ∧ I s') {s : σ} (start : I s) :
    ∃ s', (xs.forM f).run s = .ok ((), s') ∧ I s' := by
  induction xs generalizing s with
  | nil => exact ⟨s, run_pure.mpr ⟨rfl, rfl⟩, start⟩
  | cons x xs ih =>
    obtain ⟨t, first, now⟩ := round x s start
    obtain ⟨s', rest, kept⟩ := ih now
    refine ⟨s', ?_, kept⟩
    rw [List.forM_eq_forM, List.forM_cons, run_bind]
    exact ⟨(), t, first, rest⟩

/-- A loop whose rounds each rewrite the entry of their own key, in a view of the state,
rewrites the entries of all its keys. `P` is what a round relies on of its entry. -/
theorem run_forM_pointwise {γ κ V : Type} [DecidableEq κ] (view : σ → κ → V) (key : γ → κ)
    {P : γ → V → Prop} {g : V → V} {f : γ → Txn σ ε Unit} (xs : List γ)
    (nodup : (xs.map key).Nodup)
    (round : ∀ x s s' u, P x (view s (key x)) → (f x).run s = .ok (u, s') →
      ∀ j, view s' j = if j = key x then g (view s j) else view s j)
    {s s' : σ} {u : Unit} (start : ∀ x ∈ xs, P x (view s (key x)))
    (h : (xs.forM f).run s = .ok (u, s')) (j : κ) :
    view s' j = if j ∈ xs.map key then g (view s j) else view s j := by
  induction xs generalizing s with
  | nil =>
    obtain ⟨-, rfl⟩ : u = () ∧ s' = s := by simpa using h
    simp
  | cons x xs ih =>
    rw [List.forM_eq_forM, List.forM_cons, run_bind] at h
    obtain ⟨_, t, first, rest⟩ := h
    obtain ⟨fresh, nodup'⟩ := List.nodup_cons.mp nodup
    have here := round x s t _ (start x (by simp)) first
    have later : ∀ y ∈ xs, P y (view t (key y)) := by
      intro y hy
      have other : key y ≠ key x := fun same => fresh (same ▸ List.mem_map_of_mem hy)
      rw [here, if_neg other]
      exact start y (by simp [hy])
    rw [ih nodup' later rest, here]
    by_cases same : j = key x
    · subst same
      simp [fresh]
    · simp [same]

/-- A property of the working copy that the body, if it ends, leaves in place. -/
def Keeps (I : σ → Prop) (t : Txn σ ε α) : Prop :=
  ∀ s a s', I s → t.run s = .ok (a, s') → I s'

section Keeps
variable {I : σ → Prop}

theorem keeps_pure {a : α} : Keeps I (pure a : Txn σ ε α) := by
  intro s b s' start h
  obtain ⟨-, rfl⟩ := run_pure.mp h
  exact start

theorem keeps_raise {x : ε} : Keeps I (raise x : Txn σ ε α) := by
  intro s b s' start h
  simp at h

theorem keeps_raiseIf {c : Prop} [Decidable c] {x : ε} : Keeps I (raiseIf c x) := by
  intro s b s' start h
  obtain ⟨-, rfl⟩ := run_raiseIf.mp h
  exact start

theorem keeps_require {v : Option α} {x : ε} : Keeps I (require v x) := by
  intro s b s' start h
  obtain ⟨-, rfl⟩ := run_require.mp h
  exact start

theorem keeps_lift {r : Except ε α} : Keeps I (lift r : Txn σ ε α) := by
  intro s b s' start h
  obtain ⟨-, rfl⟩ := run_lift.mp h
  exact start

theorem keeps_read : Keeps I (read : Txn σ ε σ) := by
  intro s b s' start h
  obtain ⟨-, rfl⟩ := run_read.mp h
  exact start

theorem keeps_bind {t : Txn σ ε α} {f : α → Txn σ ε β} (first : Keeps I t)
    (rest : ∀ a, Keeps I (f a)) : Keeps I (t >>= f) := by
  intro s b s' start h
  obtain ⟨a, u, run₁, run₂⟩ := run_bind.mp h
  exact rest a u b s' (first s a u start run₁) run₂

theorem keeps_forM {γ : Type} {f : γ → Txn σ ε Unit} {xs : List γ} (each : ∀ x, Keeps I (f x)) :
    Keeps I (xs.forM f) := by
  intro s u s' start h
  exact run_forM xs (I := fun _ => I) (fun x _ s s' u now step => each x s u s' now step) start h

end Keeps

end
end Txn
end Deckhand.Lib
