/-! Functions that check their input step by step and raise at the first thing they refuse. -/
namespace Deckhand.Lib

section
variable {ε α β : Type}

/-- `if c: raise x` -/
def refuse (c : Prop) [Decidable c] (x : ε) : Except ε Unit := if c then .error x else .ok ()

def demand (v : Option α) (x : ε) : Except ε α :=
  match v with
  | some a => .ok a
  | none => .error x

theorem bind_ok {r : Except ε α} {f : α → Except ε β} {b : β} :
    (r >>= f) = .ok b ↔ ∃ a, r = .ok a ∧ f a = .ok b := by
  cases r with
  | error x => simp [bind, Except.bind]
  | ok a => simp [bind, Except.bind]

@[simp] theorem refuse_ok {c : Prop} [Decidable c] {x : ε} {u : Unit} :
    refuse c x = .ok u ↔ ¬ c := by
  by_cases h : c <;> simp [refuse, h]

theorem toBool_ok {r : Except ε α} (h : r.toBool = true) : ∃ a, r = .ok a := by
  cases r with
  | ok a => exact ⟨a, rfl⟩
  | error x => cases h

theorem bind_error {r : Except ε α} {f : α → Except ε β} {x : ε} :
    (r >>= f) = .error x ↔ r = .error x ∨ ∃ a, r = .ok a ∧ f a = .error x := by
  cases r with
  | error y => simp [bind, Except.bind]
  | ok a => simp [bind, Except.bind]

theorem ok_bind {a : α} {f : α → Except ε β} : (.ok a >>= f) = f a := rfl

theorem check_bind {r : Except ε Unit} {f : Unit → Except ε β} {b : β} :
    (r >>= f) = .ok b ↔ r = .ok () ∧ f () = .ok b := by
  cases r <;> simp [bind, Except.bind]

theorem refuse_bind {c : Prop} [Decidable c] {x : ε} {f : Unit → Except ε β} {b : β} :
    (refuse c x >>= f) = .ok b ↔ ¬ c ∧ f () = .ok b := by
  by_cases h : c <;> simp [refuse, h, bind, Except.bind]

@[simp] theorem demand_ok {v : Option α} {x : ε} {a : α} : demand v x = .ok a ↔ v = some a := by
  cases v <;> simp [demand]

@[simp] theorem pure_ok {a b : α} : (pure a : Except ε α) = .ok b ↔ a = b := by
  simp [pure, Except.pure]

@[simp] theorem mapError_ok {ε' : Type} {f : ε → ε'} {r : Except ε α} {a : α} :
    r.mapError f = .ok a ↔ r = .ok a := by
  cases r with
  | ok b =>
    change (.ok b : Except ε' α) = .ok a ↔ _
    simp only [Except.ok.injEq]
  | error y =>
    change (.error (f y) : Except ε' α) = .ok a ↔ _
    simp only [reduceCtorEq]

@[simp] theorem mapError_error {ε' : Type} {f : ε → ε'} {r : Except ε α} {x : ε'} :
    r.mapError f = .error x ↔ ∃ y, r = .error y ∧ f y = x := by
  cases r with
  | ok b =>
    change (.ok b : Except ε' α) = .error x ↔ _
    simp only [reduceCtorEq, false_and, exists_false]
  | error y =>
    change (.error (f y) : Except ε' α) = .error x ↔ _
    simp only [Except.error.injEq, exists_eq_left']

theorem mem_mapM {f : α → Except ε β} {xs : List α} {ys : List β} (h : xs.mapM f = .ok ys)
    (y : β) : y ∈ ys ↔ ∃ x ∈ xs, f x = .ok y := by
  induction xs generalizing ys with
  | nil =>
    cases h
    simp
  | cons x rest ih =>
    simp only [List.mapM_cons, bind_ok, pure_ok] at h
    obtain ⟨first, here, others, later, rfl⟩ := h
    simp [ih later, here, eq_comm]

end
end Deckhand.Lib
