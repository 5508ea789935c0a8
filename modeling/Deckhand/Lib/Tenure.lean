/-! Something that is claimed at most once, under a token its holder presents from then on,
and that is lost for good. -/
namespace Deckhand.Lib

/-- Not yet claimed, held under a token, or neither any more. -/
inductive Tenure (τ : Type) where
  | free
  | held (token : τ)
  | past
  deriving DecidableEq, Repr

namespace Tenure
variable {τ : Type} {x y : Tenure τ} {label : Option τ} {claims : List τ}

/-- One step, labelled with the token if it is a claim. -/
inductive Step : Tenure τ → Option τ → Tenure τ → Prop where
  | stay (x : Tenure τ) : Step x none x
  | claim (token : τ) : Step .free (some token) (.held token)
  | drop (token : τ) : Step (.held token) none .past
  | close : Step .free none .past

/-- A way to a tenure, with the tokens of the claims made on it. -/
inductive History : List τ → Tenure τ → Prop where
  | start : History [] .free
  | snoc (claims : List τ) (x y : Tenure τ) (label : Option τ) :
      History claims x → Step x label y → History (claims ++ label.toList) y

/-- A history holds at most one claim, and its token is the one that is held. -/
def Recorded (claims : List τ) : Tenure τ → Prop
  | .free => claims = []
  | .held token => claims = [token]
  | .past => claims.length ≤ 1

theorem History.recorded (h : History claims x) : Recorded claims x := by
  induction h with
  | start => rfl
  | snoc claims x y label _ step ih =>
    cases step with
    | stay =>
      rw [Option.toList_none, List.append_nil]
      exact ih
    | claim token =>
      obtain rfl : claims = [] := ih
      rfl
    | drop token =>
      obtain rfl : claims = [token] := ih
      exact Nat.le_refl 1
    | close =>
      obtain rfl : claims = [] := ih
      exact Nat.zero_le 1

theorem History.at_most_once (h : History claims x) : claims.length ≤ 1 := by
  have recorded := h.recorded
  cases x with
  | free => exact recorded.symm ▸ Nat.zero_le 1
  | held token => exact recorded.symm ▸ Nat.le_refl 1
  | past => exact recorded

theorem Step.free_of_claim {token : τ} (h : Step x (some token) y) :
    x = .free ∧ y = .held token := by
  cases h
  exact ⟨rfl, rfl⟩

theorem Step.never_free (h : Step x label y) (claimed : x ≠ .free) : y ≠ .free := by
  cases h with
  | stay => exact claimed
  | claim => exact absurd rfl claimed
  | drop => nofun
  | close => exact absurd rfl claimed

/-- A token that is neither held nor to be given out is never held. -/
def Lost (token : τ) (x : Tenure τ) : Prop := x ≠ .free ∧ x ≠ .held token

theorem Step.lost {token : τ} (h : Step x label y) (lost : Lost token x) : Lost token y := by
  cases h with
  | stay => exact lost
  | claim => exact absurd rfl lost.1
  | drop => exact ⟨nofun, nofun⟩
  | close => exact absurd rfl lost.1

end Tenure
end Deckhand.Lib
