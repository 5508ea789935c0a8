import Deckhand.Models

namespace Deckhand

/-- What a store method raises. `sqliteError` is the driver's exception, which `connect`
turns into `storeError`; `valueError` is the class of what the writers of JSON and of UTF-8 raise,
and `other` any exception of another class. -/
inductive StoreExn where
  | sqliteError (message : String)
  | storeError (message : String)
  | staleLease (message : String)
  | invalidTransition (message : String)
  | typeError (message : String)
  | valueError
  | other (message : String)
  deriving DecidableEq, Repr

def allowedTransitions : JobState → List JobState
  | .received => [.validated, .rejected]
  | .validated => [.authorized, .denied, .rejected]
  | .authorized => [.awaitingConfirmation, .queued]
  | .awaitingConfirmation => [.queued, .expired, .cancelled]
  | .queued => [.running, .cancelled, .expired]
  | .running => [.verifying, .failed, .unknownOutcome, .cancelled]
  | .verifying => [.succeeded, .failed, .unknownOutcome, .cancelled]
  | .unknownOutcome => [.verifying, .succeeded, .failed, .cancelled]
  | .succeeded => []
  | .denied => []
  | .rejected => []
  | .expired => []
  | .cancelled => []
  | .failed => []

def requireTransition (current target : JobState) : Except StoreExn Unit :=
  if target ∈ allowedTransitions current then .ok ()
  else .error (.invalidTransition
    ("invalid job transition " ++ current.value ++ " -> " ++ target.value))

@[simp] theorem requireTransition_ok {current target : JobState} {u : Unit} :
    requireTransition current target = .ok u ↔ target ∈ allowedTransitions current := by
  unfold requireTransition
  split <;> simp_all

theorem terminal_iff_no_transition (s : JobState) :
    s ∈ terminalJobStates ↔ allowedTransitions s = [] := by
  cases s <;> decide

theorem no_self_transition (s : JobState) : s ∉ allowedTransitions s := by
  cases s <;> decide

/-- The states a job that was created queued can be in. -/
def Live (s : JobState) : Prop :=
  s = .queued ∨ s = .running ∨ s = .verifying ∨ s = .unknownOutcome ∨ s = .succeeded ∨
    s = .failed ∨ s = .cancelled ∨ s = .expired

instance (s : JobState) : Decidable (Live s) := inferInstanceAs (Decidable (_ ∨ _))

theorem live_closed (s t : JobState) : Live s → t ∈ allowedTransitions s → Live t := by
  cases s <;> cases t <;> decide

theorem never_requeued (s : JobState) : Live s → JobState.queued ∉ allowedTransitions s := by
  cases s <;> decide

end Deckhand
