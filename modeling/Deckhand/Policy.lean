import Deckhand.Adapters

namespace Deckhand
open Lib

structure PolicyInput where
  action : ActionDefinition
  subject : Subject
  target : Target
  targetProtected : Bool
  parameters : Dict
  mutationsEnabled : Bool
  auditWritable : Bool
  environment : String
  profile : Option String
  control : Option String
  requestDigest : String
  phase : String
  confirmationValid : Bool
  confirmationRequestDigest : Option String

/-- What asking the engine raises: no usable answer, or one that is not a decision. -/
inductive PolicyExn where
  | policyUnavailable (message : String)
  | validationError (e : DataExn)
  deriving DecidableEq, Repr

/-- `data.inventory`. An action without an entry has no allowed target. -/
structure Inventory where
  operators : List String
  managedDevices : List String
  allowedTargets : List (String × List String)

def Inventory.targetsOf (inventory : Inventory) (actionId : String) : List String :=
  ((inventory.allowedTargets.find? fun entry => entry.1 = actionId).map Prod.snd).getD []

namespace Rego
variable (inventory : Inventory) (input : PolicyInput)

def channels : List PyStr := ["tailscale", "mgmt-mtls", "mcp"]

def confirmationSatisfied : Prop :=
  input.action.confirmation = .none ∨
  (input.action.confirmation ≠ .none ∧ input.confirmationValid = true ∧
    input.confirmationRequestDigest = some input.requestDigest)

def allowRead : Prop :=
  input.action.riskClass = .read ∧ input.subject.name ≠ "" ∧ input.subject.device ≠ "" ∧
    input.subject.channel ∈ channels

/-- The conditions that the two rules for mutations share. -/
structure Mutable : Prop where
  mutation : input.action.mutation = true
  enabled : input.mutationsEnabled = true
  audited : input.auditWritable = true
  operator : input.subject.name ∈ inventory.operators.map pyStr
  managed : input.subject.device ∈ inventory.managedDevices.map pyStr
  channel : input.subject.channel ∈ channels
  target : input.target.id ∈ inventory.targetsOf input.action.id
  unprotected : input.targetProtected = false

def allowPlan : Prop := Mutable inventory input ∧ input.phase = "plan"

def allowExecute : Prop :=
  Mutable inventory input ∧ input.phase = "execute" ∧ confirmationSatisfied input

instance : Decidable (confirmationSatisfied input) := inferInstanceAs (Decidable (_ ∨ _))

instance : Decidable (allowRead input) := inferInstanceAs (Decidable (_ ∧ _))

instance : Decidable (Mutable inventory input) :=
  decidable_of_iff
    (input.action.mutation = true ∧ input.mutationsEnabled = true ∧ input.auditWritable = true ∧
      input.subject.name ∈ inventory.operators.map pyStr ∧
      input.subject.device ∈ inventory.managedDevices.map pyStr ∧ input.subject.channel ∈ channels ∧
      input.target.id ∈ inventory.targetsOf input.action.id ∧ input.targetProtected = false)
    ⟨fun ⟨a, b, c, d, e, f, g, h⟩ => ⟨a, b, c, d, e, f, g, h⟩,
      fun ⟨a, b, c, d, e, f, g, h⟩ => ⟨a, b, c, d, e, f, g, h⟩⟩

instance : Decidable (allowPlan inventory input) := inferInstanceAs (Decidable (_ ∧ _))

instance : Decidable (allowExecute inventory input) := inferInstanceAs (Decidable (_ ∧ _))

def allow : Bool :=
  decide (allowRead input ∨ allowPlan inventory input ∨ allowExecute inventory input)

def requiredConfirmation : ConfirmationMode :=
  if input.action.mutation = true then input.action.confirmation else .none

def decision : PolicyDecision where
  allow := allow inventory input
  reason := if allow inventory input then "allowed" else "request denied by policy"
  requiredConfirmation := requiredConfirmation input

theorem allow_execute_mutation (mutation : input.action.mutation = true)
    (phase : input.phase = "execute") :
    allow inventory input = true ↔ Mutable inventory input ∧ confirmationSatisfied input := by
  have not_read : ¬ allowRead input := fun h => by
    have := input.action.mutationMatchesRisk h.1
    simp [this] at mutation
  have not_plan : ¬ allowPlan inventory input := fun h => by
    have := phase.symm.trans h.2
    simp at this
  simp [allow, not_read, not_plan, allowExecute, phase]

theorem confirmation_required {input : PolicyInput} (satisfied : confirmationSatisfied input)
    (needed : input.action.confirmation ≠ .none) :
    input.confirmationValid = true ∧
      input.confirmationRequestDigest = some input.requestDigest := by
  rcases satisfied with none | ⟨_, valid, digest⟩
  · exact absurd none needed
  · exact ⟨valid, digest⟩

end Rego
end Deckhand
