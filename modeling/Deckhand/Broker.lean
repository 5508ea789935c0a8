import Deckhand.Store.Ops
import Deckhand.Resilience
import Deckhand.Catalog
import Deckhand.Policy

/-! What the broker's processes call, and how they are written: a process is a program over
the store's operations, the adapters and the policy engine, each call atomic. -/
namespace Deckhand
open Lib Lib.Prog

inductive Op where
  | store (op : StoreOp)
  | adapter (name : String) (op : AdapterOp)
  | decide (input : PolicyInput)

abbrev Op.Ret : Op → Type
  | .store op => Except StoreExn op.Value
  | .adapter _ op => Except AdapterExn op.Value
  | .decide _ => Except PolicyExn PolicyDecision

/-- What the environment contributes: to a store call its clock and random values, to an
adapter call what went on behind its guard, to a decision the engine's inventory. -/
abbrev Op.Note : Op → Type
  | .store _ => Oracle
  | .adapter .. => List GuardEvent
  | .decide _ => Inventory

inductive Exn where
  | store (x : StoreExn)
  | adapter (x : AdapterExn)
  | policy (x : PolicyExn)
  | catalog (x : CatalogError)
  | data (x : DataExn)
  | cancellation (message : PyStr)
  | http (status : Nat) (detail : Json)

structure Runtime where
  store : Store
  catalog : Catalog
  adapters : AdapterRegistry
  protectedPairs : List (String × String)
  protectedTypes : List String
  allowMutations : Bool
  environment : String
  confirmationTtlSeconds : Int

def Runtime.isProtected (rt : Runtime) (target : Target) : Bool :=
  decide (target.type ∈ rt.protectedTypes) || decide ((target.type, target.id) ∈ rt.protectedPairs)

abbrev Process := Prog Op.Ret Exn

def callStore (op : StoreOp) : Process op.Value := invoke (.store op) fun r => r.mapError .store

def callAdapter (name : String) (op : AdapterOp) : Process op.Value :=
  invoke (.adapter name op) fun r => r.mapError .adapter

def decidePolicy (input : PolicyInput) : Process PolicyDecision :=
  invoke (.decide input) fun r => r.mapError .policy

namespace Runtime
variable (rt : Runtime)

def validateRequest (request : ActionRequest) : Process ActionDefinition :=
  lift ((rt.catalog.validateRequest request).mapError .catalog)

def getAdapter (name : String) : Process Unit :=
  lift ((rt.adapters.get name).mapError fun e => .adapter (.adapterError e))

end Runtime

def asJobError (error : AdapterError) : Process JobError :=
  lift (error.asJobError.mapError .data)

/-- `model_dump(mode="json")` raises for details that the JSON mode has nothing for. -/
def requireDump (details : Details) : Process Unit :=
  raiseIf (details.dumps = false) (.data .serializationError)

/-- `{**result, "observation": ..., "verification": ...}` -/
def verifiedResult (result : Dict) (observation : AdapterObservation)
    (verification : AdapterVerification) : Dict :=
  (Dict.set result "observation" observation.modelDump).set "verification" verification.modelDump

theorem verifiedResult_observation (result : Dict) (o : AdapterObservation)
    (v : AdapterVerification) :
    Dict.get? (verifiedResult result o v) "observation" = some o.modelDump :=
  (Dict.get?_set_other _ _ (by decide)).trans (Dict.get?_set_self ..)

theorem verifiedResult_verification (result : Dict) (o : AdapterObservation)
    (v : AdapterVerification) :
    Dict.get? (verifiedResult result o v) "verification" = some v.modelDump :=
  Dict.get?_set_self ..

/-- `AdapterExecution.model_validate(result["execution"])` where that is a dict. -/
def storedExecution (result : Dict) : Except DataExn (Option AdapterExecution) :=
  match Dict.get? result "execution" with
  | some (.obj raw) => (AdapterExecution.modelValidate raw).map some
  | _ => .ok none

def evidence (result : Option Dict) : Option Json := Dict.get? (result.getD []) "execution"

theorem evidence_verified (result : Dict) (o : AdapterObservation) (v : AdapterVerification) :
    evidence (some (verifiedResult result o v)) = Dict.get? result "execution" :=
  (Dict.get?_set_other _ _ (by decide)).trans (Dict.get?_set_other _ _ (by decide))

theorem evidence_joined (result : Option Dict) :
    evidence (result.map joinedMembers) = (evidence result).map Json.joined := by
  cases result with
  | none => rfl
  | some d => exact get?_joined d (by decide)

theorem storedExecution_recorded {result : Dict} {x : AdapterExecution}
    (recorded : Dict.get? result "execution" = some x.modelDump.joined) :
    ∃ y, storedExecution result = .ok (some y) ∧ (x.details.Exact → y = x) := by
  obtain ⟨raw, y, dump, validated, same⟩ := execution_round_trip x
  refine ⟨y, ?_, same⟩
  rw [storedExecution, recorded, dump]
  simp [validated, Except.map]

section
variable {σ : Type} {es : List (Event σ Op.Note Op.Ret)} {op : Op} {rt : Runtime}

@[simp] theorem calls_callStore {storeOp : StoreOp} :
    Calls (callStore storeOp) es op ↔ es = [] ∧ op = .store storeOp := calls_invoke

@[simp] theorem calls_callAdapter {name : String} {adapterOp : AdapterOp} :
    Calls (callAdapter name adapterOp) es op ↔ es = [] ∧ op = .adapter name adapterOp :=
  calls_invoke

@[simp] theorem calls_decidePolicy {input : PolicyInput} :
    Calls (decidePolicy input) es op ↔ es = [] ∧ op = .decide input := calls_invoke

@[simp] theorem returns_callStore_ok {storeOp : StoreOp} {v : storeOp.Value} :
    Returns (callStore storeOp) es (.ok v) ↔
      ∃ e, es = [e] ∧ e.Answered (.store storeOp) (.ok v) :=
  returns_invoke_ok fun _ => mapError_ok

@[simp] theorem returns_callStore_error {storeOp : StoreOp} {x : Exn} :
    Returns (callStore storeOp) es (.error x : Except Exn storeOp.Value) ↔
      ∃ e y, es = [e] ∧ e.Answered (.store storeOp) (.error y) ∧ x = .store y :=
  returns_invoke_error fun _ => mapError_error

@[simp] theorem returns_callAdapter_ok {name : String} {adapterOp : AdapterOp}
    {v : adapterOp.Value} : Returns (callAdapter name adapterOp) es (.ok v) ↔
      ∃ e, es = [e] ∧ e.Answered (.adapter name adapterOp) (.ok v) :=
  returns_invoke_ok fun _ => mapError_ok

@[simp] theorem returns_callAdapter_error {name : String} {adapterOp : AdapterOp} {x : Exn} :
    Returns (callAdapter name adapterOp) es (.error x : Except Exn adapterOp.Value) ↔
      ∃ e y, es = [e] ∧ e.Answered (.adapter name adapterOp) (.error y) ∧ x = .adapter y :=
  returns_invoke_error fun _ => mapError_error

theorem calls_store_then {α : Type} {storeOp : StoreOp} {f : storeOp.Value → Process α}
    (h : Calls (callStore storeOp >>= f) es op) : (es = [] ∧ op = .store storeOp) ∨
      ∃ e v rest, es = e :: rest ∧ e.Answered (.store storeOp) (.ok v) ∧ Calls (f v) rest op := by
  rcases calls_bind.mp h with here | ⟨v, first, rest, rfl, ran, later⟩
  · exact .inl (calls_callStore.mp here)
  · obtain ⟨e, rfl, answered⟩ := returns_callStore_ok.mp ran
    exact .inr ⟨e, v, rest, rfl, answered, later⟩

theorem calls_adapter_then {α : Type} {name : String} {adapterOp : AdapterOp}
    {f : adapterOp.Value → Process α} (h : Calls (callAdapter name adapterOp >>= f) es op) :
    (es = [] ∧ op = .adapter name adapterOp) ∨ ∃ e v rest, es = e :: rest ∧
      e.Answered (.adapter name adapterOp) (.ok v) ∧ Calls (f v) rest op := by
  rcases calls_bind.mp h with here | ⟨v, first, rest, rfl, ran, later⟩
  · exact .inl (calls_callAdapter.mp here)
  · obtain ⟨e, rfl, answered⟩ := returns_callAdapter_ok.mp ran
    exact .inr ⟨e, v, rest, rfl, answered, later⟩

theorem returns_store_then {α : Type} {storeOp : StoreOp} {f : storeOp.Value → Process α}
    {s : Except Exn α} (h : Returns (callStore storeOp >>= f) es s) :
    (∃ e y, es = [e] ∧ e.Answered (.store storeOp) (.error y) ∧ s = .error (.store y)) ∨
      ∃ e v rest, es = e :: rest ∧ e.Answered (.store storeOp) (.ok v) ∧
        Returns (f v) rest s := by
  rcases returns_bind.mp h with ⟨x, ran, rfl⟩ | ⟨v, first, rest, rfl, ran, later⟩
  · obtain ⟨e, y, rfl, answered, rfl⟩ := returns_callStore_error.mp ran
    exact .inl ⟨e, y, rfl, answered, rfl⟩
  · obtain ⟨e, rfl, answered⟩ := returns_callStore_ok.mp ran
    exact .inr ⟨e, v, rest, rfl, answered, later⟩

theorem returns_adapter_then {α : Type} {name : String} {adapterOp : AdapterOp}
    {f : adapterOp.Value → Process α} {s : Except Exn α}
    (h : Returns (callAdapter name adapterOp >>= f) es s) :
    (∃ e y, es = [e] ∧ e.Answered (.adapter name adapterOp) (.error y) ∧
      s = .error (.adapter y)) ∨ ∃ e v rest, es = e :: rest ∧
        e.Answered (.adapter name adapterOp) (.ok v) ∧ Returns (f v) rest s := by
  rcases returns_bind.mp h with ⟨x, ran, rfl⟩ | ⟨v, first, rest, rfl, ran, later⟩
  · obtain ⟨e, y, rfl, answered, rfl⟩ := returns_callAdapter_error.mp ran
    exact .inl ⟨e, y, rfl, answered, rfl⟩
  · obtain ⟨e, rfl, answered⟩ := returns_callAdapter_ok.mp ran
    exact .inr ⟨e, v, rest, rfl, answered, later⟩

@[simp] theorem returns_decidePolicy_ok {input : PolicyInput} {v : PolicyDecision} :
    Returns (decidePolicy input) es (.ok v) ↔
      ∃ e, es = [e] ∧ e.Answered (.decide input) (.ok v) :=
  returns_invoke_ok fun _ => mapError_ok

theorem returns_raised_ok {ε α : Type} {r : Except ε α} {f : ε → Exn} {a : α} :
    Returns (lift (r.mapError f) : Process α) es (.ok a) ↔ es = [] ∧ r = .ok a := by
  rw [returns_lift]
  exact and_congr_right fun _ => eq_comm.trans mapError_ok

@[simp] theorem calls_validateRequest {request : ActionRequest} :
    ¬ Calls (rt.validateRequest request) es op := calls_lift

@[simp] theorem returns_validateRequest_ok {request : ActionRequest} {action : ActionDefinition} :
    Returns (rt.validateRequest request) es (.ok action) ↔
      es = [] ∧ rt.catalog.validateRequest request = .ok action := returns_raised_ok

@[simp] theorem calls_getAdapter {name : String} : ¬ Calls (rt.getAdapter name) es op := calls_lift

@[simp] theorem returns_getAdapter_ok {name : String} {u : Unit} :
    Returns (rt.getAdapter name) es (.ok u) ↔ es = [] ∧ name ∈ rt.adapters.names := by
  rw [Runtime.getAdapter, returns_raised_ok, AdapterRegistry.get]
  simp

@[simp] theorem calls_requireDump {details : Details} : ¬ Calls (requireDump details) es op :=
  calls_raiseIf

@[simp] theorem returns_requireDump_ok {details : Details} {u : Unit} :
    Returns (requireDump details) es (.ok u) ↔ es = [] ∧ details.dumps = true := by
  simp [requireDump]

theorem calls_requireDump_then {α : Type} {details : Details} {p : Process α}
    (h : Calls (requireDump details >>= fun _ => p) es op) : details.dumps = true ∧
    Calls p es op := by
  rcases calls_bind.mp h with here | ⟨_, first, rest, rfl, ran, later⟩
  · exact absurd here calls_requireDump
  · obtain ⟨rfl, dumps⟩ := returns_requireDump_ok.mp ran
    exact ⟨dumps, later⟩

theorem returns_requireDump_then {α : Type} {details : Details} {p : Process α} {s : Except Exn α}
    (h : Returns (requireDump details >>= fun _ => p) es s) :
    (es = [] ∧ details.dumps = false ∧ s = .error (.data .serializationError)) ∨
      details.dumps = true ∧ Returns p es s := by
  rcases returns_bind.mp h with ⟨x, ran, rfl⟩ | ⟨_, first, rest, rfl, ran, later⟩
  · obtain ⟨rfl, undumped, rfl⟩ := returns_raiseIf_error.mp ran
    exact .inl ⟨rfl, undumped, rfl⟩
  · obtain ⟨rfl, dumps⟩ := returns_requireDump_ok.mp ran
    exact .inr ⟨dumps, later⟩

@[simp] theorem calls_asJobError {error : AdapterError} : ¬ Calls (asJobError error) es op :=
  calls_lift

@[simp] theorem returns_asJobError_ok {error : AdapterError} {jobError : JobError} :
    Returns (asJobError error) es (.ok jobError) ↔
      es = [] ∧ error.asJobError = .ok jobError := returns_raised_ok

end
end Deckhand
