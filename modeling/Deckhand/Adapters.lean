import Deckhand.Lib.Checks
import Deckhand.Models

namespace Deckhand
open Lib

inductive AdapterErrorKind where
  | configuration | authentication | authorization | notFound | conflict | rateLimited
  | unavailable | timeout | protocol | unexpected
  deriving DecidableEq, Repr

def AdapterErrorKind.value : AdapterErrorKind → String
  | .configuration => "configuration"
  | .authentication => "authentication"
  | .authorization => "authorization"
  | .notFound => "not_found"
  | .conflict => "conflict"
  | .rateLimited => "rate_limited"
  | .unavailable => "unavailable"
  | .timeout => "timeout"
  | .protocol => "protocol"
  | .unexpected => "unexpected"

/-- What an adapter gives as the kind of its error: a member, or any object, with whether it is
found among the members (`none` where it has no hash) and its `value`, where it has one. -/
inductive ErrorKind where
  | member (kind : AdapterErrorKind)
  | foreign (transient : Option Bool) (value : Option String)

def ErrorKind.value : ErrorKind → Option String
  | .member kind => some kind.value
  | .foreign _ value => value

structure AdapterError where
  message : PyStr
  kind : ErrorKind := .member .unexpected
  retry : RetryDisposition := .never
  reconciliationRequired : Bool := false
  details : Details := []

/-- What the conversion of data from one form to another raises. -/
inductive DataExn where
  | validationError (model : String)
  | attributeError
  | serializationError
  deriving DecidableEq, Repr

def AdapterError.asJobError (e : AdapterError) : Except DataExn JobError := do
  let code ← demand e.kind.value .attributeError
  let message ← demand (scalarText e.message) (.validationError "JobError")
  if h : isErrorCode code = true ∧ 1 ≤ message.length ∧ message.length ≤ 1024 then
    return {
      code := code
      message := message
      retry := e.retry
      reconciliationRequired := e.reconciliationRequired
      details := e.details
      codeMatches := h.1
      messageNonempty := h.2.1
      messageBounded := h.2.2 }
  else throw (.validationError "JobError")

def AdapterError.unknownOutcome (message : String) (details : Details) : AdapterError where
  message := message
  kind := .member .timeout
  retry := .reconcileFirst
  reconciliationRequired := true
  details := details

structure AdapterPlan where
  steps : List String
  nonempty : steps ≠ []

structure AdapterExecution where
  reference : Option String
  details : Details
  referenceBounded : ∀ r ∈ reference, r.length ≤ 512

theorem AdapterExecution.unreferenced : ∀ r ∈ (none : Option String), r.length ≤ 512 :=
  fun _ member => by cases member

/-- The time is carried as the text it is dumped to. -/
structure AdapterObservation where
  state : String
  observedAt : String
  details : Details
  stateNonempty : 1 ≤ state.length
  stateBounded : state.length ≤ 128

structure AdapterVerification where
  satisfied : Bool
  details : Details

inductive CancellationDisposition where
  | cancelled | notSupported | alreadyTerminal | unknown
  deriving DecidableEq, Repr

def CancellationDisposition.value : CancellationDisposition → String
  | .cancelled => "cancelled"
  | .notSupported => "not_supported"
  | .alreadyTerminal => "already_terminal"
  | .unknown => "unknown"

structure AdapterCancellation where
  disposition : CancellationDisposition
  details : Details

def AdapterExecution.modelDump (x : AdapterExecution) : Json :=
  .obj [("reference", textOrNull x.reference), ("details", .obj x.details.jsonMode)]

def AdapterObservation.modelDump (o : AdapterObservation) : Json :=
  .obj [("state", .str o.state), ("observed_at", .str o.observedAt),
    ("details", .obj o.details.jsonMode)]

def AdapterVerification.modelDump (v : AdapterVerification) : Json :=
  .obj [("satisfied", .bool v.satisfied), ("details", .obj v.details.jsonMode)]

def AdapterCancellation.modelDump (c : AdapterCancellation) : Json :=
  .obj [("disposition", .str c.disposition.value), ("details", .obj c.details.jsonMode)]

def optionalText (bound : Nat) : Option Json →
    Except DataExn { s : Option String // ∀ r ∈ s, r.length ≤ bound }
  | none => .ok ⟨none, by simp⟩
  | some .null => .ok ⟨none, by simp⟩
  | some (.str s) =>
    match scalarText s with
    | some text =>
      if h : text.length ≤ bound then
        .ok ⟨some text, by simpa⟩ else .error (.validationError "text")
    | none => .error (.validationError "text")
  | some _ => .error (.validationError "text")

def dictOrEmpty : Option Json → Except DataExn Dict
  | none => .ok []
  | some (.obj members) => .ok members
  | some _ => .error (.validationError "dict")

/-- `AdapterExecution.model_validate` of a dict; other keys are forbidden. -/
def AdapterExecution.modelValidate (d : Dict) : Except DataExn AdapterExecution := do
  if d.any fun m => m.1 ≠ "reference" ∧ m.1 ≠ "details" then
    throw (.validationError "AdapterExecution")
  let reference ← optionalText 512 (Dict.get? d "reference")
  let details ← dictOrEmpty (Dict.get? d "details")
  return ⟨reference.1, .ofDict details, reference.2⟩

theorem ofDict_jsonMode (d : Dict) : (Details.ofDict d).jsonMode = d.jsonMode := by
  have members : (Details.ofDict d).filterMap (fun m => m.2.jsonMode.map fun value =>
      (lossy m.1, value)) = jsonModeMembers d := by
    rw [Details.ofDict, List.filterMap_map, jsonModeMembers_map, ← List.filterMap_eq_map]
    rfl
  rw [Details.jsonMode, members, Dict.jsonMode]

theorem ofDict_dumps (d : Dict) : (Details.ofDict d).dumps = true := by
  simp [Details.ofDict, Details.dumps, Detail.jsonMode]

theorem Details.Exact.kept {d : Details} (exact : d.Exact) :
    Details.ofDict (joinedMembers d.jsonMode) = d := by
  obtain ⟨v, rfl, standard, lasting, -, distinct⟩ := exact
  rw [ofDict_jsonMode, dict_jsonMode_of_standard standard distinct,
    joinedMembers_of_lasting (every_obj.mp lasting)]

/-- What is stored of an execution reads back, as the execution it was where it is exact. -/
theorem execution_round_trip (x : AdapterExecution) :
    ∃ d y, x.modelDump.joined = .obj d ∧ AdapterExecution.modelValidate d = .ok y ∧
      (x.details.Exact → y = x) := by
  obtain ⟨reference, details, bounded⟩ := x
  refine ⟨_, ⟨reference, .ofDict (joinedMembers details.jsonMode), bounded⟩, rfl, ?_, ?_⟩
  · cases reference with
    | none => rfl
    | some r =>
      have fits : r.length ≤ 512 := bounded r rfl
      have text : (textOrNull (some r)).joined = .str r := congrArg Json.str (join_pyStr r)
      simp [joinedMembers, AdapterExecution.modelValidate, optionalText, dictOrEmpty, text, fits,
        Json.joined]
      rfl
  · intro exact
    rw [exact.kept]

inductive AdapterOp where
  | plan (action : ActionDefinition) (request : ActionRequest)
  | execute (action : ActionDefinition) (request : ActionRequest)
  | observe (action : ActionDefinition) (request : ActionRequest)
  | verify (action : ActionDefinition) (request : ActionRequest) (execution : AdapterExecution)
      (observation : AdapterObservation)
  | cancel (action : ActionDefinition) (request : ActionRequest)
      (execution : Option AdapterExecution)

abbrev AdapterOp.Value : AdapterOp → Type
  | .plan .. => AdapterPlan
  | .execute .. => AdapterExecution
  | .observe .. => AdapterObservation
  | .verify .. => AdapterVerification
  | .cancel .. => AdapterCancellation

/-- `baseException` is one that is neither an `Exception` nor a cancellation. -/
inductive AdapterExn where
  | adapterError (e : AdapterError)
  | timeoutError
  | cancelledError
  | other (message : String)
  | baseException (message : String)

/-- The names adapters are registered under. -/
structure AdapterRegistry where
  names : List String
  distinct : names.Nodup

def AdapterRegistry.get (registry : AdapterRegistry) (name : String) : Except AdapterError Unit :=
  if name ∈ registry.names then .ok ()
  else .error { message := pyStr ("adapter '" ++ name ++ "' is not registered") }

end Deckhand
