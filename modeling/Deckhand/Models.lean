import Deckhand.Lib.JsonMode
import Deckhand.Lib.Calendar

namespace Deckhand
open Lib

inductive RiskClass where
  | read | «local» | reversible | disruptive | destructive | safetySensitive
  deriving DecidableEq, Repr

inductive JobState where
  | received | validated | authorized | awaitingConfirmation | queued | running | verifying
  | succeeded | denied | rejected | expired | cancelled | failed | unknownOutcome
  deriving DecidableEq, Repr

def JobState.value : JobState → String
  | .received => "received"
  | .validated => "validated"
  | .authorized => "authorized"
  | .awaitingConfirmation => "awaiting_confirmation"
  | .queued => "queued"
  | .running => "running"
  | .verifying => "verifying"
  | .succeeded => "succeeded"
  | .denied => "denied"
  | .rejected => "rejected"
  | .expired => "expired"
  | .cancelled => "cancelled"
  | .failed => "failed"
  | .unknownOutcome => "unknown_outcome"

def JobState.all : List JobState :=
  [.received, .validated, .authorized, .awaitingConfirmation, .queued, .running, .verifying,
    .succeeded, .denied, .rejected, .expired, .cancelled, .failed, .unknownOutcome]

def terminalJobStates : List JobState :=
  [.succeeded, .denied, .rejected, .expired, .cancelled, .failed]

inductive RetryDisposition where
  | never | safe | reconcileFirst
  deriving DecidableEq, Repr

def RetryDisposition.value : RetryDisposition → String
  | .never => "never"
  | .safe => "safe"
  | .reconcileFirst => "reconcile_first"

inductive ConfirmationMode where
  | none | confirm | hold | typed | dualControl | policy
  deriving DecidableEq, Repr

def ConfirmationMode.value : ConfirmationMode → String
  | .none => "none"
  | .confirm => "confirm"
  | .hold => "hold"
  | .typed => "typed"
  | .dualControl => "dual_control"
  | .policy => "policy"

structure Target where
  type : String
  id : String
  deriving DecidableEq, Repr

structure RequestContext where
  profile : Option String
  frontmostApp : Option String
  client : String
  control : Option String
  deriving DecidableEq, Repr

/-- The UUID is carried as its text. -/
structure ActionRequest where
  actionId : String
  actionVersion : Nat
  target : Target
  parameters : Dict
  context : RequestContext
  idempotencyKey : String
  dryRun : Bool
  confirmationToken : Option String
  confirmationResponse : Option String

/-- The model validator is a field: a read action that is a mutation cannot be built. -/
structure ActionDefinition where
  id : String
  version : Nat
  title : String
  description : String
  riskClass : RiskClass
  plugin : String
  adapter : String
  targetTypes : List String
  parameterSchema : Json
  policyAction : String
  confirmation : ConfirmationMode
  timeoutSeconds : Nat
  idempotency : String
  mutation : Bool
  mutationMatchesRisk : riskClass = .read → mutation = false
  timeoutPositive : 0 < timeoutSeconds
  timeoutBounded : timeoutSeconds ≤ 3600

/-- Its fields are plain texts, which may hold surrogates. -/
structure Subject where
  name : PyStr
  device : PyStr
  channel : PyStr
  deriving DecidableEq, Repr

/-- UTF-8 has bytes for what identifies the subject. -/
def Subject.encodable (s : Subject) : Bool := Lib.encodable s.name && Lib.encodable s.device

/-- `model_dump_json` writes the subject. -/
def Subject.writable (s : Subject) : Bool := s.encodable && Lib.encodable s.channel

structure PolicyDecision where
  allow : Bool
  reason : PyStr
  requiredConfirmation : ConfirmationMode
  deriving DecidableEq, Repr

/-- A value in a dict of details: one that JSON has, or another object, with what the JSON mode
makes of it if it makes anything. -/
inductive Detail where
  | json (value : Json)
  | foreign (dumped : Option Json)

/-- `dict[str, Any]` -/
abbrev Details := List (PyStr × Detail)

def Detail.jsonMode : Detail → Option Json
  | .json value => some value.jsonMode
  | .foreign dumped => dumped.map Json.jsonMode

namespace Details

def ofDict (d : Dict) : Details := d.map fun m => (m.1, .json m.2)

def get? (d : Details) (k : PyStr) : Option Detail := (d.find? fun m => m.1 == k).map Prod.snd

/-- `{**d, k: v}` -/
def set (d : Details) (k : PyStr) (v : Json) : Details := put d (k, .json v)

/-- The JSON mode has something for each of the values. -/
def dumps (d : Details) : Bool := d.all fun m => m.2.jsonMode.isSome

/-- `model_dump(mode="json")` of details that it can dump. -/
def jsonMode (d : Details) : Dict :=
  ofPairs (d.filterMap fun m => m.2.jsonMode.map fun value => (lossy m.1, value))

/-- A dict that is the same when it is dumped, written and read back. -/
def Exact (d : Details) : Prop :=
  ∃ v : Dict, d = ofDict v ∧ (Json.obj v).standard = true ∧ (Json.obj v).lasting = true ∧
    (Json.obj v).writable = true ∧ (Json.obj v).Distinct

end Details

/-- `^[a-z][a-z0-9_]*$`, of at most 64 characters. -/
def isErrorCode (code : String) : Bool :=
  match code.toList with
  | [] => false
  | c :: rest => isLower c && rest.all (fun d => isLower d || d.isDigit || d == '_') &&
      decide (rest.length < 64)
where
  isLower (c : Char) : Bool := 'a' ≤ c && c ≤ 'z'

/-- What pydantic checks of a code and a message are fields. -/
structure JobError where
  code : String
  message : String
  retry : RetryDisposition := .never
  reconciliationRequired : Bool := false
  details : Details := []
  codeMatches : isErrorCode code = true
  messageNonempty : 1 ≤ message.length
  messageBounded : message.length ≤ 1024

structure JobView where
  id : String
  state : JobState
  actionId : String
  target : Target
  createdAt : Timestamp
  updatedAt : Timestamp
  result : Option Dict
  error : Option JobError

structure ConfirmationChallenge where
  id : String
  token : String
  mode : ConfirmationMode
  expiresAt : Timestamp
  prompt : String
  deriving DecidableEq

structure PlanView where
  requestDigest : String
  confirmationDigest : String
  actionId : String
  actionVersion : Nat
  target : Target
  mutation : Bool
  executable : Bool
  steps : List String
  requiredConfirmation : ConfirmationMode
  confirmation : Option ConfirmationChallenge
  denialReason : Option PyStr

def textOrNull (s : Option String) : Json := s.elim .null fun text => .str text

def Target.modelDump (t : Target) : Json := .obj [("type", .str t.type), ("id", .str t.id)]

def Subject.modelDump (s : Subject) : Json :=
  .obj [("name", .str s.name), ("device", .str s.device), ("channel", .str s.channel)]

def RequestContext.modelDump (c : RequestContext) : Json :=
  .obj [("profile", textOrNull c.profile), ("frontmost_app", textOrNull c.frontmostApp),
    ("client", .str c.client), ("control", textOrNull c.control)]

def JobError.modelDump (e : JobError) : Json :=
  .obj [("code", .str e.code), ("message", .str e.message), ("retry", .str e.retry.value),
    ("reconciliation_required", .bool e.reconciliationRequired),
    ("details", .obj e.details.jsonMode)]

/-- `model_dump_json` writes the error, and `json.dumps` writes what it dumps to. -/
def JobError.writable (e : JobError) : Bool :=
  e.details.dumps && (Json.obj e.details.jsonMode).textsEncodable &&
    (Json.obj e.details.jsonMode).writable

/-- The error that `model_validate_json` reads back from `model_dump_json`. -/
def JobError.modelDumpJson (e : JobError) : JobError :=
  { e with details := .ofDict e.details.jsonMode }

/-- `json.dumps` writes the parameters, as they are and in JSON mode. -/
def ActionRequest.writable (r : ActionRequest) : Bool := (Json.obj r.parameters).writable

/-- `model_dump_json` writes the request: UTF-8 has bytes for the strings in it. -/
def ActionRequest.textsEncodable (r : ActionRequest) : Bool :=
  (Json.obj r.parameters.jsonMode).textsEncodable

/-- `model_dump_json` and `request_digest` have a text of the request. -/
def ActionRequest.storable (r : ActionRequest) : Bool :=
  r.textsEncodable && (Json.obj r.parameters.jsonMode).writable

/-- The request that `model_validate_json` reads back from `model_dump_json`. -/
def ActionRequest.modelDumpJson (r : ActionRequest) : ActionRequest :=
  { r with parameters := r.parameters.jsonMode }

@[simp] theorem modelDumpJson_key (r : ActionRequest) :
    r.modelDumpJson.idempotencyKey = r.idempotencyKey := rfl

theorem mem_all (s : JobState) : s ∈ JobState.all := by
  cases s <;> decide

end Deckhand
