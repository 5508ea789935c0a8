import Deckhand.Models
import Deckhand.StreamDeck.Visual
import Deckhand.Lib.Trace

/-! The Stream Deck action: what a key press does up to each of its awaits, and what it does
when the await is over. Presses run beside each other and share the pending map. -/
namespace Deckhand.StreamDeck
open Lib

structure ActionSettings where
  brokerUrl : Option String
  identityUrl : Option String
  actionId : Option String
  actionVersion : Option Int
  targetType : Option String
  targetId : Option String
  parameters : Option String
  deriving DecidableEq

structure Confirmation where
  token : String
  mode : ConfirmationMode
  deriving DecidableEq

structure Plan where
  executable : Bool
  confirmation : Option Confirmation
  denialReason : Option String

/-- Why a press failed: a refusal by the broker or by the client, or anything else. -/
inductive Cause where
  | denied
  | other
  deriving DecidableEq

/-- What the client uses of JavaScript: `V` is the values that `JSON.parse` yields, and a URL is
its protocol and its text. -/
structure Globals (V : Type) where
  parse : String → Option V
  isObject : V → Bool
  emptyObject : V
  url : String → Option (String × String)

/-- The body of a plan or execute request; its context is always the same. -/
structure Body (V : Type) where
  actionId : String
  actionVersion : Int
  targetType : String
  targetId : String
  parameters : V
  idempotencyKey : Nat
  dryRun : Bool
  confirmationToken : Option String
  deriving DecidableEq

structure Post (V : Type) where
  base : String
  body : Body V

section Client
variable {V : Type} (js : Globals V)

def given (setting : Option String) : Option String := setting.filter fun s => s ≠ ""

def normalizedBrokerUrl (value : Option String) : Except Cause String :=
  match given value with
  | none => .error .other
  | some value =>
    match js.url value with
    | none => .error .other
    | some (protocol, text) =>
      if protocol ≠ "https:" ∧ protocol ≠ "http:" then .error .other
      else if text.toList.getLast? = some '/' then .ok (String.ofList text.toList.dropLast)
      else .ok text

def requestParameters (settings : ActionSettings) : Except Cause V :=
  match given settings.parameters with
  | none => .ok js.emptyObject
  | some text =>
    match js.parse text with
    | none => .error .other
    | some value => if js.isObject value then .ok value else .error .denied

def request (settings : ActionSettings) (confirmationToken : Option String) (dryRun : Bool)
    (idempotencyKey : Nat) : Except Cause (Body V) :=
  match given settings.actionId, given settings.targetType, given settings.targetId with
  | some actionId, some targetType, some targetId => do
    let parameters ← requestParameters js settings
    return { actionId, actionVersion := settings.actionVersion.getD 1, targetType, targetId,
             parameters, idempotencyKey, dryRun, confirmationToken }
  | _, _, _ => .error .denied

/-- What `plan` and `execute` make ready before they ask for the identity token. -/
def post (settings : ActionSettings) (confirmationToken : Option String) (dryRun : Bool)
    (idempotencyKey : Nat) : Except Cause (Post V) := do
  let body ← request js settings confirmationToken dryRun idempotencyKey
  let base ← normalizedBrokerUrl js settings.brokerUrl
  return ⟨base, body⟩

end Client

structure Pending where
  challenge : Confirmation
  idempotencyKey : Nat
  armedAt : Int
  deriving DecidableEq

def armDelayMs : Int := 600

def pendingTtlMs : Int := 30000

def pendingKey (s : ActionSettings) : String :=
  s.actionId.getD "" ++ ":" ++ s.targetType.getD "" ++ ":" ++ s.targetId.getD ""

/-- What a press waits for. A press that goes on to execute keeps the entry it confirms. -/
inductive Phase (V : Type) where
  | planToken (post : Post V)
  | plan (idempotencyKey : Nat)
  | executeToken (post : Post V) (entry : Option Pending)
  | execute (idempotencyKey : Nat) (entry : Option Pending)
  | drawing (alert : Bool)
  | alerting
  | ended

inductive Output (V : Type) where
  | plan (settings : ActionSettings) (post : Post V)
  | armed (settings : ActionSettings) (entry : Pending)
  | execute (settings : ActionSettings) (post : Post V) (entry : Option Pending)
  | answered (idempotencyKey : Nat)
  | image (picture : Picture)

/-- The plugin and its requests on the wire: the plan requests that were sent, and the execute
requests to which no response was received. -/
structure Deck (V : Type) where
  now : Int
  pending : String → Option Pending
  tasks : List (ActionSettings × Phase V)
  keys : Nat
  plans : List (ActionSettings × Body V)
  unanswered : List (ActionSettings × Nat)

/-- What becomes of an execute request: a job, a refusal, or neither, when the broker could not
be reached, did not answer in time or answered with another error. -/
inductive ExecuteAnswer where
  | job (state : String)
  | denied
  | failed

inductive Act where
  | press (settings : ActionSettings)
  | token (task : Nat) (arrived : Bool)
  | planAnswer (task : Nat) (answer : Except Cause Plan)
  | executeAnswer (task : Nat) (answer : ExecuteAnswer)
  | drawn (task : Nat) (shown : Bool)

namespace Deck
variable {V : Type}

def start : Deck V := ⟨0, fun _ => none, [], 0, [], []⟩

/-- `this.pending.delete(key)` -/
def delete (d : Deck V) (key : String) : Deck V :=
  { d with pending := fun k => if k = key then none else d.pending k }

def set (d : Deck V) (key : String) (entry : Pending) : Deck V :=
  { d with pending := fun k => if k = key then some entry else d.pending k }

def enter (d : Deck V) (task : Nat) (s : ActionSettings) (phase : Phase V) : Deck V :=
  { d with tasks := d.tasks.set task (s, phase) }

end Deck

section Action
variable {V : Type} (js : Globals V) (task : Nat) (s : ActionSettings) (d : Deck V)

/-- The catch block. Nothing it awaits has a further effect. -/
def fail (cause : Cause) : List (Output V) × Deck V :=
  ([.image (if cause = .denied then ⟨.failed, "DENIED", ""⟩ else ⟨.offline, "OFFLINE", ""⟩)],
    (d.delete (pendingKey s)).enter task s .ended)

def draw (alert : Bool) (picture : Picture) : List (Output V) × Deck V :=
  ([.image picture], d.enter task s (.drawing alert))

def beginPlan : List (Output V) × Deck V :=
  let d' := { d with keys := d.keys + 1 }
  match post js s none true d.keys with
  | .ok post => ([], d'.enter task s (.planToken post))
  | .error cause => fail task s d' cause

def beginExecute (idempotencyKey : Nat) (confirmationToken : Option String)
    (entry : Option Pending) : List (Output V) × Deck V :=
  match post js s confirmationToken false idempotencyKey with
  | .ok post => ([], d.enter task s (.executeToken post entry))
  | .error cause => fail task s d cause

def onKeyDown : List (Output V) × Deck V :=
  match d.pending (pendingKey s) with
  | some existing =>
    let age := d.now - existing.armedAt
    if pendingTtlMs < age then beginPlan js task s (d.delete (pendingKey s))
    else if age < armDelayMs then draw task s d false ⟨.danger, "HOLD", "confirm"⟩
    else beginExecute js task s d existing.idempotencyKey (some existing.challenge.token)
      (some existing)
  | none => beginPlan js task s d

def afterPlan (idempotencyKey : Nat) (plan : Plan) : List (Output V) × Deck V :=
  if plan.executable = false then
    draw task s d true ⟨.failed, "DENIED", plan.denialReason.getD ""⟩
  else
    match plan.confirmation with
    | some confirmation =>
      if confirmation.mode ≠ .confirm then
        draw task s d true ⟨.failed, "UNSUP", confirmation.mode.value⟩
      else
        let entry : Pending := ⟨confirmation, idempotencyKey, d.now⟩
        let (shown, d') := draw task s (d.set (pendingKey s) entry) false
          ⟨.danger, "CONFIRM?", s.targetId.getD ""⟩
        (.armed s entry :: shown, d')
    | none => beginExecute js task s d idempotencyKey none none

/-- The image that follows a job; a confirmed entry is deleted first. -/
def afterExecute (entry : Option Pending) (state : String) : List (Output V) × Deck V :=
  let d' := if entry.isSome then d.delete (pendingKey s) else d
  draw task s d' false ⟨.running, state.toUpper, s.targetId.getD ""⟩

def sendPlan (post : Post V) : List (Output V) × Deck V :=
  ([.plan s post], { d with plans := d.plans ++ [(s, post.body)] }.enter task s
    (.plan post.body.idempotencyKey))

def sendExecute (post : Post V) (entry : Option Pending) : List (Output V) × Deck V :=
  ([.execute s post entry],
    { d with unanswered := d.unanswered ++ [(s, post.body.idempotencyKey)] }.enter task s
      (.execute post.body.idempotencyKey entry))

def answer (idempotencyKey : Nat) : Deck V :=
  { d with unanswered := d.unanswered.filter fun x => x.2 ≠ idempotencyKey }

def receive (idempotencyKey : Nat) (entry : Option Pending) :
    ExecuteAnswer → List (Output V) × Deck V
  | .job state =>
    let (shown, d') := afterExecute task s (answer d idempotencyKey) entry state
    (.answered idempotencyKey :: shown, d')
  | .denied =>
    let (shown, d') := fail task s (answer d idempotencyKey) .denied
    (.answered idempotencyKey :: shown, d')
  | .failed => fail task s d .other

end Action

section Step
variable {V : Type} (js : Globals V)

/-- What happens at an instant: a key is pressed, or something a press waits for is over. -/
def step (t : Int) (act : Act) (old : Deck V) : Option (List (Output V) × Deck V) :=
  if t < old.now then none
  else
    let d : Deck V := { old with now := t }
    match act with
    | .press s => some (onKeyDown js d.tasks.length s { d with tasks := d.tasks ++ [(s, .ended)] })
    | .token task arrived =>
      match d.tasks[task]? with
      | some (s, .planToken post) =>
        some (if arrived then sendPlan task s d post else fail task s d .other)
      | some (s, .executeToken post entry) =>
        some (if arrived then sendExecute task s d post entry else fail task s d .other)
      | _ => none
    | .planAnswer task answer =>
      match d.tasks[task]? with
      | some (s, .plan idempotencyKey) =>
        match answer with
        | .ok plan => some (afterPlan js task s d idempotencyKey plan)
        | .error cause => some (fail task s d cause)
      | _ => none
    | .executeAnswer task answer =>
      match d.tasks[task]? with
      | some (s, .execute idempotencyKey entry) =>
        some (receive task s d idempotencyKey entry answer)
      | _ => none
    | .drawn task shown =>
      match d.tasks[task]? with
      | some (s, .drawing alert) =>
        if shown then some ([], d.enter task s (if alert then .alerting else .ended))
        else some (fail task s d .other)
      | some (s, .alerting) =>
        if shown then some ([], d.enter task s .ended) else some (fail task s d .other)
      | _ => none

abbrev DeckEvent (V : Type) :=
  Event (Deck V) (fun _ : Act => Int) fun _ => List (Output V)

def sem : Semantics (Deck V) (fun _ : Act => Int) fun _ => List (Output V) :=
  fun act d t out d' => step js t act d = some (out, d')

end Step
end Deckhand.StreamDeck
