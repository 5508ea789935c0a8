import Deckhand.Adapters
import Deckhand.Lib.Canonical
import Deckhand.Sample
import Deckhand.Wasm.PublicJson

/-! What a plugin's component is sent: over the Unix socket by the host adapter, or in the
arguments of the `gang` command by the adapter inside the broker. -/
namespace Deckhand
open Lib

abbrev PyDict := List (PyStr × PyJson)

def RiskClass.value : RiskClass → String
  | .read => "read"
  | .local => "local"
  | .reversible => "reversible"
  | .disruptive => "disruptive"
  | .destructive => "destructive"
  | .safetySensitive => "safety_sensitive"

def strJson (s : String) : PyJson := .str (pyStr s)

/-- `action.model_dump(mode="json")` -/
def ActionDefinition.members (a : ActionDefinition) : PyDict :=
  [(pyStr "id", strJson a.id), (pyStr "version", .int a.version), (pyStr "title", strJson a.title),
    (pyStr "description", strJson a.description), (pyStr "risk_class", strJson a.riskClass.value),
    (pyStr "plugin", strJson a.plugin), (pyStr "adapter", strJson a.adapter),
    (pyStr "target_types", .arr (a.targetTypes.map strJson)),
    (pyStr "parameter_schema", Json.py a.parameterSchema.jsonMode),
    (pyStr "policy_action", strJson a.policyAction),
    (pyStr "confirmation", strJson a.confirmation.value),
    (pyStr "timeout_seconds", .int a.timeoutSeconds), (pyStr "idempotency", strJson a.idempotency),
    (pyStr "mutation", .bool a.mutation)]

def optionalStr (s : Option String) : PyJson := s.elim .null strJson

/-- The fields of a request up to the confirmation token. -/
def ActionRequest.plainMembers (r : ActionRequest) : PyDict :=
  [(pyStr "action_id", strJson r.actionId), (pyStr "action_version", .int r.actionVersion),
    (pyStr "target", Json.py r.target.modelDump),
    (pyStr "parameters", .obj (Json.pyMembers r.parameters.jsonMode)),
    (pyStr "context", Json.py r.context.modelDump),
    (pyStr "idempotency_key", strJson r.idempotencyKey), (pyStr "dry_run", .bool r.dryRun)]

/-- `request.model_dump(mode="json")` -/
def ActionRequest.members (r : ActionRequest) : PyDict :=
  r.plainMembers ++ (pyStr "confirmation_token", optionalStr r.confirmationToken) ::
    [(pyStr "confirmation_response", optionalStr r.confirmationResponse)]

def AdapterExecution.dumped (x : AdapterExecution) : PyJson := Json.py x.modelDump

def AdapterObservation.dumped (o : AdapterObservation) : PyJson := Json.py o.modelDump

/-- `model_dump(mode="json")` -/
def AdapterExecution.dump (x : AdapterExecution) : Except DataExn PyJson := do
  refuse (x.details.dumps = false) .serializationError
  return x.dumped

def AdapterObservation.dump (o : AdapterObservation) : Except DataExn PyJson := do
  refuse (o.details.dumps = false) .serializationError
  return o.dumped

/-- The execution that `cancel` is given, if any. -/
def executionDump : Option AdapterExecution → Except DataExn PyJson
  | none => .ok .null
  | some x => x.dump

/-- A lifecycle operation with what the worker hands it. -/
inductive Lifecycle where
  | health
  | call (op : AdapterOp)

inductive HostOperation where
  | handshake | health | plan | execute | observe | verify | cancel | statusObserve
  deriving DecidableEq, Repr

def HostOperation.value : HostOperation → String
  | .handshake => "handshake"
  | .health => "health"
  | .plan => "plan"
  | .execute => "execute"
  | .observe => "observe"
  | .verify => "verify"
  | .cancel => "cancel"
  | .statusObserve => "status.observe"

def Lifecycle.operation : Lifecycle → HostOperation
  | .health => .health
  | .call (.plan ..) => .plan
  | .call (.execute ..) => .execute
  | .call (.observe ..) => .observe
  | .call (.verify ..) => .verify
  | .call (.cancel ..) => .cancel

/-- What the building of a payload raises. -/
inductive PayloadExn where
  | protocol (error : HostProtocolError)
  | data (x : DataExn)

section Host
variable (py : Builtins) (adapterId : String)

def requestDump (request : ActionRequest) : Except HostProtocolError PyJson := do
  let value := PyJson.obj (request.members.filter fun m => m.1 ≠ pyStr "confirmation_token")
  validatePublicJson py 0 value
  return value

def actionPayload (action : ActionDefinition) (request : ActionRequest) :
    Except PayloadExn PyDict := do
  let dumped ← (requestDump py request).mapError .protocol
  return [(pyStr "adapter", strJson adapterId), (pyStr "action", .obj action.members),
    (pyStr "request", dumped)]

/-- What `WasmHostAdapter` makes of an operation. -/
def hostPayload : Lifecycle → Except PayloadExn PyDict
  | .health => .ok [(pyStr "adapter", strJson adapterId)]
  | .call (.plan action request) => actionPayload py adapterId action request
  | .call (.execute action request) => actionPayload py adapterId action request
  | .call (.observe action request) => actionPayload py adapterId action request
  | .call (.verify action request execution observation) => do
    let payload ← actionPayload py adapterId action request
    let execution ← execution.dump.mapError .data
    let observation ← observation.dump.mapError .data
    return payload ++ [(pyStr "execution", execution), (pyStr "observation", observation)]
  | .call (.cancel action request execution) => do
    let payload ← actionPayload py adapterId action request
    let execution ← (executionDump execution).mapError .data
    return payload ++ [(pyStr "execution", execution)]

/-- What `WasmHostClient.call` sends: nothing that is not public. -/
def hostSends (l : Lifecycle) : Except PayloadExn PyDict := do
  let payload ← hostPayload py adapterId l
  (validatePublicJson py 0 (.obj payload)).mapError .protocol
  return payload

end Host

/-- The settings of the in-process transport. -/
structure GanglionConnection where
  gangBinary : PyStr
  dataDir : PyStr
  robot : PyStr
  capability : PyStr

/-- `shutil.which` is a parameter: the search path is not the broker's to know. -/
def GanglionConnection.binary (connection : GanglionConnection) (which : PyStr → Option PyStr) :
    Option PyStr :=
  if connection.gangBinary.head? = some (codePoint '/') then some connection.gangBinary
  else which connection.gangBinary

def GanglionAdapter.requestPayload (action : ActionDefinition) (request : ActionRequest) : PyDict :=
  [(pyStr "action", .obj action.members), (pyStr "request", .obj request.members)]

/-- What `GanglionAdapter` makes of an operation. -/
def ganglionPayload : Lifecycle → Except DataExn PyDict
  | .health => .ok []
  | .call (.plan action request) => .ok (GanglionAdapter.requestPayload action request)
  | .call (.execute action request) => .ok (GanglionAdapter.requestPayload action request)
  | .call (.observe action request) => .ok (GanglionAdapter.requestPayload action request)
  | .call (.verify action request execution observation) => do
    let execution ← execution.dump
    let observation ← observation.dump
    return GanglionAdapter.requestPayload action request ++
      [(pyStr "execution", execution), (pyStr "observation", observation)]
  | .call (.cancel action request execution) => do
    let execution ← executionDump execution
    return GanglionAdapter.requestPayload action request ++ [(pyStr "execution", execution)]

/-- The arguments that `GanglionClient.invoke` starts the command with, if `json.dumps` writes the
payload. -/
def gangArguments (connection : GanglionConnection) (binary : PyStr) (operation : HostOperation)
    (payload : PyDict) : Option (List PyStr) :=
  if boundedMembers payload then
    some [binary, pyStr "--data-dir", connection.dataDir, pyStr "--format", pyStr "json",
      pyStr "run", connection.robot, connection.capability, pyStr "--export",
      pyStr operation.value, (PyJson.obj payload).write escapeAscii]
  else none

section Around
variable (escape : CodePoint → PyStr)

theorem writeMembers_append (ms ns : PyDict) :
    writeMembers escape (ms ++ ns) = writeMembers escape ms ++ writeMembers escape ns := by
  induction ms with
  | nil => rfl
  | cons m ms ih =>
    obtain ⟨key, value⟩ := m
    rw [List.cons_append, writeMembers, writeMembers, ih, List.cons_append]

theorem intercalate_around {α : Type} (sep : List α) (before after : List (List α)) :
    ∃ front back, ∀ x, sep.intercalate (before ++ x :: after) = front ++ x ++ back := by
  induction before with
  | nil =>
    cases after with
    | nil => exact ⟨[], [], fun x => by simp⟩
    | cons y after => exact ⟨[], sep ++ sep.intercalate (y :: after), fun x => by simp⟩
  | cons y before ih =>
    obtain ⟨front, back, around⟩ := ih
    refine ⟨y ++ sep ++ front, back, fun x => ?_⟩
    rw [List.cons_append, List.intercalate_cons_of_ne_nil (by simp), around]
    simp only [List.append_assoc]

theorem write_around (before after : PyDict) (key : PyStr) : ∃ front back, ∀ v : PyJson,
    (PyJson.obj (before ++ (key, v) :: after)).write escape = front ++ v.write escape ++ back := by
  obtain ⟨front, back, around⟩ :=
    intercalate_around comma (writeMembers escape before) (writeMembers escape after)
  refine ⟨codePoint '\x7b' :: (front ++ quoted escape key ++ [codePoint ':']),
    back ++ [codePoint '\x7d'], fun v => ?_⟩
  rw [PyJson.write, writeMembers_append, writeMembers, around, member]
  simp only [List.cons_append, List.append_assoc, List.nil_append]

end Around

section Tokens
variable {t t' : Option String}

def ActionRequest.withToken (r : ActionRequest) (t : Option String) : ActionRequest :=
  { r with confirmationToken := t }

/-- The same operation for a request with another confirmation token. -/
def Lifecycle.withToken (t : Option String) : Lifecycle → Lifecycle
  | .health => .health
  | .call (.plan action r) => .call (.plan action (r.withToken t))
  | .call (.execute action r) => .call (.execute action (r.withToken t))
  | .call (.observe action r) => .call (.observe action (r.withToken t))
  | .call (.verify action r x o) => .call (.verify action (r.withToken t) x o)
  | .call (.cancel action r x) => .call (.cancel action (r.withToken t) x)

theorem optionalStr_injective
    (same : (optionalStr t).write escapeAscii = (optionalStr t').write escapeAscii) : t = t' := by
  cases t with
  | none =>
    cases t' with
    | none => rfl
    | some s' => exact absurd (List.cons.inj same).1 (by decide)
  | some s =>
    cases t' with
    | none => exact absurd (List.cons.inj same).1 (by decide)
    | some s' =>
      have texts : quoted escapeAscii (pyStr s) ++ [] = quoted escapeAscii (pyStr s') ++ [] := by
        rw [List.append_nil, List.append_nil]
        exact same
      have joined := (quoted_split texts).1
      rw [join_of_joined (pyStr_joined s), join_of_joined (pyStr_joined s')] at joined
      rw [pyStr_injective joined]

theorem hostSends_withToken (py : Builtins) (adapterId : String) (l : Lifecycle)
    (t t' : Option String) :
    hostSends py adapterId (l.withToken t) = hostSends py adapterId (l.withToken t') := by
  have dumped : ∀ r : ActionRequest, requestDump py (r.withToken t) =
      requestDump py (r.withToken t') := fun r => rfl
  have payload : hostPayload py adapterId (l.withToken t) =
      hostPayload py adapterId (l.withToken t') := by
    cases l with
    | health => rfl
    | call op => cases op <;> simp only [Lifecycle.withToken, hostPayload, actionPayload, dumped]
  rw [hostSends, hostSends, payload]

theorem requestPayload_token {action : ActionDefinition} {r : ActionRequest} (after : PyDict)
    (same : (PyJson.obj (GanglionAdapter.requestPayload action (r.withToken t) ++ after)).write
        escapeAscii =
      (PyJson.obj (GanglionAdapter.requestPayload action (r.withToken t') ++ after)).write
        escapeAscii) :
    t = t' := by
  obtain ⟨front, back, around⟩ := write_around escapeAscii
    [(pyStr "action", .obj action.members)] after (pyStr "request")
  obtain ⟨front', back', around'⟩ := write_around escapeAscii r.plainMembers
    [(pyStr "confirmation_response", optionalStr r.confirmationResponse)]
    (pyStr "confirmation_token")
  have whole : ∀ t, (PyJson.obj (GanglionAdapter.requestPayload action (r.withToken t) ++
      after)).write escapeAscii = front ++ (front' ++ (optionalStr t).write escapeAscii ++ back') ++
        back := by
    intro t
    rw [← around' (optionalStr t)]
    exact around (.obj (r.withToken t).members)
  rw [whole, whole] at same
  have inner := List.append_cancel_left (List.append_cancel_right same)
  exact optionalStr_injective (List.append_cancel_left (List.append_cancel_right inner))

theorem ganglionPayload_token (op : AdapterOp) (t t' : Option String) :
    (∃ x, ∀ t, ganglionPayload ((Lifecycle.call op).withToken t) = .error x) ∨
    ∃ d d', ganglionPayload ((Lifecycle.call op).withToken t) = .ok d ∧
      ganglionPayload ((Lifecycle.call op).withToken t') = .ok d' ∧
      boundedMembers d = boundedMembers d' ∧
      ((PyJson.obj d).write escapeAscii = (PyJson.obj d').write escapeAscii → t = t') := by
  have bounded : ∀ (action : ActionDefinition) (r : ActionRequest) (after : PyDict),
      boundedMembers (GanglionAdapter.requestPayload action (r.withToken t) ++ after) =
        boundedMembers (GanglionAdapter.requestPayload action (r.withToken t') ++ after) := by
    intro action r after
    cases t <;> cases t' <;> rfl
  cases op with
  | plan action r => exact .inr ⟨_, _, rfl, rfl, bounded action r [], requestPayload_token []⟩
  | execute action r => exact .inr ⟨_, _, rfl, rfl, bounded action r [], requestPayload_token []⟩
  | observe action r => exact .inr ⟨_, _, rfl, rfl, bounded action r [], requestPayload_token []⟩
  | verify action r x o =>
    cases first : x.dump with
    | error e =>
      left
      refine ⟨e, fun t => ?_⟩
      simp only [Lifecycle.withToken, ganglionPayload, first]
      rfl
    | ok execution =>
      cases second : o.dump with
      | error e =>
        left
        refine ⟨e, fun t => ?_⟩
        simp only [Lifecycle.withToken, ganglionPayload, first, second]
        rfl
      | ok observation =>
        right
        simp only [Lifecycle.withToken, ganglionPayload, first, second, ok_bind]
        exact ⟨_, _, rfl, rfl, bounded action r _, requestPayload_token _⟩
  | cancel action r x =>
    cases first : executionDump x with
    | error e =>
      left
      refine ⟨e, fun t => ?_⟩
      simp only [Lifecycle.withToken, ganglionPayload, first]
      rfl
    | ok execution =>
      right
      simp only [Lifecycle.withToken, ganglionPayload, first, ok_bind]
      exact ⟨_, _, rfl, rfl, bounded action r _, requestPayload_token _⟩

end Tokens

inductive Transport where
  | unixSocket (adapterId : String)
  | inProcess (connection : GanglionConnection)

inductive Sent where
  | nothing
  | payload (operation : HostOperation) (members : PyDict)
  | arguments (argv : List PyStr)

/-- The arguments of an operation, if the command is found and its payload can be written. -/
def gangCommand (which : PyStr → Option PyStr) (l : Lifecycle) (connection : GanglionConnection) :
    Option (List PyStr) := do
  let payload ← (ganglionPayload l).toOption
  let binary ← connection.binary which
  gangArguments connection binary l.operation payload

def sent (py : Builtins) (which : PyStr → Option PyStr) (l : Lifecycle) : Transport → Sent
  | .unixSocket adapterId => match hostSends py adapterId l with
    | .error _ => .nothing
    | .ok members => .payload l.operation members
  | .inProcess connection => match gangCommand which l connection with
    | none => .nothing
    | some argv => .arguments argv

/-- The payload of an operation has a dump, and `json.dumps` writes it. -/
def Lifecycle.Written (l : Lifecycle) : Prop :=
  ∃ payload, ganglionPayload l = .ok payload ∧ boundedMembers payload = true

/-- The confirmation token stays with the broker unless the component runs in its process and is
asked something. -/
def Withheld (which : PyStr → Option PyStr) (l : Lifecycle) : Transport → Prop
  | .unixSocket _ => True
  | .inProcess connection =>
    l.operation = .health ∨ connection.binary which = none ∨ ¬ l.Written

theorem withToken_operation (l : Lifecycle) (t : Option String) :
    (l.withToken t).operation = l.operation := by
  cases l with
  | health => rfl
  | call op => cases op <;> rfl

theorem withToken_self (op : AdapterOp) : ∃ t, (Lifecycle.call op).withToken t = .call op := by
  cases op with
  | plan action r => exact ⟨r.confirmationToken, rfl⟩
  | execute action r => exact ⟨r.confirmationToken, rfl⟩
  | observe action r => exact ⟨r.confirmationToken, rfl⟩
  | verify action r x o => exact ⟨r.confirmationToken, rfl⟩
  | cancel action r x => exact ⟨r.confirmationToken, rfl⟩

theorem written_withToken (op : AdapterOp) (t t' : Option String) :
    ((Lifecycle.call op).withToken t).Written ↔ ((Lifecycle.call op).withToken t').Written := by
  rcases ganglionPayload_token op t t' with ⟨x, neither⟩ | ⟨d, d', one, other, bounded, -⟩
  · simp [Lifecycle.Written, neither]
  · simp [Lifecycle.Written, one, other, bounded]

theorem gangCommand_token {py : Builtins} {which : PyStr → Option PyStr} {op : AdapterOp}
    {connection : GanglionConnection} {path : PyStr} {t t' : Option String}
    (found : connection.binary which = some path)
    (written : ((Lifecycle.call op).withToken t).Written)
    (same : sent py which ((Lifecycle.call op).withToken t) (.inProcess connection) =
      sent py which ((Lifecycle.call op).withToken t') (.inProcess connection)) : t = t' := by
  rcases ganglionPayload_token op t t' with ⟨x, neither⟩ | ⟨d, d', one, other, bounded, apart⟩
  · obtain ⟨payload, made, -⟩ := written
    rw [neither] at made
    cases made
  · obtain ⟨payload, made, fits⟩ := written
    obtain rfl : d = payload := Except.ok.inj (one.symm.trans made)
    apply apart
    simpa [sent, gangCommand, one, other, found, gangArguments, ← bounded, fits,
      withToken_operation, Except.toOption] using same

theorem token_withheld_iff (py : Builtins) (which : PyStr → Option PyStr) (l : Lifecycle)
    (transport : Transport) (t t' : Option String) (differ : t ≠ t') :
    sent py which (l.withToken t) transport = sent py which (l.withToken t') transport ↔
      Withheld which l transport := by
  cases transport with
  | unixSocket adapterId =>
    rw [sent, sent, withToken_operation, withToken_operation,
      hostSends_withToken py adapterId l t t']
    simp only [Withheld]
  | inProcess connection =>
    rw [Withheld]
    cases l with
    | health => simp [Lifecycle.withToken, Lifecycle.operation]
    | call op =>
      obtain ⟨t₀, whole⟩ := withToken_self op
      have any : ∀ t, (Lifecycle.call op).Written ↔ ((Lifecycle.call op).withToken t).Written := by
        intro t
        conv_lhs => rw [← whole]
        exact written_withToken op t₀ t
      constructor
      · intro same
        cases found : connection.binary which with
        | none => exact .inr (.inl rfl)
        | some path =>
          refine .inr (.inr fun written => ?_)
          exact differ (gangCommand_token found ((any t).mp written) same)
      · rintro (health | missing | unwritten)
        · cases op <;> cases health
        · simp [sent, gangCommand, missing]
        · have nothing : ∀ t, gangCommand which ((Lifecycle.call op).withToken t) connection =
              none := by
            intro t
            cases made : ganglionPayload ((Lifecycle.call op).withToken t) with
            | error x => simp [gangCommand, made, Except.toOption]
            | ok payload =>
              have refused : boundedMembers payload = false := by
                by_contra fits
                exact unwritten ((any t).mpr ⟨payload, made, by simpa using fits⟩)
              simp [gangCommand, made, gangArguments, refused, Except.toOption]
          rw [sent, sent, nothing, nothing]

def asciiOnly : Builtins where
  lower s := s.map asciiLower
  isfinite literal := literal ≠ pyStr "NaN" ∧ literal ≠ pyStr "Infinity" ∧
    literal ≠ pyStr "-Infinity"
  depth := 500
  lower_ascii := fun _ _ => rfl
  lower_lossy s := asciiLower_lossy s
  room := by decide

def sampleToken : String := "0123456789abcdef0123456789abcdef"

def executed : Lifecycle :=
  .call (.execute (Sample.ensureActive .confirm) (Sample.request Sample.keyA))

def gang : GanglionConnection := ⟨pyStr "/usr/bin/gang", pyStr "/srv/gang", pyStr "r", pyStr "c"⟩

theorem token_withheld_iff_executed :
    sent asciiOnly some (executed.withToken none) (.unixSocket "dh-core.fake") =
        sent asciiOnly some (executed.withToken (some sampleToken)) (.unixSocket "dh-core.fake") ↔
      Withheld some executed (.unixSocket "dh-core.fake") :=
  token_withheld_iff asciiOnly some executed (.unixSocket "dh-core.fake") none (some sampleToken)
    (by decide)

/-- A request with a token and one without start the command with different arguments. -/
theorem token_in_arguments :
    sent asciiOnly some (executed.withToken none) (.inProcess gang) ≠
      sent asciiOnly some (executed.withToken (some sampleToken)) (.inProcess gang) := by
  intro same
  have found : gang.binary some = some (pyStr "/usr/bin/gang") := by decide
  have written : ∃ payload, ganglionPayload (executed.withToken none) = .ok payload ∧
    boundedMembers payload = true := ⟨_, rfl, by decide +kernel⟩
  exact absurd (gangCommand_token found written same) (by decide)

end Deckhand
