import Deckhand.Wasm.Messages

namespace Deckhand
open Lib

/-- What ends an operation on the host: an adapter error, one of the exceptions that are taken for
a violation of the protocol (`HostProtocolError`, `ValueError`, `KeyError`), any other `Exception`,
or what is none. -/
inductive HostRaise where
  | adapterError (e : AdapterError)
  | protocol
  | unexpected
  | baseException

structure PyObject where
  members : PyDict
  proper : ProperDict members

/-- `invoke` stands for the plugin: it looks up the adapter or the provider, validates the
payload, runs the operation and hands over the model it returned, or raises. -/
structure WasmHostServer where
  pluginId : PyStr
  brokerUid : Nat
  limit : FrameLimit
  invoke : HostOperation → PyDict → Except HostRaise PyObject

/-- What the client raises that is not the transport's own failure. -/
inductive ClientExn where
  | protocol (error : HostProtocolError)
  | adapterError (e : AdapterError)

def hostFailure (request : HostRequest) (error : HostFailure) : HostResponse :=
  { requestId := request.requestId, ok := false, error := some error }

section
variable (py : Builtins) (pydantic : Pydantic)

/-- No response where an exception leaves it: pydantic's about the kind of a failure, or what is no
`Exception`. -/
def dispatch (server : WasmHostServer) (request : HostRequest) : Option HostResponse :=
  if request.protocolVersion ≠ hostProtocolVersion then
    some (hostFailure request { kind := .protocol })
  else if request.pluginId ≠ server.pluginId then
    some (hostFailure request { kind := .authentication })
  else
    match server.invoke request.operation request.payload with
    | .ok model =>
      let result := jsonMembers py model.members
      if request.operation ≠ .handshake ∧ validatePublicJson py 0 (.obj result) ≠ .ok () then
        some (hostFailure request { kind := .protocol })
      else some { requestId := request.requestId, ok := true, result := some result }
    | .error (.adapterError e) => (pydantic.kind e.kind).map fun kind =>
        hostFailure request ⟨kind, e.retry, e.reconciliationRequired⟩
    | .error .protocol => some (hostFailure request { kind := .protocol })
    | .error .unexpected => some (hostFailure request { kind := .unexpected })
    | .error .baseException => none

/-- The bytes that are written to the connection, if any are. -/
def handleConnection (server : WasmHostServer) (peer : Option Nat) (fresh : Uuid)
    (chunks : List (List UInt8)) : Option (List UInt8) := do
  if peer ≠ some server.brokerUid then none
  let frame ← (readFrame py server.limit chunks).toOption
  let request ← HostRequest.modelValidate pydantic fresh frame
  let response ← dispatch py pydantic server request
  (encodeFrame py server.limit response.modelDump).toOption

def unwrap (request : HostRequest) (response : HostResponse) : Except ClientExn PyDict :=
  let violation message : Except ClientExn PyDict := .error (.protocol ⟨message⟩)
  if response.protocolVersion ≠ hostProtocolVersion then
    violation "host response uses an unsupported protocol version"
  else if response.requestId ≠ request.requestId then
    violation "host response request ID does not match"
  else if response.ok then
    match response.error, response.result with
    | none, some result =>
      if request.operation = .handshake then .ok result
      else match validatePublicJson py 0 (.obj result) with
        | .ok () => .ok result
        | .error error => .error (.protocol error)
    | _, _ => violation "successful host response has an invalid shape"
  else
    match response.error, response.result with
    | some error, none => .error (.adapterError {
        message := "host plugin operation failed"
        kind := .member error.kind
        retry := error.retry
        reconciliationRequired := error.reconciliationRequired })
    | _, _ => violation "failed host response has an invalid shape"

end

section Honest
variable {py : Builtins} {pydantic : Pydantic} {server : WasmHostServer} {request : HostRequest}

def HostResponse.told (response : HostResponse) : Except ClientExn PyDict :=
  match response.error with
  | none => .ok (response.result.getD [])
  | some error => .error (.adapterError {
      message := "host plugin operation failed"
      kind := .member error.kind
      retry := error.retry
      reconciliationRequired := error.reconciliationRequired })

inductive Honest (py : Builtins) (request : HostRequest) : HostResponse → Prop where
  | failed (error : HostFailure) : Honest py request (hostFailure request error)
  | answered (model : PyObject)
      (allowed : request.operation = .handshake ∨
        validatePublicJson py 0 (.obj (jsonMembers py model.members)) = .ok ()) :
      Honest py request
        { requestId := request.requestId, ok := true,
          result := some (jsonMembers py model.members) }

theorem dispatch_honest {response : HostResponse}
    (dispatched : dispatch py pydantic server request = some response) :
    Honest py request response := by
  unfold dispatch at dispatched
  split at dispatched
  · cases dispatched
    exact .failed _
  · split at dispatched
    · cases dispatched
      exact .failed _
    · split at dispatched
      · dsimp only at dispatched
        split at dispatched
        · cases dispatched
          exact .failed _
        · rename_i model _ allowed
          cases dispatched
          apply Honest.answered model
          simpa [Decidable.or_iff_not_imp_left] using allowed
      · obtain ⟨kind, -, rfl⟩ := Option.map_eq_some_iff.mp dispatched
        exact .failed _
      · cases dispatched
        exact .failed _
      · cases dispatched
        exact .failed _
      · cases dispatched

theorem unwrap_honest {response : HostResponse} (honest : Honest py request response) :
    unwrap py request response = response.told := by
  cases honest with
  | failed error => simp [unwrap, hostFailure, HostResponse.told]
  | answered model allowed =>
    by_cases handshake : request.operation = .handshake
    · simp [unwrap, HostResponse.told, handshake]
    · have valid := allowed.resolve_left handshake
      simp [unwrap, HostResponse.told, handshake, valid]

theorem properDict_named {d : PyDict} (names : List String) (distinct : names.Nodup)
    (same : d.map Prod.fst = names.map pyStr)
    (values : ProperMembers ⟨none, ofPairs⟩ (fun _ => True) d) : ProperDict d := by
  refine ⟨ofPairs_distinct ?_, values⟩
  rw [same, List.nodup_map_iff pyStr_injective]
  exact distinct

theorem proper_int {hook : PyDict → PyDict} {text : PyStr → Prop} (i : Int) :
    (PyJson.int i).Proper ⟨none, hook⟩ text := fun _ set => nomatch set

theorem failure_members (f : HostFailure) :
    ProperDict f.modelDump ∧ jsonMembers py f.modelDump = f.modelDump := by
  have proper : ProperDict f.modelDump := properDict_named
    ["kind", "retry", "reconciliation_required"] (by decide) rfl
    ⟨trivial, trivial, trivial, trivial, trivial, trivial, trivial⟩
  exact ⟨proper, jsonMembers_named ["kind", "retry", "reconciliation_required"] (by decide) rfl⟩

def HostResponse.names : List String := ["protocol_version", "request_id", "ok", "result", "error"]

theorem honest_members {response : HostResponse} (honest : Honest py request response) :
    ProperDict response.modelDump ∧ jsonMembers py response.modelDump = response.modelDump := by
  have named : jsonMembers py response.modelDump =
      response.modelDump.map fun m => (m.1, jsonMode py m.2) :=
    jsonMembers_named HostResponse.names (by decide) rfl
  rw [named]
  cases honest with
  | failed error =>
    obtain ⟨proper, same⟩ : ProperDict error.modelDump ∧
        jsonMembers py error.modelDump = error.modelDump := failure_members error
    refine ⟨properDict_named HostResponse.names (by decide) rfl ⟨trivial, proper_int _, trivial,
      trivial, trivial, trivial, trivial, trivial, trivial, proper, trivial⟩, ?_⟩
    have whole : jsonMode py (.obj error.modelDump) = .obj error.modelDump :=
      congrArg PyJson.obj same
    simp only [HostResponse.modelDump, hostFailure, List.map_cons, List.map_nil, Option.elim_some,
      Option.elim_none, whole]
    rfl
  | answered model allowed =>
    have proper : ProperDict (jsonMembers py model.members) := properDict_jsonMembers model.proper
    refine ⟨properDict_named HostResponse.names (by decide) rfl ⟨trivial, proper_int _, trivial,
      trivial, trivial, trivial, trivial, proper, trivial, trivial, trivial⟩, ?_⟩
    have whole : jsonMode py (.obj (jsonMembers py model.members)) =
        .obj (jsonMembers py model.members) := congrArg PyJson.obj (jsonMembers_idem _)
    simp only [HostResponse.modelDump, List.map_cons, List.map_nil, Option.elim_some,
      Option.elim_none, whole]
    rfl

/-- What is dispatched of a request: its payload as it was dumped. -/
def HostRequest.dumped (py : Builtins) (request : HostRequest) : HostRequest :=
  { request with payload := jsonMembers py request.payload }

theorem request_members (proper : ProperDict request.payload) : ProperDict request.modelDump ∧
    jsonMembers py request.modelDump = (request.dumped py).modelDump := by
  have names : ["protocol_version", "request_id", "plugin_id", "operation", "payload"].Nodup := by
    decide
  refine ⟨properDict_named _ names rfl ⟨trivial, proper_int _, trivial, trivial, trivial, trivial,
    trivial, trivial, trivial, proper, trivial⟩, ?_⟩
  have named : jsonMembers py request.modelDump =
    request.modelDump.map fun m => (m.1, jsonMode py m.2) := jsonMembers_named _ names rfl
  rw [named]
  rfl

theorem digitsFit_small {i : Int} (small : i.natAbs < 10) : digitsFit i = true := by
  rw [digitsFit_iff, Nat.toDigits_of_lt_base small]
  simp [maxStrDigits]

theorem readFrame_encoded {limit : FrameLimit} {members : PyDict} {frame : List UInt8}
    {chunks : List (List UInt8)} (proper : ProperDict members)
    (encoded : encodeFrame py limit members = .ok frame) (arrived : chunks.flatten = frame) :
    (readFrame py limit chunks = .ok (jsonMembers py members) ∧
        readFrameSync py limit chunks = .ok (jsonMembers py members)) ∧ Readable py members ∨
      ((∃ e, readFrame py limit chunks = .error (.load e)) ∧
        ∃ e, readFrameSync py limit chunks = .error (.load e)) ∧ ¬ Readable py members := by
  have parsed : ∀ early, parseFrame py limit early (frame ++ []) = .ok (jsonMembers py members) ∧
        Readable py members ∨
      (∃ e, parseFrame py limit early (frame ++ []) = .error (.load e)) ∧ ¬ Readable py members :=
    fun early => parseFrame_encoded proper encoded
  rw [readFrame_parse, readFrameSync_parse, arrived, ← List.append_nil frame]
  by_cases readable : Readable py members
  · have read : ∀ early, parseFrame py limit early (frame ++ []) = .ok (jsonMembers py members) :=
      fun early => (parsed early).elim And.left fun no => absurd readable no.2
    exact .inl ⟨⟨read _, read _⟩, readable⟩
  · have refused : ∀ early, ∃ e, parseFrame py limit early (frame ++ []) = .error (.load e) :=
      fun early => (parsed early).elim (fun yes => absurd yes.2 readable) And.left
    exact .inr ⟨⟨refused _, refused _⟩, readable⟩

/-- A server that was sent a request writes what it dispatched, to the broker only, if its reader
admits the request. -/
theorem handleConnection_iff {peer : Option Nat} {fresh : Uuid} {frame answer : List UInt8}
    {chunks : List (List UInt8)} (proper : ProperDict request.payload)
    (encoded : encodeFrame py server.limit request.modelDump = .ok frame)
    (arrived : chunks.flatten = frame) :
    handleConnection py pydantic server peer fresh chunks = some answer ↔
      (peer = some server.brokerUid ∧ Readable py request.modelDump) ∧
        ∃ response, dispatch py pydantic server (request.dumped py) = some response ∧
          encodeFrame py server.limit response.modelDump = .ok answer := by
  obtain ⟨whole, same⟩ : ProperDict request.modelDump ∧
    jsonMembers py request.modelDump = (request.dumped py).modelDump := request_members proper
  unfold handleConnection
  dsimp only
  split
  · rename_i stranger
    simp [stranger]
  · rename_i broker
    simp only [ne_eq, not_not] at broker
    rcases readFrame_encoded whole encoded arrived with ⟨⟨read, -⟩, readable⟩ |
      ⟨⟨⟨e, read⟩, -⟩, long⟩
    · simp only [read, same, Except.toOption, Option.bind_eq_bind, Option.bind_some, request_round,
        broker, readable, true_and, Option.bind_eq_some_iff]
      refine exists_congr fun response => and_congr_right fun _ => ?_
      cases encodeFrame py server.limit response.modelDump <;> simp
    · simp [read, long, Except.toOption]

theorem failure_written (request : HostRequest) (error : HostFailure) :
    ((PyJson.obj (hostFailure request error).modelDump).write escapeControl).length ≤ 1000 := by
  have text : ∀ {s : String} {n : Nat}, s.length ≤ n →
      (quoted escapeControl (pyStr s)).length ≤ 6 * n + 2 := by
    intro s n short
    have whole := quoted_length (pyStr s)
    rw [pyStr_length] at whole
    omega
  have id := quoted_length request.requestId.text
  rw [uuid_length] at id
  obtain ⟨kind, retry, required⟩ := error
  have kinds : kind.value.length ≤ 14 := by cases kind <;> decide
  have retries : retry.value.length ≤ 15 := by cases retry <;> decide
  have version : ((intText hostProtocolVersion).map codePoint).length = 1 := by decide
  have literals : (pyStr "true").length = 4 ∧ (pyStr "false").length = 5 ∧
    (pyStr "null").length = 4 := by decide
  have version_key := text (s := "protocol_version") (n := 16) (by decide)
  have id_key := text (s := "request_id") (n := 10) (by decide)
  have ok_key := text (s := "ok") (n := 2) (by decide)
  have result_key := text (s := "result") (n := 6) (by decide)
  have error_key := text (s := "error") (n := 5) (by decide)
  have kind_key := text (s := "kind") (n := 4) (by decide)
  have retry_key := text (s := "retry") (n := 5) (by decide)
  have flag_key := text (s := "reconciliation_required") (n := 23) (by decide)
  have kind_text := text kinds
  have retry_text := text retries
  cases required <;>
    simp only [HostResponse.modelDump, hostFailure, HostFailure.modelDump, Option.elim_some,
      Option.elim_none, PyJson.write, writeMembers, member, strJson, List.intercalate_cons_cons,
      List.intercalate_singleton, List.length_append, List.length_cons, List.length_nil, comma] <;>
    omega

theorem failure_pairs (request : HostRequest) (error : HostFailure) :
    jsonPairs py (hostFailure request error).modelDump = (hostFailure request error).modelDump := by
  simp only [HostResponse.modelDump, hostFailure, HostFailure.modelDump, Option.elim_some,
    Option.elim_none, jsonPairs, jsonText, lossy_pyStr, strJson]

theorem hostFailure_encoded (limit : FrameLimit) (error : HostFailure) :
    encodeFrame py limit (hostFailure request error).modelDump =
      .ok (packLength (framePayload py (hostFailure request error).modelDump).length ++
        framePayload py (hostFailure request error).modelDump) := by
  have written := failure_written request error
  have bytes : (framePayload py (hostFailure request error).modelDump).length ≤ _ :=
    encodeUtf8_length _
  have low := limit.low
  rw [failure_pairs] at bytes
  rw [encodeFrame_iff]
  refine ⟨?_, by omega, rfl⟩
  simp only [HostResponse.modelDump, hostFailure, HostFailure.modelDump, Option.elim_some,
    Option.elim_none, textsEncodable, encodableMembers, pyStr_encodable, uuid_plain, strJson,
    Bool.and_self]

theorem failure_encoded (limit : FrameLimit) (kind : AdapterErrorKind) :
    encodeFrame py limit (hostFailure request { kind }).modelDump =
      .ok (packLength (framePayload py (hostFailure request { kind }).modelDump).length ++
        framePayload py (hostFailure request { kind }).modelDump) :=
  hostFailure_encoded limit { kind }

/-- The reader's limits admit the result of a response: its integers have few enough digits, and
it is not nested too deep. -/
def HostResponse.Legible (py : Builtins) (response : HostResponse) : Prop :=
  ∀ result ∈ response.result,
    boundedMembers result = true ∧ (PyJson.obj result).depth + 1 ≤ py.depth

theorem honest_readable {response : HostResponse} (honest : Honest py request response) :
    Readable py response.modelDump ↔ response.Legible py := by
  have room := py.room
  have version : digitsFit hostProtocolVersion = true := digitsFit_small (by decide)
  cases honest with
  | failed error =>
    have told : (hostFailure request error).Legible py := by
      intro result none
      cases none
    refine iff_of_true ⟨?_, ?_⟩ told
    · simp only [HostResponse.modelDump, hostFailure, HostFailure.modelDump, strJson,
        Option.elim_some, Option.elim_none, boundedMembers, PyJson.bounded, version, Bool.and_self]
    · simp only [HostResponse.modelDump, hostFailure, HostFailure.modelDump, strJson,
        Option.elim_some, Option.elim_none, PyJson.depth, depthMembers]
      omega
  | answered model allowed =>
    simp only [Readable, HostResponse.Legible, HostResponse.modelDump, Option.elim_some,
      Option.elim_none, boundedMembers, PyJson.bounded, version, PyJson.depth, depthMembers,
      Bool.and_true, Bool.true_and, Option.mem_some, forall_eq']
    refine and_congr_right fun _ => ?_
    omega

theorem request_readable (version : request.protocolVersion = hostProtocolVersion) :
    Readable py request.modelDump ↔
      boundedMembers request.payload = true ∧
        (PyJson.obj request.payload).depth + 1 ≤ py.depth := by
  have fits : digitsFit hostProtocolVersion = true := digitsFit_small (by decide)
  simp only [Readable, HostRequest.modelDump, strJson, boundedMembers, PyJson.bounded, version,
    fits, PyJson.depth, depthMembers, Bool.and_true, Bool.true_and]
  refine and_congr_right fun _ => ?_
  omega

/-- What the server writes to who asked, if it was asked by the broker and within its limits. -/
theorem handleConnection_taken {limit : FrameLimit} {frame : List UInt8} {uid : Option Nat}
    {fresh : Uuid}
    {chunks : List (List UInt8)} (proper : ProperDict request.payload)
    (encoded : encodeFrame py limit request.modelDump = .ok frame)
    (arrived : chunks.flatten = frame)
    (broker : uid = some server.brokerUid) (fits : frame.length ≤ server.limit.bytes + 4)
    (readable : Readable py request.modelDump) :
    handleConnection py pydantic server uid fresh chunks =
      (dispatch py pydantic server (request.dumped py)).bind fun response =>
        (encodeFrame py server.limit response.modelDump).toOption := by
  apply Option.ext
  intro answer
  rw [handleConnection_iff proper (encodeFrame_other encoded fits) arrived,
    Option.bind_eq_some_iff]
  simp only [broker, readable, true_and]
  refine exists_congr fun response => and_congr_right fun _ => ?_
  cases encodeFrame py server.limit response.modelDump <;> simp [Except.toOption]

theorem handleConnection_refused {limit : FrameLimit} {frame : List UInt8} {uid : Option Nat}
    {fresh : Uuid}
    {chunks : List (List UInt8)} (proper : ProperDict request.payload)
    (encoded : encodeFrame py limit request.modelDump = .ok frame)
    (arrived : chunks.flatten = frame)
    (refused : ¬ (uid = some server.brokerUid ∧ frame.length ≤ server.limit.bytes + 4 ∧
      Readable py request.modelDump)) :
    handleConnection py pydantic server uid fresh chunks = none := by
  by_cases fits : frame.length ≤ server.limit.bytes + 4
  · rw [Option.eq_none_iff_forall_ne_some]
    intro answer served
    obtain ⟨⟨broker, readable⟩, -⟩ :=
      (handleConnection_iff proper (encodeFrame_other encoded fits) arrived).mp served
    exact refused ⟨broker, fits, readable⟩
  · unfold handleConnection
    dsimp only
    split
    · rfl
    · rw [readFrame_parse, arrived, parseFrame_long encoded (Nat.lt_of_not_le fits)]
      rfl

end Honest

/-- The two readers agree on every stream however it is cut; and what an honest server sends in
answer to what a client sent is read, validated and unwrapped as what was dispatched, unless the
readers' limits refuse it. -/
theorem rpc_transparent :
    (∀ (py : Builtins) (limit : FrameLimit) (chunks chunks' : List (List UInt8)) (d : PyDict),
      chunks.flatten = chunks'.flatten →
        (readFrame py limit chunks = .ok d ↔ readFrameSync py limit chunks' = .ok d)) ∧
    ∀ (py : Builtins) (pydantic : Pydantic) (server : WasmHostServer) (request : HostRequest)
      (peer : Option Nat) (fresh : Uuid) (frame answer : List UInt8)
      (chunks back : List (List UInt8)), ProperDict request.payload →
      encodeFrame py server.limit request.modelDump = .ok frame → chunks.flatten = frame →
      handleConnection py pydantic server peer fresh chunks = some answer → back.flatten = answer →
        ∃ response, dispatch py pydantic server (request.dumped py) = some response ∧
          unwrap py request response = response.told ∧
          ((∃ d, readFrame py server.limit back = .ok d ∧
              readFrameSync py server.limit back = .ok d ∧
              HostResponse.modelValidate pydantic d = some response) ↔ response.Legible py) := by
  constructor
  · intro py limit chunks chunks' d same
    rw [readFrame_parse, readFrameSync_parse, same]
    exact ⟨parseFrame_early, parseFrame_early⟩
  · intro py pydantic server request peer fresh frame answer chunks back proper encoded arrived
      served returned
    obtain ⟨-, response, dispatched, written⟩ :=
      (handleConnection_iff proper encoded arrived).mp served
    have honest : Honest py (request.dumped py) response := dispatch_honest dispatched
    obtain ⟨whole, same⟩ := honest_members honest
    have told : unwrap py (request.dumped py) response = response.told := unwrap_honest honest
    refine ⟨response, dispatched, told, ?_⟩
    rw [← honest_readable honest]
    rcases readFrame_encoded whole written returned with
      ⟨⟨read, readSync⟩, readable⟩ | ⟨⟨⟨e, read⟩, -⟩, long⟩
    · rw [same] at read readSync
      exact iff_of_true ⟨_, read, readSync, response_round response⟩ readable
    · refine iff_of_false ?_ long
      rintro ⟨d, read', -⟩
      rw [read] at read'
      cases read'

def healthyHost : WasmHostServer where
  pluginId := pyStr "dh-core"
  brokerUid := 1000
  limit := ⟨4096, by decide, by decide⟩
  invoke _ _ := .ok ⟨[(pyStr "state", strJson "healthy")], tidy_proper (.obj _) (by decide)⟩

def healthRequest : HostRequest where
  protocolVersion := 1
  requestId := 7
  pluginId := pyStr "dh-core"
  operation := .health
  payload := [(pyStr "adapter", strJson "dh-core.fake")]
  identified := by decide

theorem healthRequest_proper : ProperDict healthRequest.payload :=
  tidy_proper (.obj healthRequest.payload) (by decide)

theorem healthRequest_readable : Readable asciiOnly healthRequest.modelDump :=
  (request_readable rfl).mpr ⟨rfl, by decide⟩

theorem rpc_transparent_health : ∃ response,
    dispatch asciiOnly plainPydantic healthyHost (healthRequest.dumped asciiOnly) = some response ∧
      unwrap asciiOnly healthRequest response = .ok [(pyStr "state", strJson "healthy")] := by
  obtain ⟨frame, encoded⟩ := toBool_ok
    (r := encodeFrame asciiOnly healthyHost.limit healthRequest.modelDump) (by decide +kernel)
  have answered : ((dispatch asciiOnly plainPydantic healthyHost
      (healthRequest.dumped asciiOnly)).any fun response =>
        (encodeFrame asciiOnly healthyHost.limit response.modelDump).toBool) = true := by
    decide +kernel
  obtain ⟨response, dispatched, fits⟩ := (Option.any_eq_true ..).mp answered
  obtain ⟨answer, written⟩ := toBool_ok fits
  have served : handleConnection asciiOnly plainPydantic healthyHost (some 1000) 0 [frame] =
      some answer := (handleConnection_iff healthRequest_proper encoded (by simp)).mpr
        ⟨⟨rfl, healthRequest_readable⟩, response, dispatched, written⟩
  obtain ⟨response, dispatched, told, -⟩ := rpc_transparent.2 asciiOnly plainPydantic healthyHost
    healthRequest (some 1000) 0 frame answer [frame] [answer] healthRequest_proper encoded
    (by simp) served (by simp)
  refine ⟨response, dispatched, told.trans ?_⟩
  have result : (dispatch asciiOnly plainPydantic healthyHost
      (healthRequest.dumped asciiOnly)).map HostResponse.told =
        some (.ok [(pyStr "state", strJson "healthy")]) := by rfl
  rw [dispatched] at result
  exact Option.some.inj result

def hugeNumber : Int := .ofNat (10 ^ maxStrDigits)

theorem hugeNumber_text : maxStrDigits < (intText hugeNumber).length ∧
    (intText hugeNumber).length ≤ maxStrDigits + 1 := by
  have digits : intText hugeNumber = Nat.toDigits 10 (10 ^ maxStrDigits) := by
    rw [hugeNumber, intText]
  have limit := fun k positive =>
    Nat.length_toDigits_le_iff (b := 10) (n := 10 ^ maxStrDigits) (k := k) (by decide) positive
  rw [digits, ← Nat.not_le, limit maxStrDigits (by decide), limit (maxStrDigits + 1) (by decide)]
  exact ⟨Nat.lt_irrefl _, Nat.pow_lt_pow_right (by decide) (Nat.lt_succ_self _)⟩

theorem hugeNumber_refused : digitsFit hugeNumber = false := by
  cases fits : digitsFit hugeNumber with
  | false => rfl
  | true =>
    have short := digitsFit_iff.mp fits
    rw [hugeNumber, Int.natAbs_ofNat', ← intText] at short
    exact absurd short (Nat.not_le_of_lt hugeNumber_text.1)

attribute [irreducible] hugeNumber

def countedMembers (n : Int) : PyDict :=
  [(pyStr "state", strJson "healthy"), (pyStr "details", .obj [(pyStr "jobs", .int n)])]

def countingHost : WasmHostServer where
  pluginId := pyStr "dh-core"
  brokerUid := 1000
  limit := ⟨1048576, by decide, by decide⟩
  invoke _ _ := .ok ⟨countedMembers hugeNumber, tidy_proper (.obj _) (by decide)⟩

def countedResponse (n : Int) : HostResponse where
  requestId := 7
  ok := true
  result := some (countedMembers n)

theorem counted_dispatched : dispatch asciiOnly plainPydantic countingHost
    (healthRequest.dumped asciiOnly) = some (countedResponse hugeNumber) := by
  have valid : validatePublicJson asciiOnly 0 (.obj (countedMembers hugeNumber)) =
      .ok () := by decide +kernel
  have same : jsonMembers asciiOnly (countedMembers hugeNumber) =
    countedMembers hugeNumber := by rfl
  have version : (healthRequest.dumped asciiOnly).protocolVersion = hostProtocolVersion := rfl
  have own : (healthRequest.dumped asciiOnly).pluginId = countingHost.pluginId := rfl
  have ran : ∃ model : PyObject, countingHost.invoke (healthRequest.dumped asciiOnly).operation
      (healthRequest.dumped asciiOnly).payload = .ok model ∧ model.members =
        countedMembers hugeNumber :=
    ⟨_, rfl, rfl⟩
  obtain ⟨model, ran, members⟩ := ran
  simp only [dispatch, version, own, ran, members, same, valid, ne_eq, not_true_eq_false,
    and_false, if_false]
  rfl

theorem counted_unbounded : boundedMembers (countedMembers hugeNumber) = false := by
  simp only [countedMembers, boundedMembers, PyJson.bounded, hugeNumber_refused, Bool.false_and,
    Bool.and_false]

theorem counted_text (n : Int) :
    ((PyJson.obj (countedResponse n).modelDump).write escapeControl).length ≤
      2000 + (intText n).length := by
  have text : ∀ {s : String} {n : Nat}, s.length ≤ n →
      (quoted escapeControl (pyStr s)).length ≤ 6 * n + 2 := by
    intro s n short
    have whole := quoted_length (pyStr s)
    rw [pyStr_length] at whole
    omega
  have id := quoted_length (countedResponse n).requestId.text
  rw [uuid_length] at id
  have version : ((intText hostProtocolVersion).map codePoint).length = 1 := by decide
  have literals : (pyStr "true").length = 4 ∧ (pyStr "null").length = 4 := by decide
  have version_key := text (s := "protocol_version") (n := 16) (by decide)
  have id_key := text (s := "request_id") (n := 10) (by decide)
  have ok_key := text (s := "ok") (n := 2) (by decide)
  have result_key := text (s := "result") (n := 6) (by decide)
  have error_key := text (s := "error") (n := 5) (by decide)
  have state_key := text (s := "state") (n := 5) (by decide)
  have state_text := text (s := "healthy") (n := 7) (by decide)
  have details_key := text (s := "details") (n := 7) (by decide)
  have jobs_key := text (s := "jobs") (n := 4) (by decide)
  have digits : ((intText n).map codePoint).length = (intText n).length := List.length_map ..
  simp only [HostResponse.modelDump, countedResponse, countedMembers, Option.elim_some,
    Option.elim_none, PyJson.write, writeMembers, member, strJson, List.intercalate_cons_cons,
    List.intercalate_singleton, List.length_append, List.length_cons, List.length_nil,
    comma] at id ⊢
  omega

theorem counted_written :
    (framePayload asciiOnly (countedResponse hugeNumber).modelDump).length ≤ 40000 := by
  have pairs : jsonPairs asciiOnly (countedResponse hugeNumber).modelDump =
      (countedResponse hugeNumber).modelDump := by
    simp only [HostResponse.modelDump, countedResponse, countedMembers, Option.elim_some,
      Option.elim_none, jsonPairs, jsonText, lossy_pyStr, strJson]
  have bytes : (framePayload asciiOnly (countedResponse hugeNumber).modelDump).length ≤ _ :=
    encodeUtf8_length _
  have number : (intText hugeNumber).length ≤ 4301 := hugeNumber_text.2
  have text := counted_text hugeNumber
  rw [pairs] at bytes
  omega

/-- A number of 4301 digits is sent, and neither reader takes the frame. -/
theorem huge_number_unread : ∃ frame answer,
    encodeFrame asciiOnly countingHost.limit healthRequest.modelDump = .ok frame ∧
    handleConnection asciiOnly plainPydantic countingHost (some 1000) 0 [frame] = some answer ∧
    ∀ d, readFrame asciiOnly countingHost.limit [answer] ≠ .ok d ∧
      readFrameSync asciiOnly countingHost.limit [answer] ≠ .ok d := by
  obtain ⟨frame, encoded⟩ := toBool_ok
    (r := encodeFrame asciiOnly countingHost.limit healthRequest.modelDump) (by decide +kernel)
  have written : encodeFrame asciiOnly countingHost.limit (countedResponse hugeNumber).modelDump =
      .ok (packLength (framePayload asciiOnly (countedResponse hugeNumber).modelDump).length ++
        framePayload asciiOnly (countedResponse hugeNumber).modelDump) :=
    encodeFrame_iff.mpr ⟨by decide +kernel, counted_written.trans (by decide), rfl⟩
  obtain ⟨answer, whole⟩ : ∃ answer, answer =
      packLength (framePayload asciiOnly (countedResponse hugeNumber).modelDump).length ++
        framePayload asciiOnly (countedResponse hugeNumber).modelDump := ⟨_, rfl⟩
  rw [← whole] at written
  have served : handleConnection asciiOnly plainPydantic countingHost (some 1000) 0 [frame] =
      some answer := (handleConnection_iff healthRequest_proper encoded (by simp)).mpr
        ⟨⟨rfl, healthRequest_readable⟩, _, counted_dispatched, written⟩
  refine ⟨frame, answer, encoded, served, ?_⟩
  have honest := dispatch_honest counted_dispatched
  have long : ¬ Readable asciiOnly (countedResponse hugeNumber).modelDump := by
    rw [honest_readable honest]
    intro legible
    have bounded := (legible (countedMembers hugeNumber) rfl).1
    rw [counted_unbounded] at bounded
    cases bounded
  have arrived : [answer].flatten = answer := by simp
  rcases readFrame_encoded (honest_members honest).1 written arrived with
    ⟨-, readable⟩ | ⟨⟨⟨e, read⟩, e', readSync⟩, -⟩
  · exact absurd readable long
  · intro d
    rw [read, readSync]
    constructor <;> exact nofun

end Deckhand
