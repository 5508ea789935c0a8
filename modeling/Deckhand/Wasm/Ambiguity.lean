import Deckhand.Wasm.Dumped
import Deckhand.Wasm.Transport

/-! A mutation over the socket, and what the worker is told of it when the answer is late, cut
short, garbled or a failure. -/
namespace Deckhand
open Lib

/-- A way of cutting what is sent into chunks. -/
structure Line where
  chunks : List UInt8 → List (List UInt8)
  whole : ∀ bytes, (chunks bytes).flatten = bytes

/-- No answer to the request: not a response to it, or a result that is no execution. -/
def Unanswered (py : Builtins) (pydantic : Pydantic) (limit : FrameLimit) (request : HostRequest)
    (bytes : List UInt8) : Prop :=
  ∀ d response, parseFrame py limit .incompleteRead bytes = .ok d →
    HostResponse.modelValidate pydantic d = some response →
      (∃ violation, unwrap py request response = .error (.protocol violation)) ∨
        ∃ result, unwrap py request response = .ok result ∧ PyExecution.modelValidate result = none

/-- Who answers: a host, whose answer may be cut short after so many bytes, or a peer whose bytes
are no answer. -/
inductive Speaker (py : Builtins) (pydantic : Pydantic) (limit : FrameLimit) (request : HostRequest)
  | host (server : WasmHostServer) (uid : Option Nat) (fresh : Uuid) (there back : Line)
      (lost : Option Nat)
  | stray (chunks : List (List UInt8))
      (unanswered : Unanswered py pydantic limit request chunks.flatten)

structure HostPeer (py : Builtins) (pydantic : Pydantic) (limit : FrameLimit)
    (request : HostRequest) where
  speaker : Speaker py pydantic limit request
  ending : StreamEnd

/-- What arrives of an answer: all of it, or less than all of it. -/
def arrives (answer : List UInt8) : Option Nat → List UInt8
  | none => answer
  | some n => answer.dropLast.take n

section
variable {py : Builtins} {pydantic : Pydantic} {limit : FrameLimit} {request : HostRequest}

def Speaker.chunks (frame : List UInt8) : Speaker py pydantic limit request → List (List UInt8)
  | .host server uid fresh there back lost => back.chunks (arrives
      ((handleConnection py pydantic server uid fresh (there.chunks frame)).getD []) lost)
  | .stray chunks _ => chunks

def HostPeer.reply (peer : HostPeer py pydantic limit request) (frame : List UInt8) : HostReply :=
  ⟨peer.speaker.chunks frame, peer.ending⟩

/-- The server takes the request: it comes from the broker, whole and within the size, its reader
admits the JSON in it, and it asks for the server's plugin. -/
def Taken (py : Builtins) (server : WasmHostServer) (uid : Option Nat) (request : HostRequest)
    (frame : List UInt8) : Prop :=
  uid = some server.brokerUid ∧ frame.length ≤ server.limit.bytes + 4 ∧
    Readable py request.modelDump ∧ request.pluginId = server.pluginId

/-- What the component did, if it was asked. -/
def HostPeer.Did (peer : HostPeer py pydantic limit request) (frame : List UInt8)
    (did : Except HostRaise PyObject) : Prop :=
  match peer.speaker with
  | .host server uid _ _ _ _ => Taken py server uid request frame ∧
      server.invoke request.operation (request.dumped py).payload = did
  | .stray .. => False

/-- The worker is told what the component did, or that the outcome is not known. -/
inductive Settled (py : Builtins) (pydantic : Pydantic) (did : Except HostRaise PyObject → Prop) :
    Except AdapterExn PyExecution → Prop where
  | returned (model : PyObject) (execution : PyExecution) : did (.ok model) →
      PyExecution.modelValidate (jsonMembers py model.members) = some execution →
      Settled py pydantic did (.ok execution)
  | raised (e : AdapterError) (kind : AdapterErrorKind) : did (.error (.adapterError e)) →
      pydantic.kind e.kind = some kind →
      Settled py pydantic did (.error (.adapterError {
        message := "host plugin operation failed"
        kind := .member kind
        retry := e.retry
        reconciliationRequired := e.reconciliationRequired }))
  | unknown (e : AdapterError) : e.reconciliationRequired = true →
      Settled py pydantic did (.error (.adapterError e))

def HostRequest.answer (py : Builtins) (request : HostRequest) (model : PyObject) : HostResponse :=
  { requestId := request.requestId, ok := true, result := some (jsonMembers py model.members) }

/-- The answer's frame is written, and of a size that the client allows. -/
def Delivered (py : Builtins) (limit : FrameLimit) (server : WasmHostServer)
    (response : HostResponse) : Prop :=
  ∃ answer, encodeFrame py server.limit response.modelDump = .ok answer ∧
    answer.length ≤ limit.bytes + 4

/-- The response tells what the component did, or there is none: a result is public, and has no
integer that the client's reader refuses in a frame that it gets. -/
def Tellable (py : Builtins) (limit : FrameLimit) (server : WasmHostServer)
    (request : HostRequest) : Prop :=
  match server.invoke request.operation request.payload with
  | .ok model => validatePublicJson py 0 (.obj (jsonMembers py model.members)) = .ok () ∧
      (Delivered py limit server (request.answer py model) →
        boundedMembers (jsonMembers py model.members) = true)
  | .error (.adapterError _) => True
  | .error .baseException => True
  | .error _ => False

/-- The connection is not lost with an error; what is no answer is JSON that the reader admits if it
is a frame; and a host that took the request's frame, and whose answer arrives, serves the plugin
and can tell what the component did. -/
def HostPeer.Clear (peer : HostPeer py pydantic limit request) (frame : List UInt8) : Prop :=
  peer.ending ≠ .reset ∧
    match peer.speaker with
    | .host server uid _ _ _ lost =>
      lost = none → uid = some server.brokerUid → frame.length ≤ server.limit.bytes + 4 →
        Readable py request.modelDump →
          request.pluginId = server.pluginId ∧ Tellable py limit server (request.dumped py)
    | .stray chunks _ => ∀ payload rest,
      chunks.flatten = packLength payload.length ++ payload ++ rest →
        payload ≠ [] → payload.length ≤ limit.bytes → ∃ v, PyJson.loadBytes py.depth payload = .ok v

end

section Told
variable {py : Builtins} {pydantic : Pydantic} {limit : FrameLimit} {request : HostRequest}
  {action : ActionDefinition} {did : Except HostRaise PyObject → Prop} {reply : HostReply}

/-- No answer was read: the transport failed, or the guard's deadline passed. -/
def Unheard : Except CallExn PyDict → Prop
  | .error (.transport _) => True
  | .error (.raw .timeoutError) => True
  | _ => False

def told (action : ActionDefinition) (called : Except CallExn PyDict) :
    Except AdapterExn PyExecution :=
  throughGuard action (unknownForMutation action (executionModel called))

theorem settled_lost (mutation : action.mutation = true) {called : Except CallExn PyDict}
    (lost : Unheard called) : Settled py pydantic did (told action called) := by
  cases called with
  | ok result => exact lost.elim
  | error x =>
    cases x with
    | transport e =>
      simp only [told, executionModel, unknownForMutation, if_pos mutation, throughGuard,
        Except.mapError, ResilienceGuard.surfaced]
      exact .unknown _ rfl
    | adapterError e => exact lost.elim
    | raw x =>
      cases x with
      | timeoutError =>
        simp only [told, executionModel, unknownForMutation, throughGuard, Except.mapError,
          ResilienceGuard.surfaced, mutation, Bool.and_self, if_true]
        exact .unknown _ rfl
      | adapterError e => exact lost.elim
      | cancelledError => exact lost.elim
      | other message => exact lost.elim
      | baseException message => exact lost.elim

theorem settled_invalid (mutation : action.mutation = true) {result : PyDict}
    (invalid : PyExecution.modelValidate result = none) : Settled py pydantic did
    (told action (.ok result)) := by
  simp only [told, executionModel, invalid, unknownForMutation, if_pos mutation, throughGuard,
    Except.mapError, ResilienceGuard.surfaced]
  exact .unknown _ rfl

theorem unsettled_raw (message : String) :
    ¬ Settled py pydantic did (told action (.error (.raw (.other message)))) := by
  intro settled
  generalize said : told action (.error (.raw (.other message))) = outcome at settled
  cases settled with
  | returned model execution ran valid => cases said
  | raised e kind ran same =>
    simp only [told, executionModel, unknownForMutation, throughGuard, Except.mapError,
      ResilienceGuard.surfaced, Except.error.injEq, AdapterExn.adapterError.injEq] at said
    have different : ResilienceGuard.operationFailed.message ≠ "host plugin operation failed" := by
      decide
    exact different (congrArg AdapterError.message said)
  | unknown e asked =>
    cases said
    cases asked

theorem told_error {e : AdapterError} {kind : AdapterErrorKind} (member : e.kind = .member kind) :
    told action (.error (.adapterError e)) = .error (.adapterError e) := by
  have recordable : e.recordable = true := by
    simp [AdapterError.recordable, member, ErrorKind.transient]
  simp only [told, executionModel, unknownForMutation, throughGuard, Except.mapError,
    ResilienceGuard.surfaced, if_pos recordable]

/-- A failure that the component did not raise, and that does not ask for reconciliation. -/
theorem unsettled_failure {kind : AdapterErrorKind} (own : ∀ e, ¬ did (.error (.adapterError e))) :
    ¬ Settled py pydantic did (told action (caught (hostFailure request { kind }).told)) := by
  intro settled
  rw [hostFailure, HostResponse.told, caught, told_error rfl] at settled
  generalize said : (Except.error (AdapterExn.adapterError _) : Except _ PyExecution) = outcome
    at settled
  cases settled with
  | returned model execution ran valid => cases said
  | raised e' kind' ran same => exact own e' ran
  | unknown e' asked =>
    cases said
    cases asked

theorem receive_lost (early : parseFrame py limit .incompleteRead reply.chunks.flatten =
      .error .incompleteRead ∨ parseFrame py limit .incompleteRead reply.chunks.flatten =
      .error invalidSize) : Unheard (receive py pydantic limit request reply) := by
  rw [receive, readFrame_parse]
  rcases early with early | early
  · rw [early]
    cases reply.ending <;> trivial
  · rw [early]
    trivial

theorem receive_nothing (silence : reply.chunks.flatten = []) :
    Unheard (receive py pydantic limit request reply) := by
  apply receive_lost
  rw [silence]
  exact .inl rfl

theorem receive_fitting {response : HostResponse} (honest : Honest py request response)
    {answer : List UInt8} (encoded : encodeFrame py limit response.modelDump = .ok answer)
    (arrived : reply.chunks.flatten = answer) :
    receive py pydantic limit request reply = caught response.told ∧ response.Legible py ∨
      (∃ message, receive py pydantic limit request reply = .error (.raw (.other message))) ∧
        ¬ response.Legible py := by
  obtain ⟨proper, same⟩ := honest_members honest
  rw [← honest_readable honest]
  rcases readFrame_encoded proper encoded arrived with ⟨⟨read, -⟩, readable⟩ |
    ⟨⟨⟨e, read⟩, -⟩, long⟩
  · left
    refine ⟨?_, readable⟩
    rw [receive, read, same]
    simp only [response_round, unwrap_honest honest]
  · right
    refine ⟨⟨loadMessage e, ?_⟩, long⟩
    rw [receive, read]

theorem receive_long {limit' : FrameLimit} {members : PyDict} {answer : List UInt8}
    (encoded : encodeFrame py limit' members = .ok answer) (arrived : reply.chunks.flatten = answer)
    (long : limit.bytes + 4 < answer.length) : Unheard
    (receive py pydantic limit request reply) := by
  apply receive_lost
  rw [arrived, parseFrame_long encoded long]
  exact .inr rfl

theorem receive_cut {limit' : FrameLimit} {members : PyDict} {answer : List UInt8}
    (encoded : encodeFrame py limit' members = .ok answer) {n : Nat}
    (arrived : reply.chunks.flatten = answer.dropLast.take n) :
    Unheard (receive py pydantic limit request reply) := by
  obtain ⟨-, fits, rfl⟩ := encodeFrame_iff.mp encoded
  have high := limit'.high
  apply receive_lost
  rw [arrived]
  have cut : (packLength (framePayload py members).length ++
      framePayload py members).dropLast.take n <+: packLength (framePayload py members).length ++
        framePayload py members := (List.take_prefix _ _).trans ( List.dropLast_prefix _)
  have less := List.length_take_le' n
    (packLength (framePayload py members).length ++ framePayload py members).dropLast
  rw [List.length_dropLast, frame_length] at less
  exact parseFrame_short (by omega) cut (by omega)

end Told

section Peers
variable {py : Builtins} {pydantic : Pydantic} {client : WasmHostClient} {id : Uuid}
  {payload : PyDict} {action : ActionDefinition} {server : WasmHostServer} {frame : List UInt8}
  {ending : StreamEnd}

theorem answer_legible {request : HostRequest} {model : PyObject}
    (valid : validatePublicJson py 0 (.obj (jsonMembers py model.members)) = .ok ()) :
    (request.answer py model).Legible py ↔
      boundedMembers (jsonMembers py model.members) = true := by
  have shallow := public_depth valid
  have room := py.room
  simp only [HostResponse.Legible, HostRequest.answer, Option.mem_some, forall_eq']
  refine and_iff_left_of_imp fun _ => ?_
  omega

section Answers
variable {reply : HostReply} {did : Except HostRaise PyObject → Prop}

theorem unsettled_failed {kind : AdapterErrorKind} {request : HostRequest}
    (own : ∀ e, ¬ did (.error (.adapterError e)))
    (arrived : reply.chunks.flatten = ((some (hostFailure request { kind })).bind fun response =>
      (encodeFrame py server.limit response.modelDump).toOption).getD []) :
    ¬ Settled py pydantic did (told action (receive py pydantic client.limit request reply)) := by
  have answered : reply.chunks.flatten =
      packLength (framePayload py (hostFailure request { kind }).modelDump).length ++
        framePayload py (hostFailure request { kind }).modelDump := by
    rw [arrived, Option.bind_some, failure_encoded]
    rfl
  rcases receive_fitting (.failed { kind }) (failure_encoded client.limit kind) answered with
    ⟨heard, -⟩ | ⟨-, long⟩
  · rw [heard]
    exact unsettled_failure own
  · apply absurd _ long
    intro result none
    cases none

/-- A result that the host sends on settles the mutation, unless the client's reader refuses it. -/
theorem settled_answer (mutation : action.mutation = true) {request : HostRequest}
    {model : PyObject} (ran : did (.ok model))
    (valid : validatePublicJson py 0 (.obj (jsonMembers py model.members)) = .ok ())
    (arrived : reply.chunks.flatten = ((some (request.answer py model)).bind fun response =>
      (encodeFrame py server.limit response.modelDump).toOption).getD []) :
    Settled py pydantic did (told action (receive py pydantic client.limit request reply)) ↔
      (Delivered py client.limit server (request.answer py model) →
        boundedMembers (jsonMembers py model.members) = true) := by
  rw [← answer_legible valid]
  rw [Option.bind_some] at arrived
  cases encoded : encodeFrame py server.limit (request.answer py model).modelDump with
  | error x =>
    rw [encoded] at arrived
    refine iff_of_true (settled_lost mutation (receive_nothing arrived)) ?_
    rintro ⟨answer, written, -⟩
    rw [encoded] at written
    cases written
  | ok answer =>
    rw [encoded] at arrived
    have honest : Honest py request (request.answer py model) := .answered model (.inr valid)
    by_cases small : answer.length ≤ client.limit.bytes + 4
    · have delivered : Delivered py client.limit server (request.answer py model) :=
        ⟨answer, encoded, small⟩
      simp only [delivered, forall_const]
      rcases receive_fitting honest (encodeFrame_other encoded small) arrived with
        ⟨heard, legible⟩ | ⟨⟨message, heard⟩, illegible⟩
      · refine iff_of_true ?_ legible
        rw [heard, HostRequest.answer, HostResponse.told, Option.getD_some, caught]
        cases held : PyExecution.modelValidate (jsonMembers py model.members) with
        | none => exact settled_invalid mutation held
        | some execution =>
          simp only [told, executionModel, held, unknownForMutation, throughGuard, Except.mapError]
          exact .returned model execution ran held
      · refine iff_of_false ?_ illegible
        rw [heard]
        exact unsettled_raw message
    · have lost : Unheard (receive py pydantic client.limit request reply) :=
        receive_long encoded arrived (Nat.lt_of_not_le small)
      refine iff_of_true (settled_lost mutation lost) ?_
      rintro ⟨answer', written, small'⟩
      rw [encoded] at written
      cases written
      exact absurd small' small

/-- An adapter error that the component raised is told, if its kind is one that a failure has. -/
theorem settled_raised (mutation : action.mutation = true) {request : HostRequest}
    {e : AdapterError} (ran : did (.error (.adapterError e)))
    (arrived : reply.chunks.flatten = (((pydantic.kind e.kind).map fun kind =>
        hostFailure request ⟨kind, e.retry, e.reconciliationRequired⟩).bind fun response =>
      (encodeFrame py server.limit response.modelDump).toOption).getD []) :
    Settled py pydantic did (told action (receive py pydantic client.limit request reply)) := by
  cases member : pydantic.kind e.kind with
  | none =>
    rw [member] at arrived
    exact settled_lost mutation (receive_nothing arrived)
  | some kind =>
    rw [member, Option.map_some, Option.bind_some, hostFailure_encoded] at arrived
    rcases receive_fitting (.failed ⟨kind, e.retry, e.reconciliationRequired⟩)
      (hostFailure_encoded client.limit _) arrived with ⟨heard, -⟩ | ⟨-, long⟩
    · rw [heard, hostFailure, HostResponse.told, caught, told_error rfl]
      exact .raised e kind ran member
    · apply absurd _ long
      intro result none
      cases none

theorem settled_taken (mutation : action.mutation = true)
    (asked : ∀ d, did d ↔ client.pluginId = server.pluginId ∧ server.invoke .execute payload = d)
    (arrived : reply.chunks.flatten =
      ((dispatch py pydantic server (client.request id .execute payload)).bind fun response =>
        (encodeFrame py server.limit response.modelDump).toOption).getD []) :
    Settled py pydantic did
        (told action
          (receive py pydantic client.limit (client.request id .execute payload) reply)) ↔
      client.pluginId = server.pluginId ∧
        Tellable py client.limit server (client.request id .execute payload) := by
  by_cases own : client.pluginId = server.pluginId
  · simp only [own, true_and] at asked ⊢
    simp only [Tellable, WasmHostClient.request]
    cases ran : server.invoke .execute payload with
    | ok model =>
      rw [ran] at asked
      by_cases valid : validatePublicJson py 0 (.obj (jsonMembers py model.members)) = .ok ()
      · have dispatched : dispatch py pydantic server (client.request id .execute payload) =
            some ((client.request id .execute payload).answer py model) := by
          simp [dispatch, WasmHostClient.request, own, ran, valid, HostRequest.answer]
        rw [dispatched] at arrived
        simp only [valid, true_and]
        exact settled_answer mutation ((asked _).mpr rfl) valid arrived
      · have dispatched : dispatch py pydantic server (client.request id .execute payload) =
            some (hostFailure (client.request id .execute payload) { kind := .protocol }) := by
          simp [dispatch, WasmHostClient.request, own, ran, valid]
        rw [dispatched] at arrived
        simp only [valid, false_and, iff_false]
        exact unsettled_failed (fun e other => by cases (asked _).mp other) arrived
    | error x =>
      rw [ran] at asked
      cases x with
      | adapterError e =>
        have dispatched : dispatch py pydantic server (client.request id .execute payload) =
            (pydantic.kind e.kind).map fun kind => hostFailure (client.request id .execute payload)
              ⟨kind, e.retry, e.reconciliationRequired⟩ := by
          simp [dispatch, WasmHostClient.request, own, ran]
        rw [dispatched] at arrived
        exact iff_of_true (settled_raised mutation ((asked _).mpr rfl) arrived) trivial
      | baseException =>
        have dispatched : dispatch py pydantic server (client.request id .execute payload) =
            none := by
          simp [dispatch, WasmHostClient.request, own, ran]
        rw [dispatched] at arrived
        exact iff_of_true (settled_lost mutation (receive_nothing arrived)) trivial
      | protocol =>
        have dispatched : dispatch py pydantic server (client.request id .execute payload) =
            some (hostFailure (client.request id .execute payload) { kind := .protocol }) := by
          simp [dispatch, WasmHostClient.request, own, ran]
        rw [dispatched] at arrived
        rw [iff_false]
        exact unsettled_failed (fun e other => by cases (asked _).mp other) arrived
      | unexpected =>
        have dispatched : dispatch py pydantic server (client.request id .execute payload) =
            some (hostFailure (client.request id .execute payload) { kind := .unexpected }) := by
          simp [dispatch, WasmHostClient.request, own, ran]
        rw [dispatched] at arrived
        rw [iff_false]
        exact unsettled_failed (fun e other => by cases (asked _).mp other) arrived
  · have dispatched : dispatch py pydantic server (client.request id .execute payload) =
        some (hostFailure (client.request id .execute payload) { kind := .authentication }) := by
      simp [dispatch, WasmHostClient.request, own]
    rw [dispatched] at arrived
    simp only [own, false_and, iff_false]
    exact unsettled_failed (fun e other => own ((asked _).mp other).1) arrived

end Answers

theorem settled_short (mutation : action.mutation = true) {did : Except HostRaise PyObject → Prop}
    {uid : Option Nat} {fresh : Uuid} {there : Line} {n : Option Nat} {reply : HostReply}
    {request : HostRequest} (proper : ProperDict request.payload)
    (encoded : encodeFrame py client.limit request.modelDump = .ok frame)
    (arrived : reply.chunks.flatten = arrives
      ((handleConnection py pydantic server uid fresh (there.chunks frame)).getD []) n)
    (short : n ≠ none ∨ ¬ (uid = some server.brokerUid ∧ frame.length ≤ server.limit.bytes + 4 ∧
      Readable py request.modelDump)) :
    Settled py pydantic did (told action (receive py pydantic client.limit request reply)) := by
  apply settled_lost mutation
  by_cases taken : uid = some server.brokerUid ∧ frame.length ≤ server.limit.bytes + 4 ∧
    Readable py request.modelDump
  · obtain ⟨k, rfl⟩ := Option.ne_none_iff_exists'.mp (short.resolve_right (not_not_intro taken))
    obtain ⟨broker, fits, readable⟩ := taken
    rw [handleConnection_taken proper encoded (there.whole frame) broker fits readable] at arrived
    cases written : (dispatch py pydantic server (request.dumped py)).bind fun response =>
        (encodeFrame py server.limit response.modelDump).toOption with
    | none =>
      rw [written] at arrived
      apply receive_nothing
      rw [arrived]
      simp [arrives]
    | some answer =>
      rw [written] at arrived
      obtain ⟨response, -, sent⟩ := Option.bind_eq_some_iff.mp written
      cases made : encodeFrame py server.limit response.modelDump with
      | error x =>
        rw [made] at sent
        cases sent
      | ok answer =>
        rw [made] at sent
        cases sent
        exact receive_cut made arrived
  · rw [handleConnection_refused proper encoded (there.whole frame) taken] at arrived
    apply receive_nothing
    rw [arrived]
    cases n <;> simp [arrives]

theorem settled_stray (mutation : action.mutation = true) {did : Except HostRaise PyObject → Prop}
    {limit : FrameLimit} {request : HostRequest} {reply : HostReply}
    (unanswered : Unanswered py pydantic limit request reply.chunks.flatten) :
    Settled py pydantic did (told action (receive py pydantic limit request reply)) ↔
      ¬ ∃ e, parseFrame py limit .incompleteRead reply.chunks.flatten = .error (.load e) := by
  cases parsed : parseFrame py limit .incompleteRead reply.chunks.flatten with
  | error x =>
    have read : readFrame py limit reply.chunks = .error x := (readFrame_parse _).trans parsed
    cases x with
    | protocol violation =>
      simp only [receive, read, Except.error.injEq, reduceCtorEq, exists_false, not_false_eq_true,
        iff_true]
      exact settled_lost mutation trivial
    | incompleteRead =>
      have lost : Unheard (receive py pydantic limit request reply) := receive_lost (.inl parsed)
      simpa using settled_lost mutation lost
    | load e =>
      simp only [receive, read, Except.error.injEq, FrameExn.load.injEq, exists_eq',
        not_true_eq_false,
        iff_false]
      exact unsettled_raw _
  | ok d =>
    have read : readFrame py limit reply.chunks = .ok d := (readFrame_parse _).trans parsed
    simp only [receive, read, reduceCtorEq, exists_false, not_false_eq_true, iff_true]
    cases valid : HostResponse.modelValidate pydantic d with
    | none => exact settled_lost mutation trivial
    | some response =>
      rcases unanswered d response parsed valid with ⟨violation, refused⟩ |
        ⟨result, refused, invalid⟩
      · simp only [refused]
        exact settled_lost mutation trivial
      · simp only [refused]
        exact settled_invalid mutation invalid

theorem execute_reply {adapterId : String} {r : ActionRequest} {host : List UInt8 → HostReply}
    (sends : hostSends py adapterId (.call (.execute action r)) = .ok payload)
    (encoded : encodeFrame py client.limit (client.request id .execute payload).modelDump =
      .ok frame) :
    throughGuard action (WasmHostAdapter.execute py pydantic client adapterId id action r host) =
      told action (closeWriter (host frame) (receive py pydantic client.limit
        (client.request id .execute payload) (host frame))) := by
  simp only [hostSends, hostPayload, bind_ok, pure_ok, mapError_ok] at sends
  obtain ⟨_, built, _, valid, rfl⟩ := sends
  rw [WasmHostAdapter.execute, built]
  simp only [WasmHostClient.call, valid, encoded, told]

theorem settled_host (mutation : action.mutation = true) {uid : Option Nat} {fresh : Uuid}
    {there : Line} {n : Option Nat} {reply : HostReply} (proper : ProperDict payload)
    (encoded : encodeFrame py client.limit (client.request id .execute payload).modelDump =
      .ok frame)
    (arrived : reply.chunks.flatten = arrives
      ((handleConnection py pydantic server uid fresh (there.chunks frame)).getD []) n) :
    Settled py pydantic
        (fun did => Taken py server uid (client.request id .execute payload) frame ∧
          server.invoke .execute (jsonMembers py payload) = did)
        (told action
          (receive py pydantic client.limit (client.request id .execute payload) reply)) ↔
      (n = none → uid = some server.brokerUid → frame.length ≤ server.limit.bytes + 4 →
        Readable py (client.request id .execute payload).modelDump →
          client.pluginId = server.pluginId ∧
            Tellable py client.limit server ((client.request id .execute payload).dumped py)) := by
  by_cases short : n ≠ none ∨ ¬ (uid = some server.brokerUid ∧
    frame.length ≤ server.limit.bytes + 4 ∧
      Readable py (client.request id .execute payload).modelDump)
  · refine ⟨fun _ whole broker fits readable => ?_,
      fun _ => settled_short mutation proper encoded arrived short⟩
    rcases short with cut | refused
    · exact absurd whole cut
    · exact absurd ⟨broker, fits, readable⟩ refused
  · simp only [ne_eq, not_or, not_not] at short
    obtain ⟨rfl, broker, fits, readable⟩ := short
    rw [handleConnection_taken proper encoded (there.whole frame) broker fits readable] at arrived
    have asked : ∀ d, (Taken py server uid (client.request id .execute payload) frame ∧
        server.invoke .execute (jsonMembers py payload) = d) ↔
          client.pluginId = server.pluginId ∧
            server.invoke .execute (jsonMembers py payload) = d := by
      intro d
      refine and_congr_left fun _ => ⟨fun taken => taken.2.2.2, fun own => ?_⟩
      exact ⟨broker, fits, readable, own⟩
    refine (settled_taken mutation asked arrived).trans ?_
    exact ⟨fun tells _ _ _ _ => tells, fun tells => tells rfl broker fits readable⟩

end Peers

/-- A mutation ends with what the component did, or with an outcome that is not known, exactly
when the connection is not lost with an error, no frame but one of JSON that the reader admits
arrives, and the host can tell what the component did. -/
theorem mutation_settled_iff (py : Builtins) (pydantic : Pydantic) (client : WasmHostClient)
    (adapterId : String) (id : Uuid) (action : ActionDefinition) (r : ActionRequest)
    (payload : PyDict) (frame : List UInt8)
    (peer : HostPeer py pydantic client.limit (client.request id .execute payload))
    (mutation : action.mutation = true)
    (sends : hostSends py adapterId (.call (.execute action r)) = .ok payload)
    (encoded : encodeFrame py client.limit (client.request id .execute payload).modelDump =
      .ok frame) :
    Settled py pydantic (peer.Did frame)
        (throughGuard action (WasmHostAdapter.execute py pydantic client adapterId id action r
          peer.reply)) ↔
      peer.Clear frame := by
  have proper : ProperDict payload := sent_proper sends
  rw [execute_reply sends encoded]
  obtain ⟨speaker, ending⟩ := peer
  by_cases lost : ending = .reset
  · subst lost
    simp only [HostPeer.Clear, ne_eq, not_true_eq_false, false_and, iff_false]
    exact unsettled_raw _
  · have kept : ∀ reply ended, reply.ending = ending → closeWriter reply ended = ended := by
      rintro reply ended rfl
      unfold closeWriter
      split
      · rename_i reset
        exact absurd reset lost
      · rfl
    rw [kept _ _ rfl]
    simp only [HostPeer.Clear, ne_eq, lost, not_false_eq_true, true_and]
    cases speaker with
    | stray chunks unanswered =>
      refine (settled_stray mutation unanswered).trans ?_
      rw [parseFrame_load]
      simp only [not_exists, not_and, not_forall, not_not, ne_eq, HostPeer.reply, Speaker.chunks]
    | host server uid fresh there back n =>
      exact settled_host mutation proper encoded (back.whole _)

/-- The client of the plugin `dh-core`. -/
def coreClient : WasmHostClient :=
  ⟨pyStr "dh-core", healthyHost.limit, healthRequest.identified⟩

def fakeAction : ActionDefinition := Sample.ensureActive .confirm

def fakePayload : PyDict :=
  [(pyStr "adapter", strJson "dh-core.fake"), (pyStr "action", .obj fakeAction.members),
    (pyStr "request", .obj (Sample.request Sample.keyA).publicMembers)]

def referring (reference : PyJson) (tidy : reference.tidy = true) : PyObject where
  members := [(pyStr "reference", reference)]
  proper := tidy_proper (.obj [(pyStr "reference", reference)])
    (by simp [PyJson.tidy, tidyMembers, tidy])

def printing (d : PyObject) : WasmHostPlugin textMoments where
  pluginId := pyStr "dh-core"
  brokerUid := 1000
  limit := healthyHost.limit
  adapters := [pyStr "dh-core.fake"]
  declares _ := true
  connection := gang
  machine := ⟨some, fun _ => "'gang'", fun _ => .exited 0 (.document d)⟩
  reads := ⟨fun v => v.str?.getD [], fun _ => some fakeAction.modelDumpJson,
    fun _ => some ((Sample.request Sample.keyA).withToken none).modelDumpJson, fun _ => rfl⟩
  now := ⟨pyStr "2026-08-14T00:00:00Z", rfl⟩
  handshake := .error .unexpected
  statusObserve _ := .error .protocol

theorem printing_invoke (d : PyObject) (operation : HostOperation) {payload : PyDict}
    (bounded : boundedMembers payload = true) :
    GanglionClient.invoke gang (printing d).machine operation payload = .ok d := by
  have path : gang.binary some = some (pyStr "/usr/bin/gang") := by decide
  have found : gang.binary (printing d).machine.which = some (pyStr "/usr/bin/gang") := path
  simp only [GanglionClient.invoke, found, gangArguments, bounded, if_true]
  rfl

def oneChunk : Line := ⟨fun bytes => [bytes], by simp⟩

def printingPeer (d : PyObject) : HostPeer asciiOnly plainPydantic coreClient.limit
    (coreClient.request 7 .execute fakePayload) :=
  ⟨.host ((printing d).server asciiOnly plainPydantic) (some 1000) 0 oneChunk oneChunk none,
      .closed⟩

theorem fakePayload_sent :
    hostSends asciiOnly "dh-core.fake" (.call (.execute fakeAction (Sample.request Sample.keyA))) =
      .ok fakePayload := by
  have dumped : validatePublicJson asciiOnly 0 (.obj (Sample.request Sample.keyA).publicMembers) =
      .ok () := by decide +kernel
  have valid : validatePublicJson asciiOnly 0 (.obj fakePayload) = .ok () := by decide +kernel
  apply bind_ok.mpr
  exact ⟨fakePayload, bind_ok.mpr ⟨_, mapError_ok.mpr (check_bind.mpr ⟨dumped, rfl⟩), rfl⟩,
    check_bind.mpr ⟨mapError_ok.mpr valid, rfl⟩⟩

theorem fakePayload_encoded : ∃ frame, encodeFrame asciiOnly coreClient.limit
    (coreClient.request 7 .execute fakePayload).modelDump = .ok frame :=
  toBool_ok (by decide +kernel)

theorem mutation_settled_iff_fake : ∃ frame,
    Settled asciiOnly plainPydantic ((printingPeer (referring (strJson "fake") rfl)).Did frame)
    (throughGuard fakeAction
      (WasmHostAdapter.execute asciiOnly plainPydantic coreClient "dh-core.fake" 7 fakeAction
        (Sample.request Sample.keyA) (printingPeer (referring (strJson "fake") rfl)).reply)) ↔
      (printingPeer (referring (strJson "fake") rfl)).Clear frame := by
  obtain ⟨frame, encoded⟩ := fakePayload_encoded
  exact ⟨frame, mutation_settled_iff asciiOnly plainPydantic coreClient "dh-core.fake" 7 fakeAction
    (Sample.request Sample.keyA) fakePayload frame _ rfl fakePayload_sent encoded⟩

/-- The component's reference is a number: the mutation ran, and it is told as a failure. -/
theorem invalid_result_failed : ∃ frame,
    encodeFrame asciiOnly coreClient.limit (coreClient.request 7 .execute fakePayload).modelDump =
      .ok frame ∧
    ¬ Settled asciiOnly plainPydantic ((printingPeer (referring (.int 7) rfl)).Did frame)
    (throughGuard fakeAction
      (WasmHostAdapter.execute asciiOnly plainPydantic coreClient "dh-core.fake" 7 fakeAction
        (Sample.request Sample.keyA) (printingPeer (referring (.int 7) rfl)).reply)) := by
  obtain ⟨frame, encoded⟩ := fakePayload_encoded
  have readable : Readable asciiOnly (coreClient.request 7 .execute fakePayload).modelDump :=
    (request_readable rfl).mpr ⟨by decide +kernel, by decide +kernel⟩
  have fits : frame.length ≤
      ((printing (referring (.int 7) rfl)).server asciiOnly plainPydantic).limit.bytes + 4 := by
    obtain ⟨-, small, rfl⟩ := encodeFrame_iff.mp encoded
    rw [frame_length]
    exact Nat.add_le_add_right small 4
  refine ⟨frame, encoded, fun settled => ?_⟩
  rw [execute_reply fakePayload_sent encoded] at settled
  obtain ⟨-, tells⟩ := (settled_host rfl (sent_proper fakePayload_sent) encoded
    (oneChunk.whole _)).mp settled rfl rfl fits readable
  have refused : ((printing (referring (.int 7) rfl)).server asciiOnly plainPydantic).invoke
      .execute fakePayload = .error .protocol := by
    have adapter : pyGet fakePayload "adapter" = some (strJson "dh-core.fake") := rfl
    have action : pyGet fakePayload "action" = some (.obj fakeAction.members) := rfl
    have request : pyGet fakePayload "request" =
      some (.obj (Sample.request Sample.keyA).publicMembers) := rfl
    have name : (printing (referring (.int 7) rfl)).reads.str (strJson "dh-core.fake") =
      pyStr "dh-core.fake" := rfl
    have known : ¬ pyStr "dh-core.fake" ∉ (printing (referring (.int 7) rfl)).adapters := by
      simp [printing]
    have ran : (printing (referring (.int 7) rfl)).ask .execute
        (GanglionAdapter.requestPayload fakeAction.modelDumpJson
          ((Sample.request Sample.keyA).withToken none).modelDumpJson) =
        .ok (referring (.int 7) rfl) := printing_invoke _ _ (by decide +kernel)
    simp only [WasmHostPlugin.server, WasmHostPlugin.invoke, adapter, action, request, name, known,
      demand, ok_bind, Option.bind_some, refuse, if_false, reduceCtorEq]
    show WasmHostPlugin.reply (GanglionAdapter.execute _ fakeAction.modelDumpJson
      ((printing (referring (.int 7) rfl)).ask .execute _)) = _
    rw [ran]
    rfl
  simp only [Tellable, HostRequest.dumped, WasmHostClient.request, sent_same fakePayload_sent,
    refused] at tells

end Deckhand
