import Deckhand.Wasm.Ambiguity

/-! The two tiers: a component inside the broker's process, and the same component behind a socket
in a process of its own. -/
namespace Deckhand
open Lib

section Client
variable {moments : Moments} (py : Builtins) (pydantic : Pydantic) (now : moments.Moment)
  (client : WasmHostClient) (adapterId : String) (id : Uuid) (host : List UInt8 → HostReply)

namespace WasmHostAdapter

/-- `_model`, and the handler that stands around it if there is one. -/
def ask {α : Type} (model : ResultModel moments α) (mutation : Bool) (l : Lifecycle) :
    Except AdapterExn α :=
  match hostPayload py adapterId l with
  | .error _ => .error (.other "HostProtocolError")
  | .ok payload =>
    match (do
        let result ← client.call py pydantic id l.operation payload host
        demand (model.validate now result) (.transport {
          message := "host " ++ l.operation.value ++ " result failed schema validation"
          kind := .member .protocol }) : Except CallExn α) with
    | .ok x => .ok x
    | .error (.transport e) =>
      if mutation then
        .error (.adapterError (.unknownOutcome "host transport failed during mutation" []))
      else .error (.adapterError e)
    | .error (.adapterError e) => .error (.adapterError e)
    | .error (.raw x) => .error x

def health := ask py pydantic now client adapterId id host healthModel false .health

def plan (action : ActionDefinition) (request : ActionRequest) :=
  ask py pydantic now client adapterId id host planModel false (.call (.plan action request))

def observe (action : ActionDefinition) (request : ActionRequest) :=
  ask py pydantic now client adapterId id host observationModel action.mutation
    (.call (.observe action request))

def verify (action : ActionDefinition) (request : ActionRequest) (execution : AdapterExecution)
    (observation : AdapterObservation) :=
  ask py pydantic now client adapterId id host (verificationModel pydantic) action.mutation
    (.call (.verify action request execution observation))

def cancel (action : ActionDefinition) (request : ActionRequest)
    (execution : Option AdapterExecution) :=
  ask py pydantic now client adapterId id host cancellationModel action.mutation
    (.call (.cancel action request execution))

/-- The operation `execute` is one of them. -/
theorem execute_ask (action : ActionDefinition) (request : ActionRequest) :
    execute py pydantic client adapterId id action request host =
      ask py pydantic now client adapterId id host executionResult action.mutation
        (.call (.execute action request)) := by
  unfold execute ask
  show (match actionPayload py adapterId action request with | .error _ => _ | .ok payload => _) =
    (match actionPayload py adapterId action request with | .error _ => _ | .ok payload => _)
  cases actionPayload py adapterId action request with
  | error x => rfl
  | ok payload =>
    dsimp only [Lifecycle.operation]
    cases client.call py pydantic id .execute payload host with
    | error x => cases x <;> rfl
    | ok result =>
      rw [ok_bind]
      show unknownForMutation action (executionModel (.ok result)) = _
      have same : (executionResult : ResultModel moments PyExecution).validate now result =
        PyExecution.modelValidate result := rfl
      rw [executionModel, same]
      cases PyExecution.modelValidate result <;> rfl

def lifecycle : (l : Lifecycle) → Except AdapterExn (l.Result moments)
  | .health => health py pydantic now client adapterId id host
  | .call (.plan action request) => plan py pydantic now client adapterId id host action request
  | .call (.execute action request) =>
    execute py pydantic client adapterId id action request host
  | .call (.observe action request) =>
    observe py pydantic now client adapterId id host action request
  | .call (.verify action request execution observation) =>
    verify py pydantic now client adapterId id host action request execution observation
  | .call (.cancel action request execution) =>
    cancel py pydantic now client adapterId id host action request execution

end WasmHostAdapter

end Client

def Lifecycle.about : Lifecycle → Option (ActionDefinition × ActionRequest)
  | .health => none
  | .call (.plan action request) => some (action, request)
  | .call (.execute action request) => some (action, request)
  | .call (.observe action request) => some (action, request)
  | .call (.verify action request ..) => some (action, request)
  | .call (.cancel action request _) => some (action, request)

def Lifecycle.observedAt : Lifecycle → Option String
  | .call (.verify _ _ _ observation) => some observation.observedAt
  | _ => none

/-- The host serves the adapter and the action under it, and pydantic reads there what it dumped. -/
structure WasmHostPlugin.Understands {moments : Moments} (host : WasmHostPlugin moments)
    (adapterId : String) (l : Lifecycle) : Prop where
  named : pyStr adapterId ∈ host.adapters
  action : ∀ about ∈ l.about,
    host.reads.action (.obj about.1.members) = some about.1.modelDumpJson
  request : ∀ about ∈ l.about,
    host.reads.request (.obj about.2.publicMembers) = some (about.2.withToken none).modelDumpJson
  declared : ∀ about ∈ l.about,
    host.declares about.1.modelDumpJson = true ∧ about.1.adapter = adapterId
  observedAt : ∀ t ∈ l.observedAt, moments.read (.str (pyStr t)) = some (pyStr t)

section Asked
variable {moments : Moments} {py : Builtins} {pydantic : Pydantic} {host : WasmHostPlugin moments}
  {adapterId : String} {l : Lifecycle} {payload : PyDict}

theorem requestPayload_dumped (action : ActionDefinition) (request : ActionRequest) :
    GanglionAdapter.requestPayload action.modelDumpJson request.modelDumpJson =
      GanglionAdapter.requestPayload action request := by
  simp only [GanglionAdapter.requestPayload, ActionDefinition.members,
    ActionDefinition.modelDumpJson, ActionRequest.members, ActionRequest.plainMembers,
    ActionRequest.modelDumpJson, jsonMode_jsonMode, dict_jsonMode_jsonMode]

theorem text_field {bound : Nat} {s : String} (fits : s.length ≤ bound) :
    textField bound (strJson s) = some ⟨pyStr s, (pyStr_length s).trans_le fits⟩ := by
  have length := (pyStr_length s).trans_le fits
  simp only [textField, strJson, PyJson.str?, Option.bind_some, length, pyStr_encodable, and_self,
    dite_true]

theorem part_ok {α : Type} {model : ResultModel moments α} {v : PyJson} {d : PyDict} {x : α}
    (object : v.members? = some d) (valid : model.validate host.now d = some x) :
    host.part py model v = .ok (jsonMode py (.obj (model.members x))) := by
  simp only [WasmHostPlugin.part, object, valid, demand, ok_bind, jsonMode]
  rfl

theorem part_execution (x : AdapterExecution) (sent : Admissible py x.dumped) :
    host.part py executionResult x.dumped = .ok x.dumped := by
  have whole : jsonMode py x.dumped = x.dumped := dumped_same (execution_jsonMode x) sent
  obtain ⟨reference, details, bounded⟩ := x
  cases reference with
  | none =>
    let x : PyExecution := ⟨none, Json.pyMembers details.jsonMode⟩
    exact (part_ok (x := x) rfl rfl).trans (congrArg Except.ok whole)
  | some s =>
    have field := text_field (bounded s rfl)
    let x : PyExecution := ⟨some ⟨pyStr s, (pyStr_length s).trans_le (bounded s rfl)⟩,
      Json.pyMembers details.jsonMode⟩
    have valid : PyExecution.modelValidate [(pyStr "reference", strJson s),
        (pyStr "details", .obj (Json.pyMembers details.jsonMode))] = some x := by
      show ((textField 512 (strJson s)).map some).bind (fun reference =>
        some (PyExecution.mk reference (Json.pyMembers details.jsonMode))) = some x
      rw [field]
      rfl
    exact (part_ok (x := x) rfl valid).trans (congrArg Except.ok whole)

theorem part_observation (o : AdapterObservation)
    (time : moments.read (.str (pyStr o.observedAt)) = some (pyStr o.observedAt))
    (sent : Admissible py o.dumped) : host.part py observationModel o.dumped = .ok o.dumped := by
  have whole : jsonMode py o.dumped = o.dumped := dumped_same (observation_jsonMode o) sent
  obtain ⟨state, observedAt, details, nonempty, bounded⟩ := o
  have field := text_field bounded
  have moment := moment?_text (⟨pyStr observedAt, time⟩ : moments.Moment)
  have stated : pyStr state ≠ [] := by
    intro empty
    have length := pyStr_length state
    rw [empty, List.length_nil] at length
    omega
  let x : PyObservation moments := ⟨⟨pyStr state, (pyStr_length state).trans_le bounded⟩,
    ⟨pyStr observedAt, time⟩, Json.pyMembers details.jsonMode, stated⟩
  have valid : PyObservation.modelValidate host.now [(pyStr "state", strJson state),
      (pyStr "observed_at", .str (pyStr observedAt)),
      (pyStr "details", .obj (Json.pyMembers details.jsonMode))] = some x := by
    show (textField 128 (strJson state)).bind (fun state =>
      (moments.moment? (.str (pyStr observedAt))).bind (fun observedAt =>
        if stated : state.1 ≠ [] then some (PyObservation.mk state observedAt
          (Json.pyMembers details.jsonMode) stated) else none)) = some x
    rw [field, moment]
    exact dif_pos stated
  exact (part_ok (x := x) rfl valid).trans (congrArg Except.ok whole)

theorem dump_dumped {x : AdapterExecution} {v : PyJson} (dumps : x.dump = .ok v) :
    v = x.dumped := by
  simp only [AdapterExecution.dump, bind_ok, pure_ok] at dumps
  obtain ⟨_, -, rfl⟩ := dumps
  rfl

theorem observe_dumped {o : AdapterObservation} {v : PyJson} (dumps : o.dump = .ok v) :
    v = o.dumped := by
  simp only [AdapterObservation.dump, bind_ok, pure_ok] at dumps
  obtain ⟨_, -, rfl⟩ := dumps
  rfl

/-- The members that every payload about an action has, and what may follow. -/
def aboutPayload (adapterId : String) (action : ActionDefinition) (request : ActionRequest)
    (more : PyDict) : PyDict :=
  [(pyStr "adapter", strJson adapterId), (pyStr "action", .obj action.members),
    (pyStr "request", .obj request.publicMembers)] ++ more

theorem invoke_served {operation : HostOperation} {action : ActionDefinition}
    {request : ActionRequest} {more : PyDict}
    (served : operation ∈ [.plan, .execute, .observe, .verify, .cancel])
    (about : l.about = some (action, request)) (understands : host.Understands adapterId l) :
    host.invoke py pydantic operation (aboutPayload adapterId action request more) =
      host.serve py pydantic operation (aboutPayload adapterId action request more)
        action.modelDumpJson (request.withToken none).modelDumpJson := by
  have adapter : pyGet (aboutPayload adapterId action request more) "adapter" =
    some (strJson adapterId) := rfl
  have first : pyGet (aboutPayload adapterId action request more) "action" =
    some (.obj action.members) := rfl
  have second : pyGet (aboutPayload adapterId action request more) "request" =
    some (.obj request.publicMembers) := rfl
  have named : ¬ pyStr adapterId ∉ host.adapters := not_not_intro understands.named
  have read := understands.action _ about
  have read' := understands.request _ about
  obtain ⟨declared, own⟩ := understands.declared _ about
  have own' : pyStr action.modelDumpJson.adapter = pyStr adapterId := congrArg pyStr own
  simp only at read read' declared
  generalize aboutPayload adapterId action request more = payload at adapter first second
  have checked : ∀ other : HostOperation, other ≠ .health → (do
      let adapter ← demand (pyGet payload "adapter") HostRaise.protocol
      let name := host.reads.str adapter
      refuse (name ∉ host.adapters) .protocol
      if other = .health then
        WasmHostPlugin.reply (GanglionAdapter.health host.now (host.ask .health []))
      else
        let action ← demand ((pyGet payload "action").bind host.reads.action) .protocol
        let request ← demand ((pyGet payload "request").bind host.reads.request) .protocol
        refuse (¬ (host.declares action = true ∧ pyStr action.adapter = name)) .protocol
        host.serve py pydantic other payload action request) =
      host.serve py pydantic other payload action.modelDumpJson
        (request.withToken none).modelDumpJson := by
    intro other work
    simp only [adapter, first, second, demand, ok_bind, strJson, host.reads.str_str, refuse, named,
      if_false, work, Option.bind_some, read, read', declared, own', and_self, not_true_eq_false]
  cases operation with
  | handshake => simp at served
  | health => simp at served
  | statusObserve => simp at served
  | plan => exact checked .plan (by decide)
  | execute => exact checked .execute (by decide)
  | observe => exact checked .observe (by decide)
  | verify => exact checked .verify (by decide)
  | cancel => exact checked .cancel (by decide)

/-- The host asks the component what the adapter in the broker's process would ask it for the same
operation without a token, and hands over what that adapter would return. -/
theorem invoke_lifecycle (understands : host.Understands adapterId l)
    (sends : hostSends py adapterId l = .ok payload) :
    host.invoke py pydantic l.operation payload = WasmHostPlugin.reply
      (GanglionAdapter.lifecycle pydantic host.now l
        (GanglionClient.ask host.connection host.machine (l.withToken none))) := by
  simp only [hostSends, bind_ok, pure_ok, mapError_ok] at sends
  obtain ⟨_, built, _, valid, rfl⟩ := sends
  have all := ((validatePublicJson_ok _).mp valid).2.2
  have body : ∀ {action request dumped}, actionPayload py adapterId action request = .ok dumped →
      dumped = aboutPayload adapterId action request [] := by
    intro action request dumped made
    simp only [actionPayload, requestDump, bind_ok, pure_ok, mapError_ok] at made
    obtain ⟨_, ⟨_, -, rfl⟩, rfl⟩ := made
    rfl
  cases l with
  | health =>
    cases built
    have named : ¬ pyStr adapterId ∉ host.adapters := not_not_intro understands.named
    have adapter : pyGet [(pyStr "adapter", PyJson.str (pyStr adapterId))] "adapter" =
      some (.str (pyStr adapterId)) := rfl
    simp only [Lifecycle.operation, WasmHostPlugin.invoke, adapter, demand, ok_bind, strJson,
      host.reads.str_str, refuse, named, if_false, if_true]
    rfl
  | call op =>
    cases op with
    | plan action request =>
      rw [body built, Lifecycle.operation, invoke_served (by simp) rfl understands,
        WasmHostPlugin.serve, requestPayload_dumped]
      rfl
    | execute action request =>
      rw [body built, Lifecycle.operation, invoke_served (by simp) rfl understands,
        WasmHostPlugin.serve, requestPayload_dumped]
      rfl
    | observe action request =>
      rw [body built, Lifecycle.operation, invoke_served (by simp) rfl understands,
        WasmHostPlugin.serve, requestPayload_dumped]
      rfl
    | verify action request execution observation =>
      simp only [hostPayload, bind_ok, pure_ok, mapError_ok] at built
      obtain ⟨_, made, ran, executes, seen, observes, rfl⟩ := built
      obtain rfl : ran = execution.dumped := dump_dumped executes
      obtain rfl : seen = observation.dumped := observe_dumped observes
      rw [body made] at all ⊢
      obtain ⟨executed, observed⟩ : Admissible py execution.dumped ∧
          Admissible py observation.dumped := by
        simp only [aboutPayload, List.append_nil, admissibleMembers_append, AdmissibleMembers,
          and_true] at all
        exact ⟨all.2.2.1, all.2.2.2.2⟩
      have whole : aboutPayload adapterId action request [] ++
          [(pyStr "execution", execution.dumped), (pyStr "observation", observation.dumped)] =
        aboutPayload adapterId action request
          [(pyStr "execution", execution.dumped), (pyStr "observation", observation.dumped)] := rfl
      have first : pyGet (aboutPayload adapterId action request
          [(pyStr "execution", execution.dumped), (pyStr "observation", observation.dumped)])
        "execution" = some execution.dumped := rfl
      have second : pyGet (aboutPayload adapterId action request
          [(pyStr "execution", execution.dumped), (pyStr "observation", observation.dumped)])
        "observation" = some observation.dumped := rfl
      rw [whole, Lifecycle.operation, invoke_served (by simp) rfl understands,
        WasmHostPlugin.serve, requestPayload_dumped]
      simp only [first, second, demand, ok_bind, part_execution execution executed,
        part_observation observation (understands.observedAt _ rfl) observed]
      have payload : ganglionPayload ((Lifecycle.call (.verify action request execution
          observation)).withToken none) = .ok (GanglionAdapter.requestPayload action
            (request.withToken none) ++ [(pyStr "execution", execution.dumped),
              (pyStr "observation", observation.dumped)]) := by
        simp only [Lifecycle.withToken, ganglionPayload, executes, observes, ok_bind]
        rfl
      rw [GanglionClient.ask, payload]
      rfl
    | cancel action request execution =>
      simp only [hostPayload, bind_ok, pure_ok, mapError_ok] at built
      obtain ⟨_, made, ran, executes, rfl⟩ := built
      rw [body made] at all ⊢
      have whole : aboutPayload adapterId action request [] ++ [(pyStr "execution", ran)] =
        aboutPayload adapterId action request [(pyStr "execution", ran)] := rfl
      have found : pyGet (aboutPayload adapterId action request [(pyStr "execution", ran)])
        "execution" = some ran := rfl
      have payload : ganglionPayload ((Lifecycle.call (.cancel action request execution)).withToken
          none) = .ok (GanglionAdapter.requestPayload action (request.withToken none) ++
            [(pyStr "execution", ran)]) := by
        simp only [Lifecycle.withToken, ganglionPayload, executes, ok_bind]
        rfl
      rw [whole, Lifecycle.operation, invoke_served (by simp) rfl understands,
        WasmHostPlugin.serve, requestPayload_dumped, GanglionClient.ask, payload]
      cases execution with
      | none =>
        cases executes
        simp only [found]
        rfl
      | some x =>
        obtain rfl : ran = x.dumped := dump_dumped executes
        have executed : Admissible py x.dumped := by
          simp only [aboutPayload, List.append_nil, admissibleMembers_append, AdmissibleMembers,
            and_true] at all
          exact all.2.2
        have parted : host.part py executionResult x.dumped = .ok x.dumped :=
          part_execution x executed
        show (do
          let part ← host.part py executionResult x.dumped
          WasmHostPlugin.reply (GanglionAdapter.cancel host.now (host.ask .cancel
            (GanglionAdapter.requestPayload action (request.withToken none) ++
              [(pyStr "execution", part)])))) = _
        rw [parted]
        rfl

end Asked

def pluginFailed {α : Type} (failure : HostFailure) : Except AdapterExn α :=
  .error (.adapterError {
    message := "host plugin operation failed"
    kind := .member failure.kind
    retry := failure.retry
    reconciliationRequired := failure.reconciliationRequired })

/-- What the broker hears over the socket, if anything, of what the adapter returned or raised
behind it. -/
def crossed {moments : Moments} {α : Type} {model : ResultModel moments α} (py : Builtins)
    (pydantic : Pydantic) : Except HostRaise model.Valid → Option (Except AdapterExn α)
  | .ok x =>
    if validatePublicJson py 0 (.obj (jsonMembers py x.dump.members)) = .ok () then
      some (.ok (model.json py x.1))
    else some (pluginFailed { kind := .protocol })
  | .error (.adapterError e) => (pydantic.kind e.kind).map fun kind =>
    pluginFailed ⟨kind, e.retry, e.reconciliationRequired⟩
  | .error .protocol => some (pluginFailed { kind := .protocol })
  | .error .unexpected => some (pluginFailed { kind := .unexpected })
  | .error .baseException => none

section Crossing
variable {moments : Moments} {py : Builtins} {pydantic : Pydantic} {host : WasmHostPlugin moments}
  {client : WasmHostClient} {adapterId : String} {id : Uuid} {l : Lifecycle} {payload : PyDict}
  {α : Type} {model : ResultModel moments α} {operation : HostOperation}

theorem lifecycle_ask (py : Builtins) (pydantic : Pydantic) (client : WasmHostClient)
    (adapterId : String) (id : Uuid) (now : moments.Moment) (reply : List UInt8 → HostReply)
    (l : Lifecycle) :
    ∃ mutation, WasmHostAdapter.lifecycle py pydantic now client adapterId id reply l =
      WasmHostAdapter.ask py pydantic now client adapterId id reply (l.model pydantic) mutation
        l := by
  cases l with
  | health => exact ⟨_, rfl⟩
  | call op =>
    cases op with
    | plan action request => exact ⟨_, rfl⟩
    | execute action request => exact ⟨_, WasmHostAdapter.execute_ask ..⟩
    | observe action request => exact ⟨_, rfl⟩
    | verify action request execution observation => exact ⟨_, rfl⟩
    | cancel action request execution => exact ⟨_, rfl⟩

/-- What the command's failures are raised as is of a kind that a failure has. -/
def GanglionExn.Told : GanglionExn → Prop
  | .wasmError e => ∃ kind, e.kind = .member kind
  | .adapterError e => ∃ kind, e.kind = .member kind
  | _ => True

theorem result_told {run : GangRun} {operation : HostOperation} {x : GanglionExn}
    (raised : run.result operation = .error x) : x.Told := by
  cases run with
  | missing =>
    cases raised
    exact ⟨_, rfl⟩
  | fault =>
    cases raised
    trivial
  | timedOut =>
    cases raised
    exact ⟨_, rfl⟩
  | exited code stdout =>
    simp only [GangRun.result] at raised
    split at raised
    · cases raised
      exact ⟨_, rfl⟩
    · cases stdout with
      | document d => cases raised
      | tooLong =>
        cases raised
        exact ⟨_, rfl⟩
      | invalidJson =>
        cases raised
        exact ⟨_, rfl⟩
      | notObject =>
        cases raised
        exact ⟨_, rfl⟩

theorem ask_told {connection : GanglionConnection} {machine : Machine} {x : GanglionExn}
    (raised : GanglionClient.ask connection machine l = .error x) : x.Told := by
  unfold GanglionClient.ask GanglionClient.invoke at raised
  split at raised
  · cases raised
    trivial
  · split at raised
    · cases raised
      exact ⟨_, rfl⟩
    · split at raised
      · cases raised
        trivial
      · exact result_told raised

theorem answer_crossed {now : moments.Moment} {mutation : Bool} {ran : Except GanglionExn PyObject}
    (told : ∀ x, ran = .error x → x.Told) :
    ∃ heard, crossed py pydantic (GanglionAdapter.answer now model mutation ran) = some heard := by
  unfold GanglionAdapter.answer
  cases ran with
  | ok raw =>
    dsimp only
    cases model.read now raw with
    | none => exact ⟨_, rfl⟩
    | some x =>
      rw [demand, crossed]
      split <;> exact ⟨_, rfl⟩
  | error x =>
    have said := told x rfl
    cases x with
    | wasmError e =>
      obtain ⟨kind, member⟩ := said
      cases mutation
      · exact ⟨_, by simp only [Bool.false_eq_true, if_false, crossed, member, pydantic.kind_member,
          Option.map_some]; rfl⟩
      · exact ⟨_, by simp only [if_true, crossed, AdapterError.unknownOutcome, pydantic.kind_member,
          Option.map_some]; rfl⟩
    | adapterError e =>
      obtain ⟨kind, member⟩ := said
      exact ⟨_, by simp only [crossed, member, pydantic.kind_member, Option.map_some]; rfl⟩
    | valueError => exact ⟨_, rfl⟩
    | fault => exact ⟨_, rfl⟩

theorem lifecycle_answer (pydantic : Pydantic) (now : moments.Moment) (l : Lifecycle)
    (ran : Except GanglionExn PyObject) : ∃ mutation, GanglionAdapter.lifecycle pydantic now l ran =
      GanglionAdapter.answer now (l.model pydantic) mutation ran := by
  cases l with
  | health => exact ⟨_, rfl⟩
  | call op => cases op <;> exact ⟨_, rfl⟩

theorem dispatch_reply (id : Uuid) {outcome : Except HostRaise model.Valid}
    {heard : Except AdapterExn α} (work : operation ≠ .handshake)
    (own : client.pluginId = host.pluginId)
    (ran : host.invoke py pydantic operation payload = WasmHostPlugin.reply outcome)
    (told : crossed py pydantic outcome = some heard) :
    (∃ x, outcome = .ok x ∧ heard = .ok (model.json py x.1) ∧
      validatePublicJson py 0 (.obj (jsonMembers py x.dump.members)) = .ok () ∧
      dispatch py pydantic (host.server py pydantic) (client.request id operation payload) =
        some ((client.request id operation payload).answer py x.dump)) ∨
    ∃ failure, heard = pluginFailed failure ∧
      dispatch py pydantic (host.server py pydantic) (client.request id operation payload) =
        some (hostFailure (client.request id operation payload) failure) := by
  have ran' : (host.server py pydantic).invoke operation payload = WasmHostPlugin.reply outcome :=
    ran
  have own' : client.pluginId = (host.server py pydantic).pluginId := own
  cases outcome with
  | ok x =>
    have returned : (host.server py pydantic).invoke operation payload = .ok x.dump := ran'
    by_cases allowed : validatePublicJson py 0 (.obj (jsonMembers py x.dump.members)) = .ok ()
    · left
      rw [crossed, if_pos allowed] at told
      refine ⟨x, rfl, (Option.some.inj told).symm, allowed, ?_⟩
      simp [dispatch, WasmHostClient.request, own', returned, allowed, HostRequest.answer]
    · right
      rw [crossed, if_neg allowed] at told
      refine ⟨_, (Option.some.inj told).symm, ?_⟩
      simp [dispatch, WasmHostClient.request, own', returned, allowed, work]
  | error x =>
    right
    cases x with
    | adapterError e =>
      have raised : (host.server py pydantic).invoke operation payload =
        .error (.adapterError e) := ran'
      obtain ⟨kind, member, rfl⟩ := Option.map_eq_some_iff.mp told
      refine ⟨_, rfl, ?_⟩
      simp [dispatch, WasmHostClient.request, own', raised, member]
    | protocol =>
      have raised : (host.server py pydantic).invoke operation payload = .error .protocol := ran'
      refine ⟨_, (Option.some.inj told).symm, ?_⟩
      simp [dispatch, WasmHostClient.request, own', raised]
    | unexpected =>
      have raised : (host.server py pydantic).invoke operation payload = .error .unexpected := ran'
      refine ⟨_, (Option.some.inj told).symm, ?_⟩
      simp [dispatch, WasmHostClient.request, own', raised]
    | baseException => cases told

theorem call_told {frame answer : List UInt8} {response : HostResponse}
    {reply : List UInt8 → HostReply} (public_ : validatePublicJson py 0 (.obj payload) = .ok ())
    (encoded : encodeFrame py client.limit (client.request id operation payload).modelDump =
      .ok frame)
    (honest : Honest py (client.request id operation payload) response)
    (legible : response.Legible py)
    (written : encodeFrame py client.limit response.modelDump = .ok answer)
    (arrived : (reply frame).chunks.flatten = answer) (kept : (reply frame).ending ≠ .reset) :
    client.call py pydantic id operation payload reply = caught response.told := by
  have received : receive py pydantic client.limit (client.request id operation payload)
      (reply frame) = caught response.told :=
    (receive_fitting honest written arrived).elim And.left fun no => absurd legible no.2
  simp only [WasmHostClient.call, public_, encoded, received]
  cases ended : (reply frame).ending with
  | closed => simp only [closeWriter, ended]
  | reset => exact absurd ended kept
  | silent => simp only [closeWriter, ended]

theorem ask_crossed {frame : List UInt8} {uid : Option Nat} {fresh : Uuid} {there back : Line}
    {ending : StreamEnd} {outcome : Except HostRaise model.Valid} {heard : Except AdapterExn α}
    (now : moments.Moment) (mutation : Bool)
    (sends : hostSends py adapterId l = .ok payload)
    (encoded : encodeFrame py client.limit (client.request id l.operation payload).modelDump =
      .ok frame)
    (taken : Taken py (host.server py pydantic) uid (client.request id l.operation payload) frame)
    (kept : ending ≠ .reset)
    (ran : host.invoke py pydantic l.operation payload = WasmHostPlugin.reply outcome)
    (told : crossed py pydantic outcome = some heard)
    (fits : ∀ x, outcome = .ok x →
      validatePublicJson py 0 (.obj (jsonMembers py x.dump.members)) = .ok () →
      Delivered py client.limit (host.server py pydantic)
          ((client.request id l.operation payload).answer py x.dump) ∧
        boundedMembers (jsonMembers py x.dump.members) = true) :
    WasmHostAdapter.ask py pydantic now client adapterId id (fun frame => ⟨back.chunks
        ((handleConnection py pydantic (host.server py pydantic) uid fresh
          (there.chunks frame)).getD []), ending⟩) model mutation l = heard := by
  have proper : ProperDict payload := sent_proper sends
  have same : (client.request id l.operation payload).dumped py =
      client.request id l.operation payload := by
    rw [HostRequest.dumped, WasmHostClient.request, sent_same sends]
  simp only [hostSends, bind_ok, pure_ok, mapError_ok] at sends
  obtain ⟨members, built, _, public_, rfl⟩ := sends
  obtain ⟨broker, small, readable, own⟩ := taken
  have work : l.operation ≠ .handshake := by
    cases l with
    | health => decide
    | call op => cases op <;> exact HostOperation.noConfusion
  have answered : handleConnection py pydantic (host.server py pydantic) uid fresh
      (there.chunks frame) = (dispatch py pydantic (host.server py pydantic)
        ((client.request id l.operation members).dumped py)).bind fun response =>
          (encodeFrame py (host.server py pydantic).limit response.modelDump).toOption :=
    handleConnection_taken proper encoded (there.whole frame) broker small readable
  rw [same] at answered
  have called : ∀ response answer, Honest py (client.request id l.operation members) response →
      response.Legible py →
      dispatch py pydantic (host.server py pydantic) (client.request id l.operation members) =
        some response →
      encodeFrame py host.limit response.modelDump = .ok answer →
      encodeFrame py client.limit response.modelDump = .ok answer →
      client.call py pydantic id l.operation members (fun frame => ⟨back.chunks
        ((handleConnection py pydantic (host.server py pydantic) uid fresh
          (there.chunks frame)).getD []), ending⟩) = caught response.told := by
    intro response answer honest legible dispatched written written'
    have sent : encodeFrame py (host.server py pydantic).limit response.modelDump = .ok answer :=
      written
    refine call_told public_ encoded honest legible written' ?_ kept
    dsimp only
    rw [back.whole, answered, dispatched, Option.bind_some, sent]
    rfl
  rw [WasmHostAdapter.ask, built]
  dsimp only
  rcases dispatch_reply id work own ran told with
    ⟨x, rfl, rfl, allowed, dispatched⟩ | ⟨failure, rfl, dispatched⟩
  · obtain ⟨⟨answer, written, small'⟩, bounded⟩ := fits x rfl allowed
    have honest : Honest py (client.request id l.operation members)
      ((client.request id l.operation members).answer py x.dump) := .answered x.dump (.inr allowed)
    rw [called _ _ honest ((answer_legible allowed).mpr bounded) dispatched written
      (encodeFrame_other written small')]
    have valid := x.again py now
    simp only [HostRequest.answer, HostResponse.told, caught, Option.getD_some, ok_bind, valid,
      demand]
  · have legible : (hostFailure (client.request id l.operation members) failure).Legible py := by
      intro _ none
      cases none
    rw [called _ _ (.failed failure) legible dispatched (hostFailure_encoded host.limit failure)
      (hostFailure_encoded client.limit failure)]
    rfl

end Crossing

/-- The two tiers are one: behind the socket the component is asked, of the same operation without
its token, what it would be asked inside the broker's process; and what it answers there or fails
with is what crosses. -/
theorem tiers_agree {moments : Moments} (py : Builtins) (pydantic : Pydantic)
    (client : WasmHostClient) (host : WasmHostPlugin moments) (adapterId : String) (id : Uuid)
    (l : Lifecycle) (payload : PyDict) (frame : List UInt8) (now : moments.Moment)
    (uid : Option Nat) (fresh : Uuid) (there back : Line) (ending : StreamEnd)
    (sends : hostSends py adapterId l = .ok payload)
    (encoded : encodeFrame py client.limit (client.request id l.operation payload).modelDump =
      .ok frame)
    (taken : Taken py (host.server py pydantic) uid (client.request id l.operation payload) frame)
    (understands : host.Understands adapterId l) (kept : ending ≠ .reset)
    (fits : ∀ x, GanglionAdapter.lifecycle pydantic host.now l
        (GanglionClient.ask host.connection host.machine (l.withToken none)) = .ok x →
      validatePublicJson py 0 (.obj (jsonMembers py x.dump.members)) = .ok () →
      Delivered py client.limit (host.server py pydantic)
          ((client.request id l.operation payload).answer py x.dump) ∧
        boundedMembers (jsonMembers py x.dump.members) = true) :
    crossed py pydantic (GanglionAdapter.lifecycle pydantic host.now l
        (GanglionClient.ask host.connection host.machine (l.withToken none))) =
      some (WasmHostAdapter.lifecycle py pydantic now client adapterId id (fun frame => ⟨back.chunks
        ((handleConnection py pydantic (host.server py pydantic) uid fresh
          (there.chunks frame)).getD []), ending⟩) l) := by
  obtain ⟨mutation, asked⟩ := lifecycle_ask py pydantic client adapterId id now
    (fun frame => ⟨back.chunks ((handleConnection py pydantic (host.server py pydantic) uid fresh
      (there.chunks frame)).getD []), ending⟩) l
  obtain ⟨handled, answered⟩ := lifecycle_answer pydantic host.now l
    (GanglionClient.ask host.connection host.machine (l.withToken none))
  obtain ⟨heard, told⟩ : ∃ heard, crossed py pydantic (GanglionAdapter.lifecycle pydantic host.now l
      (GanglionClient.ask host.connection host.machine (l.withToken none))) = some heard := by
    rw [answered]
    exact answer_crossed fun x => ask_told
  rw [asked, told]
  congr 1
  exact (ask_crossed now mutation sends encoded taken kept (invoke_lifecycle understands sends) told
    fits).symm

def fakeExecution : AdapterExecution :=
  ⟨some "fake:1", [], fun r held => by
    cases held
    decide⟩

def fakeVerify : Lifecycle :=
  .call (.verify fakeAction (Sample.request Sample.keyA) fakeExecution sampleObservation)

def satisfied : PyObject where
  members := [(pyStr "satisfied", .bool true)]
  proper := tidy_proper (.obj [(pyStr "satisfied", .bool true)]) (by decide)

def verifyPayload : PyDict :=
  aboutPayload "dh-core.fake" fakeAction (Sample.request Sample.keyA)
    [(pyStr "execution", fakeExecution.dumped), (pyStr "observation", sampleObservation.dumped)]

theorem verifyPayload_sent : hostSends asciiOnly "dh-core.fake" fakeVerify = .ok verifyPayload := by
  have dumped : validatePublicJson asciiOnly 0 (.obj (Sample.request Sample.keyA).publicMembers) =
      .ok () := by decide +kernel
  have valid : validatePublicJson asciiOnly 0 (.obj verifyPayload) = .ok () := by decide +kernel
  apply bind_ok.mpr
  refine ⟨verifyPayload,
    bind_ok.mpr ⟨_, bind_ok.mpr ⟨_, mapError_ok.mpr (check_bind.mpr ⟨dumped, rfl⟩), rfl⟩, rfl⟩, ?_⟩
  exact check_bind.mpr ⟨mapError_ok.mpr valid, rfl⟩

theorem tiers_agree_satisfied : ∃ frame,
    encodeFrame asciiOnly coreClient.limit (coreClient.request 7 .verify verifyPayload).modelDump =
      .ok frame ∧
    WasmHostAdapter.lifecycle asciiOnly plainPydantic (printing satisfied).now coreClient
      "dh-core.fake" 7 (fun frame => ⟨oneChunk.chunks ((handleConnection asciiOnly plainPydantic
        ((printing satisfied).server asciiOnly plainPydantic) (some 1000) 0
        (oneChunk.chunks frame)).getD []), .closed⟩) fakeVerify = .ok ⟨true, []⟩ := by
  obtain ⟨frame, encoded⟩ := toBool_ok (r := encodeFrame asciiOnly coreClient.limit
    (coreClient.request 7 .verify verifyPayload).modelDump) (by decide +kernel)
  have small : ∀ {members : PyDict} {frame : List UInt8},
      encodeFrame asciiOnly coreClient.limit members = .ok frame →
        frame.length ≤ coreClient.limit.bytes + 4 := by
    intro members frame encoded
    obtain ⟨-, fits, rfl⟩ := encodeFrame_iff.mp encoded
    rw [frame_length]
    exact Nat.add_le_add_right fits 4
  have readable : Readable asciiOnly (coreClient.request 7 .verify verifyPayload).modelDump :=
    (request_readable rfl).mpr ⟨by decide +kernel, by decide +kernel⟩
  obtain ⟨asked, payload, bounded⟩ : ∃ asked,
    ganglionPayload (fakeVerify.withToken none) = .ok asked ∧
    boundedMembers asked = true := ⟨_, rfl, by decide +kernel⟩
  have printed : GanglionClient.ask gang (printing satisfied).machine (fakeVerify.withToken none) =
      .ok satisfied := by
    rw [GanglionClient.ask, payload]
    exact printing_invoke satisfied _ bounded
  obtain ⟨x, ran, read⟩ : ∃ x, GanglionAdapter.lifecycle plainPydantic (printing satisfied).now
      fakeVerify (GanglionClient.ask gang (printing satisfied).machine
        (fakeVerify.withToken none)) = .ok x ∧ x.1 = ⟨true, []⟩ := by
    rw [printed]
    exact ⟨_, rfl, rfl⟩
  have members : x.dump.members = PyVerification.members ⟨true, []⟩ :=
    congrArg PyVerification.members read
  have allowed : validatePublicJson asciiOnly 0 (.obj (jsonMembers asciiOnly x.dump.members)) =
      .ok () := by
    rw [members]
    decide +kernel
  have told : crossed asciiOnly plainPydantic (.ok x : Except HostRaise
      (fakeVerify.model plainPydantic : ResultModel textMoments PyVerification).Valid) =
        some (.ok ⟨true, []⟩) := by
    rw [crossed, if_pos allowed, read]
    rfl
  refine ⟨frame, encoded, Option.some.inj ((tiers_agree asciiOnly plainPydantic coreClient
    (printing satisfied) "dh-core.fake" 7 fakeVerify verifyPayload frame (printing satisfied).now
    (some 1000) 0 oneChunk oneChunk .closed verifyPayload_sent encoded
    ⟨rfl, small encoded, readable, rfl⟩ ⟨by simp [printing], ?_, ?_, ?_, fun _ _ => rfl⟩
    StreamEnd.noConfusion ?_).symm.trans
      ((congrArg (crossed asciiOnly plainPydantic) ran).trans told))⟩
  · intro about same
    cases same
    rfl
  · intro about same
    cases same
    rfl
  · intro about same
    cases same
    exact ⟨rfl, rfl⟩
  · intro y ran' _
    obtain rfl : x = y := Except.ok.inj (ran.symm.trans ran')
    obtain ⟨answer, written⟩ := toBool_ok (r := encodeFrame asciiOnly coreClient.limit
      ((coreClient.request 7 .verify verifyPayload).answer asciiOnly
        ⟨PyVerification.members ⟨true, []⟩, tidy_proper (.obj _) (by decide)⟩).modelDump)
      (by decide +kernel)
    have whole : x.dump =
        ⟨PyVerification.members ⟨true, []⟩, tidy_proper (.obj _) (by decide)⟩ := by
      cases same : x.dump with
      | mk members' proper =>
        rw [same] at members
        cases members
        rfl
    rw [whole]
    exact ⟨⟨answer, written, small written⟩, by decide +kernel⟩

end Deckhand
