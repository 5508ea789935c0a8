import Deckhand.Wasm.Lifecycle

/-! The adapter that runs a signed component through the `gang` command, and the host program
that serves it. -/
namespace Deckhand
open Lib

inductive GangOutput where
  | tooLong | invalidJson | notObject
  | document (d : PyObject)

/-- How a run of the command ends; `fault` is any exception that `invoke` does not catch. -/
inductive GangRun where
  | missing | fault | timedOut
  | exited (code : Int) (stdout : GangOutput)

inductive GanglionExn where
  | wasmError (e : AdapterError)
  | adapterError (e : AdapterError)
  | valueError | fault

def wasmError (message : String) (kind : AdapterErrorKind) : AdapterError :=
  { message, kind := .member kind, retry := .safe }

/-- `GanglionClient.invoke` -/
def GangRun.result (operation : HostOperation) : GangRun → Except GanglionExn PyObject
  | .missing => .error (.wasmError (wasmError "gang binary is unavailable" .configuration))
  | .fault => .error .fault
  | .timedOut => .error (.adapterError {
      message := ("gang invoke of " ++ operation.value ++ " timed out" : String)
      kind := .member .timeout
      retry := .reconcileFirst
      reconciliationRequired := true })
  | .exited code stdout =>
    if code ≠ 0 then .error (.wasmError (wasmError
      ("gang invoke of " ++ operation.value ++ " failed (exit " ++ toString code ++ ")")
      .unavailable))
    else match stdout with
      | .tooLong => .error (.wasmError (wasmError
          ("gang " ++ operation.value ++ " result exceeds the size limit") .protocol))
      | .invalidJson => .error (.wasmError (wasmError
          ("gang " ++ operation.value ++ " returned invalid JSON") .protocol))
      | .notObject => .error (.wasmError (wasmError
          ("gang " ++ operation.value ++ " result envelope is invalid") .protocol))
      | .document d => .ok d

/-- What a process finds where it runs: the command's path, how Python writes a text's `repr`, and
how a run of the command with such arguments ends. -/
structure Machine where
  which : PyStr → Option PyStr
  repr : PyStr → String
  gang : List PyStr → GangRun

/-- `GanglionClient.invoke`, from its search for the command on. -/
def GanglionClient.invoke (connection : GanglionConnection) (machine : Machine)
    (operation : HostOperation) (payload : PyDict) : Except GanglionExn PyObject :=
  match connection.binary machine.which with
  | none => .error (.wasmError (wasmError
      ("gang binary " ++ machine.repr connection.gangBinary ++ " not found") .configuration))
  | some binary =>
    match gangArguments connection binary operation payload with
    | none => .error .valueError
    | some argv => (machine.gang argv).result operation

/-- What the adapter asks of an operation: the payload's dump raises a `ValueError` if it fails. -/
def GanglionClient.ask (connection : GanglionConnection) (machine : Machine) (l : Lifecycle) :
    Except GanglionExn PyObject :=
  match ganglionPayload l with
  | .error _ => .error .valueError
  | .ok payload => GanglionClient.invoke connection machine l.operation payload

section Adapter
variable {moments : Moments} (pydantic : Pydantic) (now : moments.Moment)

/-- What an operation makes of the command's answer; `mutation` where a handler stands around it
that takes the command's own failures for an unknown outcome. -/
def GanglionAdapter.answer {α : Type} (model : ResultModel moments α) (mutation : Bool)
    (ran : Except GanglionExn PyObject) : Except HostRaise model.Valid :=
  match ran with
  | .error (.wasmError e) =>
    if mutation then
      .error (.adapterError (.unknownOutcome "wasm transport failed during mutation" []))
    else .error (.adapterError e)
  | .error (.adapterError e) => .error (.adapterError e)
  | .error .valueError => .error .protocol
  | .error .fault => .error .unexpected
  | .ok raw => demand (model.read now raw) .protocol

def GanglionAdapter.health := GanglionAdapter.answer now healthModel false

def GanglionAdapter.plan := GanglionAdapter.answer now planModel false

def GanglionAdapter.execute (action : ActionDefinition) :=
  GanglionAdapter.answer now executionResult action.mutation

def GanglionAdapter.observe (action : ActionDefinition) :=
  GanglionAdapter.answer now observationModel action.mutation

def GanglionAdapter.verify := GanglionAdapter.answer now (verificationModel pydantic) false

def GanglionAdapter.cancel := GanglionAdapter.answer now cancellationModel false

/-- The adapter of the `wasm` tier. -/
def GanglionAdapter.lifecycle : (l : Lifecycle) → Except GanglionExn PyObject →
    Except HostRaise (l.model pydantic : ResultModel moments (l.Result moments)).Valid
  | .health, ran => GanglionAdapter.health now ran
  | .call (.plan ..), ran => GanglionAdapter.plan now ran
  | .call (.execute action _), ran => GanglionAdapter.execute now action ran
  | .call (.observe action _), ran => GanglionAdapter.observe now action ran
  | .call (.verify ..), ran => GanglionAdapter.verify pydantic now ran
  | .call (.cancel ..), ran => GanglionAdapter.cancel now ran

end Adapter

/-- How pydantic reads an action and a request out of a payload, and `str` of a value. -/
structure HostReads where
  str : PyJson → PyStr
  action : PyJson → Option ActionDefinition
  request : PyJson → Option ActionRequest
  str_str : ∀ s, str (.str s) = s

/-- The program `deckhand-wasm-host` and its plugin: `declares` says that an action equals the one
it contributes under that id; what its handshake and its status providers answer is not followed
here. -/
structure WasmHostPlugin (moments : Moments) where
  pluginId : PyStr
  brokerUid : Nat
  limit : FrameLimit
  adapters : List PyStr
  declares : ActionDefinition → Bool
  connection : GanglionConnection
  machine : Machine
  reads : HostReads
  now : moments.Moment
  handshake : Except HostRaise PyObject
  statusObserve : PyDict → Except HostRaise PyObject

namespace WasmHostPlugin
variable {moments : Moments} (py : Builtins) (pydantic : Pydantic) (host : WasmHostPlugin moments)

def ask (operation : HostOperation) (payload : PyDict) : Except GanglionExn PyObject :=
  GanglionClient.invoke host.connection host.machine operation payload

/-- `model_dump(mode="json")` of what an operation returned. -/
def reply {α : Type} {model : ResultModel moments α} (ran : Except HostRaise model.Valid) :
    Except HostRaise PyObject :=
  ran.map fun x => x.dump

/-- A part of the payload of `verify` and `cancel`, validated and dumped again. -/
def part {α : Type} (model : ResultModel moments α) (v : PyJson) : Except HostRaise PyJson := do
  let d ← demand v.members? .protocol
  let x ← demand (model.validate host.now d) .protocol
  return .obj (jsonMembers py (model.members x))

def serve (operation : HostOperation) (payload : PyDict) (action : ActionDefinition)
    (request : ActionRequest) : Except HostRaise PyObject :=
  let body := GanglionAdapter.requestPayload action request
  match operation with
  | .plan => reply (GanglionAdapter.plan host.now (host.ask .plan body))
  | .execute => reply (GanglionAdapter.execute host.now action (host.ask .execute body))
  | .observe => reply (GanglionAdapter.observe host.now action (host.ask .observe body))
  | .verify => do
    let execution ← demand (pyGet payload "execution") .protocol
    let execution ← host.part py executionResult execution
    let observation ← demand (pyGet payload "observation") .protocol
    let observation ← host.part py observationModel observation
    reply (GanglionAdapter.verify pydantic host.now (host.ask .verify
      (body ++ [(pyStr "execution", execution), (pyStr "observation", observation)])))
  | .cancel => do
    let execution ← match pyGet payload "execution" with
      | none => Except.ok PyJson.null
      | some .null => Except.ok PyJson.null
      | some v => host.part py executionResult v
    reply (GanglionAdapter.cancel host.now (host.ask .cancel
      (body ++ [(pyStr "execution", execution)])))
  | _ => .error .protocol

/-- `_invoke`: a missing member and an invalid one are violations of the protocol alike. -/
def invoke (operation : HostOperation) (payload : PyDict) : Except HostRaise PyObject :=
  match operation with
  | .handshake => host.handshake
  | .statusObserve => host.statusObserve payload
  | operation => do
    let adapter ← demand (pyGet payload "adapter") .protocol
    let name := host.reads.str adapter
    refuse (name ∉ host.adapters) .protocol
    if operation = .health then
      reply (GanglionAdapter.health host.now (host.ask .health []))
    else
      let action ← demand ((pyGet payload "action").bind host.reads.action) .protocol
      let request ← demand ((pyGet payload "request").bind host.reads.request) .protocol
      refuse (¬ (host.declares action = true ∧ pyStr action.adapter = name)) .protocol
      host.serve py pydantic operation payload action request

def server : WasmHostServer where
  pluginId := host.pluginId
  brokerUid := host.brokerUid
  limit := host.limit
  invoke := host.invoke py pydantic

end WasmHostPlugin

end Deckhand
