import Deckhand.Resilience
import Deckhand.Wasm.Ganglion

namespace Deckhand
open Lib

structure WasmHostClient where
  pluginId : PyStr
  limit : FrameLimit
  identified : pluginIdPattern pluginId = true

/-- How the bytes end that come back: the peer closes, the connection is lost with an error, or
nothing more comes until the guard's deadline. -/
inductive StreamEnd where
  | closed | reset | silent

structure HostReply where
  chunks : List (List UInt8)
  ending : StreamEnd

/-- What `call` raises: its own `HostTransportError`, the adapter error that the host tells of, or
whatever nothing in it catches. -/
inductive CallExn where
  | transport (e : AdapterError)
  | adapterError (e : AdapterError)
  | raw (x : AdapterExn)

def protocolFailed : AdapterError where
  message := "host protocol validation failed"
  kind := .member .protocol

def schemaFailed : AdapterError where
  message := "host response failed schema validation"
  kind := .member .protocol

def hostUnavailable : AdapterError where
  message := "host is unavailable"
  kind := .member .unavailable
  retry := .safe

def WasmHostClient.request (client : WasmHostClient) (id : Uuid) (operation : HostOperation)
    (payload : PyDict) : HostRequest where
  protocolVersion := hostProtocolVersion
  requestId := id
  pluginId := client.pluginId
  operation := operation
  payload := payload
  identified := client.identified

def loadMessage : LoadError → String
  | .recursion => "RecursionError"
  | _ => "ValueError"

/-- What `call` makes of what `_unwrap` raises. -/
def caught : Except ClientExn PyDict → Except CallExn PyDict
  | .ok result => .ok result
  | .error (.protocol _) => .error (.transport protocolFailed)
  | .error (.adapterError e) => .error (.adapterError e)

section
variable (py : Builtins) (pydantic : Pydantic)

/-- The part of `call` that waits for the response. -/
def receive (limit : FrameLimit) (request : HostRequest) (reply : HostReply) :
    Except CallExn PyDict :=
  match readFrame py limit reply.chunks with
  | .error (.protocol _) => .error (.transport protocolFailed)
  -- nothing catches what the JSON decoder raises
  | .error (.load e) => .error (.raw (.other (loadMessage e)))
  | .error .incompleteRead =>
    match reply.ending with
    | .silent => .error (.raw .timeoutError)
    | _ => .error (.transport hostUnavailable)
  | .ok raw =>
    match HostResponse.modelValidate pydantic raw with
    | none => .error (.transport schemaFailed)
    | some response => caught (unwrap py request response)

/-- `finally`: `wait_closed` raises the error that the connection was lost with. -/
def closeWriter (reply : HostReply) (ended : Except CallExn PyDict) : Except CallExn PyDict :=
  match reply.ending with
  | .reset => .error (.raw (.other "ConnectionResetError"))
  | _ => ended

/-- `host` is what comes back for a frame. -/
def WasmHostClient.call (client : WasmHostClient) (id : Uuid) (operation : HostOperation)
    (payload : PyDict) (host : List UInt8 → HostReply) : Except CallExn PyDict :=
  match validatePublicJson py 0 (.obj payload) with
  | .error _ => .error (.raw (.other "HostProtocolError"))
  | .ok () =>
    let request := client.request id operation payload
    match encodeFrame py client.limit request.modelDump with
    | .error (.protocol _) => .error (.transport protocolFailed)
    | .error .serialization => .error (.raw (.other "PydanticSerializationError"))
    | .ok frame => closeWriter (host frame) (receive py pydantic client.limit request (host frame))

/-- `_model`, for an execution. -/
def executionModel (called : Except CallExn PyDict) : Except CallExn PyExecution :=
  match called with
  | .error x => .error x
  | .ok result =>
    match PyExecution.modelValidate result with
    | some execution => .ok execution
    | none => .error (.transport {
        message := "host execute result failed schema validation"
        kind := .member .protocol })

/-- `_raise_unknown_for_mutation` -/
def unknownForMutation (action : ActionDefinition) (ended : Except CallExn PyExecution) :
    Except AdapterExn PyExecution :=
  match ended with
  | .ok execution => .ok execution
  | .error (.transport e) =>
    if action.mutation then
      .error (.adapterError (.unknownOutcome "host transport failed during mutation" []))
    else .error (.adapterError e)
  | .error (.adapterError e) => .error (.adapterError e)
  | .error (.raw x) => .error x

def WasmHostAdapter.execute (client : WasmHostClient) (adapterId : String) (id : Uuid)
    (action : ActionDefinition) (request : ActionRequest) (host : List UInt8 → HostReply) :
    Except AdapterExn PyExecution :=
  match actionPayload py adapterId action request with
  | .error _ => .error (.other "HostProtocolError")
  | .ok payload =>
    unknownForMutation action (executionModel (client.call py pydantic id .execute payload host))

end

/-- What the guard passes on of a call that was started. -/
def throughGuard (action : ActionDefinition) (ended : Except AdapterExn PyExecution) :
    Except AdapterExn PyExecution :=
  ended.mapError fun x => ResilienceGuard.surfaced action.mutation (⟨true, true⟩, x)

end Deckhand
