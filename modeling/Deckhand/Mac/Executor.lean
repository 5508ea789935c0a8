import Deckhand.Lib.Host
import Deckhand.Lib.Json

/-! The executor of the macOS agent: what each local action asks of the machine, and what it
answers. -/
namespace Deckhand
open Lib

inductive LocalAction where
  | appEnsureRunning | browserSessionOpen | shortcutRun
  | micMute | micUnmute | micToggle | micState
  | audioOutputSelect | audioInputSelect | audioState
  | focusSet | focusClear | focusState
  | pomodoroStart | pomodoroStop | pomodoroState
  | displayModeApply | displayState
  | sleepInhibitOn | sleepInhibitOff | sleepInhibitState
  | workspaceOpen
  | obsSceneSet | obsRecordStart | obsRecordStop | obsRecordState | obsSourceToggle | obsReplaySave
  | inputSelect | inputState | resetModifiers
  | appCommand
  deriving DecidableEq, Repr

def LocalAction.value : LocalAction → String
  | .appEnsureRunning => "mac.app.ensure_running"
  | .browserSessionOpen => "browser.session.open"
  | .shortcutRun => "mac.shortcut.run"
  | .micMute => "mac.mic.mute"
  | .micUnmute => "mac.mic.unmute"
  | .micToggle => "mac.mic.toggle"
  | .micState => "mac.mic.state"
  | .audioOutputSelect => "mac.audio.output_select"
  | .audioInputSelect => "mac.audio.input_select"
  | .audioState => "mac.audio.state"
  | .focusSet => "mac.focus.set"
  | .focusClear => "mac.focus.clear"
  | .focusState => "mac.focus.state"
  | .pomodoroStart => "mac.pomodoro.start"
  | .pomodoroStop => "mac.pomodoro.stop"
  | .pomodoroState => "mac.pomodoro.state"
  | .displayModeApply => "mac.display.mode_apply"
  | .displayState => "mac.display.state"
  | .sleepInhibitOn => "mac.sleep.inhibit_on"
  | .sleepInhibitOff => "mac.sleep.inhibit_off"
  | .sleepInhibitState => "mac.sleep.inhibit_state"
  | .workspaceOpen => "mac.workspace.open"
  | .obsSceneSet => "mac.obs.scene_set"
  | .obsRecordStart => "mac.obs.record_start"
  | .obsRecordStop => "mac.obs.record_stop"
  | .obsRecordState => "mac.obs.record_state"
  | .obsSourceToggle => "mac.obs.source_toggle"
  | .obsReplaySave => "mac.obs.replay_save"
  | .inputSelect => "mac.keyboard.input_select"
  | .inputState => "mac.keyboard.input_state"
  | .resetModifiers => "mac.keyboard.reset_modifiers"
  | .appCommand => "mac.app.command"

def noTargetActions : List LocalAction :=
  [.micMute, .micUnmute, .micToggle, .micState, .audioState, .focusClear, .focusState,
    .pomodoroStop, .pomodoroState, .displayState, .sleepInhibitOff, .sleepInhibitState,
    .obsRecordStart, .obsRecordStop, .obsRecordState, .obsReplaySave, .inputState, .resetModifiers]

def actionRequiresTarget (action : LocalAction) : Bool := action ∉ noTargetActions

/-- `^[a-z_][a-z0-9_-]{0,63}$` -/
def isAlias (s : String) : Bool :=
  match s.toList with
  | [] => false
  | c :: rest => (('a' ≤ c && c ≤ 'z') || c == '_') && rest.length ≤ 63 &&
      rest.all fun d => ('a' ≤ d && d ≤ 'z') || ('0' ≤ d && d ≤ '9') || d == '_' || d == '-'

structure LocalActionRequest where
  actionId : LocalAction
  target : String
  targetShaped : isAlias target = true

structure LocalActionResult where
  actionId : LocalAction
  target : String
  state : String
  verified : Bool
  details : List (String × String)
  deriving DecidableEq

structure AppCommand where
  bundleId : String
  keystroke : String
  deriving DecidableEq, Repr

structure ObsSettings where
  scenes : List (String × String) := []
  sources : List (String × String) := []

/-- Each table maps the aliases of the operator to what they stand for on this machine. -/
structure MacInventory where
  apps : List (String × String) := []
  browserSessions : List (String × String) := []
  shortcuts : List (String × String) := []
  audioInputs : List (String × String) := []
  audioOutputs : List (String × String) := []
  focusModes : List (String × String) := []
  pomodoroRoutines : List (String × String) := []
  displayModes : List (String × String) := []
  workspaces : List (String × String) := []
  inputSources : List (String × String) := []
  appCommands : List (String × AppCommand) := []
  obs : ObsSettings := {}

/-- `other` is any exception that no handler here catches. -/
inductive MacExn where
  | localActionError (message : String)
  | obsError (message : String)
  | other (message : String)
  deriving DecidableEq

/-- The decoded output of a process that has ended. -/
structure ProcessReply where
  returncode : Int
  stdout : String
  stderr : String

/-- What is asked of the machine: a process to run to its end, a request to OBS, a tool's path,
the home directory in a path, the variable that holds the caffeinate process, and what is done
with that process. -/
inductive MacOp where
  | subprocess (arguments : List String)
  | obsRequest (requestType : String) (data : Dict)
  | which (name : String)
  | expanduser (path : String)
  | caffeinateProcess
  | keepCaffeinate (process : Option Nat)
  | createSubprocess (arguments : List String)
  | returncode (process : Nat)
  | terminate (process : Nat)

abbrev MacOp.Reply : MacOp → Type
  | .subprocess _ => Except MacExn ProcessReply
  | .obsRequest .. => Except MacExn Json
  | .which _ => Option String
  | .expanduser _ => Except MacExn String
  | .caffeinateProcess => Option Nat
  | .keepCaffeinate _ => Unit
  | .createSubprocess _ => Except MacExn Nat
  | .returncode _ => Option Int
  | .terminate _ => Except MacExn Unit

abbrev Mac (α : Type) := Prog MacOp.Reply MacExn α

section Text

/-- The characters that `str.isspace` accepts. -/
def isSpaceChar (c : Char) : Bool :=
  let n := c.toNat
  (9 ≤ n && n ≤ 13) || (28 ≤ n && n ≤ 32) || (0x2000 ≤ n && n ≤ 0x200a) ||
    [0x85, 0xa0, 0x1680, 0x2028, 0x2029, 0x202f, 0x205f, 0x3000].contains n

def stripChars (l : List Char) : List Char :=
  ((l.dropWhile isSpaceChar).reverse.dropWhile isSpaceChar).reverse

def strip (s : String) : String := String.ofList (stripChars s.toList)

/-- The zero of every set of decimal digits in Unicode. -/
def digitZeros : List Nat :=
  [0x30, 0x660, 0x6f0, 0x7c0, 0x966, 0x9e6, 0xa66, 0xae6, 0xb66, 0xbe6, 0xc66, 0xce6, 0xd66, 0xde6,
    0xe50, 0xed0, 0xf20, 0x1040, 0x1090, 0x17e0, 0x1810, 0x1946, 0x19d0, 0x1a80, 0x1a90, 0x1b50,
    0x1bb0, 0x1c40, 0x1c50, 0xa620, 0xa8d0, 0xa900, 0xa9d0, 0xa9f0, 0xaa50, 0xabf0, 0xff10, 0x104a0,
    0x10d30, 0x11066, 0x110f0, 0x11136, 0x111d0, 0x112f0, 0x11450, 0x114d0, 0x11650, 0x116c0,
    0x11730, 0x118e0, 0x11950, 0x11c50, 0x11d50, 0x11da0, 0x11f50, 0x16a60, 0x16ac0, 0x16b50,
    0x1d7ce, 0x1d7d8, 0x1d7e2, 0x1d7ec, 0x1d7f6, 0x1e140, 0x1e2f0, 0x1e4f0, 0x1e950, 0x1fbf0]

def decimal (c : Char) : Option Nat :=
  digitZeros.findSome? fun first =>
    if first ≤ c.toNat ∧ c.toNat < first + 10 then some (c.toNat - first) else none

/-- Digits with single underscores between them; `value` is that of the digits before. -/
def readDigits : Nat → List Char → Option Nat
  | _, [] => none
  | value, c :: rest => do
    let d ← decimal c
    match rest with
    | [] => return value * 10 + d
    | '_' :: rest => readDigits (value * 10 + d) rest
    | e :: rest => readDigits (value * 10 + d) (e :: rest)

/-- `int(s)`, or none where it raises ValueError; a text of more than 4300 digits is refused. -/
def pyInt (s : String) : Option Int :=
  let read (l : List Char) : Option Int :=
    if 4300 < (l.filter fun c => c ≠ '_').length then none
    else (readDigits 0 l).map fun n => (n : Int)
  match stripChars s.toList with
  | '-' :: l => (read l).map fun n => -n
  | '+' :: l => read l
  | l => read l

end Text

section Values

/-- `bool(value)` -/
def truthy : Json → Bool
  | .null => false
  | .bool b => b
  | .int i => i ≠ 0
  | .float (.finite repr _) =>
    (repr.toList.takeWhile fun c => c ≠ 'e').any fun c => '1' ≤ c && c ≤ '9'
  | .float _ => true
  | .str s => !s.isEmpty
  | .arr items => !items.isEmpty
  | .obj members => !members.isEmpty

/-- `value.get(key, default)`, for a value that should be a dict. -/
def getOr (value : Json) (key : String) (default : Json) : Except MacExn Json :=
  match value with
  | .obj members => .ok ((Dict.get? members key).getD default)
  | _ => .error (.other "AttributeError")

/-- The elements a `for` loop goes through. -/
def iterate : Json → Except MacExn (List Json)
  | .arr items => .ok items
  | .obj members => .ok (members.map fun m => .str m.1)
  | .str s => .ok (s.map fun c => .str [c])
  | _ => .error (.other "TypeError")

end Values

def lookup {V : Type} (mapping : List (String × V)) (aliasName : String) : Mac V :=
  Prog.require (mapping.lookup aliasName)
    (.localActionError ("unknown local target alias '" ++ aliasName ++ "'"))

def run (arguments : List String) : Mac String := do
  let reply ← Prog.invoke (.subprocess arguments) id
  Prog.raiseIf (reply.returncode ≠ 0) (.localActionError ("local action failed with exit " ++
    toString reply.returncode ++ ": " ++ String.ofList (reply.stderr.toList.take 256)))
  return strip reply.stdout

def osascript (script : String) : Mac String := run ["/usr/bin/osascript", "-e", script]

def which (name : String) : Mac (Option String) := Prog.invoke (.which name) .ok

/-- `except LocalActionError` -/
def exceptLocal {α : Type} (body handler : Mac α) : Mac α :=
  body.tryCatch fun x => match x with
    | .localActionError _ => handler
    | x => .ret (.error x)

/-- `except ObsError` -/
def exceptObs {α : Type} (body : Mac α) (handler : String → Mac α) : Mac α :=
  body.tryCatch fun x => match x with
    | .obsError message => handler message
    | x => .ret (.error x)

/-- `except ObsError as error: raise LocalActionError(str(error))` -/
def asLocalError {α : Type} (body : Mac α) : Mac α :=
  exceptObs body fun message => .ret (.error (.localActionError message))

namespace ObsClient

def request (requestType : String) (data : Dict) : Mac Json :=
  Prog.invoke (.obsRequest requestType data) id

def setScene (scene : String) : Mac Unit := do
  let _ ← request "SetCurrentProgramScene" [("sceneName", .str scene)]

def record (start : Bool) : Mac Unit := do
  let _ ← request (bif start then "StartRecord" else "StopRecord") []

def recordState : Mac String := do
  let data ← request "GetRecordStatus" []
  let active ← Prog.lift (getOr data "outputActive" .null)
  return bif truthy active then "recording" else "idle"

def findItem (source : String) : List Json → Except MacExn (Option Json)
  | [] => .ok none
  | item :: rest => do
    let name ← getOr item "sourceName" .null
    match name with
    | .str s => if s = pyStr source then return some item else findItem source rest
    | _ => findItem source rest

def toggleSource (source : String) : Mac Bool := do
  let current ← request "GetCurrentProgramScene" []
  let scene ← Prog.lift (getOr current "currentProgramSceneName" .null)
  let items ← request "GetSceneItemList" [("sceneName", scene)]
  let sceneItems ← Prog.lift (getOr items "sceneItems" (.arr []))
  let elements ← Prog.lift (iterate sceneItems)
  let found ← Prog.lift (findItem source elements)
  let item ← Prog.require found
    (.obsError ("OBS source '" ++ source ++ "' not found in current scene"))
  let itemId ← Prog.lift (getOr item "sceneItemId" .null)
  let enabled ← Prog.lift (getOr item "sceneItemEnabled" (.bool true))
  let newState := !truthy enabled
  let _ ← request "SetSceneItemEnabled"
    [("sceneName", scene), ("sceneItemId", itemId), ("sceneItemEnabled", .bool newState)]
  return newState

def saveReplay : Mac Unit := do
  let _ ← request "SaveReplayBuffer" []

end ObsClient

/-- `[A-Za-z0-9.-]+` -/
def isBundleId (s : String) : Bool :=
  !s.toList.isEmpty && s.toList.all fun c =>
    ('A' ≤ c && c ≤ 'Z') || ('a' ≤ c && c ≤ 'z') || ('0' ≤ c && c ≤ '9') || c == '.' || c == '-'

def ok (request : LocalActionRequest) (state : String) (verified : Bool)
    (details : List (String × String)) : LocalActionResult where
  actionId := request.actionId
  target := request.target
  state := state
  verified := verified
  details := details

abbrev Handler := MacInventory → LocalActionRequest → Mac LocalActionResult

namespace MacExecutor
variable (inventory : MacInventory) (request : LocalActionRequest)

section Apps

def applicationRunning (bundleId : String) : Mac Bool := do
  Prog.raiseIf (isBundleId bundleId = false) (.localActionError "invalid bundle identifier")
  exceptLocal
    (do
      let result ← osascript ("application id \"" ++ bundleId ++ "\" is running")
      return (strip result).toLower == "true")
    (pure false)

def appEnsureRunning : Mac LocalActionResult := do
  let bundleId ← lookup inventory.apps request.target
  let _ ← run ["/usr/bin/open", "-b", bundleId]
  let running ← applicationRunning bundleId
  return ok request (bif running then "running" else "unknown") running [("bundle_id", bundleId)]

/-- An alias is turned into a process, and nothing of the process is reported but that it
ended well. -/
def runAliased (mapping : List (String × String)) (arguments : String → List String)
    (state : String) (verified : Bool) (details : String → List (String × String)) :
    Mac LocalActionResult := do
  let value ← lookup mapping request.target
  let _ ← run (arguments value)
  return ok request state verified (details value)

def runShortcut (shortcut : String) : List String := ["/usr/bin/shortcuts", "run", shortcut]

def browserSessionOpen : Mac LocalActionResult :=
  runAliased request inventory.browserSessions (fun url => ["/usr/bin/open", url])
    "requested" false fun _ => []

def shortcutRun : Mac LocalActionResult :=
  runAliased request inventory.shortcuts runShortcut "completed" true fun _ => []

def workspaceOpen : Mac LocalActionResult := do
  let path ← lookup inventory.workspaces request.target
  let expanded ← Prog.invoke (.expanduser path) id
  let _ ← run ["/usr/bin/open", expanded]
  return ok request "requested" false [("path", expanded)]

end Apps

section Audio

def micQuery : Mac String := do
  let level ← osascript "input volume of (get volume settings)"
  return (pyInt level).elim "unknown" fun n => if n = 0 then "muted" else "live"

def micSet (muted : Bool) : Mac LocalActionResult := do
  let _ ← osascript ("set volume input volume " ++ bif muted then "0" else "75")
  let state ← micQuery
  return ok request state (state == bif muted then "muted" else "live") []

def micMute : Mac LocalActionResult := micSet request true

def micUnmute : Mac LocalActionResult := micSet request false

def micToggle : Mac LocalActionResult := do
  let current ← micQuery
  micSet request (current != "muted")

def micState : Mac LocalActionResult := do
  let state ← micQuery
  return ok request state true []

def setAudioDevice (device : String) (output : Bool) : Mac Unit := do
  let found ← which "SwitchAudioSource"
  let tool ← Prog.require found (.localActionError
    "audio device switching requires SwitchAudioSource (brew install switchaudio-osx)")
  let _ ← run [tool, "-t", bif output then "output" else "input", "-s", device]

def audioSelect (mapping : List (String × String)) (output : Bool) : Mac LocalActionResult := do
  let device ← lookup mapping request.target
  setAudioDevice device output
  return ok request "selected" true [("device", device)]

def audioOutputSelect : Mac LocalActionResult := audioSelect request inventory.audioOutputs true

def audioInputSelect : Mac LocalActionResult := audioSelect request inventory.audioInputs false

def audioState : Mac LocalActionResult := do
  let found ← which "SwitchAudioSource"
  match found with
  | none => return ok request "unknown" false [("reason", "SwitchAudioSource absent")]
  | some tool =>
    let out ← run [tool, "-t", "output", "-c"]
    let inp ← run [tool, "-t", "input", "-c"]
    return ok request "ok" true [("output", out), ("input", inp)]

end Audio

section Focus

def focusSet : Mac LocalActionResult :=
  runAliased request inventory.focusModes runShortcut "set" false fun shortcut =>
    [("mode", shortcut)]

def focusClear : Mac LocalActionResult := do
  let shortcut ← Prog.require (inventory.focusModes.lookup "_clear")
    (.localActionError "no '_clear' focus alias configured")
  let _ ← run (runShortcut shortcut)
  return ok request "cleared" false []

def focusState : Mac LocalActionResult := return ok request "unknown" false []

def pomodoroStart : Mac LocalActionResult :=
  runAliased request inventory.pomodoroRoutines runShortcut "started" false fun shortcut =>
    [("routine", shortcut)]

def pomodoroStop : Mac LocalActionResult := do
  match inventory.pomodoroRoutines.lookup "_stop" with
  | some shortcut =>
    let _ ← run (runShortcut shortcut)
    return ok request "stopped" false []
  | none => return ok request "stopped" false []

def pomodoroState : Mac LocalActionResult := return ok request "unknown" false []

end Focus

section Displays

def displayModeApply : Mac LocalActionResult :=
  runAliased request inventory.displayModes runShortcut "applied" false fun shortcut =>
    [("mode", shortcut)]

def displayState : Mac LocalActionResult := do
  let count ← osascript "tell application \"System Events\" to count of desktops"
  return ok request "ok" true [("displays", count)]

def caffeinating : Mac (Option Nat) := do
  let held ← Prog.invoke .caffeinateProcess .ok
  match held with
  | none => return none
  | some process =>
    let returncode ← Prog.invoke (.returncode process) .ok
    return returncode.elim (some process) fun _ => none

def sleepInhibitOn : Mac LocalActionResult := do
  let active ← caffeinating
  match active with
  | some _ => return ok request "inhibited" true []
  | none =>
    let process ← Prog.invoke (.createSubprocess ["/usr/bin/caffeinate", "-di"]) id
    let _ ← Prog.invoke (.keepCaffeinate (some process)) .ok
    return ok request "inhibited" true []

def sleepInhibitOff : Mac LocalActionResult := do
  let active ← caffeinating
  match active with
  | none => return ok request "released" true []
  | some process =>
    let _ ← Prog.invoke (.terminate process) id
    let _ ← Prog.invoke (.keepCaffeinate none) .ok
    return ok request "released" true []

def sleepInhibitState : Mac LocalActionResult := do
  let active ← caffeinating
  return ok request (active.elim "released" fun _ => "inhibited") true []

end Displays

section Obs

def obsSceneSet : Mac LocalActionResult := do
  let scene ← lookup inventory.obs.scenes request.target
  asLocalError (ObsClient.setScene scene)
  return ok request "set" true [("scene", scene)]

def obsRecord (start : Bool) : Mac String :=
  asLocalError do
    ObsClient.record start
    ObsClient.recordState

def obsRecordStart : Mac LocalActionResult := do
  let state ← obsRecord true
  return ok request state (state == "recording") []

def obsRecordStop : Mac LocalActionResult := do
  let state ← obsRecord false
  return ok request state (state != "recording") []

def obsRecordState : Mac LocalActionResult :=
  exceptObs
    (do
      let state ← ObsClient.recordState
      return ok request state true [])
    fun message => pure (ok request "unknown" false [("reason", message)])

def obsSourceToggle : Mac LocalActionResult := do
  let source ← lookup inventory.obs.sources request.target
  let visible ← asLocalError (ObsClient.toggleSource source)
  return ok request (bif visible then "visible" else "hidden") true [("source", source)]

def obsReplaySave : Mac LocalActionResult := do
  asLocalError ObsClient.saveReplay
  return ok request "saved" true []

end Obs

section Keyboard

def inputSelect : Mac LocalActionResult :=
  runAliased request inventory.inputSources runShortcut "requested" false fun shortcut =>
    [("source", shortcut)]

def inputScript : String :=
  "tell application \"System Events\" to tell process \"SystemUIServer\" " ++
    "to get the value of the first menu bar item of menu bar 1 whose " ++
    "description is \"text input\""

/-- An empty name is answered as an unreadable one. -/
def inputState : Mac LocalActionResult := do
  let name ← exceptLocal (osascript inputScript) (pure "")
  let name := strip name
  if name = "" then return ok request "unknown" false []
  return ok request "ok" false [("source", name)]

def resetModifiers : Mac LocalActionResult := do
  let _ ← osascript
    "tell application \"System Events\" to key up \x7bcommand, option, control, shift\x7d"
  return ok request "reset" true []

def appCommand : Mac LocalActionResult := do
  let command ← lookup inventory.appCommands request.target
  let bundleId := command.bundleId
  Prog.raiseIf (isBundleId bundleId = false) (.localActionError "invalid bundle identifier")
  let _ ← osascript ("tell application id \"" ++ bundleId ++ "\" to activate")
  let _ ← osascript ("tell application \"System Events\" to tell " ++
    "(first process whose frontmost is true) to " ++ command.keystroke)
  return ok request "requested" false [("bundle_id", bundleId)]

end Keyboard

def handlers : List (LocalAction × Handler) :=
  [(.appEnsureRunning, appEnsureRunning), (.browserSessionOpen, browserSessionOpen),
    (.shortcutRun, shortcutRun), (.workspaceOpen, workspaceOpen),
    (.micMute, fun _ => micMute), (.micUnmute, fun _ => micUnmute),
    (.micToggle, fun _ => micToggle), (.micState, fun _ => micState),
    (.audioOutputSelect, audioOutputSelect), (.audioInputSelect, audioInputSelect),
    (.audioState, fun _ => audioState),
    (.focusSet, focusSet), (.focusClear, focusClear), (.focusState, fun _ => focusState),
    (.pomodoroStart, pomodoroStart), (.pomodoroStop, pomodoroStop),
    (.pomodoroState, fun _ => pomodoroState),
    (.displayModeApply, displayModeApply), (.displayState, fun _ => displayState),
    (.sleepInhibitOn, fun _ => sleepInhibitOn), (.sleepInhibitOff, fun _ => sleepInhibitOff),
    (.sleepInhibitState, fun _ => sleepInhibitState),
    (.obsSceneSet, obsSceneSet), (.obsRecordStart, fun _ => obsRecordStart),
    (.obsRecordStop, fun _ => obsRecordStop), (.obsRecordState, fun _ => obsRecordState),
    (.obsSourceToggle, obsSourceToggle), (.obsReplaySave, fun _ => obsReplaySave),
    (.inputSelect, inputSelect), (.inputState, fun _ => inputState),
    (.resetModifiers, fun _ => resetModifiers), (.appCommand, appCommand)]

def execute : Mac LocalActionResult := do
  let action := request.actionId
  let handler ← Prog.require (handlers.lookup action)
    (.localActionError ("unsupported action " ++ action.value))
  Prog.raiseIf (actionRequiresTarget action = true ∧ request.target = "_")
    (.localActionError ("action " ++ action.value ++ " requires a target alias"))
  handler inventory request

end MacExecutor
end Deckhand
