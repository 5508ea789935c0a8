import Deckhand.StreamDeck.TypedAction

/-! The Stream Deck status tile: a refresh for every event of a key, and the timer that each
refresh of an appearance or of new settings starts when it is over. -/
namespace Deckhand.StreamDeck
open Lib

structure StatusSettings where
  brokerUrl : Option String
  identityUrl : Option String
  domain : Option String
  label : Option String
  deriving DecidableEq

structure StatusValue where
  state : String
  observedAt : String
  staleAfterSeconds : Int

/-- What a refresh waits for: the broker's answer, the image of it, the image that stands for a
failure, or the image that asks for a domain. -/
inductive RefreshPhase where
  | status
  | drawing
  | offline
  | config
  | ended
  deriving DecidableEq

/-- A call of `refresh`. One of an appearance or of new settings starts the timer. -/
structure Refresh where
  key : String
  settings : StatusSettings
  starts : Bool
  phase : RefreshPhase

/-- An interval that runs: `setInterval` started it and `clearInterval` did not end it. -/
structure Interval where
  handle : Nat
  key : String
  settings : StatusSettings

structure Tiles where
  timers : String → Option Nat
  intervals : List Interval
  handles : Nat
  refreshes : List Refresh

inductive TileAct where
  | willAppear (key : String) (settings : StatusSettings)
  | willDisappear (key : String)
  | didReceiveSettings (key : String) (settings : StatusSettings)
  | keyDown (key : String) (settings : StatusSettings)
  | interval (handle : Nat)
  | statusAnswer (task : Nat) (value : Option StatusValue)
  | drawn (task : Nat) (shown : Bool)

namespace Tiles

def start : Tiles := ⟨fun _ => none, [], 0, []⟩

def clearInterval (handle : Option Nat) (d : Tiles) : Tiles :=
  { d with intervals := d.intervals.filter fun i => some i.handle ≠ handle }

def setTimer (key : String) (handle : Option Nat) (d : Tiles) : Tiles :=
  { d with timers := fun k => if k = key then handle else d.timers k }

def setInterval (key : String) (settings : StatusSettings) (d : Tiles) : Tiles :=
  { d with intervals := d.intervals ++ [⟨d.handles, key, settings⟩], handles := d.handles + 1 }

def startTimer (key : String) (settings : StatusSettings) (d : Tiles) : Tiles :=
  let existing := d.timers key
  ((d.clearInterval existing).setInterval key settings).setTimer key (some d.handles)

def onWillDisappear (key : String) (d : Tiles) : Tiles :=
  (d.clearInterval (d.timers key)).setTimer key none

def enter (task : Nat) (refresh : Refresh) (phase : RefreshPhase) (d : Tiles) : Tiles :=
  { d with refreshes := d.refreshes.set task { refresh with phase } }

def finish (task : Nat) (refresh : Refresh) (d : Tiles) : Tiles :=
  let d := d.enter task refresh .ended
  if refresh.starts then d.startTimer refresh.key refresh.settings else d

def beginRefresh (key : String) (settings : StatusSettings) (starts : Bool) (d : Tiles) :
    List (String × Picture) × Tiles :=
  match given settings.domain with
  | none =>
    ([(key, ⟨.offline, "CONFIG", ""⟩)],
      { d with refreshes := d.refreshes ++ [⟨key, settings, starts, .config⟩] })
  | some _ => ([], { d with refreshes := d.refreshes ++ [⟨key, settings, starts, .status⟩] })

def showOffline (task : Nat) (refresh : Refresh) (d : Tiles) : List (String × Picture) × Tiles :=
  let label := refresh.settings.label.getD (refresh.settings.domain.getD "")
  ([(refresh.key, ⟨.offline, label, "OFFLINE"⟩)], d.enter task refresh .offline)

end Tiles

section Step
variable (dateParse : String → Option Int)

/-- What happens at an instant: an event of a key, an interval that is due, or something a
refresh waits for is over. A status that could not be had or not be drawn is none. -/
def tileStep (now : Int) (act : TileAct) (d : Tiles) :
    Option (List (String × Picture) × Tiles) :=
  match act with
  | .willAppear key settings | .didReceiveSettings key settings =>
    some (d.beginRefresh key settings true)
  | .keyDown key settings => some (d.beginRefresh key settings false)
  | .willDisappear key => some ([], d.onWillDisappear key)
  | .interval handle =>
    match d.intervals.find? fun i => i.handle = handle with
    | some i => some (d.beginRefresh i.key i.settings false)
    | none => none
  | .statusAnswer task value =>
    match d.refreshes[task]? with
    | some refresh =>
      if refresh.phase = .status then
        match value with
        | some value =>
          let visual := statusVisual dateParse now value.state value.observedAt
            value.staleAfterSeconds
          let label := refresh.settings.label.getD (refresh.settings.domain.getD "")
          some ([(refresh.key, ⟨visual, label, value.state⟩)], d.enter task refresh .drawing)
        | none => some (d.showOffline task refresh)
      else none
    | none => none
  | .drawn task shown =>
    match d.refreshes[task]? with
    | some refresh =>
      match refresh.phase, shown with
      | .drawing, true | .offline, true | .config, true => some ([], d.finish task refresh)
      | .drawing, false => some (d.showOffline task refresh)
      | .offline, false | .config, false => some ([], d.enter task refresh .ended)
      | _, _ => none
    | none => none

abbrev TileEvent := Event Tiles (fun _ : TileAct => Int) fun _ => List (String × Picture)

def tileSem : Semantics Tiles (fun _ : TileAct => Int) fun _ => List (String × Picture) :=
  fun act d now out d' => tileStep dateParse now act d = some (out, d')

end Step
end Deckhand.StreamDeck
