import Deckhand.Lib.Wp
import Deckhand.Resilience

/-! The status aggregator: the observation of each domain through the guard of its plugin, and
the summary that gathers them. -/
namespace Deckhand
open Lib Lib.Prog

structure StatusValue where
  state : PyStr
  observedAt : Timestamp
  staleAfterSeconds : Nat
  details : Details

structure ResilienceSnapshot where
  state : CircuitState
  consecutiveFailures : Nat
  retryAfterSeconds : Option Rat
  maxConcurrency : Nat
  requestsPerSecond : Rat

def GuardState.snapshot (p : ResiliencePolicy) (now : Rat) (g : GuardState) :
    ResilienceSnapshot where
  state := g.state
  consecutiveFailures := g.consecutiveFailures
  retryAfterSeconds :=
    if g.state = .open then g.openedAt.map fun openedAt =>
      max 0 (p.recoverySeconds - (now - openedAt))
    else none
  maxConcurrency := p.maxConcurrency
  requestsPerSecond := p.requestsPerSecond

/-- `model_dump(mode="json")`; `number` is what a float becomes. -/
def ResilienceSnapshot.modelDump (number : Rat → Json) (s : ResilienceSnapshot) : Json :=
  .obj [("state", .str s.state.value), ("consecutive_failures", .int s.consecutiveFailures),
    ("retry_after_seconds", s.retryAfterSeconds.elim .null number),
    ("max_concurrency", .int s.maxConcurrency), ("requests_per_second", number s.requestsPerSecond)]

/-- What a provider returns: a status value, or a value of any other type. -/
inductive Observed (F : Type) where
  | status (value : StatusValue)
  | foreign (value : F)

/-- The steps of an observation that others can run between. `modelCopy` is what a value that is
no status value does when it is asked for its details and its copy. -/
inductive StatusOp (F : Type) where
  | guard (step : GuardOp)
  | observe
  | snapshot
  | modelCopy (value : F) (snapshot : ResilienceSnapshot)
  | datetimeNow

abbrev StatusOp.Ret {F : Type} : StatusOp F → Type
  | .guard step => step.Ret
  | .observe => Except AdapterExn (Observed F)
  | .snapshot => ResilienceSnapshot
  | .modelCopy .. => Except AdapterExn (Observed F)
  | .datetimeNow => Timestamp

abbrev Observing (F α : Type) := Prog (@StatusOp.Ret F) AdapterExn α

abbrev Observation (F : Type) := Observing F (Observed F)

section Aggregator
variable {F : Type}

def statusSteps : GuardSteps (@StatusOp.Ret F) where
  during progress step := invoke (.guard step) fun r => r.mapError fun x => (progress, x)
  releaseSlot := invoke (.guard .releaseSlot) id

def observeStatus : Prog (@StatusOp.Ret F) (Progress × AdapterExn) (Observed F) :=
  invoke .observe fun r => r.mapError fun x => (⟨true, true⟩, x)

def ResilientStatusProvider.observe (number : Rat → Json) (rounds : Nat) :
    Observing F (Observed F) := do
  let value ← statusSteps.call observeStatus false rounds
  let snapshot ← invoke .snapshot .ok
  match value with
  | .status value =>
    return .status
      { value with details := value.details.set "resilience" (snapshot.modelDump number) }
  | .foreign value => invoke (.modelCopy value snapshot) id

namespace StatusAggregator

def unconfigured (now : Timestamp) : StatusValue :=
  ⟨"unconfigured", now, 1, [("configuration_required", .json (.bool true))]⟩

def unavailable (now : Timestamp) (error : AdapterError) (errorCode : String) : StatusValue :=
  ⟨"unavailable", now, 1,
    (Details.set error.details "error_code" (.str errorCode)).set "retry" (.str error.retry.value)⟩

def domain (provider : Option (Observation F)) : Observing F (Observed F) :=
  match provider with
  | none => do
    let now ← invoke .datetimeNow .ok
    return .status (unconfigured now)
  | some observe => tryCatch observe fun
    | .adapterError error => do
      let errorCode ← require error.kind.value (.other "no attribute 'value'")
      let now ← invoke .datetimeNow .ok
      return .status (unavailable now error errorCode)
    | x => throw x

end StatusAggregator

/-- What the outside contributes to a step: the clock, whether a wait ended or passed its
deadline, what a provider did, the time of day. -/
inductive StatusNote (F : Type) where
  | clock (now : Rat)
  | wait (finished : Bool)
  | outcome (r : Except AdapterExn (Observed F))
  | stamp (now : Timestamp)

def GuardOp.noted : (step : GuardOp) → StatusNote F → Option step.Note
  | .enterCircuit, .clock now | .takeToken, .clock now | .recordSuccess, .clock now
  | .recordFailure _, .clock now | .recordCancellation, .clock now | .releaseSlot, .clock now =>
    some now
  | .sleep, .wait finished | .acquireSlot, .wait finished =>
    some (if finished then .finished else .pastDeadline)
  | _, _ => none

def StatusOp.run (p : ResiliencePolicy) (g : GuardState) :
    (op : StatusOp F) → StatusNote F → Option (op.Ret × GuardState)
  | .guard step, note => (step.noted note).bind fun note => step.run p g note
  | .observe, .outcome r => some (r, g)
  | .snapshot, .clock now => some (g.snapshot p now, g)
  | .modelCopy .., .outcome r => some (r, g)
  | .datetimeNow, .stamp now => some (now, g)
  | _, _ => none

end Aggregator

/-- The registered providers, each with its plugin, and how the plugins are guarded. -/
structure StatusRegistry where
  providers : List (String × String)
  distinct : (providers.map Prod.fst).Nodup
  policy : String → ResiliencePolicy
  rounds : String → Nat
  number : Rat → Json

def StatusRegistry.plugin? (c : StatusRegistry) (name : String) : Option String :=
  (c.providers.find? fun x => x.1 = name).map Prod.snd

/-- `sorted(self.providers)` -/
def StatusRegistry.names (c : StatusRegistry) : List String :=
  (c.providers.map Prod.fst).insertionSort (· ≤ ·)

/-- The guards of the plugins and the observations that are gathered, and the first exception
that one of these raised. -/
structure Hub (F : Type) where
  guards : String → GuardState
  tasks : String → Observation F
  raised : Option AdapterExn

/-- An observation goes on, or someone else uses the guard of a plugin. -/
inductive StatusAct (F : Type) where
  | step (name : String) (note : StatusNote F)
  | others (plugin : String) (guard : GuardState)

section Hub
variable {F : Type} (c : StatusRegistry)

def raisedBy : Observation F → Option AdapterExn
  | .ret (.error x) => some x
  | _ => none

def Hub.start (guards : String → GuardState) : Hub F where
  guards := guards
  tasks name :=
    StatusAggregator.domain (some (ResilientStatusProvider.observe c.number (c.rounds name)))
  raised := none

def StatusAct.run : StatusAct F → Hub F → Option (Hub F)
  | .others plugin guard, h => some { h with guards := Function.update h.guards plugin guard }
  | .step name note, h =>
    match c.plugin? name, h.tasks name with
    | some plugin, .call op k =>
      (op.run (c.policy plugin) (h.guards plugin) note).map fun (r, guard) =>
        { guards := Function.update h.guards plugin guard
          tasks := Function.update h.tasks name (k r)
          raised := h.raised.or (raisedBy (k r)) }
    | _, _ => none

def Hub.valued (h : Hub F) (name : String) : Option (String × Observed F) :=
  match h.tasks name with
  | .ret (.ok value) => some (name, value)
  | _ => none

def Hub.summary (h : Hub F) : Option (Except AdapterExn (List (String × Observed F))) :=
  match h.raised with
  | some x => some (.error x)
  | none => (c.names.mapM h.valued).map .ok

abbrev StatusEvent (F : Type) := Event (Hub F) (fun _ : StatusAct F => Unit) fun _ => Unit

def statusSem : Semantics (Hub F) (fun _ : StatusAct F => Unit) fun _ => Unit :=
  fun act h _ _ h' => act.run c h = some h'

end Hub
end Deckhand
