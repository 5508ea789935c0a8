import Mathlib.Algebra.Order.Ring.Unbundled.Rat
import Deckhand.Lib.Prog
import Deckhand.Adapters

/-! The guard around a plugin: its circuit, its rate limit, its slots, and what it makes of a
plugin's exceptions. Time is rational. A call of the guard is a program; what other calls do
to the guard between two of its steps is in the states of its events. -/
namespace Deckhand
open Lib Lib.Prog

inductive CircuitState where
  | closed | open | halfOpen
  deriving DecidableEq, Repr

def CircuitState.value : CircuitState → String
  | .closed => "closed"
  | .open => "open"
  | .halfOpen => "half_open"

structure ResiliencePolicy where
  maxConcurrency : Nat
  requestsPerSecond : Rat
  burst : Nat
  failureThreshold : Nat
  recoverySeconds : Rat

def transientFailures : List AdapterErrorKind :=
  [.rateLimited, .unavailable, .timeout, .protocol, .unexpected]

structure GuardState where
  permits : Nat
  tokens : Rat
  lastRefill : Rat
  state : CircuitState := .closed
  consecutiveFailures : Nat := 0
  openedAt : Option Rat := none
  halfOpenProbeActive : Bool := false

def ResiliencePolicy.start (p : ResiliencePolicy) (now : Rat) : GuardState where
  permits := p.maxConcurrency
  tokens := p.burst
  lastRefill := now

def circuitError (message : String) (state : CircuitState) : AdapterError where
  message := message
  kind := .member .unavailable
  retry := .safe
  details := [("circuit_state", .json (.str state.value))]

/-- What the circuit itself turns a call away with. -/
def circuitRefusals : List AdapterError :=
  [circuitError "plugin circuit is open" .open,
    circuitError "plugin circuit recovery probe is already running" .halfOpen]

/-- The error already says that a circuit is open. -/
def AdapterError.fromCircuit (e : AdapterError) : Bool :=
  match e.details.get? "circuit_state" with
  | none => false
  | some (.json .null) => false
  | some _ => true

/-- `kind in TRANSIENT_FAILURES`, which raises for a kind that has no hash. -/
def ErrorKind.transient : ErrorKind → Option Bool
  | .member kind => some (decide (kind ∈ transientFailures))
  | .foreign transient _ => transient

namespace GuardState
variable (p : ResiliencePolicy) (now : Rat) (g : GuardState)

def closed : GuardState :=
  { g with state := .closed, consecutiveFailures := 0, openedAt := none,
           halfOpenProbeActive := false }

def opened : GuardState :=
  { g with state := .open, openedAt := some now, halfOpenProbeActive := false }

def probe : Except AdapterError Unit × GuardState :=
  if g.halfOpenProbeActive then
    (.error (circuitError "plugin circuit recovery probe is already running" .halfOpen), g)
  else (.ok (), { g with halfOpenProbeActive := true })

def enterCircuit : Except AdapterError Unit × GuardState :=
  match g.state with
  | .closed => (.ok (), g)
  | .halfOpen => g.probe
  | .open =>
    let openedAt := g.openedAt.getD now
    if now - openedAt < p.recoverySeconds then
      (.error (circuitError "plugin circuit is open" .open), { g with openedAt := some openedAt })
    else
      { g with openedAt := some openedAt, state := .halfOpen, halfOpenProbeActive := false }.probe

def takeToken : Bool × GuardState :=
  let tokens := min (p.burst : Rat) (g.tokens + (now - g.lastRefill) * p.requestsPerSecond)
  if 1 ≤ tokens then (true, { g with tokens := tokens - 1, lastRefill := now })
  else (false, { g with tokens := tokens, lastRefill := now })

def countFailure : GuardState :=
  if g.state = .halfOpen ∨ p.failureThreshold ≤ g.consecutiveFailures + 1 then
    { g with consecutiveFailures := g.consecutiveFailures + 1 }.opened now
  else { g with consecutiveFailures := g.consecutiveFailures + 1 }

/-- `none` is the `TypeError` of a kind that has no hash. -/
def recordFailure (error : AdapterError) : Option GuardState :=
  if error.fromCircuit then some g
  else error.kind.transient.map fun transient =>
    if transient then g.countFailure p now
    else if g.state = .halfOpen then g.closed else g

def recordCancellation : GuardState := if g.state = .halfOpen then g.opened now else g

end GuardState

/-- The steps of a call that others can run between. `factory` is the plugin's own operation. -/
inductive GuardOp where
  | enterCircuit
  | takeToken
  | sleep
  | acquireSlot
  | factory (op : AdapterOp)
  | recordSuccess
  | recordFailure (error : AdapterError)
  | recordCancellation
  | releaseSlot

abbrev GuardOp.Value : GuardOp → Type
  | .takeToken => Bool
  | .factory op => op.Value
  | _ => Unit

abbrev GuardOp.Ret (op : GuardOp) : Type := Except AdapterExn op.Value

/-- How a wait ends: with what it was for, or interrupted. -/
inductive Wait where
  | finished | cancelled | pastDeadline
  deriving DecidableEq, Repr

def Wait.ended : Wait → Except AdapterExn Unit
  | .finished => .ok ()
  | .cancelled => .error .cancelledError
  | .pastDeadline => .error .timeoutError

/-- What asking for a kind without a hash among others raises. -/
def unhashable : AdapterExn := .other "unhashable type"

/-- What the plugin does is whatever it does: return, raise, or be interrupted. The lock is
never held across a wait, so a step under it waits for nothing and only reads the clock. -/
abbrev GuardOp.Note : GuardOp → Type
  | .factory op => Except AdapterExn op.Value
  | .sleep => Wait
  | .acquireSlot => Wait
  | _ => Rat

/-- A step is possible or waits: `none` while no slot is free. -/
def GuardOp.run (p : ResiliencePolicy) (g : GuardState) :
    (op : GuardOp) → op.Note → Option (op.Ret × GuardState)
  | .enterCircuit, now =>
    some ((g.enterCircuit p now).1.mapError .adapterError, (g.enterCircuit p now).2)
  | .takeToken, now => some (.ok (g.takeToken p now).1, (g.takeToken p now).2)
  | .sleep, wait => some (wait.ended, g)
  | .acquireSlot, .finished =>
    if g.permits = 0 then none else some (.ok (), { g with permits := g.permits - 1 })
  | .acquireSlot, wait => some (wait.ended, g)
  | .factory _, outcome => some (outcome, g)
  | .recordSuccess, _ => some (.ok (), g.closed)
  | .recordFailure error, now =>
    match g.recordFailure p now error with
    | some g' => some (.ok (), g')
    | none => some (.error unhashable, g)
  | .recordCancellation, now => some (.ok (), g.recordCancellation now)
  | .releaseSlot, _ => some (.ok (), { g with permits := g.permits + 1 })

def ResiliencePolicy.sem (p : ResiliencePolicy) :
    Semantics GuardState GuardOp.Note GuardOp.Ret :=
  fun op g note r g' => GuardOp.run p g op note = some (r, g')

abbrev GuardEvent := Event GuardState GuardOp.Note GuardOp.Ret

/-- How far a call came: its two flags. -/
structure Progress where
  slotAcquired : Bool := false
  operationStarted : Bool := false

abbrev Guarded := Prog GuardOp.Ret (Progress × AdapterExn)

def Progress.during (progress : Progress) (op : GuardOp) : Guarded op.Value :=
  invoke op fun r => r.mapError fun x => (progress, x)

namespace ResilienceGuard

def operationTimedOut : AdapterError where
  message := "plugin operation timed out"
  kind := .member .timeout
  retry := .safe

def operationFailed : AdapterError where
  message := "plugin operation failed"
  kind := .member .unexpected

end ResilienceGuard

/-- How a caller of the guard makes the guard's own steps. -/
structure GuardSteps {Op : Type} (Ret : Op → Type) where
  during : Progress → (step : GuardOp) → Prog Ret (Progress × AdapterExn) step.Value
  releaseSlot : Prog Ret AdapterExn Unit

namespace GuardSteps
open ResilienceGuard
variable {Op : Type} {Ret : Op → Type} {T : Type} (steps : GuardSteps Ret)

/-- A wait that goes on for more rounds than these is past its deadline. -/
def acquireRateToken : Nat → Prog Ret (Progress × AdapterExn) Unit
  | 0 => throw ({}, .timeoutError)
  | rounds + 1 => do
    if ← steps.during {} .takeToken then return
    steps.during {} .sleep
    acquireRateToken rounds

def body (factory : Prog Ret (Progress × AdapterExn) T) (rounds : Nat) :
    Prog Ret (Progress × AdapterExn) T := do
  steps.during {} .enterCircuit
  steps.acquireRateToken rounds
  steps.during {} .acquireSlot
  let result ← factory
  steps.during ⟨true, true⟩ .recordSuccess
  return result

def handle (unknownOnStartedTimeout : Bool) :
    Progress × AdapterExn → Prog Ret (Progress × AdapterExn) T
  | (progress, .timeoutError) => do
    let timeoutError :=
      if progress.operationStarted && unknownOnStartedTimeout then
        AdapterError.unknownOutcome "plugin operation timed out" []
      else operationTimedOut
    steps.during progress (.recordFailure timeoutError)
    throw (progress, .adapterError timeoutError)
  | (progress, .cancelledError) => do
    steps.during progress .recordCancellation
    throw (progress, .cancelledError)
  | (progress, .adapterError error) => do
    steps.during progress (.recordFailure error)
    throw (progress, .adapterError error)
  | (progress, .other _) => do
    steps.during progress (.recordFailure operationFailed)
    throw (progress, .adapterError operationFailed)
  -- no clause catches what is no Exception
  | (progress, .baseException message) => throw (progress, .baseException message)

def finish : Except (Progress × AdapterExn) T → Prog Ret AdapterExn T
  | .ok result => steps.releaseSlot >>= fun _ => return result
  | .error (progress, x) =>
    if progress.slotAcquired then steps.releaseSlot >>= fun _ => throw x else throw x

/-- `ResilienceGuard.call`, for an operation of any type. -/
def call (factory : Prog Ret (Progress × AdapterExn) T) (unknownOnStartedTimeout : Bool)
    (rounds : Nat) : Prog Ret AdapterExn T := do
  let outcome ← (tryCatch (steps.body factory rounds)
      (steps.handle unknownOnStartedTimeout)).attempt
  steps.finish outcome

end GuardSteps

namespace ResilienceGuard

def steps : GuardSteps GuardOp.Ret := ⟨Progress.during, invoke .releaseSlot id⟩

abbrev acquireRateToken (rounds : Nat) : Guarded Unit := steps.acquireRateToken rounds

abbrev body (op : AdapterOp) (rounds : Nat) : Guarded op.Value :=
  steps.body (Progress.during ⟨true, true⟩ (.factory op)) rounds

abbrev handle {α : Type} (unknownOnStartedTimeout : Bool) (x : Progress × AdapterExn) : Guarded α :=
  steps.handle unknownOnStartedTimeout x

abbrev releaseSlot : Prog GuardOp.Ret AdapterExn Unit := steps.releaseSlot

abbrev finish {α : Type} (outcome : Except (Progress × AdapterExn) α) :
    Prog GuardOp.Ret AdapterExn α := steps.finish outcome

def call (op : AdapterOp) (unknownOnStartedTimeout : Bool) (rounds : Nat) :
    Prog GuardOp.Ret AdapterExn op.Value :=
  steps.call (Progress.during ⟨true, true⟩ (.factory op)) unknownOnStartedTimeout rounds

end ResilienceGuard

/-- Only the execution of a mutation is uncertain after a timeout. -/
def AdapterOp.unknownOnStartedTimeout : AdapterOp → Bool
  | .execute action _ => action.mutation
  | _ => false

def ResilientAdapter.call (op : AdapterOp) (rounds : Nat) :
    Prog GuardOp.Ret AdapterExn op.Value :=
  ResilienceGuard.call op op.unknownOnStartedTimeout rounds

section Step
variable {p : ResiliencePolicy} {e : GuardEvent}

/-- A step goes through, or its wait ends with an interruption. -/
def Waited {α : Type} (r : Except AdapterExn α) : Prop :=
  (∃ v, r = .ok v) ∨ r = .error .timeoutError ∨ r = .error .cancelledError

theorem Wait.ended_waited (wait : Wait) : Waited wait.ended := by
  cases wait with
  | finished => exact .inl ⟨(), rfl⟩
  | cancelled => exact .inr (.inr rfl)
  | pastDeadline => exact .inr (.inl rfl)

theorem takeToken_waited {r : GuardOp.takeToken.Ret} (valid : e.Valid p.sem)
    (answered : e.Answered .takeToken r) : Waited r := by
  obtain ⟨now, h⟩ := valid.answered answered
  exact .inl ⟨_, (congrArg Prod.fst (Option.some.inj h)).symm⟩

theorem sleep_waited {r : GuardOp.sleep.Ret} (valid : e.Valid p.sem)
    (answered : e.Answered .sleep r) : Waited r := by
  obtain ⟨wait, h⟩ := valid.answered answered
  obtain rfl : wait.ended = r := congrArg Prod.fst (Option.some.inj h)
  exact wait.ended_waited

theorem acquireSlot_waited {r : GuardOp.acquireSlot.Ret} (valid : e.Valid p.sem)
    (answered : e.Answered .acquireSlot r) : Waited r := by
  obtain ⟨wait, h⟩ := valid.answered answered
  cases wait with
  | finished =>
    simp only [ResiliencePolicy.sem, GuardOp.run] at h
    split at h
    · cases h
    · exact .inl ⟨(), (congrArg Prod.fst (Option.some.inj h)).symm⟩
  | cancelled => exact .inr (.inr (congrArg Prod.fst (Option.some.inj h)).symm)
  | pastDeadline => exact .inr (.inl (congrArg Prod.fst (Option.some.inj h)).symm)

theorem enterCircuit_error (g : GuardState) (now : Rat) {x : AdapterError}
    (h : (g.enterCircuit p now).1 = .error x) :
    ∃ message state, x = circuitError message state ∧ x ∈ circuitRefusals := by
  have probe : ∀ g : GuardState, g.probe.1 = .error x →
      ∃ message state, x = circuitError message state ∧ x ∈ circuitRefusals := by
    intro g h
    unfold GuardState.probe at h
    split at h
    · cases h
      exact ⟨_, _, rfl, by simp [circuitRefusals]⟩
    · cases h
  unfold GuardState.enterCircuit at h
  split at h
  · cases h
  · exact probe _ h
  · dsimp only at h
    split at h
    · cases h
      exact ⟨_, _, rfl, by simp [circuitRefusals]⟩
    · exact probe _ h

theorem enterCircuit_answers {r : GuardOp.enterCircuit.Ret} (valid : e.Valid p.sem)
    (answered : e.Answered .enterCircuit r) : r = .ok () ∨
      ∃ message state, r = .error (.adapterError (circuitError message state)) ∧
        circuitError message state ∈ circuitRefusals := by
  obtain ⟨now, h⟩ := valid.answered answered
  have h := congrArg Prod.fst (Option.some.inj h)
  cases entered : (e.pre.enterCircuit p now).1 with
  | ok => exact .inl (by simpa [entered, Except.mapError, eq_comm] using h)
  | error x =>
    obtain ⟨message, state, rfl, own⟩ := enterCircuit_error _ _ entered
    exact .inr ⟨message, state, by simpa [entered, Except.mapError, eq_comm] using h, own⟩

theorem recordSuccess_answers {r : GuardOp.recordSuccess.Ret} (valid : e.Valid p.sem)
    (answered : e.Answered .recordSuccess r) : r = .ok () := by
  obtain ⟨now, h⟩ := valid.answered answered
  exact (congrArg Prod.fst (Option.some.inj h)).symm

/-- An error whose failure can be recorded: nobody asks whether its kind is transient, or the
kind says so. -/
def AdapterError.recordable (error : AdapterError) : Bool :=
  error.fromCircuit || error.kind.transient.isSome

theorem recordFailure_isSome (g : GuardState) (now : Rat) (error : AdapterError) :
    (g.recordFailure p now error).isSome = error.recordable := by
  unfold GuardState.recordFailure AdapterError.recordable
  cases error.fromCircuit <;> simp

theorem recordFailure_answers {error : AdapterError} {r : (GuardOp.recordFailure error).Ret}
    (valid : e.Valid p.sem) (answered : e.Answered (.recordFailure error) r) :
    r = if error.recordable then .ok () else .error unhashable := by
  obtain ⟨now, h⟩ := valid.answered answered
  have same := recordFailure_isSome (p := p) e.pre now error
  simp only [ResiliencePolicy.sem, GuardOp.run] at h
  rw [← same]
  split at h
  · rename_i g' recorded
    simpa [recorded, eq_comm] using congrArg Prod.fst (Option.some.inj h)
  · rename_i raised
    simpa [raised, eq_comm] using congrArg Prod.fst (Option.some.inj h)

theorem recordCancellation_answers {r : GuardOp.recordCancellation.Ret} (valid : e.Valid p.sem)
    (answered : e.Answered .recordCancellation r) : r = .ok () := by
  obtain ⟨now, h⟩ := valid.answered answered
  exact (congrArg Prod.fst (Option.some.inj h)).symm

end Step

def Undispatched (es : List GuardEvent) : Prop := ∀ e ∈ es, ∀ op, e.op ≠ .factory op

/-- The plugin's operation was begun once, and this is how it ended. -/
def Dispatched (es : List GuardEvent) (op : AdapterOp) (r : Except AdapterExn op.Value) : Prop :=
  ∃ a e b, es = a ++ e :: b ∧ Undispatched a ∧ Undispatched b ∧ e.Answered (.factory op) r

theorem Undispatched.append {a b : List GuardEvent} (ha : Undispatched a) (hb : Undispatched b) :
    Undispatched (a ++ b) := by
  intro e member
  rcases List.mem_append.mp member with member | member
  · exact ha e member
  · exact hb e member

theorem Undispatched.single {e : GuardEvent} {op : GuardOp} {r : op.Ret}
    (answered : e.Answered op r) (other : ∀ f, op ≠ .factory f) : Undispatched [e] := by
  intro e' member f
  obtain rfl := List.mem_singleton.mp member
  rw [answered.op_eq]
  exact other f

theorem Dispatched.grow {es a b : List GuardEvent} {op : AdapterOp}
    {r : Except AdapterExn op.Value} (h : Dispatched es op r) (ha : Undispatched a)
    (hb : Undispatched b) : Dispatched (a ++ es ++ b) op r := by
  obtain ⟨x, e, y, rfl, hx, hy, answered⟩ := h
  exact ⟨a ++ x, e, y ++ b, by simp, ha.append hx, hy.append hb, answered⟩

theorem Dispatched.not_undispatched {es : List GuardEvent} {op : AdapterOp}
    {r : Except AdapterExn op.Value} (h : Dispatched es op r) : ¬ Undispatched es := by
  obtain ⟨a, e, b, rfl, -, -, answered⟩ := h
  exact fun none => none e (by simp) op answered.op_eq

theorem Dispatched.unique {es : List GuardEvent} {op : AdapterOp}
    {r s : Except AdapterExn op.Value} (hr : Dispatched es op r) (hs : Dispatched es op s) :
    r = s := by
  obtain ⟨a, e, b, rfl, none, -, answered⟩ := hr
  obtain ⟨a', e', b', same, none', -, answered'⟩ := hs
  rcases List.append_eq_append_iff.mp same with ⟨c, rfl, rest⟩ | ⟨c, rfl, rest⟩
  · cases c with
    | nil =>
      obtain rfl : e = e' := List.head_eq_of_cons_eq rest
      exact answered.unique answered'
    | cons d c =>
      obtain rfl : e = d := List.head_eq_of_cons_eq rest
      exact absurd answered.op_eq (none' e (by simp) op)
  · cases c with
    | nil =>
      obtain rfl : e' = e := List.head_eq_of_cons_eq rest
      exact answered.unique answered'
    | cons d c =>
      obtain rfl : e' = d := List.head_eq_of_cons_eq rest
      exact absurd answered'.op_eq (none e' (by simp) op)

namespace ResilienceGuard
variable (p : ResiliencePolicy)

/-- A part of a call that leaves the plugin alone, and ends with no exceptions but these. -/
def Idle {α : Type} (q : Guarded α) (raises : Progress × AdapterExn → Prop) : Prop :=
  ∀ es s, (∀ e ∈ es, Event.Valid p.sem e) → Returns q es s →
    Undispatched es ∧ ∀ x, s = .error x → raises x

/-- Interrupted while waiting. -/
def Halts (progress : Progress) (x : Progress × AdapterExn) : Prop :=
  x = (progress, .timeoutError) ∨ x = (progress, .cancelledError)

section
variable {p} {α β : Type} {raises : Progress × AdapterExn → Prop}

theorem idle_pure (a : α) : Idle p (pure a) raises := by
  rintro es s _ h
  obtain ⟨rfl, rfl⟩ := returns_pure.mp h
  exact ⟨fun _ member => absurd member List.not_mem_nil, nofun⟩

theorem idle_throw {x : Progress × AdapterExn} (h : raises x) :
    Idle p (throw x : Guarded α) raises := by
  rintro es s _ ended
  obtain ⟨rfl, rfl⟩ := returns_throw.mp ended
  exact ⟨fun _ member => absurd member List.not_mem_nil, by rintro _ ⟨⟩; exact h⟩

theorem idle_bind {q : Guarded α} {f : α → Guarded β} (first : Idle p q raises)
    (second : ∀ a, Idle p (f a) raises) : Idle p (q >>= f) raises := by
  intro es s valid h
  rcases returns_bind.mp h with ⟨x, ended, rfl⟩ | ⟨a, es₁, es₂, rfl, ended, rest⟩
  · obtain ⟨own, raised⟩ := first es _ valid ended
    exact ⟨own, by rintro _ ⟨⟩; exact raised x rfl⟩
  · have before := first es₁ _ (fun e he => valid e (List.mem_append_left _ he)) ended
    have after := second a es₂ s (fun e he => valid e (List.mem_append_right _ he)) rest
    exact ⟨before.1.append after.1, after.2⟩

theorem idle_during {progress : Progress} {op : GuardOp} (own : ∀ f, op ≠ .factory f)
    (answers : ∀ e (r : op.Ret), Event.Valid p.sem e → e.Answered op r → ∀ x, r = .error x →
      raises (progress, x)) : Idle p (progress.during op) raises := by
  intro es s valid h
  obtain ⟨e, r, rfl, answered, rfl⟩ := returns_invoke.mp h
  refine ⟨.single answered own, fun x raised => ?_⟩
  cases r with
  | ok v => cases raised
  | error y =>
    cases raised
    exact answers e _ (valid e (by simp)) answered y rfl

theorem idle_wait {progress : Progress} {op : GuardOp} (own : ∀ f, op ≠ .factory f)
    (waited : ∀ e (r : op.Ret), Event.Valid p.sem e → e.Answered op r → Waited r) :
    Idle p (progress.during op) (Halts progress) := by
  refine idle_during own fun e r valid answered x raised => ?_
  subst raised
  rcases waited e _ valid answered with ⟨v, h⟩ | h | h
  · cases h
  · cases h
    exact .inl rfl
  · cases h
    exact .inr rfl

theorem acquireRateToken_idle (rounds : Nat) : Idle p (acquireRateToken rounds) (Halts {}) := by
  induction rounds with
  | zero => exact idle_throw (.inl rfl)
  | succ rounds ih =>
    refine idle_bind (idle_wait (by simp) fun _ _ => takeToken_waited) fun granted => ?_
    cases granted with
    | true => exact idle_pure ()
    | false => exact idle_bind (idle_wait (by simp) fun _ _ => sleep_waited) fun _ => ih

def Refused (x : Progress × AdapterExn) : Prop :=
  Halts {} x ∨ ∃ message state, x = ({}, .adapterError (circuitError message state)) ∧
    circuitError message state ∈ circuitRefusals

theorem Idle.weaken {q : Guarded α} {raises' : Progress × AdapterExn → Prop}
    (h : Idle p q raises) (sub : ∀ x, raises x → raises' x) : Idle p q raises' :=
  fun es s valid ended => (h es s valid ended).imp_right fun raised x hx => sub x (raised x hx)

theorem enterCircuit_idle : Idle p (Progress.during {} .enterCircuit) Refused := by
  refine idle_during (by simp) fun e r valid answered x raised => ?_
  subst raised
  rcases enterCircuit_answers valid answered with h | ⟨message, state, h, own⟩
  · cases h
  · cases h
    exact .inr ⟨message, state, rfl, own⟩

theorem acquireSlot_idle : Idle p (Progress.during {} .acquireSlot) Refused :=
  Idle.weaken (idle_wait (by simp) fun _ _ => acquireSlot_waited) fun _ => .inl

theorem idle_record {progress : Progress} {op : GuardOp} (own : ∀ f, op ≠ .factory f)
    (recorded : ∀ e (r : op.Ret), Event.Valid p.sem e → e.Answered op r → ∃ v, r = .ok v) :
    Idle p (progress.during op) (fun _ => False) := by
  refine idle_during own fun e r valid answered x raised => ?_
  obtain ⟨v, h⟩ := recorded e r valid answered
  cases raised.symm.trans h

theorem recordFailure_idle (progress : Progress) {error : AdapterError}
    (recordable : error.recordable = true) :
    Idle p (progress.during (.recordFailure error)) (fun _ => False) :=
  idle_record (by simp) fun _ _ valid answered =>
    ⟨(), (recordFailure_answers valid answered).trans (if_pos recordable)⟩

theorem unrecorded_returns {progress : Progress} {error : AdapterError} {y : Progress × AdapterExn}
    (unrecordable : error.recordable = false) {es : List GuardEvent}
    {s : Except (Progress × AdapterExn) α} (valid : ∀ e ∈ es, Event.Valid p.sem e)
    (h : Returns (do progress.during (.recordFailure error); throw y : Guarded α) es s) :
    Undispatched es ∧ s = .error (progress, unhashable) := by
  rcases returns_bind.mp h with ⟨x, ran, rfl⟩ | ⟨_, first, rest, rfl, ran, -⟩
  · obtain ⟨e, r, rfl, answered, same⟩ := returns_invoke.mp ran
    have raised := recordFailure_answers (valid e (by simp)) answered
    rw [unrecordable] at raised
    obtain rfl : r = .error unhashable := raised
    exact ⟨.single answered (by simp), congrArg Except.error (Except.error.inj same)⟩
  · obtain ⟨e, r, rfl, answered, same⟩ := returns_invoke.mp ran
    have raised := recordFailure_answers (valid e (by simp)) answered
    rw [unrecordable] at raised
    obtain rfl : r = .error unhashable := raised
    cases same

theorem recordCancellation_idle (progress : Progress) :
    Idle p (progress.during .recordCancellation) (fun _ => False) :=
  idle_record (by simp) fun _ _ valid answered => ⟨_, recordCancellation_answers valid answered⟩

theorem recordSuccess_idle (progress : Progress) :
    Idle p (progress.during .recordSuccess) (fun _ => False) :=
  idle_record (by simp) fun _ _ valid answered => ⟨_, recordSuccess_answers valid answered⟩

/-- After an idle part the call goes on, if it goes on, with the plugin still untouched. -/
theorem idle_then {q : Guarded α} {f : α → Guarded β} {es : List GuardEvent}
    {s : Except (Progress × AdapterExn) β} (idle : Idle p q raises)
    (valid : ∀ e ∈ es, Event.Valid p.sem e) (h : Returns (q >>= f) es s) :
    (Undispatched es ∧ ∃ x, raises x ∧ s = .error x) ∨
    ∃ a first rest, es = first ++ rest ∧ Undispatched first ∧
      (∀ e ∈ rest, Event.Valid p.sem e) ∧ Returns (f a) rest s := by
  rcases returns_bind.mp h with ⟨x, ended, rfl⟩ | ⟨a, first, rest, rfl, ended, h⟩
  · obtain ⟨own, raised⟩ := idle es _ valid ended
    exact .inl ⟨own, x, raised x rfl, rfl⟩
  · have own := (idle first _ (fun e he => valid e (List.mem_append_left _ he)) ended).1
    exact .inr ⟨a, first, rest, rfl, own, fun e he => valid e (List.mem_append_right _ he), h⟩

/-- How the guarded part of a call ends. -/
inductive BodyEnd (op : AdapterOp) (es : List GuardEvent) :
    Except (Progress × AdapterExn) op.Value → Prop where
  | refused (x : Progress × AdapterExn) : Undispatched es → Refused x → BodyEnd op es (.error x)
  | ended (r : Except AdapterExn op.Value) :
      Dispatched es op r → BodyEnd op es (r.mapError fun x => (⟨true, true⟩, x))

theorem body_returns {op : AdapterOp} {rounds : Nat} {es : List GuardEvent}
    {s : Except (Progress × AdapterExn) op.Value} (valid : ∀ e ∈ es, Event.Valid p.sem e)
    (h : Returns (body op rounds) es s) : BodyEnd op es s := by
  rcases idle_then enterCircuit_idle valid h with ⟨own, x, refused, rfl⟩ |
    ⟨_, es₁, rest, rfl, own₁, valid, h⟩
  · exact .refused x own refused
  rcases idle_then (acquireRateToken_idle rounds) valid h with ⟨own, x, halted, rfl⟩ |
    ⟨_, es₂, rest, rfl, own₂, valid, h⟩
  · exact .refused x (own₁.append own) (.inl halted)
  rcases idle_then acquireSlot_idle valid h with ⟨own, x, refused, rfl⟩ |
    ⟨_, es₃, rest, rfl, own₃, valid, h⟩
  · exact .refused x (own₁.append (own₂.append own)) refused
  have before := own₁.append (own₂.append own₃)
  rw [← List.append_assoc es₂, ← List.append_assoc]
  rcases returns_bind.mp h with ⟨x, ran, rfl⟩ | ⟨v, first, rest, rfl, ran, last⟩
  · obtain ⟨e, r, rfl, answered, ended⟩ := returns_invoke.mp ran
    have dispatched : Dispatched (es₁ ++ (es₂ ++ es₃) ++ [e]) op r :=
      ⟨_, e, [], rfl, before, fun _ h => absurd h List.not_mem_nil, answered⟩
    cases r with
    | ok w => cases ended
    | error y =>
      cases ended
      exact .ended _ dispatched
  · obtain ⟨e, r, rfl, answered, ended⟩ := returns_invoke.mp ran
    cases r with
    | error y => cases ended
    | ok w =>
      obtain rfl : v = w := Except.ok.inj ended
      have dispatched : ∀ after, Undispatched after →
          Dispatched (es₁ ++ (es₂ ++ es₃) ++ ([e] ++ after)) op (.ok v) :=
        fun after own => ⟨_, e, after, rfl, before, own, answered⟩
      rcases idle_then (recordSuccess_idle _) (fun e he => valid e (List.mem_append_right _ he))
        last
        with ⟨-, _, impossible, -⟩ | ⟨_, after, rest, rfl, own, -, done⟩
      · exact impossible.elim
      · obtain ⟨rfl, rfl⟩ := returns_pure.mp done
        rw [List.append_nil]
        exact .ended (.ok v) (dispatched _ own)

/-- What a call makes of an exception of the plugin, or of its own waits. -/
def surfaced (unknownOnStartedTimeout : Bool) : Progress × AdapterExn → AdapterExn
  | (progress, .timeoutError) => .adapterError
    (if progress.operationStarted && unknownOnStartedTimeout then
      .unknownOutcome "plugin operation timed out" [] else operationTimedOut)
  | (_, .other _) => .adapterError operationFailed
  | (_, .adapterError error) => if error.recordable then .adapterError error else unhashable
  | (_, x) => x

theorem handle_returns {α : Type} {unknownOnStartedTimeout : Bool} {x : Progress × AdapterExn}
    {es : List GuardEvent} {s : Except (Progress × AdapterExn) α}
    (valid : ∀ e ∈ es, Event.Valid p.sem e)
    (h : Returns (handle unknownOnStartedTimeout x) es s) :
    Undispatched es ∧ s = .error (x.1, surfaced unknownOnStartedTimeout x) := by
  have recorded : ∀ {op : GuardOp} {y : AdapterExn},
      Idle p (x.1.during op) (fun _ => False) →
      Returns (do let _ ← x.1.during op; throw (x.1, y) : Guarded α) es s →
      Undispatched es ∧ s = .error (x.1, y) := by
    intro op y idle h
    rcases idle_then idle valid h with ⟨-, _, impossible, -⟩ | ⟨_, first, rest, rfl, own, -, h⟩
    · exact impossible.elim
    · obtain ⟨rfl, rfl⟩ := returns_throw.mp h
      exact ⟨by simpa using own, rfl⟩
  obtain ⟨progress, x⟩ := x
  cases x with
  | adapterError error =>
    rw [surfaced]
    split
    · rename_i recordable
      exact recorded (recordFailure_idle progress recordable) h
    · rename_i unrecordable
      exact unrecorded_returns (Bool.eq_false_iff.mpr unrecordable) valid h
  | timeoutError =>
    refine recorded (recordFailure_idle progress ?_) h
    split <;> rfl
  | cancelledError => exact recorded (recordCancellation_idle _) h
  | other message => exact recorded (recordFailure_idle progress rfl) h
  | baseException message =>
    obtain ⟨rfl, rfl⟩ := returns_throw.mp h
    exact ⟨fun _ member => absurd member List.not_mem_nil, rfl⟩

/-- How a call through the guard ends, by what the plugin did. -/
inductive Outcome (op : AdapterOp) (unknownOnStartedTimeout : Bool) (es : List GuardEvent) :
    Except AdapterExn op.Value → Prop where
  | returned (v : op.Value) :
      Dispatched es op (.ok v) → Outcome op unknownOnStartedTimeout es (.ok v)
  | raised (error : AdapterError) : error.recordable = true →
      Dispatched es op (.error (.adapterError error)) →
      Outcome op unknownOnStartedTimeout es (.error (.adapterError error))
  | unrecorded (error : AdapterError) : error.recordable = false →
      Dispatched es op (.error (.adapterError error)) →
      Outcome op unknownOnStartedTimeout es (.error unhashable)
  | interrupted (message : String) : Dispatched es op (.error (.baseException message)) →
      Outcome op unknownOnStartedTimeout es (.error (.baseException message))
  | failed (message : String) : Dispatched es op (.error (.other message)) →
      Outcome op unknownOnStartedTimeout es (.error (.adapterError operationFailed))
  | unknown : unknownOnStartedTimeout = true → Dispatched es op (.error .timeoutError) →
      Outcome op unknownOnStartedTimeout es
        (.error (.adapterError (.unknownOutcome "plugin operation timed out" [])))
  | timedOut : unknownOnStartedTimeout = false → Dispatched es op (.error .timeoutError) →
      Outcome op unknownOnStartedTimeout es (.error (.adapterError operationTimedOut))
  | waited : Undispatched es →
      Outcome op unknownOnStartedTimeout es (.error (.adapterError operationTimedOut))
  | rejected (message : String) (state : CircuitState) :
      circuitError message state ∈ circuitRefusals → Undispatched es →
      Outcome op unknownOnStartedTimeout es
        (.error (.adapterError (circuitError message state)))
  | cancelled : Outcome op unknownOnStartedTimeout es (.error .cancelledError)

theorem surfaced_outcome {op : AdapterOp} {unknownOnStartedTimeout : Bool}
    {first rest : List GuardEvent} {x : Progress × AdapterExn} (own : Undispatched rest)
    (ended : BodyEnd op first (.error x)) :
    Outcome op unknownOnStartedTimeout (first ++ rest)
      (.error (surfaced unknownOnStartedTimeout x)) := by
  generalize whole : (.error x : Except (Progress × AdapterExn) op.Value) = s at ended
  cases ended with
  | refused y idle refused =>
    cases whole
    rcases refused with (rfl | rfl) | ⟨message, state, rfl, refusal⟩
    · exact .waited (idle.append own)
    · exact .cancelled
    · exact .rejected message state refusal (idle.append own)
  | ended r dispatched =>
    have dispatched : Dispatched (first ++ rest) op r := by
      simpa using dispatched.grow (a := []) (fun _ h => absurd h List.not_mem_nil) own
    cases r with
    | ok v => cases whole
    | error y =>
      cases whole
      cases y with
      | adapterError error =>
        rw [surfaced]
        split
        · rename_i recordable
          exact .raised error recordable dispatched
        · rename_i unrecordable
          exact .unrecorded error (Bool.eq_false_iff.mpr unrecordable) dispatched
      | baseException message => exact .interrupted message dispatched
      | cancelledError => exact .cancelled
      | other message => exact .failed message dispatched
      | timeoutError =>
        cases flag : unknownOnStartedTimeout with
        | true => exact .unknown rfl dispatched
        | false => exact .timedOut rfl dispatched

theorem finish_returns {es : List GuardEvent} {s : Except (Progress × AdapterExn) α}
    {r : Except AdapterExn α} (valid : ∀ e ∈ es, Event.Valid p.sem e)
    (h : Returns (finish s) es r) : Undispatched es ∧ r = s.mapError Prod.snd := by
  have release : ∀ {q : Prog GuardOp.Ret AdapterExn α},
      Returns (releaseSlot >>= fun _ => q) es r →
      ∃ e rest, es = e :: rest ∧ Undispatched [e] ∧ Returns q rest r := by
    intro q h
    unfold releaseSlot at h
    rcases returns_bind.mp h with ⟨x, freed, rfl⟩ | ⟨_, first, rest, rfl, freed, last⟩
    · obtain ⟨e, r, rfl, answered, failed⟩ := returns_invoke.mp freed
      obtain ⟨m, run⟩ := (valid e (by simp)).answered answered
      have ok : r = .ok () := (congrArg Prod.fst (Option.some.inj run)).symm
      rw [ok] at failed
      cases failed
    · obtain ⟨e, r, rfl, answered, -⟩ := returns_invoke.mp freed
      exact ⟨e, rest, rfl, .single answered (by simp), last⟩
  cases s with
  | ok v =>
    rw [finish] at h
    obtain ⟨e, rest, rfl, own, last⟩ := release h
    obtain ⟨rfl, rfl⟩ := returns_pure.mp last
    exact ⟨own, rfl⟩
  | error x =>
    obtain ⟨⟨slotAcquired, operationStarted⟩, x⟩ := x
    rw [finish, GuardSteps.finish] at h
    cases slotAcquired with
    | true =>
      rw [if_pos rfl] at h
      obtain ⟨e, rest, rfl, own, last⟩ := release h
      obtain ⟨rfl, rfl⟩ := returns_throw.mp last
      exact ⟨own, rfl⟩
    | false =>
      rw [if_neg nofun] at h
      obtain ⟨rfl, rfl⟩ := returns_throw.mp h
      exact ⟨fun _ h => absurd h List.not_mem_nil, rfl⟩

theorem call_outcome {op : AdapterOp} {unknownOnStartedTimeout : Bool} {rounds : Nat}
    {es : List GuardEvent} {r : Except AdapterExn op.Value}
    (valid : ∀ e ∈ es, Event.Valid p.sem e)
    (h : Returns (call op unknownOnStartedTimeout rounds) es r) :
    Outcome op unknownOnStartedTimeout es r := by
  unfold call at h
  rcases returns_bind.mp h with ⟨x, ended, -⟩ | ⟨outcome, first, rest, rfl, ended, last⟩
  · obtain ⟨_, _, h⟩ := returns_attempt.mp ended
    cases h
  have validFirst : ∀ e ∈ first, Event.Valid p.sem e :=
    fun e he => valid e (List.mem_append_left _ he)
  obtain ⟨idle, rfl⟩ := finish_returns (fun e he => valid e (List.mem_append_right _ he)) last
  obtain ⟨_, ended, same⟩ := returns_attempt.mp ended
  cases same
  rcases returns_tryCatch.mp ended with ⟨v, ran, rfl⟩ | ⟨x, before, after, rfl, ran, handled⟩
  · generalize whole : (.ok v : Except (Progress × AdapterExn) op.Value) = s at ran
    cases body_returns validFirst ran with
    | refused => cases whole
    | ended r dispatched =>
      cases r with
      | error x => cases whole
      | ok w =>
        cases whole
        refine .returned v ?_
        simpa using dispatched.grow (a := []) (fun _ h => absurd h List.not_mem_nil) idle
  · obtain ⟨own, surfaced⟩ :=
      handle_returns (fun e he => validFirst e (List.mem_append_right _ he)) handled
    rw [surfaced, List.append_assoc]
    exact surfaced_outcome (own.append idle)
      (body_returns (fun e he => validFirst e (List.mem_append_left _ he)) ran)

/-- The call was cancelled while it waited for its turn. -/
def CancelledWaiting (es : List GuardEvent) : Prop :=
  ∃ e ∈ es, e.Answered .sleep (.error .cancelledError) ∨
    e.Answered .acquireSlot (.error .cancelledError)

/-- A part of a call that ends there when it is cancelled. -/
def Yields {α : Type} (q : Guarded α) : Prop :=
  ∀ es s, Returns q es s → CancelledWaiting es →
    ∃ progress, s = .error (progress, .cancelledError)

theorem yields_pure (a : α) : Yields (pure a) := by
  rintro es s h ⟨e, member, -⟩
  obtain ⟨rfl, -⟩ := returns_pure.mp h
  cases member

theorem yields_throw (x : Progress × AdapterExn) : Yields (throw x : Guarded α) := by
  rintro es s h ⟨e, member, -⟩
  obtain ⟨rfl, -⟩ := returns_throw.mp h
  cases member

theorem yields_during {progress : Progress} {op : GuardOp} : Yields (progress.during op) := by
  rintro es s h ⟨e, member, cancelled⟩
  obtain ⟨e', r, rfl, answered, rfl⟩ := returns_invoke.mp h
  obtain rfl := List.mem_singleton.mp member
  rcases cancelled with cancelled | cancelled
  · cases answered.op_eq.symm.trans cancelled.op_eq
    obtain rfl := answered.unique cancelled
    exact ⟨progress, rfl⟩
  · cases answered.op_eq.symm.trans cancelled.op_eq
    obtain rfl := answered.unique cancelled
    exact ⟨progress, rfl⟩

theorem CancelledWaiting.split {a b : List GuardEvent} (h : CancelledWaiting (a ++ b)) :
    CancelledWaiting a ∨ CancelledWaiting b := by
  obtain ⟨e, member, cancelled⟩ := h
  exact (List.mem_append.mp member).imp (⟨e, ·, cancelled⟩) (⟨e, ·, cancelled⟩)

theorem yields_bind {q : Guarded α} {f : α → Guarded β} (first : Yields q)
    (second : ∀ a, Yields (f a)) : Yields (q >>= f) := by
  intro es s h cancelled
  rcases returns_bind.mp h with ⟨x, ended, rfl⟩ | ⟨a, es₁, es₂, rfl, ended, rest⟩
  · obtain ⟨progress, same⟩ := first es _ ended cancelled
    cases same
    exact ⟨progress, rfl⟩
  · rcases cancelled.split with before | after
    · obtain ⟨progress, same⟩ := first es₁ _ ended before
      cases same
    · exact second a es₂ s rest after

theorem acquireRateToken_yields (rounds : Nat) : Yields (acquireRateToken rounds) := by
  induction rounds with
  | zero => exact yields_throw _
  | succ rounds ih =>
    refine yields_bind yields_during fun granted => ?_
    cases granted with
    | true => exact yields_pure ()
    | false => exact yields_bind yields_during fun _ => ih

theorem body_yields (op : AdapterOp) (rounds : Nat) : Yields (body op rounds) :=
  yields_bind yields_during fun _ => yields_bind (acquireRateToken_yields rounds) fun _ =>
    yields_bind yields_during fun _ => yields_bind yields_during fun _ =>
      yields_bind yields_during fun _ => yields_pure _

theorem handle_yields (unknownOnStartedTimeout : Bool) (x : Progress × AdapterExn) :
    Yields (handle unknownOnStartedTimeout x : Guarded α) := by
  obtain ⟨progress, x⟩ := x
  cases x with
  | adapterError error => exact yields_bind yields_during fun _ => yields_throw _
  | timeoutError => exact yields_bind yields_during fun _ => yields_throw _
  | cancelledError => exact yields_bind yields_during fun _ => yields_throw _
  | other message => exact yields_bind yields_during fun _ => yields_throw _
  | baseException message => exact yields_throw _

theorem finish_releases {es : List GuardEvent} {s : Except (Progress × AdapterExn) α}
    {r : Except AdapterExn α} (h : Returns (finish s) es r) : ∀ e ∈ es, e.op = .releaseSlot := by
  have release : ∀ {q : Prog GuardOp.Ret AdapterExn α},
      (∀ (es : List GuardEvent) r, Returns q es r → es = []) →
        Returns (releaseSlot >>= fun _ => q) es r →
      ∀ e ∈ es, e.op = .releaseSlot := by
    intro q ends h e member
    rcases returns_bind.mp h with ⟨x, freed, -⟩ | ⟨_, first, rest, rfl, freed, last⟩
    · obtain ⟨e', r, rfl, answered, -⟩ := returns_invoke.mp freed
      rw [List.mem_singleton.mp member]
      exact answered.op_eq
    · obtain ⟨e', r, rfl, answered, -⟩ := returns_invoke.mp freed
      obtain rfl := ends rest _ last
      rw [List.mem_singleton.mp member]
      exact answered.op_eq
  cases s with
  | ok v => exact release (fun _ _ ended => (returns_pure.mp ended).1) h
  | error x =>
    rw [finish, GuardSteps.finish] at h
    split at h
    · exact release (fun _ _ ended => (returns_throw.mp ended).1) h
    · obtain ⟨rfl, -⟩ := returns_throw.mp h
      intro e member
      cases member

theorem call_cancelled {op : AdapterOp} {unknownOnStartedTimeout : Bool} {rounds : Nat}
    {es : List GuardEvent} {r : Except AdapterExn op.Value}
    (valid : ∀ e ∈ es, Event.Valid p.sem e)
    (h : Returns (call op unknownOnStartedTimeout rounds) es r) (cancelled : CancelledWaiting es) :
    r = .error .cancelledError := by
  unfold call at h
  rcases returns_bind.mp h with ⟨x, ended, -⟩ | ⟨outcome, first, rest, rfl, ended, last⟩
  · obtain ⟨_, _, h⟩ := returns_attempt.mp ended
    cases h
  obtain ⟨_, ended, same⟩ := returns_attempt.mp ended
  cases same
  have validRest : ∀ e ∈ rest, Event.Valid p.sem e :=
    fun e he => valid e (List.mem_append_right _ he)
  rcases cancelled.split with during | after
  · have yields : ∃ progress, outcome = .error (progress, .cancelledError) := by
      rcases returns_tryCatch.mp ended with ⟨v, ran, rfl⟩ | ⟨x, before, after, rfl, ran, handled⟩
      · exact body_yields op rounds first _ ran during
      · rcases during.split with inside | outside
        · obtain ⟨progress, same⟩ := body_yields op rounds before _ ran inside
          cases same
          exact ⟨progress, (handle_returns (p := p) (fun e he => valid e (by simp [he])) handled).2⟩
        · exact handle_yields _ x after _ handled outside
    obtain ⟨progress, rfl⟩ := yields
    exact (finish_returns validRest last).2
  · obtain ⟨e, member, waits⟩ := after
    have released := finish_releases last e member
    rcases waits with waits | waits
    · cases released.symm.trans waits.op_eq
    · cases released.symm.trans waits.op_eq

end
end ResilienceGuard

end Deckhand
