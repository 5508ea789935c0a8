import Deckhand.Lib.Interleave
import Deckhand.Resilience
import Deckhand.Sample

/-! One guard and any number of calls through it, in every interleaving: what the circuit
promises while it is open, and what it promises about its recovery probe. -/
namespace Deckhand
open Lib Lib.Prog

structure GuardCall where
  op : AdapterOp
  unknownOnStartedTimeout : Bool
  rounds : Nat

def GuardCall.code (call : GuardCall) : Prog GuardOp.Ret AdapterExn Unit :=
  (fun _ => ()) <$> ResilienceGuard.call call.op call.unknownOnStartedTimeout call.rounds

abbrev GuardConfig := Config GuardState GuardCall GuardOp.Note GuardOp.Ret AdapterExn Unit

/-- What calls through a guard that was set up at the given time can lead to. -/
abbrev ResiliencePolicy.Reachable (p : ResiliencePolicy) (setUp : Rat) (c : GuardConfig) : Prop :=
  Lib.Reachable p.sem GuardCall.code (p.start setUp) c

abbrev ResiliencePolicy.Run (p : ResiliencePolicy) (setUp : Rat)
    (started : Nat → Option GuardCall) (log : List GuardEvent) (g : GuardState) : Prop :=
  Lib.Run p.sem GuardCall.code (p.start setUp) started log g

def GuardOp.time : (op : GuardOp) → op.Note → Option Rat
  | .factory _, _ => none
  | .sleep, _ => none
  | .acquireSlot, _ => none
  | .enterCircuit, now => some now
  | .takeToken, now => some now
  | .recordSuccess, now => some now
  | .recordFailure _, now => some now
  | .recordCancellation, now => some now
  | .releaseSlot, now => some now

abbrev stepTime (e : GuardEvent) : Option Rat := e.op.time e.note

def Ordered (log : List GuardEvent) : Prop :=
  log.Pairwise fun e d => ∀ t ∈ stepTime e, ∀ u ∈ stepTime d, t ≤ u

def GuardOp.records : GuardOp → Bool
  | .recordSuccess => true
  | .recordFailure _ => true
  | .recordCancellation => true
  | _ => false

section Steps
variable {p : ResiliencePolicy} {e : GuardEvent}

/-- What a step may do to the circuit: only entering and recording touch it. -/
inductive CircuitStep (p : ResiliencePolicy) (e : GuardEvent) : Prop where
  | quiet : e.op ≠ .enterCircuit → e.op.records = false → e.post.state = e.pre.state →
      e.post.openedAt = e.pre.openedAt →
      e.post.halfOpenProbeActive = e.pre.halfOpenProbeActive → CircuitStep p e
  | entered (now : Rat) : stepTime e = some now →
      e.Answered .enterCircuit ((e.pre.enterCircuit p now).1.mapError .adapterError) →
      e.post = (e.pre.enterCircuit p now).2 → CircuitStep p e
  | succeeded : e.op = .recordSuccess → e.post = e.pre.closed → CircuitStep p e
  | failed (error : AdapterError) (now : Rat) : stepTime e = some now →
      e.op = .recordFailure error → e.pre.recordFailure p now error = some e.post → CircuitStep p e
  | raised (error : AdapterError) : e.op = .recordFailure error → error.recordable = false →
      e.post = e.pre → CircuitStep p e
  | cancelled (now : Rat) : stepTime e = some now → e.op = .recordCancellation →
      e.post = e.pre.recordCancellation now → CircuitStep p e

theorem circuit_step (valid : e.Valid p.sem) : CircuitStep p e := by
  obtain ⟨caller, op, pre, note, r, post⟩ := e
  change GuardOp.run p pre op note = some (r, post) at valid
  cases op with
  | enterCircuit =>
    obtain ⟨rfl, rfl⟩ := Prod.mk.inj (Option.some.inj valid)
    exact .entered note rfl (.mk ..) rfl
  | takeToken =>
    obtain ⟨-, rfl⟩ := Prod.mk.inj (Option.some.inj valid)
    have same : ∀ g : GuardState, (g.takeToken p note).2.state = g.state ∧
        (g.takeToken p note).2.openedAt = g.openedAt ∧
        (g.takeToken p note).2.halfOpenProbeActive = g.halfOpenProbeActive := by
      intro g
      unfold GuardState.takeToken
      dsimp only
      split <;> exact ⟨rfl, rfl, rfl⟩
    exact .quiet (by simp) rfl (same pre).1 (same pre).2.1 (same pre).2.2
  | sleep =>
    obtain ⟨-, rfl⟩ := Prod.mk.inj (Option.some.inj valid)
    exact .quiet (by simp) rfl rfl rfl rfl
  | acquireSlot =>
    cases note with
    | finished =>
      simp only [GuardOp.run] at valid
      split at valid
      · cases valid
      · obtain ⟨-, rfl⟩ := Prod.mk.inj (Option.some.inj valid)
        exact .quiet (by simp) rfl rfl rfl rfl
    | cancelled =>
      obtain ⟨-, rfl⟩ := Prod.mk.inj (Option.some.inj valid)
      exact .quiet (by simp) rfl rfl rfl rfl
    | pastDeadline =>
      obtain ⟨-, rfl⟩ := Prod.mk.inj (Option.some.inj valid)
      exact .quiet (by simp) rfl rfl rfl rfl
  | factory op =>
    obtain ⟨-, rfl⟩ := Prod.mk.inj (Option.some.inj valid)
    exact .quiet (by simp) rfl rfl rfl rfl
  | recordSuccess =>
    obtain ⟨-, rfl⟩ := Prod.mk.inj (Option.some.inj valid)
    exact .succeeded rfl rfl
  | recordFailure error =>
    have same := recordFailure_isSome (p := p) pre note error
    simp only [GuardOp.run] at valid
    split at valid
    · rename_i g' recorded
      obtain ⟨-, rfl⟩ := Prod.mk.inj (Option.some.inj valid)
      exact .failed error note rfl rfl recorded
    · rename_i failed
      obtain ⟨-, rfl⟩ := Prod.mk.inj (Option.some.inj valid)
      exact .raised error rfl (by rw [← same, failed]; rfl) rfl
  | recordCancellation =>
    obtain ⟨-, rfl⟩ := Prod.mk.inj (Option.some.inj valid)
    exact .cancelled note rfl rfl rfl
  | releaseSlot =>
    obtain ⟨-, rfl⟩ := Prod.mk.inj (Option.some.inj valid)
    exact .quiet (by simp) rfl rfl rfl rfl

end Steps

namespace GuardState
variable {p : ResiliencePolicy} {g : GuardState} {now since : Rat}

theorem probe_state (g : GuardState) : g.probe.2.state = g.state := by
  unfold probe
  split <;> rfl

theorem enterCircuit_state (p : ResiliencePolicy) (now : Rat) (g : GuardState) :
    (g.enterCircuit p now).2.state = g.state ∨
      g.state = .open ∧ (g.enterCircuit p now).2.state = .halfOpen := by
  unfold enterCircuit
  split
  · exact .inl rfl
  · exact .inl (probe_state g)
  · rename_i isOpen
    dsimp only
    split
    · exact .inl rfl
    · exact .inr ⟨isOpen, probe_state _⟩

theorem enterCircuit_early (isOpen : g.state = .open) (at_ : g.openedAt = some since)
    (early : now < since + p.recoverySeconds) :
    g.enterCircuit p now = (.error (circuitError "plugin circuit is open" .open), g) := by
  have inside : now - since < p.recoverySeconds := by grind
  obtain ⟨permits, tokens, lastRefill, state, failures, openedAt, active⟩ := g
  subst isOpen
  subst at_
  simp [enterCircuit, inside]

theorem enterCircuit_late (isOpen : g.state = .open) (at_ : g.openedAt = some since)
    (late : since + p.recoverySeconds ≤ now) : (g.enterCircuit p now).1 = .ok () ∧
      (g.enterCircuit p now).2.state = .halfOpen ∧
      (g.enterCircuit p now).2.halfOpenProbeActive = true := by
  have outside : ¬ now - since < p.recoverySeconds := by grind
  obtain ⟨permits, tokens, lastRefill, state, failures, openedAt, active⟩ := g
  subst isOpen
  subst at_
  simp [enterCircuit, outside, probe]

theorem recordFailure_open {error : AdapterError} {g' : GuardState} (isOpen : g.state = .open)
    (recorded : g.recordFailure p now error = some g') :
    g'.state = .open ∧ (g'.openedAt = g.openedAt ∨ g'.openedAt = some now) := by
  unfold recordFailure at recorded
  split at recorded
  · obtain rfl := Option.some.inj recorded
    exact ⟨isOpen, .inl rfl⟩
  · obtain ⟨transient, -, rfl⟩ := Option.map_eq_some_iff.mp recorded
    split
    · unfold countFailure
      split
      · exact ⟨rfl, .inr rfl⟩
      · exact ⟨isOpen, .inl rfl⟩
    · rw [if_neg (by simp [isOpen])]
      exact ⟨isOpen, .inl rfl⟩

theorem recordCancellation_open (isOpen : g.state = .open) : g.recordCancellation now = g := by
  rw [recordCancellation, if_neg (by simp [isOpen])]

end GuardState

namespace ResilienceGuard
variable {σ : Type} {es : List (Event σ GuardOp.Note GuardOp.Ret)} {op : GuardOp}

theorem during_calls {progress : Progress} {op' : GuardOp}
    (h : Calls (progress.during op') es op) : es = [] ∧ op = op' := calls_invoke.mp h

theorem during_returns {progress : Progress} {op' : GuardOp}
    {s : Except (Progress × AdapterExn) op'.Value} (h : Returns (progress.during op') es s) :
    ∃ e r, es = [e] ∧ e.Answered op' r ∧ s = r.mapError fun x => (progress, x) :=
  returns_invoke.mp h

theorem acquireRateToken_calls {rounds : Nat} (h : Calls (acquireRateToken rounds) es op) :
    op = .takeToken ∨ op = .sleep := by
  induction rounds generalizing es with
  | zero => exact absurd h calls_throw
  | succ rounds ih =>
    unfold acquireRateToken GuardSteps.acquireRateToken at h
    rcases calls_bind.mp h with here | ⟨granted, _, rest, _, _, h⟩
    · exact .inl (during_calls here).2
    · cases granted with
      | true => exact absurd h calls_pure
      | false =>
        rcases calls_bind.mp h with here | ⟨_, _, rest, _, _, h⟩
        · exact .inr (during_calls here).2
        · exact ih h

theorem body_calls {adapterOp : AdapterOp} {rounds : Nat}
    (h : Calls (body adapterOp rounds) es op) : (es = [] ∧ op = .enterCircuit) ∨
      op ≠ .enterCircuit ∧ ∃ e rest, es = e :: rest ∧ e.Answered .enterCircuit (.ok ()) := by
  unfold body GuardSteps.body at h
  rcases calls_bind.mp h with here | ⟨_, first, rest, rfl, entered, h₁⟩
  · exact .inl (during_calls here)
  obtain ⟨e, r, rfl, answered, passed⟩ := during_returns entered
  cases r with
  | error x => cases passed
  | ok u =>
    refine .inr ⟨?_, e, rest, rfl, answered⟩
    rcases calls_bind.mp h₁ with here | ⟨_, _, _, _, _, h₂⟩
    · rcases acquireRateToken_calls here with rfl | rfl <;> simp
    rcases calls_bind.mp h₂ with here | ⟨_, _, _, _, _, h₃⟩
    · simp [(during_calls here).2]
    rcases calls_bind.mp h₃ with here | ⟨_, _, _, _, _, h₄⟩
    · simp [(during_calls here).2]
    rcases calls_bind.mp h₄ with here | ⟨_, _, _, _, _, h₅⟩
    · simp [(during_calls here).2]
    · exact absurd h₅ calls_pure

theorem body_begins {adapterOp : AdapterOp} {rounds : Nat}
    {s : Except (Progress × AdapterExn) adapterOp.Value}
    (h : Returns (body adapterOp rounds) es s) :
    ∃ e rest r, es = e :: rest ∧ e.Answered .enterCircuit r := by
  unfold body GuardSteps.body at h
  rcases returns_bind.mp h with ⟨_, entered, -⟩ | ⟨_, first, rest, rfl, entered, -⟩
  · obtain ⟨e, r, rfl, answered, -⟩ := during_returns entered
    exact ⟨e, [], r, rfl, answered⟩
  · obtain ⟨e, r, rfl, answered, -⟩ := during_returns entered
    exact ⟨e, rest, r, rfl, answered⟩

theorem handle_calls {α : Type} {unknownOnStartedTimeout : Bool} {x : Progress × AdapterExn}
    (h : Calls (handle unknownOnStartedTimeout x : Guarded α) es op) :
    op = .recordCancellation ∨ ∃ error, op = .recordFailure error := by
  have recorded : ∀ {op' : GuardOp} {y : Progress × AdapterExn},
      Calls (do let _ ← x.1.during op'; throw y : Guarded α) es op → op = op' := by
    intro op' y h
    rcases calls_bind.mp h with here | ⟨_, _, _, _, _, h⟩
    · exact (during_calls here).2
    · exact absurd h calls_throw
  obtain ⟨progress, x⟩ := x
  cases x with
  | adapterError error => exact .inr ⟨_, recorded h⟩
  | timeoutError => exact .inr ⟨_, recorded h⟩
  | cancelledError => exact .inl (recorded h)
  | other message => exact .inr ⟨_, recorded h⟩
  | baseException message => exact absurd h calls_throw

theorem finish_calls {α : Type} {s : Except (Progress × AdapterExn) α}
    (h : Calls (finish s) es op) : op = .releaseSlot := by
  have released : ∀ {r : Except AdapterExn α},
      Calls (releaseSlot >>= fun _ => .ret r) es op → op = .releaseSlot := by
    intro r h
    rcases calls_bind.mp h with here | ⟨_, _, _, _, _, h⟩
    · exact (calls_invoke.mp here).2
    · exact absurd h calls_ret
  cases s with
  | ok v => exact released h
  | error x =>
    obtain ⟨progress, x⟩ := x
    rw [finish, GuardSteps.finish] at h
    split at h
    · exact released h
    · exact absurd h calls_throw

theorem call_calls {call : GuardCall} (h : Calls call.code es op) :
    (es = [] ∧ op = .enterCircuit) ∨
      op ≠ .enterCircuit ∧ ∃ e rest r, es = e :: rest ∧ e.Answered .enterCircuit r ∧
        ((∃ f, op = .factory f) → r = .ok ()) := by
  have h := calls_map.mp h
  unfold ResilienceGuard.call GuardSteps.call at h
  rcases calls_bind.mp h with h₁ | ⟨outcome, first, rest, rfl, ended, h₁⟩
  · rcases calls_tryCatch.mp (calls_attempt.mp h₁) with h₂ | ⟨x, first, rest, rfl, ended, h₂⟩
    · rcases body_calls h₂ with here | ⟨inner, e, rest, rfl, answered⟩
      · exact .inl here
      · exact .inr ⟨inner, e, rest, _, rfl, answered, fun _ => rfl⟩
    · obtain ⟨e, rest', r, rfl, answered⟩ := body_begins ended
      refine .inr ⟨?_, e, rest' ++ rest, r, rfl, answered, ?_⟩
      · rcases handle_calls h₂ with rfl | ⟨error, rfl⟩ <;> simp
      · rintro ⟨f, rfl⟩
        rcases handle_calls h₂ with impossible | ⟨error, impossible⟩ <;> cases impossible
  · obtain ⟨s, ended, -⟩ := returns_attempt.mp ended
    have begins : ∃ e rest r, first = e :: rest ∧ e.Answered .enterCircuit r := by
      rcases returns_tryCatch.mp ended with ⟨v, ran, -⟩ | ⟨x, before, after, rfl, ran, -⟩
      · exact body_begins ran
      · obtain ⟨e, rest, r, rfl, answered⟩ := body_begins ran
        exact ⟨e, rest ++ after, r, rfl, answered⟩
    obtain ⟨e, rest', r, rfl, answered⟩ := begins
    refine .inr ⟨by simp [finish_calls h₁], e, rest' ++ rest, r, rfl, answered, ?_⟩
    rintro ⟨f, rfl⟩
    cases finish_calls h₁

end ResilienceGuard

section Run
variable {p : ResiliencePolicy} {setUp : Rat} {started : Nat → Option GuardCall}
  {log a b : List GuardEvent} {g : GuardState} {e : GuardEvent}

theorem enters_first (run : p.Run setUp started (a ++ e :: b) g) (enters : e.op = .enterCircuit) :
    localOf e.caller a = [] := by
  obtain ⟨call, -, calls⟩ := run.calls
  rcases ResilienceGuard.call_calls calls with ⟨first, -⟩ | ⟨inner, -⟩
  · exact first
  · exact absurd enters inner

theorem begun_admitted (run : p.Run setUp started (a ++ e :: b) g) {op : AdapterOp}
    (begins : e.op = .factory op) :
    ∃ d rest, localOf e.caller a = d :: rest ∧ d.Answered .enterCircuit (.ok ()) := by
  obtain ⟨call, -, calls⟩ := run.calls
  rcases ResilienceGuard.call_calls calls with ⟨-, enters⟩ | ⟨-, d, rest, r, seen, answered, let_in⟩
  · cases begins.symm.trans enters
  · obtain rfl := let_in ⟨op, begins⟩
    exact ⟨d, rest, seen, answered⟩

theorem turned_away (run : p.Run setUp started (a ++ e :: b) g) {x : AdapterExn}
    (rejected : e.Answered .enterCircuit (.error x)) :
    ∀ d ∈ a ++ e :: b, d.caller = e.caller → ∀ op, d.op ≠ .factory op := by
  intro d member same op begins
  have first := enters_first run rejected.op_eq
  obtain ⟨a', b', split⟩ := List.append_of_mem member
  rcases places split with ⟨m, rfl, rfl⟩ | ⟨m, rfl, rfl⟩ | ⟨rfl, rfl, rfl⟩
  · obtain ⟨d', rest, seen, admitted⟩ := begun_admitted (split ▸ run) begins
    rw [same, localOf_append, first, List.nil_append, localOf, List.filter_cons_of_pos (by simp)]
      at seen
    obtain rfl : e = d' := (List.cons.inj seen).1
    cases rejected.unique admitted
  · have here : d ∈ localOf e.caller (a' ++ d :: m) := by simp [localOf, same]
    rw [first] at here
    cases here
  · cases begins.symm.trans rejected.op_eq

def Opens (e : GuardEvent) (t : Rat) : Prop :=
  stepTime e = some t ∧ e.post.state = .open ∧ e.post.openedAt = some t

/-- Whoever enters while an opening is less than the recovery time ago is turned away, and
does not begin the plugin's operation. -/
def FailsFast (p : ResiliencePolicy) (log : List GuardEvent) : Prop :=
  ∀ a o b e c t now, log = a ++ o :: (b ++ e :: c) → Opens o t → e.op = .enterCircuit →
    stepTime e = some now → now < t + p.recoverySeconds →
    (∃ x, e.Answered .enterCircuit (.error x)) ∧
      ∀ d ∈ log, d.caller = e.caller → ∀ op, d.op ≠ .factory op

/-- An open circuit becomes another only by half-opening. -/
def LeavesThroughHalfOpen (log : List GuardEvent) : Prop :=
  ∀ e ∈ log, e.pre.state = .open → e.post.state = .open ∨ e.post.state = .halfOpen

theorem step_leaves (valid : e.Valid p.sem) (isOpen : e.pre.state = .open)
    (unsuccessful : e.op ≠ .recordSuccess) :
    e.post.state = .open ∨ e.post.state = .halfOpen := by
  cases circuit_step valid with
  | quiet _ _ state => exact .inl (state.trans isOpen)
  | entered now _ _ post =>
    rw [post]
    rcases GuardState.enterCircuit_state p now e.pre with same | ⟨-, half⟩
    · exact .inl (same.trans isOpen)
    · exact .inr half
  | succeeded success => exact absurd success unsuccessful
  | failed error now _ _ recorded => exact .inl (GuardState.recordFailure_open isOpen recorded).1
  | raised error _ _ post => exact .inl (post ▸ isOpen)
  | cancelled now _ _ post =>
    rw [post, GuardState.recordCancellation_open isOpen]
    exact .inl isOpen

/-- Since an opening at `t` the circuit has been open, or the recovery time is over. -/
def Window (p : ResiliencePolicy) (t : Rat) (after : List GuardEvent) (g : GuardState) : Prop :=
  (g.state = .open ∧ ∃ since, g.openedAt = some since ∧ t ≤ since) ∨
    ∃ d ∈ after, ∃ u, stepTime d = some u ∧ t + p.recoverySeconds ≤ u

theorem window_step {t : Rat} {after : List GuardEvent} (valid : e.Valid p.sem)
    (held : Window p t after e.pre) (unsuccessful : e.op = .recordSuccess → e.pre.state ≠ .open)
    (later : ∀ u, stepTime e = some u → t ≤ u) : Window p t (after ++ [e]) e.post := by
  rcases held with ⟨isOpen, since, opened, before⟩ | ⟨d, member, u, time, recovered⟩
  · cases circuit_step valid with
    | quiet _ _ state openedAt =>
      exact .inl ⟨state.trans isOpen, since, openedAt.trans opened, before⟩
    | entered now time _ post =>
      by_cases early : now < since + p.recoverySeconds
      · rw [GuardState.enterCircuit_early isOpen opened early] at post
        exact .inl ⟨post ▸ isOpen, since, post ▸ opened, before⟩
      · exact .inr ⟨e, by simp, now, time, by grind⟩
    | succeeded success => exact absurd isOpen (unsuccessful success)
    | failed error now time _ recorded =>
      obtain ⟨state, same | anew⟩ := GuardState.recordFailure_open isOpen recorded
      · exact .inl ⟨state, since, same.trans opened, before⟩
      · exact .inl ⟨state, now, anew, later now time⟩
    | raised error _ _ post => exact .inl ⟨post ▸ isOpen, since, post ▸ opened, before⟩
    | cancelled now _ _ post =>
      rw [GuardState.recordCancellation_open isOpen] at post
      exact .inl ⟨post ▸ isOpen, since, post ▸ opened, before⟩
  · exact .inr ⟨d, by simp [member], u, time, recovered⟩

theorem window_run {t : Rat} {start g : GuardState} {after : List GuardEvent}
    (trace : Trace p.sem start after g) (isOpen : start.state = .open)
    (opened : start.openedAt = some t)
    (unsuccessful : ∀ d ∈ after, d.op = .recordSuccess → d.pre.state ≠ .open)
    (later : ∀ d ∈ after, ∀ u, stepTime d = some u → t ≤ u) : Window p t after g := by
  induction trace with
  | nil => exact .inl ⟨isOpen, t, opened, le_rfl⟩
  | snoc after e _ valid ih =>
    have held := ih (fun d member => unsuccessful d (by simp [member]))
      (fun d member => later d (by simp [member]))
    exact window_step valid held (unsuccessful e (by simp)) (later e (by simp))

theorem Ordered.le {o : GuardEvent} {t u : Rat} (ordered : Ordered (a ++ o :: b))
    (member : e ∈ b) (first : stepTime o = some t) (second : stepTime e = some u) : t ≤ u :=
  (List.pairwise_cons.mp (List.pairwise_append.mp ordered).2.1).1 e member t first u second

theorem run_fails_fast (run : p.Run setUp started log g) (ordered : Ordered log)
    (unsuccessful : ∀ d ∈ log, d.op = .recordSuccess → d.pre.state ≠ .open) :
    FailsFast p log := by
  intro a o b e c t now whole ⟨time, isOpen, opened⟩ enters at_ early
  have split : log = (a ++ o :: b) ++ e :: c := by simp [whole]
  have valid : e.Valid p.sem := (split ▸ run).valid
  have between : Trace p.sem o.post b e.pre := (split ▸ run).until.trace.split.2.2
  have later : ∀ d ∈ b, ∀ u, stepTime d = some u → t ≤ u := fun d member u =>
    Ordered.le (whole ▸ ordered) (by simp [member]) time
  have rejected : ∃ x, e.Answered .enterCircuit (.error x) := by
    rcases window_run between isOpen opened
      (fun d member => unsuccessful d (by simp [whole, member])) later with
      ⟨isOpen, since, opened, before⟩ | ⟨d, member, u, past, recovered⟩
    · cases circuit_step valid with
      | entered now' time' answered post =>
        obtain rfl : now = now' := Option.some.inj (at_.symm.trans time')
        rw [GuardState.enterCircuit_early isOpen opened (by grind)] at answered
        exact ⟨_, answered⟩
      | quiet other => exact absurd enters other
      | succeeded other => cases enters.symm.trans other
      | failed error now _ other => cases enters.symm.trans other
      | raised error other => cases enters.symm.trans other
      | cancelled now _ other => cases enters.symm.trans other
    · have ordered : Ordered ((a ++ o :: b) ++ e :: c) := split ▸ ordered
      have pair : u ≤ now := (List.pairwise_append.mp ordered).2.2 d (by simp [member]) e
        (by simp) u past now at_
      grind
  obtain ⟨x, answered⟩ := rejected
  exact ⟨⟨x, answered⟩, split ▸ turned_away (split ▸ run) answered⟩

end Run

/-! Runs of calls through one guard, played out turn by turn. -/

/-- What the clock, a wait and the plugin contribute to a step. -/
structure Reply where
  now : Rat := 0
  wait : Wait := .finished
  outcome : (op : AdapterOp) → Except AdapterExn op.Value

def Reply.note (reply : Reply) : (op : GuardOp) → op.Note
  | .factory op => reply.outcome op
  | .sleep => reply.wait
  | .acquireSlot => reply.wait
  | .enterCircuit => reply.now
  | .takeToken => reply.now
  | .recordSuccess => reply.now
  | .recordFailure _ => reply.now
  | .recordCancellation => reply.now
  | .releaseSlot => reply.now

def Reply.respond (p : ResiliencePolicy) (reply : Reply) (op : GuardOp) (g : GuardState) :
    Option (op.Note × op.Ret × GuardState) :=
  (GuardOp.run p g op (reply.note op)).map fun answer => (reply.note op, answer)

inductive GuardTurn where
  | start (guarded : GuardCall)
  | step (i : Nat) (reply : Reply)

def GuardTurn.act (p : ResiliencePolicy) :
    GuardTurn → Act GuardState GuardCall GuardOp.Note GuardOp.Ret
  | .start guarded => .spawn guarded
  | .step i reply => .call i (reply.respond p)

def ResiliencePolicy.played (p : ResiliencePolicy) (turns : List GuardTurn) : Option GuardConfig :=
  Config.play GuardCall.code (.initial (p.start 0)) (turns.map (GuardTurn.act p))

theorem guard_played_reachable {p : ResiliencePolicy} {turns : List GuardTurn} {c : GuardConfig}
    (h : p.played turns = some c) : p.Reachable 0 c := by
  refine Config.play_reachable (fun act member => ?_) .start h
  obtain ⟨turn, -, rfl⟩ := List.mem_map.mp member
  cases turn with
  | start guarded => trivial
  | step i reply =>
    intro op g note r g' answer
    obtain ⟨⟨r', g''⟩, run, same⟩ := Option.map_eq_some_iff.mp answer
    cases same
    exact run

def GuardOp.succeeds : GuardOp → Bool
  | .recordSuccess => true
  | _ => false

def letIn : GuardEvent → Bool
  | ⟨_, .enterCircuit, _, _, .ok _, _⟩ => true
  | _ => false

theorem letIn_answered {e : GuardEvent} : letIn e = true ↔ e.Answered .enterCircuit (.ok ()) := by
  constructor
  · intro h
    unfold letIn at h
    split at h
    · exact .mk ..
    · cases h
  · intro h
    cases h
    rfl

namespace Sample

def plugin : ResiliencePolicy where
  maxConcurrency := 2
  requestsPerSecond := 1
  burst := 8
  failureThreshold := 1
  recoverySeconds := 30

def observing : GuardCall := ⟨.observe (ensureActive .none) (request keyA), false, 1⟩

def unavailable (details : Details) : (op : AdapterOp) → Except AdapterExn op.Value := fun _ =>
  .error (.adapterError
    { message := "upstream unavailable"
      kind := .member .unavailable
      retry := .safe
      details := details })

/-- What a step shows of the circuit. -/
structure Look where
  pre : CircuitState
  post : CircuitState
  openedAt : Option Rat := none
  admitted : Bool := false
  deriving DecidableEq

def look (e : GuardEvent) : Look := ⟨e.pre.state, e.post.state, e.post.openedAt, letIn e⟩

def upTo (i : Nat) (now : Rat) (outcome : (op : AdapterOp) → Except AdapterExn op.Value) :
    List GuardTurn :=
  List.replicate 4 (.step i { now := now, outcome := outcome })

def ending (i : Nat) (now : Rat) : List GuardTurn :=
  List.replicate 2 (.step i { now := now, outcome := healthy })

/-- A call fails, and the next is turned away. -/
def rejected : List GuardTurn :=
  [.start observing, .start observing] ++ upTo 0 1 (unavailable []) ++ ending 0 1 ++
    [.step 1 { now := 20, outcome := healthy }, .step 1 { now := 20, outcome := healthy }]

/-- A call fails, and one that was let in before it succeeds after it. -/
def reopened : List GuardTurn :=
  [.start observing, .start observing, .start observing] ++ upTo 0 0 healthy ++
    upTo 1 1 (unavailable []) ++ ending 1 1 ++ ending 0 2 ++ upTo 2 3 healthy

end Sample

theorem ordered_of_times {log : List GuardEvent} {times : List (Option Rat)}
    (same : log.map stepTime = times)
    (ordered : times.Pairwise fun x y => ∀ t ∈ x, ∀ u ∈ y, t ≤ u) : Ordered log := by
  subst same
  exact List.pairwise_map.mp ordered

/-- An open circuit fails fast for its whole recovery time, and leaves only through a probe. -/
theorem open_circuit_fails_fast (p : ResiliencePolicy) (setUp : Rat) (c : GuardConfig)
    (h : p.Reachable setUp c) (ordered : Ordered c.log) :
    (FailsFast p c.log ∧ LeavesThroughHalfOpen c.log) ↔
      ∀ e ∈ c.log, e.op = .recordSuccess → e.pre.state ≠ .open := by
  have run := reachable_run h
  constructor
  · rintro ⟨-, leaves⟩ e member success isOpen
    have post : e.post.state = .closed := by
      cases circuit_step (run.trace.valid member) with
      | succeeded _ post => rw [post]; rfl
      | quiet _ records => simp [success, GuardOp.records] at records
      | entered now _ answered => cases success.symm.trans answered.op_eq
      | failed error now _ other => cases success.symm.trans other
      | raised error other => cases success.symm.trans other
      | cancelled now _ other => cases success.symm.trans other
    rcases leaves e member isOpen with is | is <;> cases post.symm.trans is
  · intro unsuccessful
    refine ⟨run_fails_fast run ordered unsuccessful, fun e member isOpen => ?_⟩
    exact step_leaves (run.trace.valid member) isOpen fun success =>
      unsuccessful e member success isOpen

open Sample in
theorem open_circuit_fails_fast_rejected : ∃ c, plugin.played rejected = some c ∧
    c.state.state = .open ∧ FailsFast plugin c.log ∧ LeavesThroughHalfOpen c.log := by
  have outcome : (plugin.played rejected).map (fun c => (c.state.state, c.log.map stepTime,
      c.log.all fun e => !e.op.succeeds)) =
      some (.open, [some 1, some 1, none, none, some 1, some 1, some 20, some 20], true) := by
    decide +kernel
  obtain ⟨c, played, same⟩ := Option.map_eq_some_iff.mp outcome
  simp only [Prod.mk.injEq, List.all_eq_true] at same
  obtain ⟨isOpen, times, unsuccessful⟩ := same
  have fast := open_circuit_fails_fast plugin 0 c (guard_played_reachable played)
    (ordered_of_times times (by decide +kernel))
  refine ⟨c, played, isOpen, fast.mpr fun e member success => ?_⟩
  have other := unsuccessful e member
  rw [success] at other
  cases other

open Sample in
/-- A success that was let in before the opening closes the circuit inside the recovery time. -/
theorem stale_success_readmits : ∃ c, plugin.Reachable 0 c ∧ Ordered c.log ∧
    ¬ FailsFast plugin c.log ∧ ¬ LeavesThroughHalfOpen c.log := by
  have outcome : (plugin.played reopened).map (fun c =>
      c.log.map fun e => (stepTime e, look e)) = some (
        [(some 0, { pre := .closed, post := .closed, admitted := true }),
          (some 0, { pre := .closed, post := .closed }),
            (none, { pre := .closed, post := .closed }),
          (none, { pre := .closed, post := .closed }),
          (some 1, { pre := .closed, post := .closed, admitted := true }),
          (some 1, { pre := .closed, post := .closed }),
            (none, { pre := .closed, post := .closed }),
          (none, { pre := .closed, post := .closed })] ++
        (some 1, ⟨.closed, .open, some 1, false⟩) :: ([(some 1, ⟨.open, .open, some 1, false⟩)] ++
        (some 2, { pre := .open, post := .closed }) ::
          ([(some 2, { pre := .closed, post := .closed })] ++
        (some 3, { pre := .closed, post := .closed, admitted := true }) ::
          [(some 3, { pre := .closed, post := .closed }),
            (none, { pre := .closed, post := .closed }),
            (none, { pre := .closed, post := .closed })]))) := by
    decide +kernel
  obtain ⟨c, played, same⟩ := Option.map_eq_some_iff.mp outcome
  have times := congrArg (List.map Prod.fst) same
  rw [List.map_map] at times
  have ordered : Ordered c.log := ordered_of_times times (by decide +kernel)
  obtain ⟨a, rest, whole, -, tail⟩ := List.map_eq_append_iff.mp same
  obtain ⟨o, after, rfl, opening, later⟩ := List.map_eq_cons_iff.mp tail
  obtain ⟨b₁, rest₁, rfl, -, later⟩ := List.map_eq_append_iff.mp later
  obtain ⟨s, after₁, rfl, closing, later⟩ := List.map_eq_cons_iff.mp later
  obtain ⟨b₂, rest₂, rfl, -, later⟩ := List.map_eq_append_iff.mp later
  obtain ⟨e, d, rfl, entering, -⟩ := List.map_eq_cons_iff.mp later
  simp only [look, Prod.mk.injEq, Look.mk.injEq] at opening closing entering
  refine ⟨c, guard_played_reachable played, ordered, fun fast => ?_, fun leaves => ?_⟩
  · have admitted := letIn_answered.mp entering.2.2.2.2
    have split : c.log = a ++ o :: ((b₁ ++ s :: b₂) ++ e :: d) := by simp [whole]
    obtain ⟨⟨x, answered⟩, -⟩ := fast a o (b₁ ++ s :: b₂) e d 1 3 split
      ⟨opening.1, opening.2.2.1, opening.2.2.2.1⟩ admitted.op_eq entering.1 (by decide +kernel)
    cases answered.unique admitted
  · rcases leaves s (by simp [whole]) closing.2.1 with is | is
    · cases closing.2.2.1.symm.trans is
    · cases closing.2.2.1.symm.trans is

end Deckhand
