import Deckhand.Circuit

/-! The recovery probe of a half-open circuit: how many are in flight, and that the circuit
is never left waiting for one that is not. -/
namespace Deckhand
open Lib Lib.Prog

def Admitted (e : GuardEvent) : Prop := e.Answered .enterCircuit (.ok ())

/-- The circuit let the call in as its recovery probe. -/
def Probes (e : GuardEvent) : Prop := Admitted e ∧ e.post.state = .halfOpen

def uncaught : GuardEvent → Bool
  | ⟨_, .factory _, _, _, .error (.baseException _), _⟩ => true
  | _ => false

def ends (e : GuardEvent) : Bool := e.op.records || uncaught e

/-- The call was let in, in the given way, and has not ended yet. -/
def Awaited (lets : GuardEvent → Prop) (log : List GuardEvent) (i : Nat) : Prop :=
  ∃ a e b, log = a ++ e :: b ∧ e.caller = i ∧ lets e ∧ ∀ d ∈ b, d.caller = i → ends d = false

abbrev InFlight (log : List GuardEvent) (i : Nat) : Prop := Awaited Admitted log i

abbrev ProbeInFlight (log : List GuardEvent) (i : Nat) : Prop := Awaited Probes log i

/-- The recorders that look at the circuit; one of them lets the circuit's own errors pass, and
raises for a kind that has no hash. -/
def GuardOp.settles : GuardOp → Bool
  | .recordSuccess => true
  | .recordCancellation => true
  | .recordFailure error => !error.fromCircuit && error.recordable
  | _ => false

/-- Another call's end is recorded while the probe runs, or the probe ends and the circuit does
not take notice: with an error that claims to come from a circuit or whose kind has no hash, or
with an exception that no clause catches. -/
inductive Disturbs (log : List GuardEvent) (e : GuardEvent) : Prop where
  | other : e.pre.state = .halfOpen → e.op.settles = true → ¬ ProbeInFlight log e.caller →
      Disturbs log e
  | disguised (error : AdapterError) : ProbeInFlight log e.caller →
      e.op = .recordFailure error → error.fromCircuit = true → Disturbs log e
  | unhashable (error : AdapterError) : ProbeInFlight log e.caller →
      e.op = .recordFailure error → error.recordable = false → Disturbs log e
  | uncaught : ProbeInFlight log e.caller → Deckhand.uncaught e = true → Disturbs log e

section InFlight
variable {lets : GuardEvent → Prop} {log : List GuardEvent} {e : GuardEvent} {i : Nat}

theorem awaited_snoc : Awaited lets (log ++ [e]) i ↔
    Awaited lets log i ∧ ¬ (e.caller = i ∧ ends e = true) ∨ e.caller = i ∧ lets e := by
  constructor
  · rintro ⟨a, d, b, whole, own, allowed, unrecorded⟩
    rcases List.eq_nil_or_concat b with rfl | ⟨b, last, rfl⟩
    · obtain ⟨rfl, same⟩ := List.append_inj' whole rfl
      obtain rfl : e = d := by simpa using same
      exact .inr ⟨own, allowed⟩
    · have whole : log ++ [e] = (a ++ d :: b) ++ [last] := by simpa using whole
      obtain ⟨rfl, same⟩ := List.append_inj' whole rfl
      obtain rfl : e = last := by simpa using same
      refine .inl ⟨⟨a, d, b, rfl, own, allowed, fun x member => unrecorded x (by simp [member])⟩,
        ?_⟩
      rintro ⟨here, records⟩
      rw [unrecorded e (by simp) here] at records
      cases records
  · rintro (⟨⟨a, d, b, rfl, own, allowed, unrecorded⟩, kept⟩ | ⟨own, allowed⟩)
    · refine ⟨a, d, b ++ [e], by simp, own, allowed, fun x member here => ?_⟩
      rcases List.mem_append.mp member with member | member
      · exact unrecorded x member here
      · obtain rfl := List.mem_singleton.mp member
        by_contra records
        exact kept ⟨here, by simpa using records⟩
    · exact ⟨log, e, [], rfl, own, allowed, fun d member => absurd member List.not_mem_nil⟩

theorem awaited_quiet (quiet : ¬ lets e) (goesOn : ends e = false) :
    Awaited lets (log ++ [e]) i ↔ Awaited lets log i := by
  rw [awaited_snoc]
  simp [quiet, goesOn]

theorem awaited_other (quiet : ¬ lets e) (other : ¬ Awaited lets log e.caller) :
    Awaited lets (log ++ [e]) i ↔ Awaited lets log i := by
  rw [awaited_snoc]
  constructor
  · rintro (⟨here, -⟩ | ⟨-, allowed⟩)
    · exact here
    · exact absurd allowed quiet
  · intro here
    exact .inl ⟨here, fun own => other (own.1 ▸ here)⟩

theorem not_awaited_nil : ¬ Awaited lets [] i := by
  rintro ⟨a, e, b, whole, -⟩
  simp at whole

theorem ProbeInFlight.admitted (h : ProbeInFlight log i) : InFlight log i := by
  obtain ⟨a, e, b, whole, own, probes, unrecorded⟩ := h
  exact ⟨a, e, b, whole, own, probes.1, unrecorded⟩

/-- The calls in flight, computed along the log. -/
def awaited (lets : GuardEvent → Prop) [DecidablePred lets] (log : List GuardEvent) : List Nat :=
  log.foldl (fun is e => (if ends e then is.filter (· ≠ e.caller) else is) ++
    if lets e then [e.caller] else []) []

theorem mem_awaited [DecidablePred lets] : i ∈ awaited lets log ↔ Awaited lets log i := by
  induction log using List.reverseRecOn with
  | nil => simp [awaited, not_awaited_nil]
  | append_singleton log e ih =>
    have unfolded : awaited lets (log ++ [e]) =
        (if ends e then (awaited lets log).filter (· ≠ e.caller) else awaited lets log) ++
          if lets e then [e.caller] else [] := List.foldl_append ..
    rw [awaited_snoc, ← ih, unfolded, List.mem_append]
    refine or_congr ?_ ?_
    · cases ends e with
      | true => simp [ne_comm]
      | false => simp
    · by_cases allowed : lets e <;> simp [allowed, eq_comm]

instance [DecidablePred lets] : Decidable (Awaited lets log i) := decidable_of_iff _ mem_awaited

instance : DecidablePred Admitted := fun _ => decidable_of_iff _ letIn_answered

instance : DecidablePred Probes := fun e =>
  inferInstanceAs (Decidable (Admitted e ∧ e.post.state = .halfOpen))

end InFlight

namespace GuardState
variable {p : ResiliencePolicy} {g : GuardState} {now : Rat} {error : AdapterError}

theorem enterCircuit_closed (closed : g.state = .closed) : g.enterCircuit p now = (.ok (), g) := by
  rw [enterCircuit, closed]

theorem enterCircuit_probing (half : g.state = .halfOpen) (active : g.halfOpenProbeActive = true) :
    g.enterCircuit p now = (.error
      (circuitError "plugin circuit recovery probe is already running" .halfOpen), g) := by
  rw [enterCircuit, half]
  simp [probe, active]

theorem recordFailure_disguised (disguised : error.fromCircuit = true) :
    g.recordFailure p now error = some g := by
  rw [recordFailure, if_pos disguised]

theorem recordFailure_plain {g' : GuardState} (plain : error.fromCircuit = false)
    (recorded : g.recordFailure p now error = some g') :
    g' = g.countFailure p now ∨ g' = (if g.state = .halfOpen then g.closed else g) := by
  rw [recordFailure, if_neg (by simp [plain])] at recorded
  obtain ⟨transient, -, rfl⟩ := Option.map_eq_some_iff.mp recorded
  cases transient with
  | true => exact .inl rfl
  | false => exact .inr rfl

theorem recordFailure_settled {g' : GuardState} (plain : error.fromCircuit = false)
    (recorded : g.recordFailure p now error = some g') : g'.state ≠ .halfOpen := by
  rcases recordFailure_plain plain recorded with rfl | rfl
  · unfold countFailure
    split
    · simp [opened]
    · rename_i unsettled
      exact fun half => unsettled (.inl half)
  · split
    · simp [closed]
    · assumption

theorem recordFailure_since {g' : GuardState} (since : g.state = .open → g.openedAt ≠ none)
    (plain : error.fromCircuit = false) (recorded : g.recordFailure p now error = some g')
    (isOpen : g'.state = .open) : g'.openedAt ≠ none := by
  revert isOpen
  rcases recordFailure_plain plain recorded with rfl | rfl
  · unfold countFailure
    split
    · intro _
      simp [opened]
    · exact since
  · split
    · intro isOpen
      cases isOpen
    · exact since

theorem recordCancellation_settled : (g.recordCancellation now).state ≠ .halfOpen := by
  unfold recordCancellation
  split
  · simp [opened]
  · assumption

theorem recordCancellation_since (since : g.state = .open → g.openedAt ≠ none)
    (isOpen : (g.recordCancellation now).state = .open) :
    (g.recordCancellation now).openedAt ≠ none := by
  revert isOpen
  unfold recordCancellation
  split
  · intro _
    simp [opened]
  · exact since

end GuardState

/-- What the circuit's state says about the probes in flight. -/
structure OneProbe (log : List GuardEvent) (g : GuardState) : Prop where
  probing : ∀ i, ProbeInFlight log i → g.state = .halfOpen
  unique : ∀ i j, ProbeInFlight log i → ProbeInFlight log j → i = j
  held : g.state = .halfOpen → g.halfOpenProbeActive = true ∧ ∃ i, ProbeInFlight log i
  since : g.state = .open → g.openedAt ≠ none

section Step
variable {p : ResiliencePolicy} {log : List GuardEvent} {e : GuardEvent}

theorem oneProbe_initial (setUp : Rat) : OneProbe [] (p.start setUp) :=
  ⟨fun _ h => absurd h not_awaited_nil, fun _ _ h => absurd h not_awaited_nil, nofun, nofun⟩

theorem OneProbe.kept (h : OneProbe log e.pre) (state : e.post.state = e.pre.state)
    (openedAt : e.post.openedAt = e.pre.openedAt)
    (active : e.post.halfOpenProbeActive = e.pre.halfOpenProbeActive)
    (same : ∀ i, ProbeInFlight (log ++ [e]) i ↔ ProbeInFlight log i) :
    OneProbe (log ++ [e]) e.post where
  probing i probe := state.trans (h.probing i ((same i).mp probe))
  unique i j first second := h.unique i j ((same i).mp first) ((same j).mp second)
  held half := by
    obtain ⟨flag, i, probe⟩ := h.held (state.symm.trans half)
    exact ⟨active.trans flag, i, (same i).mpr probe⟩
  since isOpen := by
    rw [openedAt]
    exact h.since (state.symm.trans isOpen)

theorem OneProbe.ended (gone : ∀ i, ¬ ProbeInFlight (log ++ [e]) i)
    (settled : e.post.state ≠ .halfOpen) (since : e.post.state = .open → e.post.openedAt ≠ none) :
    OneProbe (log ++ [e]) e.post where
  probing i probe := absurd probe (gone i)
  unique i _ probe := absurd probe (gone i)
  held half := absurd half settled
  since := since

theorem enters_goesOn (enters : e.op = .enterCircuit) : ends e = false := by
  obtain ⟨caller, op, pre, note, r, post⟩ := e
  obtain rfl : op = .enterCircuit := enters
  rfl

theorem uncaught_settles (caught : uncaught e = true) : e.op.settles = false := by
  obtain ⟨caller, op, pre, note, r, post⟩ := e
  cases op with
  | factory => rfl
  | _ => cases caught

theorem settles_records {op : GuardOp} (settles : op.settles = true) : op.records = true := by
  cases op with
  | recordSuccess => rfl
  | recordCancellation => rfl
  | recordFailure => rfl
  | _ => cases settles

theorem settled_gone (h : OneProbe log e.pre) (undisturbed : ¬ Disturbs log e)
    (settles : e.op.settles = true) (enters : ¬ Probes e) (i : Nat) :
    ¬ ProbeInFlight (log ++ [e]) i := by
  rw [ProbeInFlight, awaited_snoc]
  rintro (⟨probe, other⟩ | ⟨-, probes⟩)
  · by_cases own : ProbeInFlight log e.caller
    · exact other ⟨h.unique _ _ own probe, by simp [ends, settles_records settles]⟩
    · exact undisturbed (.other (h.probing i probe) settles own)
  · exact enters probes

theorem not_probes {op : GuardOp} (is : e.op = op) (other : op ≠ .enterCircuit) : ¬ Probes e :=
  fun probes => other (is.symm.trans probes.1.op_eq)

theorem oneProbe_entered (h : OneProbe log e.pre) {now : Rat}
    (answered : e.Answered .enterCircuit ((e.pre.enterCircuit p now).1.mapError .adapterError))
    (post : e.post = (e.pre.enterCircuit p now).2) : OneProbe (log ++ [e]) e.post := by
  have goesOn : ends e = false := enters_goesOn answered.op_eq
  cases state : e.pre.state with
  | closed =>
    rw [GuardState.enterCircuit_closed state] at post
    refine h.kept (post ▸ rfl) (post ▸ rfl) (post ▸ rfl) fun i => awaited_quiet ?_ goesOn
    intro probes
    cases ((congrArg GuardState.state post).trans state).symm.trans probes.2
  | halfOpen =>
    rw [GuardState.enterCircuit_probing state (h.held state).1] at answered post
    refine h.kept (post ▸ rfl) (post ▸ rfl) (post ▸ rfl) fun i => awaited_quiet ?_ goesOn
    intro probes
    cases answered.unique probes.1
  | «open» =>
    obtain ⟨since, opened⟩ := Option.ne_none_iff_exists'.mp (h.since state)
    by_cases early : now < since + p.recoverySeconds
    · rw [GuardState.enterCircuit_early state opened early] at answered post
      refine h.kept (post ▸ rfl) (post ▸ rfl) (post ▸ rfl) fun i => awaited_quiet ?_ goesOn
      intro probes
      cases answered.unique probes.1
    · obtain ⟨admitted, half, active⟩ :=
        GuardState.enterCircuit_late (p := p) state opened (not_lt.mp early)
      have probes : Probes e := ⟨by rw [admitted] at answered; exact answered, post ▸ half⟩
      -- while the circuit was open nobody was probing
      have only : ∀ i, ProbeInFlight (log ++ [e]) i ↔ e.caller = i := by
        intro i
        rw [ProbeInFlight, awaited_snoc]
        constructor
        · rintro (⟨probe, -⟩ | ⟨own, -⟩)
          · cases state.symm.trans (h.probing i probe)
          · exact own
        · intro own
          exact .inr ⟨own, probes⟩
      exact {
        probing := fun _ _ => post ▸ half
        unique := fun i j first second =>
          ((only i).mp first).symm.trans ((only j).mp second)
        held := fun _ => ⟨post ▸ active, e.caller, (only _).mpr rfl⟩
        since := fun isOpen => by cases (post ▸ half).symm.trans isOpen }

theorem oneProbe_step (valid : e.Valid p.sem) (undisturbed : ¬ Disturbs log e)
    (h : OneProbe log e.pre) : OneProbe (log ++ [e]) e.post := by
  cases circuit_step valid with
  | quiet other unrecorded state openedAt active =>
    refine h.kept state openedAt active fun i => ?_
    cases caught : uncaught e with
    | false =>
      exact awaited_quiet (not_probes rfl other) (by rw [ends, unrecorded, caught]; rfl)
    | true =>
      exact awaited_other (not_probes rfl other) fun probe => undisturbed (.uncaught probe caught)
  | entered now _ answered post => exact oneProbe_entered h answered post
  | succeeded op post =>
    exact .ended (settled_gone h undisturbed (by rw [op]; rfl) (not_probes op (by simp)))
      (by simp [post, GuardState.closed]) (by simp [post, GuardState.closed])
  | failed error now _ op post =>
    have enters := not_probes op (by simp)
    cases disguised : error.fromCircuit with
    | true =>
      rw [GuardState.recordFailure_disguised disguised] at post
      obtain same := Option.some.inj post
      exact h.kept (same ▸ rfl) (same ▸ rfl) (same ▸ rfl) fun i =>
        awaited_other enters fun probe => undisturbed (.disguised error probe op disguised)
    | false =>
      have recordable : error.recordable = true := by
        rw [← recordFailure_isSome e.pre now error, post]
        rfl
      refine .ended (settled_gone h undisturbed ?_ enters) ?_ ?_
      · rw [op]
        simp [GuardOp.settles, disguised, recordable]
      · exact GuardState.recordFailure_settled disguised post
      · exact GuardState.recordFailure_since h.since disguised post
  | raised error op unrecordable post =>
    exact h.kept (post ▸ rfl) (post ▸ rfl) (post ▸ rfl) fun i =>
      awaited_other (not_probes op (by simp)) fun probe =>
        undisturbed (.unhashable error probe op unrecordable)
  | cancelled now _ op post =>
    refine .ended (settled_gone h undisturbed (by rw [op]; rfl) (not_probes op (by simp))) ?_ ?_
    · exact post ▸ GuardState.recordCancellation_settled
    · exact post ▸ GuardState.recordCancellation_since h.since

theorem run_oneProbe {setUp : Rat} {g : GuardState} (trace : Trace p.sem (p.start setUp) log g)
    (undisturbed : ∀ a e b, log = a ++ e :: b → ¬ Disturbs a e) : OneProbe log g := by
  induction trace with
  | nil => exact oneProbe_initial setUp
  | snoc log e _ valid ih =>
    exact oneProbe_step valid (undisturbed log e [] rfl)
      (ih fun a d b whole => undisturbed a d (b ++ [e]) (by simp [whole]))

theorem OneProbe.opens {g : GuardState} (h : OneProbe log g) (idle : ∀ i, ¬ ProbeInFlight log i) :
    ∃ t, ∀ now, t ≤ now → (g.enterCircuit p now).1 = .ok () := by
  cases state : g.state with
  | closed => exact ⟨0, fun now _ => by rw [GuardState.enterCircuit_closed state]⟩
  | halfOpen =>
    obtain ⟨-, i, probe⟩ := h.held state
    exact absurd probe (idle i)
  | «open» =>
    obtain ⟨since, opened⟩ := Option.ne_none_iff_exists'.mp (h.since state)
    exact ⟨since + p.recoverySeconds, fun now late =>
      (GuardState.enterCircuit_late state opened late).1⟩

end Step

namespace Sample

/-- A call fails, and after the recovery time the next is let in as a probe. -/
def probing : List GuardTurn :=
  [.start observing, .start observing] ++ upTo 0 1 (unavailable []) ++ ending 0 1 ++
    [.step 1 { now := 40, outcome := healthy }]

/-- The probe's plugin reports an error that carries a circuit's state. -/
def disguised : List GuardTurn :=
  [.start observing, .start observing] ++ upTo 0 1 (unavailable []) ++ ending 0 1 ++
    upTo 1 40 (unavailable [("circuit_state", .json (.str "open"))]) ++ ending 1 41

def exiting : List GuardTurn :=
  [.start observing, .start observing] ++ upTo 0 1 (unavailable []) ++ ending 0 1 ++
    upTo 1 40 (fun _ => .error (.baseException "SystemExit")) ++
    [.step 1 { now := 41, outcome := healthy }]

end Sample

/-- No call is in flight, and the circuit waits for its probe for ever. -/
def ResiliencePolicy.Wedged (p : ResiliencePolicy) (turns : List GuardTurn) : Prop :=
  ∃ c, p.played turns = some c ∧ p.Reachable 0 c ∧ (∀ i, ¬ InFlight c.log i) ∧
    c.state.state = .halfOpen ∧ c.state.halfOpenProbeActive = true ∧
    ∀ now, (c.state.enterCircuit p now).1 ≠ .ok ()

theorem wedged_of_awaited {p : ResiliencePolicy} {turns : List GuardTurn}
    (outcome : (p.played turns).map (fun c =>
      (c.state.state, c.state.halfOpenProbeActive, awaited Admitted c.log)) =
      some (.halfOpen, true, [])) : p.Wedged turns := by
  obtain ⟨c, played, same⟩ := Option.map_eq_some_iff.mp outcome
  simp only [Prod.mk.injEq] at same
  obtain ⟨half, active, idle⟩ := same
  refine ⟨c, played, guard_played_reachable played, fun i flying => ?_, half, active,
    fun now admitted => ?_⟩
  · have member := mem_awaited.mpr flying
    rw [idle] at member
    cases member
  · rw [GuardState.enterCircuit_probing half active] at admitted
    cases admitted

end Deckhand
