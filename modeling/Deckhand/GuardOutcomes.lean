import Mathlib.Algebra.Order.BigOperators.Group.Finset
import Deckhand.RateLimit

namespace Deckhand
open Lib Lib.Prog

def Started (es : List GuardEvent) : Prop := ∃ e ∈ es, ∃ op, e.op = .factory op

def Struck (es : List GuardEvent) : Prop :=
  ∃ e ∈ es, e.Answered .sleep (.error .timeoutError) ∨
    e.Answered .acquireSlot (.error .timeoutError) ∨
    ∃ op, e.Answered (.factory op) (.error .timeoutError)

def Cancelled (es : List GuardEvent) : Prop :=
  ∃ e ∈ es, ∃ op : GuardOp, e.Answered op (.error .cancelledError)

/-- The guarded part of the call ended past its deadline. -/
def PastDeadline (call : GuardCall) (es : List GuardEvent) : Prop :=
  ∃ before after progress, es = before ++ after ∧
    Returns (ResilienceGuard.body call.op call.rounds) before (.error (progress, .timeoutError))

/-- What a deadline becomes: uncertain after the start of a mutation, and else safe. -/
def DeadlineError (call : GuardCall) (es : List GuardEvent)
    (r : Except AdapterExn call.op.Value) : Prop :=
  (Started es ∧ call.unknownOnStartedTimeout = true ∧
      r = .error (.adapterError (.unknownOutcome "plugin operation timed out" []))) ∨
    ¬ (Started es ∧ call.unknownOnStartedTimeout = true) ∧
      r = .error (.adapterError ResilienceGuard.operationTimedOut)

theorem Dispatched.started {es : List GuardEvent} {op : AdapterOp}
    {r : Except AdapterExn op.Value} (h : Dispatched es op r) : Started es := by
  obtain ⟨a, e, b, rfl, -, -, answered⟩ := h
  exact ⟨e, by simp, op, answered.op_eq⟩

theorem Undispatched.not_started {es : List GuardEvent} (h : Undispatched es) : ¬ Started es := by
  rintro ⟨e, member, op, begins⟩
  exact h e member op begins

namespace ResilienceGuard

section Deadline
variable {α β : Type} {es : List GuardEvent}

/-- An exception that a step of a part raises is how the part ends. -/
def Strict (q : Guarded α) : Prop :=
  ∀ (es : List GuardEvent) s, Returns q es s → ∀ e ∈ es, ∀ (op : GuardOp) (x : AdapterExn),
    e.Answered op (.error x) → ∃ progress, s = .error (progress, x)

theorem strict_pure (a : α) : Strict (pure a) := by
  intro es s h e member
  obtain ⟨rfl, -⟩ := returns_pure.mp h
  cases member

theorem strict_throw (x : Progress × AdapterExn) : Strict (throw x : Guarded α) := by
  intro es s h e member
  obtain ⟨rfl, -⟩ := returns_throw.mp h
  cases member

theorem strict_during {progress : Progress} {op : GuardOp} : Strict (progress.during op) := by
  intro es s h e member op' x raised
  obtain ⟨d, r, rfl, answered, rfl⟩ := during_returns h
  obtain rfl := List.mem_singleton.mp member
  obtain rfl := answered.op_eq.symm.trans raised.op_eq
  obtain rfl := answered.unique raised
  exact ⟨progress, rfl⟩

theorem strict_bind {q : Guarded α} {f : α → Guarded β} (first : Strict q)
    (second : ∀ a, Strict (f a)) : Strict (q >>= f) := by
  intro es s h e member op x raised
  rcases returns_bind.mp h with ⟨y, ended, rfl⟩ | ⟨a, es₁, es₂, rfl, ended, rest⟩
  · obtain ⟨progress, same⟩ := first es _ ended e member op x raised
    cases same
    exact ⟨progress, rfl⟩
  · rcases List.mem_append.mp member with before | after
    · obtain ⟨progress, same⟩ := first es₁ _ ended e before op x raised
      cases same
    · exact second a es₂ s rest e after op x raised

theorem acquireRateToken_strict (rounds : Nat) : Strict (acquireRateToken rounds) := by
  induction rounds with
  | zero => exact strict_throw _
  | succ rounds ih =>
    refine strict_bind strict_during fun granted => ?_
    cases granted with
    | true => exact strict_pure ()
    | false => exact strict_bind strict_during fun _ => ih

theorem body_strict (op : AdapterOp) (rounds : Nat) : Strict (body op rounds) :=
  strict_bind strict_during fun _ => strict_bind (acquireRateToken_strict rounds) fun _ =>
    strict_bind strict_during fun _ => strict_bind strict_during fun _ =>
      strict_bind strict_during fun _ => strict_pure _

/-- An exception that ends a part, but for a deadline, was raised by a step of it. -/
def Sourced (q : Guarded α) : Prop :=
  ∀ (es : List GuardEvent) progress x, Returns q es (.error (progress, x)) → x ≠ .timeoutError →
    ∃ e ∈ es, ∃ op : GuardOp, e.Answered op (.error x)

theorem sourced_pure (a : α) : Sourced (pure a) := by
  intro es progress x h
  cases (returns_pure.mp h).2

theorem sourced_during {progress : Progress} {op : GuardOp} : Sourced (progress.during op) := by
  intro es progress' x h _
  obtain ⟨d, r, rfl, answered, raised⟩ := during_returns h
  cases r with
  | ok v => cases raised
  | error y =>
    cases raised
    exact ⟨d, List.mem_singleton_self d, op, answered⟩

theorem sourced_bind {q : Guarded α} {f : α → Guarded β} (first : Sourced q)
    (second : ∀ a, Sourced (f a)) : Sourced (q >>= f) := by
  intro es progress x h other
  rcases returns_bind.mp h with ⟨y, ended, same⟩ | ⟨a, es₁, es₂, rfl, -, rest⟩
  · cases same
    exact first es progress x ended other
  · obtain ⟨e, member, raised⟩ := second a es₂ progress x rest other
    exact ⟨e, List.mem_append_right _ member, raised⟩

theorem acquireRateToken_sourced (rounds : Nat) : Sourced (acquireRateToken rounds) := by
  induction rounds with
  | zero =>
    intro es progress x h other
    cases (returns_throw.mp h).2
    exact absurd rfl other
  | succ rounds ih =>
    refine sourced_bind sourced_during fun granted => ?_
    cases granted with
    | true => exact sourced_pure ()
    | false => exact sourced_bind sourced_during fun _ => ih

theorem body_sourced (op : AdapterOp) (rounds : Nat) : Sourced (body op rounds) :=
  sourced_bind sourced_during fun _ => sourced_bind (acquireRateToken_sourced rounds) fun _ =>
    sourced_bind sourced_during fun _ => sourced_bind sourced_during fun _ =>
      sourced_bind sourced_during fun _ => sourced_pure _

theorem call_parts {op : AdapterOp} {unknownOnStartedTimeout : Bool} {rounds : Nat}
    {r : Except AdapterExn op.Value} (h : Returns (call op unknownOnStartedTimeout rounds) es r) :
    (∃ v before after, es = before ++ after ∧ Returns (body op rounds) before (.ok v) ∧
      Returns (finish (.ok v)) after r) ∨
    ∃ x before between after s, es = before ++ between ++ after ∧
      Returns (body op rounds) before (.error x) ∧
      Returns (handle unknownOnStartedTimeout x) between s ∧ Returns (finish s) after r := by
  unfold call at h
  rcases returns_bind.mp h with ⟨x, ended, -⟩ | ⟨outcome, first, rest, rfl, ended, last⟩
  · obtain ⟨_, _, h⟩ := returns_attempt.mp ended
    cases h
  obtain ⟨_, ended, same⟩ := returns_attempt.mp ended
  cases same
  rcases returns_tryCatch.mp ended with ⟨v, ran, rfl⟩ | ⟨x, before, between, rfl, ran, handled⟩
  · exact .inl ⟨v, first, rest, rfl, ran, last⟩
  · exact .inr ⟨x, before, between, rest, outcome, rfl, ran, handled, last⟩

theorem handle_op {unknownOnStartedTimeout : Bool} {x : Progress × AdapterExn}
    {s : Except (Progress × AdapterExn) α} (h : Returns (handle unknownOnStartedTimeout x) es s)
    {e : GuardEvent} (member : e ∈ es) :
    e.op = .recordCancellation ∨ ∃ error, e.op = .recordFailure error := by
  obtain ⟨before, calls⟩ := h.called member
  exact handle_calls calls

theorem finish_op {s : Except (Progress × AdapterExn) α} {r : Except AdapterExn α}
    (h : Returns (finish s) es r) {e : GuardEvent} (member : e ∈ es) : e.op = .releaseSlot := by
  obtain ⟨before, calls⟩ := h.called member
  exact finish_calls calls

theorem call_struck {call : GuardCall} {r : Except AdapterExn call.op.Value}
    (h : Returns (ResilienceGuard.call call.op call.unknownOnStartedTimeout call.rounds) es r)
    (struck : Struck es) : PastDeadline call es := by
  obtain ⟨e, member, struck⟩ := struck
  have strikes : ∃ op, e.Answered op (.error .timeoutError) ∧ op ≠ .releaseSlot ∧
      op ≠ .recordCancellation ∧ ∀ error, op ≠ .recordFailure error := by
    rcases struck with struck | struck | ⟨op, struck⟩
    · exact ⟨_, struck, by simp⟩
    · exact ⟨_, struck, by simp⟩
    · exact ⟨_, struck, by simp⟩
  obtain ⟨op, raised, unreleased, uncancelled, unfailed⟩ := strikes
  have finished : ∀ {es : List GuardEvent} {s : Except (Progress × AdapterExn) call.op.Value}
      {r : Except AdapterExn call.op.Value}, Returns (finish s) es r → e ∉ es :=
    fun last member => unreleased (raised.op_eq.symm.trans (finish_op last member))
  rcases call_parts h with ⟨v, before, after, rfl, ran, last⟩ |
    ⟨x, before, between, after, s, rfl, ran, handled, last⟩
  · rcases List.mem_append.mp member with inside | late
    · obtain ⟨progress, same⟩ := body_strict _ _ _ _ ran e inside op _ raised
      cases same
    · exact absurd late (finished last)
  · rw [List.append_assoc] at member
    rcases List.mem_append.mp member with inside | late
    · obtain ⟨progress, same⟩ := body_strict _ _ _ _ ran e inside op _ raised
      cases same
      exact ⟨before, between ++ after, progress, List.append_assoc .., ran⟩
    · rcases List.mem_append.mp late with late | late
      · rcases handle_op handled late with same | ⟨error, same⟩
        · exact absurd (raised.op_eq.symm.trans same) uncancelled
        · exact absurd (raised.op_eq.symm.trans same) (unfailed error)
      · exact absurd late (finished last)

theorem call_deadline {p : ResiliencePolicy} {call : GuardCall}
    {r : Except AdapterExn call.op.Value} (valid : ∀ e ∈ es, Event.Valid p.sem e)
    (h : Returns (ResilienceGuard.call call.op call.unknownOnStartedTimeout call.rounds) es r)
    (past : PastDeadline call es) : DeadlineError call es r := by
  obtain ⟨before', after', progress, split, late⟩ := past
  rcases call_parts h with ⟨v, before, after, rfl, ran, -⟩ |
    ⟨x, before, between, after, s, rfl, ran, handled, last⟩
  · cases (ran.cut late split).2
  · rw [List.append_assoc] at split valid
    obtain ⟨rfl, same⟩ := ran.cut late split
    cases same
    have validRest : ∀ e ∈ between ++ after, Event.Valid p.sem e :=
      fun e he => valid e (List.mem_append_right _ he)
    obtain ⟨own₁, rfl⟩ := handle_returns (p := p)
      (fun e he => validRest e (List.mem_append_left _ he)) handled
    obtain ⟨own₂, rfl⟩ := finish_returns (p := p)
      (fun e he => validRest e (List.mem_append_right _ he)) last
    have ended := body_returns (fun e he => valid e (List.mem_append_left _ he)) ran
    generalize whole : (.error (progress, .timeoutError) :
      Except (Progress × AdapterExn) call.op.Value) = s at ended
    rw [List.append_assoc]
    cases ended with
    | refused x idle refused =>
      cases whole
      have start : progress = {} := by
        rcases refused with (same | same) | ⟨message, state, same, -⟩ <;> cases same
        rfl
      subst start
      have idle : ¬ Started (before ++ (between ++ after)) :=
        (idle.append (own₁.append own₂)).not_started
      exact .inr ⟨fun started => idle started.1, rfl⟩
    | ended outcome dispatched =>
      cases outcome with
      | ok v => cases whole
      | error x =>
        cases whole
        obtain ⟨e, member, begins⟩ := dispatched.started
        have started : Started (before ++ (between ++ after)) :=
          ⟨e, List.mem_append_left _ member, begins⟩
        cases flag : call.unknownOnStartedTimeout with
        | true => exact .inl ⟨started, flag, rfl⟩
        | false =>
          refine .inr ⟨fun both => ?_, rfl⟩
          cases flag.symm.trans both.2

theorem surfaced_cancelled {unknownOnStartedTimeout : Bool} {x : Progress × AdapterExn}
    (cancelled : surfaced unknownOnStartedTimeout x = .cancelledError) : x.2 = .cancelledError := by
  obtain ⟨progress, x⟩ := x
  cases x with
  | cancelledError => rfl
  | adapterError error =>
    rw [surfaced] at cancelled
    split at cancelled <;> cases cancelled
  | _ => cases cancelled

theorem call_interrupted {p : ResiliencePolicy} {op : AdapterOp} {unknownOnStartedTimeout : Bool}
    {rounds : Nat} (valid : ∀ e ∈ es, Event.Valid p.sem e)
    (h : Returns (call op unknownOnStartedTimeout rounds) es (.error .cancelledError)) :
    Cancelled es := by
  rcases call_parts h with ⟨v, before, after, rfl, -, last⟩ |
    ⟨x, before, between, after, s, rfl, ran, handled, last⟩
  · cases (finish_returns (p := p) (fun e he => valid e (List.mem_append_right _ he)) last).2
  · obtain ⟨-, rfl⟩ := handle_returns (p := p)
      (fun e he => valid e (List.mem_append_left _ (List.mem_append_right _ he))) handled
    have same := (finish_returns (p := p)
      (fun e he => valid e (List.mem_append_right _ he)) last).2
    obtain ⟨progress, x⟩ := x
    obtain rfl : x = .cancelledError := surfaced_cancelled (Except.error.inj same).symm
    obtain ⟨e, member, raised⟩ := body_sourced op rounds before progress _ ran (by simp)
    exact ⟨e, List.mem_append_left _ (List.mem_append_left _ member), raised⟩

end Deadline
end ResilienceGuard

section Slots

def acquires : GuardEvent → Bool
  | ⟨_, .acquireSlot, _, _, .ok _, _⟩ => true
  | _ => false

def releases : GuardEvent → Bool
  | ⟨_, .releaseSlot, _, _, _, _⟩ => true
  | _ => false

def slots (es : List GuardEvent) : Nat × Nat := (es.countP acquires, es.countP releases)

@[simp] theorem slots_nil : slots [] = (0, 0) := rfl

theorem slots_append (a b : List GuardEvent) : slots (a ++ b) = slots a + slots b :=
  Prod.ext List.countP_append List.countP_append

theorem acquires_op {e : GuardEvent} (h : acquires e = true) : e.op = .acquireSlot := by
  unfold acquires at h
  split at h
  · rfl
  · cases h

theorem releases_op {e : GuardEvent} : releases e = true ↔ e.op = .releaseSlot := by
  obtain ⟨caller, op, pre, note, r, post⟩ := e
  cases op <;> simp [releases]

theorem acquires_answered {e : GuardEvent} (answered : e.Answered .acquireSlot (.ok ())) :
    acquires e = true := by
  cases answered
  rfl

theorem acquires_failed {e : GuardEvent} {x : AdapterExn}
    (answered : e.Answered .acquireSlot (.error x)) : acquires e = false := by
  cases answered
  rfl

theorem slots_untouched {es : List GuardEvent}
    (other : ∀ e ∈ es, e.op ≠ .acquireSlot ∧ e.op ≠ .releaseSlot) : slots es = (0, 0) := by
  apply Prod.ext
  · exact List.countP_eq_zero.mpr fun e member acquired => (other e member).1 (acquires_op acquired)
  · exact List.countP_eq_zero.mpr fun e member released =>
      (other e member).2 (releases_op.mp released)

theorem permits_step {p : ResiliencePolicy} {e : GuardEvent} (valid : e.Valid p.sem) :
    e.post.permits + (slots [e]).1 = e.pre.permits + (slots [e]).2 := by
  obtain ⟨caller, op, pre, note, r, post⟩ := e
  change GuardOp.run p pre op note = some (r, post) at valid
  cases op with
  | acquireSlot =>
    cases note with
    | finished =>
      simp only [GuardOp.run] at valid
      split at valid
      · cases valid
      · rename_i free
        obtain ⟨rfl, rfl⟩ := Prod.mk.inj (Option.some.inj valid)
        change pre.permits - 1 + 1 = pre.permits
        omega
    | cancelled =>
      obtain ⟨rfl, rfl⟩ := Prod.mk.inj (Option.some.inj valid)
      rfl
    | pastDeadline =>
      obtain ⟨rfl, rfl⟩ := Prod.mk.inj (Option.some.inj valid)
      rfl
  | releaseSlot =>
    obtain ⟨rfl, rfl⟩ := Prod.mk.inj (Option.some.inj valid)
    rfl
  | enterCircuit =>
    obtain ⟨-, rfl⟩ := Prod.mk.inj (Option.some.inj valid)
    exact congrArg Prod.fst (enterCircuit_resources p note pre)
  | takeToken =>
    obtain ⟨-, rfl⟩ := Prod.mk.inj (Option.some.inj valid)
    change (pre.takeToken p note).2.permits = pre.permits
    unfold GuardState.takeToken
    dsimp only
    split <;> rfl
  | recordFailure error =>
    simp only [GuardOp.run] at valid
    split at valid
    · rename_i g' recorded
      obtain ⟨-, rfl⟩ := Prod.mk.inj (Option.some.inj valid)
      exact congrArg Prod.fst (recordFailure_resources p note error recorded)
    · obtain ⟨-, rfl⟩ := Prod.mk.inj (Option.some.inj valid)
      rfl
  | recordCancellation =>
    obtain ⟨-, rfl⟩ := Prod.mk.inj (Option.some.inj valid)
    exact congrArg Prod.fst (recordCancellation_resources note pre)
  | sleep =>
    obtain ⟨-, rfl⟩ := Prod.mk.inj (Option.some.inj valid)
    rfl
  | factory op =>
    obtain ⟨-, rfl⟩ := Prod.mk.inj (Option.some.inj valid)
    rfl
  | recordSuccess =>
    obtain ⟨-, rfl⟩ := Prod.mk.inj (Option.some.inj valid)
    rfl

/-- The permits of the semaphore and the slots that are held are what there was at the start. -/
theorem slots_run {p : ResiliencePolicy} {start g : GuardState} {log : List GuardEvent}
    (trace : Trace p.sem start log g) :
    g.permits + (slots log).1 = start.permits + (slots log).2 := by
  induction trace with
  | nil => rfl
  | snoc log e _ valid ih =>
    have step : e.post.permits + (slots [e]).1 = e.pre.permits + (slots [e]).2 :=
      permits_step valid
    rw [slots_append, Prod.fst_add, Prod.snd_add]
    omega

end Slots

namespace ResilienceGuard
variable {α β : Type} {es : List GuardEvent} {op : GuardOp}

/-- A part of a call that has to do with no slot. -/
def Slotless (q : Guarded α) : Prop :=
  ∀ (es : List GuardEvent) op, Calls q es op → op ≠ .acquireSlot ∧ op ≠ .releaseSlot

theorem slotless_steps {q q' : Guarded α} (slotless : Slotless q) (h : Steps q es q') :
    slots es = (0, 0) := by
  apply slots_untouched
  intro e member
  obtain ⟨before, calls⟩ := h.called member
  exact slotless before _ calls

theorem slotless_during {progress : Progress} {op : GuardOp}
    (other : op ≠ .acquireSlot ∧ op ≠ .releaseSlot) : Slotless (progress.during op) := by
  intro es op' h
  rw [(during_calls h).2]
  exact other

theorem acquireRateToken_slotless (rounds : Nat) : Slotless (acquireRateToken rounds) := by
  intro es op h
  rcases acquireRateToken_calls h with rfl | rfl
  · simp
  · simp

theorem handle_slotless (unknownOnStartedTimeout : Bool) (x : Progress × AdapterExn) :
    Slotless (handle unknownOnStartedTimeout x : Guarded α) := by
  intro es op h
  rcases handle_calls h with rfl | ⟨error, rfl⟩
  · simp
  · simp

theorem slotless_bind {q : Guarded α} {f : α → Guarded β} (first : Slotless q)
    (second : ∀ a, Slotless (f a)) : Slotless (q >>= f) := by
  intro es op h
  rcases calls_bind.mp h with here | ⟨a, _, rest, _, _, h⟩
  · exact first es op here
  · exact second a rest op h

/-- The exceptions of a part tell that the call came so far. -/
def Marked (progress : Progress) (q : Guarded α) : Prop :=
  ∀ (es : List GuardEvent) x, Returns q es (.error x) → x.1 = progress

theorem marked_during {progress : Progress} {op : GuardOp} :
    Marked progress (progress.during op) := by
  intro es x h
  obtain ⟨e, r, rfl, -, raised⟩ := during_returns h
  cases r with
  | ok v => cases raised
  | error y =>
    cases raised
    rfl

theorem marked_pure {progress : Progress} (a : α) : Marked progress (pure a) := by
  intro es x h
  cases (returns_pure.mp h).2

theorem marked_bind {progress : Progress} {q : Guarded α} {f : α → Guarded β}
    (first : Marked progress q) (second : ∀ a, Marked progress (f a)) :
    Marked progress (q >>= f) := by
  intro es x h
  rcases returns_bind.mp h with ⟨y, ended, same⟩ | ⟨a, _, rest, _, _, h⟩
  · cases same
    exact first es x ended
  · exact second a rest x h

theorem acquireRateToken_marked (rounds : Nat) : Marked {} (acquireRateToken rounds) := by
  induction rounds with
  | zero =>
    intro es x h
    cases (returns_throw.mp h).2
    rfl
  | succ rounds ih =>
    refine marked_bind marked_during fun granted => ?_
    cases granted with
    | true => exact marked_pure ()
    | false => exact marked_bind marked_during fun _ => ih

def begun (op : AdapterOp) : Guarded op.Value := do
  let result ← Progress.during ⟨true, true⟩ (.factory op)
  Progress.during ⟨true, true⟩ .recordSuccess
  return result

theorem begun_slotless (op : AdapterOp) : Slotless (begun op) :=
  slotless_bind (slotless_during (by simp)) fun _ =>
    slotless_bind (slotless_during (by simp)) fun _ _ _ h => absurd h calls_pure

theorem begun_marked (op : AdapterOp) : Marked ⟨true, true⟩ (begun op) :=
  marked_bind marked_during fun _ => marked_bind marked_during fun _ => marked_pure _

theorem slotless_returns {q : Guarded α} {f : α → Guarded β} (slotless : Slotless q)
    {s : Except (Progress × AdapterExn) β} (h : Returns (q >>= f) es s) :
    (slots es = (0, 0) ∧ ∃ x, Returns q es (.error x) ∧ s = .error x) ∨
      ∃ a rest, slots es = slots rest ∧ Returns (f a) rest s := by
  rcases returns_bind.mp h with ⟨x, ended, rfl⟩ | ⟨a, first, rest, rfl, ended, h⟩
  · exact .inl ⟨slotless_steps slotless ended, x, ended, rfl⟩
  · refine .inr ⟨a, rest, ?_, h⟩
    rw [slots_append, slotless_steps slotless ended, Prod.mk_zero_zero, zero_add]

theorem slotless_calls {q : Guarded α} {f : α → Guarded β} (slotless : Slotless q)
    (h : Calls (q >>= f) es op) :
    Calls q es op ∨ ∃ a rest, slots es = slots rest ∧ Calls (f a) rest op := by
  rcases calls_bind.mp h with here | ⟨a, first, rest, rfl, ended, h⟩
  · exact .inl here
  · refine .inr ⟨a, rest, ?_, h⟩
    rw [slots_append, slotless_steps slotless ended, Prod.mk_zero_zero, zero_add]

/-- The call holds a slot when it ends so. -/
def holds : Except (Progress × AdapterExn) α → Bool
  | .ok _ => true
  | .error (progress, _) => progress.slotAcquired

/-- The slots of a guarded part that ended: none touched, or one acquired and held. -/
def Settled (s : Except (Progress × AdapterExn) α) (es : List GuardEvent) : Prop :=
  slots es = (if holds s then 1 else 0, 0)

theorem acquired_slots {e : GuardEvent} {rest : List GuardEvent}
    (answered : e.Answered .acquireSlot (.ok ())) (untouched : slots rest = (0, 0)) :
    slots ([e] ++ rest) = (1, 0) := by
  have kept : releases e = false := by
    cases answered
    rfl
  have first : slots [e] = (1, 0) := by
    simp [slots, acquires_answered answered, kept]
  rw [slots_append, first, untouched]
  rfl

theorem body_slots {op : AdapterOp} {rounds : Nat} {s : Except (Progress × AdapterExn) op.Value}
    (h : Returns (body op rounds) es s) : Settled s es := by
  unfold body at h
  unfold Settled
  have refused : ∀ {x : Progress × AdapterExn}, slots es = (0, 0) → x.1 = {} →
      slots es = (if holds (.error x : Except (Progress × AdapterExn) op.Value) then 1 else 0,
        0) := by
    intro x none unmarked
    rw [none, holds, unmarked]
    rfl
  rcases slotless_returns (slotless_during (by simp)) h with
    ⟨none, x, ended, rfl⟩ | ⟨_, rest₁, same₁, h₁⟩
  · exact refused none (marked_during es x ended)
  rcases slotless_returns (acquireRateToken_slotless rounds) h₁ with
    ⟨none, x, ended, rfl⟩ | ⟨_, rest₂, same₂, h₂⟩
  · exact refused (same₁.trans none) (acquireRateToken_marked rounds _ x ended)
  rw [same₁, same₂]
  rcases returns_bind.mp h₂ with ⟨x, acquiring, rfl⟩ | ⟨_, first, rest, rfl, acquiring, h₃⟩
  · obtain ⟨e, r, rfl, answered, raised⟩ := during_returns acquiring
    cases r with
    | ok v => cases raised
    | error y =>
      cases raised
      have kept : releases e = false := by
        cases answered
        rfl
      simp [slots, acquires_failed answered, kept, holds]
  · obtain ⟨e, r, rfl, answered, passed⟩ := during_returns acquiring
    cases r with
    | error y => cases passed
    | ok v =>
      rw [acquired_slots answered (slotless_steps (begun_slotless op) h₃)]
      cases s with
      | ok w => rfl
      | error x => rw [holds, begun_marked op _ x h₃]; rfl

theorem body_factory_slots {adapterOp f : AdapterOp} {rounds : Nat}
    (h : Calls (body adapterOp rounds) es (.factory f)) : slots es = (1, 0) := by
  unfold body at h
  rcases slotless_calls (slotless_during (by simp)) h with here | ⟨_, rest₁, same₁, h₁⟩
  · cases (during_calls here).2
  rcases slotless_calls (acquireRateToken_slotless rounds) h₁ with here | ⟨_, rest₂, same₂, h₂⟩
  · rcases acquireRateToken_calls here with other | other <;> cases other
  rw [same₁, same₂]
  rcases calls_bind.mp h₂ with here | ⟨_, first, rest, rfl, acquiring, k, h₃⟩
  · cases (during_calls here).2
  obtain ⟨e, r, rfl, answered, passed⟩ := during_returns acquiring
  cases r with
  | error y => cases passed
  | ok v => exact acquired_slots answered (slotless_steps (begun_slotless adapterOp) h₃)

theorem body_unreleased {adapterOp : AdapterOp} {rounds : Nat} :
    ¬ Calls (body adapterOp rounds) es .releaseSlot := by
  intro h
  unfold body at h
  rcases calls_bind.mp h with here | ⟨_, _, _, _, _, h₁⟩
  · cases (during_calls here).2
  rcases calls_bind.mp h₁ with here | ⟨_, _, _, _, _, h₂⟩
  · exact (acquireRateToken_slotless rounds _ _ here).2 rfl
  rcases calls_bind.mp h₂ with here | ⟨_, _, _, _, _, h₃⟩
  · cases (during_calls here).2
  · exact (begun_slotless adapterOp _ _ h₃).2 rfl

theorem handle_marked (unknownOnStartedTimeout : Bool) (x : Progress × AdapterExn) :
    Marked x.1 (handle unknownOnStartedTimeout x : Guarded α) := by
  have recorded : ∀ {op : GuardOp} {y : AdapterExn},
      Marked x.1 (do let _ ← x.1.during op; throw (x.1, y) : Guarded α) := by
    intro op y
    refine marked_bind marked_during fun _ es z h => ?_
    cases (returns_throw.mp h).2
    rfl
  obtain ⟨progress, x⟩ := x
  cases x with
  | adapterError error => exact recorded
  | timeoutError => exact recorded
  | cancelledError => exact recorded
  | other message => exact recorded
  | baseException message =>
    intro es z h
    cases (returns_throw.mp h).2
    rfl

theorem handle_raises {unknownOnStartedTimeout : Bool} {x : Progress × AdapterExn}
    {s : Except (Progress × AdapterExn) α}
    (h : Returns (handle unknownOnStartedTimeout x) es s) : ∃ y, s = .error y := by
  have recorded : ∀ {op : GuardOp} {y : Progress × AdapterExn},
      Returns (do let _ ← x.1.during op; throw y : Guarded α) es s → ∃ y, s = .error y := by
    intro op y h
    rcases returns_bind.mp h with ⟨z, -, rfl⟩ | ⟨_, _, _, _, _, h⟩
    · exact ⟨z, rfl⟩
    · exact ⟨y, (returns_throw.mp h).2⟩
  obtain ⟨progress, x⟩ := x
  cases x with
  | adapterError error => exact recorded h
  | timeoutError => exact recorded h
  | cancelledError => exact recorded h
  | other message => exact recorded h
  | baseException message => exact ⟨_, (returns_throw.mp h).2⟩

theorem guarded_slots {op : AdapterOp} {unknownOnStartedTimeout : Bool} {rounds : Nat}
    {s : Except (Progress × AdapterExn) op.Value}
    (h : Returns (tryCatch (body op rounds) (handle unknownOnStartedTimeout)) es s) :
    Settled s es := by
  rcases returns_tryCatch.mp h with ⟨v, ran, rfl⟩ | ⟨x, before, after, rfl, ran, handled⟩
  · exact body_slots ran
  · obtain ⟨y, rfl⟩ := handle_raises handled
    have settled := body_slots ran
    unfold Settled at settled ⊢
    rw [slots_append, settled, slotless_steps (handle_slotless _ x) handled,
      Prod.mk_zero_zero, add_zero, holds, holds, handle_marked _ x after y handled]

theorem finish_slots {s : Except (Progress × AdapterExn) α} {r : Except AdapterExn α}
    (h : Returns (finish s) es r) : slots es = (0, if holds s then 1 else 0) := by
  have released : ∀ {r' : Except AdapterExn α},
      Returns (releaseSlot >>= fun _ => .ret r') es r → slots es = (0, 1) := by
    intro r' h
    have given : ∀ {e : GuardEvent}, e.op = .releaseSlot → slots [e] = (0, 1) := by
      intro e op
      have kept : acquires e = false := by
        cases h : acquires e with
        | false => rfl
        | true => cases op.symm.trans (acquires_op h)
      simp [slots, kept, releases_op.mpr op]
    unfold releaseSlot at h
    rcases returns_bind.mp h with ⟨x, freed, -⟩ | ⟨_, first, rest, rfl, freed, last⟩
    · obtain ⟨e, _, rfl, answered, -⟩ := returns_invoke.mp freed
      exact given answered.op_eq
    · obtain ⟨e, _, rfl, answered, -⟩ := returns_invoke.mp freed
      obtain ⟨rfl, -⟩ := returns_ret.mp last
      exact given answered.op_eq
  cases s with
  | ok v => exact released h
  | error x =>
    obtain ⟨⟨slotAcquired, operationStarted⟩, x⟩ := x
    cases slotAcquired with
    | true => exact released h
    | false =>
      obtain ⟨rfl, -⟩ := returns_throw.mp h
      rfl

theorem finish_holds {s : Except (Progress × AdapterExn) α} (h : Calls (finish s) es op) :
    es = [] ∧ holds s = true := by
  have released : ∀ {r : Except AdapterExn α},
      Calls (releaseSlot >>= fun _ => .ret r) es op → es = [] := by
    intro r h
    rcases calls_bind.mp h with here | ⟨_, _, _, _, _, h⟩
    · exact (calls_invoke.mp here).1
    · exact absurd h calls_ret
  cases s with
  | ok v => exact ⟨released h, rfl⟩
  | error x =>
    obtain ⟨⟨slotAcquired, operationStarted⟩, x⟩ := x
    cases slotAcquired with
    | true => exact ⟨released h, rfl⟩
    | false => exact absurd h calls_throw

theorem call_factory_slots {call : GuardCall} {f : AdapterOp}
    (h : Calls call.code es (.factory f)) : slots es = (1, 0) := by
  have h := calls_map.mp h
  unfold ResilienceGuard.call at h
  rcases calls_bind.mp h with h₁ | ⟨_, _, _, _, _, h₁⟩
  · rcases calls_tryCatch.mp (calls_attempt.mp h₁) with h₂ | ⟨_, _, _, _, _, h₂⟩
    · exact body_factory_slots h₂
    · rcases handle_calls h₂ with other | ⟨error, other⟩ <;> cases other
  · cases finish_calls h₁

theorem call_release_slots {call : GuardCall} (h : Calls call.code es .releaseSlot) :
    slots es = (1, 0) := by
  have h := calls_map.mp h
  unfold ResilienceGuard.call at h
  rcases calls_bind.mp h with h₁ | ⟨outcome, first, rest, rfl, ended, h₁⟩
  · rcases calls_tryCatch.mp (calls_attempt.mp h₁) with h₂ | ⟨_, _, _, _, _, h₂⟩
    · exact absurd h₂ body_unreleased
    · rcases handle_calls h₂ with other | ⟨error, other⟩ <;> cases other
  · obtain ⟨s, ended, same⟩ := returns_attempt.mp ended
    cases same
    obtain ⟨rfl, held⟩ := finish_holds h₁
    have settled := guarded_slots ended
    rw [Settled, held] at settled
    rw [List.append_nil, settled]
    rfl

theorem call_returns_slots {call : GuardCall} {r : Except AdapterExn Unit}
    (h : Returns call.code es r) : (slots es).1 = (slots es).2 := by
  obtain ⟨r, h, -⟩ := returns_map h
  unfold ResilienceGuard.call at h
  rcases returns_bind.mp h with ⟨x, ended, -⟩ | ⟨outcome, first, rest, rfl, ended, last⟩
  · obtain ⟨_, _, h⟩ := returns_attempt.mp ended
    cases h
  · obtain ⟨s, ended, same⟩ := returns_attempt.mp ended
    cases same
    rw [slots_append, guarded_slots ended, finish_slots last]
    simp

end ResilienceGuard

section Run
variable {p : ResiliencePolicy} {setUp : Rat} {started : Nat → Option GuardCall}
  {log : List GuardEvent} {g : GuardState} {c : GuardConfig}

theorem run_released (run : p.Run setUp started log g) (i : Nat) :
    (slots (localOf i log)).2 ≤ (slots (localOf i log)).1 := by
  refine run.induction (P := fun log _ =>
    (slots (localOf i log)).2 ≤ (slots (localOf i log)).1) (Nat.le_refl _) ?_
  intro log e _ _ from_ before
  by_cases own : e.caller = i
  · subst own
    rw [localOf_snoc_self, slots_append, Prod.fst_add, Prod.snd_add]
    cases released : releases e with
    | false =>
      have none : (slots [e]).2 = 0 := by simp [slots, released]
      omega
    | true =>
      obtain ⟨call, -, calls⟩ := from_
      rw [releases_op.mp released] at calls
      have one : (slots [e]).2 = 1 := by simp [slots, released]
      rw [ResilienceGuard.call_release_slots calls, one]
      exact Nat.le_add_right _ _
  · rw [localOf_snoc_other log own]
    exact before

def InFactory (c : GuardConfig) (i : Nat) : Prop :=
  ∃ call op k, c.procs[i]? = some (call, some (.call (.factory op) k))

theorem slots_callers (h : p.Reachable setUp c) : slots c.log =
    (∑ i ∈ Finset.range c.procs.length, (slots (localOf i c.log)).1,
      ∑ i ∈ Finset.range c.procs.length, (slots (localOf i c.log)).2) :=
  Prod.ext (countP_callers _ (reachable_callers h)) (countP_callers _ (reachable_callers h))

theorem factories_held (h : p.Reachable setUp c) (S : Finset Nat)
    (inside : ∀ i ∈ S, InFactory c i) : S.card + (slots c.log).2 ≤ (slots c.log).1 := by
  have known : S ⊆ Finset.range c.procs.length := by
    intro i member
    obtain ⟨call, op, k, here⟩ := inside i member
    exact Finset.mem_range.mpr (List.getElem?_eq_some_iff.mp here).1
  have counted : S.card = ∑ i ∈ Finset.range c.procs.length, if i ∈ S then 1 else 0 := by
    rw [Finset.sum_ite_mem, Finset.inter_eq_right.mpr known, Finset.card_eq_sum_ones]
  rw [slots_callers h, counted, ← Finset.sum_add_distrib]
  apply Finset.sum_le_sum
  intro i _
  by_cases member : i ∈ S
  · obtain ⟨call, op, k, here⟩ := inside i member
    have held := ResilienceGuard.call_factory_slots ⟨k, reachable_position h i call _ here⟩
    rw [if_pos member, held, Nat.add_zero]
  · rw [if_neg member, zero_add]
    exact run_released (reachable_run h) i

theorem factories_bounded (h : p.Reachable setUp c) (S : Finset Nat)
    (inside : ∀ i ∈ S, InFactory c i) : S.card ≤ p.maxConcurrency := by
  have held := factories_held h S inside
  have total : c.state.permits + (slots c.log).1 = p.maxConcurrency + (slots c.log).2 :=
    slots_run (reachable_run h).trace
  omega

theorem permits_free (h : p.Reachable setUp c)
    (idle : ∀ i < c.procs.length, ∃ r, c.Ended i r) : c.state.permits = p.maxConcurrency := by
  have returned : ∀ i ∈ Finset.range c.procs.length,
      (slots (localOf i c.log)).1 = (slots (localOf i c.log)).2 := by
    intro i member
    obtain ⟨r, call, here⟩ := idle i (Finset.mem_range.mp member)
    exact ResilienceGuard.call_returns_slots (reachable_position h i call _ here)
  have balanced : (slots c.log).1 = (slots c.log).2 := by
    rw [slots_callers h]
    exact Finset.sum_congr rfl returned
  have total : c.state.permits + (slots c.log).1 = p.maxConcurrency + (slots c.log).2 :=
    slots_run (reachable_run h).trace
  omega

end Run

namespace Sample

def executing : GuardCall := ⟨.execute (ensureActive .none) (request keyA), true, 1⟩

/-- The deadline strikes in an execution, while another call is in the plugin. -/
def struck : List GuardTurn :=
  [.start executing, .start observing] ++
    List.replicate 3 (.step 1 { now := 1, outcome := healthy }) ++
    upTo 0 2 (fun _ => .error .timeoutError) ++ ending 0 3

def hasEnded (c : GuardConfig) (i : Nat) : Bool :=
  match c.procs[i]? with
  | some (_, some (.ret _)) => true
  | _ => false

theorem hasEnded_ret {c : GuardConfig} {i : Nat} (h : hasEnded c i = true) : ∃ r, c.Ended i r := by
  unfold hasEnded at h
  split at h
  · rename_i call r same
    exact ⟨r, call, same⟩
  · cases h

def inFactory (c : GuardConfig) (i : Nat) : Bool :=
  match c.procs[i]? with
  | some (_, some (.call (.factory _) _)) => true
  | _ => false

theorem inFactory_in {c : GuardConfig} {i : Nat} (h : inFactory c i = true) : InFactory c i := by
  unfold inFactory at h
  split at h
  · rename_i call op k same
    exact ⟨call, op, k, same⟩
  · cases h

def strikes : GuardEvent → Bool
  | ⟨_, .factory _, _, _, .error .timeoutError, _⟩ => true
  | _ => false

theorem strikes_struck {es : List GuardEvent} (h : es.any strikes = true) :
    Struck es ∧ Started es := by
  obtain ⟨e, member, strikes⟩ := List.any_eq_true.mp h
  unfold Sample.strikes at strikes
  split at strikes
  · rename_i caller op pre note post
    exact ⟨⟨_, member, .inr (.inr ⟨op, .mk ..⟩)⟩, _, member, op, rfl⟩
  · cases strikes

def exited : List GuardTurn :=
  [.start observing] ++ upTo 0 1 (fun _ => .error (.baseException "SystemExit")) ++
    [.step 0 { now := 2, outcome := healthy }]

def exits (c : GuardConfig) (i : Nat) : Bool :=
  match c.procs[i]? with
  | some (_, some (.ret (.error (.baseException message)))) => message = "SystemExit"
  | _ => false

theorem exits_ended {c : GuardConfig} {i : Nat} (h : exits c i = true) :
    c.Ended i (.error (.baseException "SystemExit")) := by
  unfold exits at h
  split at h
  · rename_i call message same
    obtain rfl : message = "SystemExit" := by simpa using h
    exact ⟨call, same⟩
  · cases h

end Sample

end Deckhand
