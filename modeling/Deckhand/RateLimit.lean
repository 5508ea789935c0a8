import Deckhand.Lib.Bucket
import Deckhand.Circuit

/-! The rate limit of a guard: what is granted in a window, whatever the calls do, and what a
call that gives up its wait costs the others. -/
namespace Deckhand
open Lib Lib.Prog

def GuardState.bucket (g : GuardState) : Bucket Rat := ⟨g.tokens, g.lastRefill⟩

/-- What the circuit has no part in: the free slots and the bucket. -/
def GuardState.resources (g : GuardState) : Nat × Bucket Rat := (g.permits, g.bucket)

def asked : GuardEvent → Option Rat
  | ⟨_, .takeToken, _, now, _, _⟩ => some now
  | _ => none

def granted : GuardEvent → Bool
  | ⟨_, .takeToken, _, _, .ok true, _⟩ => true
  | _ => false

/-- The wait for a token ends with a cancellation or the deadline. -/
def Abandons (e : GuardEvent) : Prop := ∃ x, e.Answered .sleep (.error x)

def grantTimes (log : List GuardEvent) : List Rat :=
  log.filterMap fun e => bif granted e then asked e else none

/-- How many tokens were granted in the `D` seconds from `start` on. -/
def grantsIn (log : List GuardEvent) (start D : Rat) : Nat :=
  ((grantTimes log).filter fun t => start ≤ t ∧ t ≤ start + D).length

section Steps
variable {p : ResiliencePolicy} {e : GuardEvent}

theorem asked_op {now : Rat} (h : asked e = some now) : e.op = .takeToken := by
  unfold asked at h
  split at h
  · rfl
  · cases h

theorem asked_time {now : Rat} (h : asked e = some now) : stepTime e = some now := by
  unfold asked at h
  split at h
  · exact h
  · cases h

theorem granted_op (h : granted e = true) : e.op = .takeToken := by
  unfold granted at h
  split at h
  · rfl
  · cases h

theorem ungranted (other : e.op ≠ .takeToken) : granted e = false := by
  cases h : granted e with
  | false => rfl
  | true => exact absurd (granted_op h) other

theorem unasked (other : e.op ≠ .takeToken) : asked e = none := by
  cases h : asked e with
  | none => rfl
  | some now => exact absurd (asked_op h) other

theorem Abandons.op_eq (h : Abandons e) : e.op = .sleep := by
  obtain ⟨x, answered⟩ := h
  exact answered.op_eq

/-- What a step does to the bucket: a round of the loop is a request, all else leaves it. -/
inductive BucketStep (p : ResiliencePolicy) (e : GuardEvent) : Prop where
  | request (now : Rat) : asked e = some now →
      granted e = (e.pre.bucket.take (p.burst : Rat) p.requestsPerSecond now).1 →
      e.post.bucket = (e.pre.bucket.take (p.burst : Rat) p.requestsPerSecond now).2 → BucketStep p e
  | other : e.op ≠ .takeToken → e.post.bucket = e.pre.bucket → BucketStep p e

theorem takeToken_bucket (p : ResiliencePolicy) (now : Rat) (g : GuardState) :
    (g.takeToken p now).1 = (g.bucket.take (p.burst : Rat) p.requestsPerSecond now).1 ∧
      (g.takeToken p now).2.bucket = (g.bucket.take (p.burst : Rat) p.requestsPerSecond now).2 := by
  unfold GuardState.takeToken Bucket.take Bucket.refilled GuardState.bucket
  by_cases enough :
    1 ≤ min (p.burst : Rat) (g.tokens + (now - g.lastRefill) * p.requestsPerSecond)
  · simp only [if_pos enough, and_self]
  · simp only [if_neg enough, and_self]

theorem enterCircuit_resources (p : ResiliencePolicy) (now : Rat) (g : GuardState) :
    (g.enterCircuit p now).2.resources = g.resources := by
  have probe : ∀ g : GuardState, g.probe.2.resources = g.resources := by
    intro g
    unfold GuardState.probe
    split <;> rfl
  unfold GuardState.enterCircuit
  split
  · rfl
  · exact probe g
  · dsimp only
    split
    · rfl
    · exact probe _

theorem recordFailure_resources (p : ResiliencePolicy) (now : Rat) (error : AdapterError)
    {g g' : GuardState} (recorded : g.recordFailure p now error = some g') :
    g'.resources = g.resources := by
  unfold GuardState.recordFailure at recorded
  split at recorded
  · rw [Option.some.inj recorded]
  · obtain ⟨transient, -, rfl⟩ := Option.map_eq_some_iff.mp recorded
    unfold GuardState.countFailure
    split <;> split <;> rfl

theorem recordCancellation_resources (now : Rat) (g : GuardState) :
    (g.recordCancellation now).resources = g.resources := by
  unfold GuardState.recordCancellation
  split <;> rfl

theorem bucket_step (valid : e.Valid p.sem) : BucketStep p e := by
  obtain ⟨caller, op, pre, note, r, post⟩ := e
  change GuardOp.run p pre op note = some (r, post) at valid
  cases op with
  | takeToken =>
    obtain ⟨rfl, rfl⟩ := Prod.mk.inj (Option.some.inj valid)
    obtain ⟨same, bucket⟩ := takeToken_bucket p note pre
    refine .request note rfl ?_ bucket
    rw [← same]
    cases h : (pre.takeToken p note).1 with
    | true => rfl
    | false => rfl
  | enterCircuit =>
    obtain ⟨-, rfl⟩ := Prod.mk.inj (Option.some.inj valid)
    exact .other (by simp) (congrArg Prod.snd (enterCircuit_resources p note pre))
  | recordFailure error =>
    simp only [GuardOp.run] at valid
    split at valid
    · rename_i g' recorded
      obtain ⟨-, rfl⟩ := Prod.mk.inj (Option.some.inj valid)
      exact .other (by simp) (congrArg Prod.snd (recordFailure_resources p note error recorded))
    · obtain ⟨-, rfl⟩ := Prod.mk.inj (Option.some.inj valid)
      exact .other (by simp) rfl
  | recordCancellation =>
    obtain ⟨-, rfl⟩ := Prod.mk.inj (Option.some.inj valid)
    exact .other (by simp) (congrArg Prod.snd (recordCancellation_resources note pre))
  | acquireSlot =>
    cases note with
    | finished =>
      simp only [GuardOp.run] at valid
      split at valid
      · cases valid
      · obtain ⟨-, rfl⟩ := Prod.mk.inj (Option.some.inj valid)
        exact .other (by simp) rfl
    | cancelled =>
      obtain ⟨-, rfl⟩ := Prod.mk.inj (Option.some.inj valid)
      exact .other (by simp) rfl
    | pastDeadline =>
      obtain ⟨-, rfl⟩ := Prod.mk.inj (Option.some.inj valid)
      exact .other (by simp) rfl
  | sleep =>
    obtain ⟨-, rfl⟩ := Prod.mk.inj (Option.some.inj valid)
    exact .other (by simp) rfl
  | factory op =>
    obtain ⟨-, rfl⟩ := Prod.mk.inj (Option.some.inj valid)
    exact .other (by simp) rfl
  | recordSuccess =>
    obtain ⟨-, rfl⟩ := Prod.mk.inj (Option.some.inj valid)
    exact .other (by simp) rfl
  | releaseSlot =>
    obtain ⟨-, rfl⟩ := Prod.mk.inj (Option.some.inj valid)
    exact .other (by simp) rfl

/-- Along a trace the bucket is that of the requests made so far, and so are the grants. -/
theorem bucket_run {start g : GuardState} {log : List GuardEvent}
    (trace : Trace p.sem start log g) :
    g.bucket = start.bucket.drained (p.burst : Rat) p.requestsPerSecond (log.filterMap asked) ∧
      grantTimes log =
        start.bucket.grants (p.burst : Rat) p.requestsPerSecond (log.filterMap asked) := by
  induction trace with
  | nil => exact ⟨rfl, rfl⟩
  | snoc log e _ valid ih =>
    obtain ⟨bucket, times⟩ := ih
    unfold grantTimes at times ⊢
    rw [List.filterMap_append, List.filterMap_append, times]
    cases bucket_step valid with
    | request now request given post =>
      rw [List.filterMap_cons_some request, List.filterMap_nil, Bucket.drained_snoc,
        Bucket.grants_snoc, ← bucket, ← given]
      refine ⟨post, congrArg _ ?_⟩
      cases h : granted e with
      | true => simp [h, request]
      | false => simp [h]
    | other op post =>
      simp [unasked op, ungranted op, post, bucket]

end Steps

namespace ResilienceGuard
variable {es : List GuardEvent} {op : GuardOp}

theorem acquireRateToken_waits {rounds : Nat} (h : Calls (acquireRateToken rounds) es op) :
    ∀ e ∈ es, granted e = false ∧ ¬ Abandons e := by
  induction rounds generalizing es with
  | zero => exact absurd h calls_throw
  | succ rounds ih =>
    unfold acquireRateToken at h
    rcases calls_bind.mp h with here | ⟨given, first, rest, rfl, asking, h⟩
    · rw [(during_calls here).1]
      exact fun e member => absurd member List.not_mem_nil
    obtain ⟨d, r, rfl, answered, passed⟩ := during_returns asking
    cases given with
    | true => exact absurd h calls_pure
    | false =>
      have refused : granted d = false ∧ ¬ Abandons d := by
        cases r with
        | error x => cases passed
        | ok v =>
          cases passed
          cases answered
          exact ⟨rfl, fun abandons => by cases abandons.op_eq⟩
      have before : ∀ e ∈ [d] ++ rest, (e ∈ rest → granted e = false ∧ ¬ Abandons e) →
          granted e = false ∧ ¬ Abandons e := by
        intro e member later
        rcases List.mem_append.mp member with member | member
        · rw [List.mem_singleton.mp member]
          exact refused
        · exact later member
      intro e member
      refine before e member fun member => ?_
      rcases calls_bind.mp h with here | ⟨_, slept, later, rfl, sleeping, h₁⟩
      · rw [(during_calls here).1] at member
        cases member
      · obtain ⟨s, r, rfl, answered, passed⟩ := during_returns sleeping
        rcases List.mem_append.mp member with member | member
        · rw [List.mem_singleton.mp member]
          refine ⟨ungranted (by simp [answered.op_eq]), ?_⟩
          rintro ⟨x, failed⟩
          rw [answered.unique failed] at passed
          cases passed
        · exact ih h₁ e member

theorem acquireRateToken_raises {rounds : Nat} {x : Progress × AdapterExn}
    (h : Returns (acquireRateToken rounds) es (.error x)) : ∀ e ∈ es, granted e = false := by
  induction rounds generalizing es with
  | zero =>
    obtain ⟨rfl, -⟩ := returns_throw.mp h
    exact fun e member => absurd member List.not_mem_nil
  | succ rounds ih =>
    unfold acquireRateToken at h
    rcases returns_bind.mp h with ⟨y, asking, -⟩ | ⟨given, first, rest, rfl, asking, h⟩
    · obtain ⟨d, r, rfl, answered, raised⟩ := during_returns asking
      intro e member
      rw [List.mem_singleton.mp member]
      cases answered
      cases r with
      | ok v => cases raised
      | error y => rfl
    obtain ⟨d, r, rfl, answered, passed⟩ := during_returns asking
    cases given with
    | true => cases (returns_pure.mp h).2
    | false =>
      intro e member
      rcases List.mem_append.mp member with member | member
      · rw [List.mem_singleton.mp member]
        cases answered
        cases r with
        | error y => cases passed
        | ok v =>
          cases passed
          rfl
      · rcases returns_bind.mp h with ⟨y, sleeping, -⟩ | ⟨_, slept, later, rfl, sleeping, h₁⟩
        · obtain ⟨s, r, rfl, answered, -⟩ := during_returns sleeping
          rw [List.mem_singleton.mp member]
          exact ungranted (by simp [answered.op_eq])
        · obtain ⟨s, r, rfl, answered, -⟩ := during_returns sleeping
          rcases List.mem_append.mp member with member | member
          · rw [List.mem_singleton.mp member]
            exact ungranted (by simp [answered.op_eq])
          · exact ih h₁ e member

theorem call_waits {call : GuardCall} (h : Calls call.code es op)
    (waiting : op = .takeToken ∨ op = .sleep) : ∀ e ∈ es, granted e = false ∧ ¬ Abandons e := by
  have h := calls_map.mp h
  unfold ResilienceGuard.call GuardSteps.call at h
  rcases calls_bind.mp h with h | ⟨_, _, _, _, _, h⟩
  · rcases calls_tryCatch.mp (calls_attempt.mp h) with h | ⟨_, _, _, _, _, h⟩
    · unfold GuardSteps.body at h
      rcases calls_bind.mp h with here | ⟨_, first, rest, rfl, entered, h₁⟩
      · rw [(during_calls here).1]
        exact fun e member => absurd member List.not_mem_nil
      obtain ⟨d, r, rfl, answered, -⟩ := during_returns entered
      rcases calls_bind.mp h₁ with here | ⟨_, _, _, _, _, h₂⟩
      · intro e member
        rcases List.mem_append.mp member with member | member
        · rw [List.mem_singleton.mp member]
          refine ⟨ungranted (by simp [answered.op_eq]), fun abandons => ?_⟩
          cases answered.op_eq.symm.trans abandons.op_eq
        · exact acquireRateToken_waits here e member
      rcases calls_bind.mp h₂ with here | ⟨_, _, _, _, _, h₃⟩
      · simp [(during_calls here).2] at waiting
      rcases calls_bind.mp h₃ with here | ⟨_, _, _, _, _, h₄⟩
      · simp [(during_calls here).2] at waiting
      rcases calls_bind.mp h₄ with here | ⟨_, _, _, _, _, h₅⟩
      · simp [(during_calls here).2] at waiting
      · exact absurd h₅ calls_pure
    · rcases handle_calls h with rfl | ⟨error, rfl⟩ <;> simp at waiting
  · simp [finish_calls h] at waiting

end ResilienceGuard

section Run
variable {p : ResiliencePolicy} {setUp : Rat} {started : Nat → Option GuardCall}
  {log : List GuardEvent} {g : GuardState}

/-- The clock has not gone back since the guard was set up. -/
def OrderedSince (setUp : Rat) (log : List GuardEvent) : Prop :=
  Ordered log ∧ ∀ e ∈ log, ∀ t ∈ stepTime e, setUp ≤ t

theorem OrderedSince.left {a b : List GuardEvent} (h : OrderedSince setUp (a ++ b)) :
    OrderedSince setUp a :=
  ⟨(List.pairwise_append.mp h.1).1, fun e member => h.2 e (List.mem_append_left _ member)⟩

theorem OrderedSince.requests (h : OrderedSince setUp log) :
    (setUp :: log.filterMap asked).Pairwise (· ≤ ·) := by
  apply List.pairwise_cons.mpr
  constructor
  · intro t member
    obtain ⟨e, among, request⟩ := List.mem_filterMap.mp member
    exact h.2 e among t (asked_time request)
  · apply List.pairwise_filterMap.mpr
    refine h.1.imp ?_
    intro e d ordered t request u later
    exact ordered t (asked_time request) u (asked_time later)

theorem start_balanced (p : ResiliencePolicy) (setUp : Rat) :
    (p.start setUp).bucket.Balanced (p.burst : Rat) := ⟨Nat.cast_nonneg _, le_rfl⟩

theorem run_balanced (run : p.Run setUp started log g) (positive : 0 < p.requestsPerSecond)
    (ordered : OrderedSince setUp log) : g.bucket.Balanced (p.burst : Rat) := by
  rw [(bucket_run run.trace).1]
  exact Bucket.drained_balanced positive.le (start_balanced p setUp) ordered.requests

theorem run_visited_balanced (run : p.Run setUp started log g)
    (positive : 0 < p.requestsPerSecond) (ordered : OrderedSince setUp log) {u : GuardState}
    (visit : u ∈ visited (p.start setUp) log) : 0 ≤ u.tokens ∧ u.tokens ≤ p.burst := by
  obtain ⟨a, b, rfl, before⟩ := run.visit visit
  exact run_balanced before positive ordered.left

theorem run_grants_within (run : p.Run setUp started log g) (positive : 0 < p.requestsPerSecond)
    (ordered : OrderedSince setUp log) {start D : Rat} (length : 0 ≤ D) :
    (grantsIn log start D : Rat) ≤ p.burst + p.requestsPerSecond * D := by
  unfold grantsIn
  rw [(bucket_run run.trace).2]
  exact Bucket.grants_within positive.le (start_balanced p setUp) ordered.requests length

theorem run_ungranted {a b : List GuardEvent} {e : GuardEvent}
    (run : p.Run setUp started (a ++ e :: b) g) (positive : 0 < p.requestsPerSecond)
    (ordered : OrderedSince setUp (a ++ e :: b)) (none : granted e = false) :
    e.pre.tokens ≤ e.post.tokens := by
  have balanced := run_balanced run.until positive ordered.left
  cases bucket_step run.valid with
  | other _ post => exact (congrArg Bucket.tokens post).ge
  | request now request given post =>
    have before := bucket_run run.until.trace
    have through := (show a ++ e :: b = (a ++ [e]) ++ b by simp) ▸ ordered
    have later : e.pre.bucket.lastRefill ≤ now := by
      have sorted := through.left.requests
      rw [List.filterMap_append, List.filterMap_cons_some request] at sorted
      rw [before.1]
      exact Bucket.drained_lastRefill sorted
    have kept := Bucket.take_tokens (p.burst : Rat) p.requestsPerSecond e.pre.bucket now
    rw [← given, none, ← post, cond_false, add_zero] at kept
    exact (Bucket.refilled_ge positive.le balanced later).trans_eq kept.symm

theorem run_abandoned (run : p.Run setUp started log g) {e d : GuardEvent} (member : e ∈ log)
    (abandons : Abandons e) (other : d ∈ log) (own : d.caller = e.caller) :
    granted d = false := by
  cases given : granted d with
  | false => rfl
  | true =>
    exfalso
    obtain ⟨a, b, rfl⟩ := List.append_of_mem member
    obtain ⟨a', b', split⟩ := List.append_of_mem other
    rcases places split with ⟨m, rfl, rfl⟩ | ⟨m, rfl, rfl⟩ | ⟨rfl, rfl, rfl⟩
    · -- a token asked for after the wait was given up
      obtain ⟨call, -, calls⟩ := (split ▸ run).calls
      have earlier : e ∈ localOf d.caller (a ++ e :: m) := by simp [localOf, own]
      exact (ResilienceGuard.call_waits calls (.inl (granted_op given)) e earlier).2 abandons
    · -- a wait given up after the token was granted
      obtain ⟨call, -, calls⟩ := run.calls
      have earlier : d ∈ localOf e.caller (a' ++ d :: m) := by simp [localOf, own]
      have none := (ResilienceGuard.call_waits calls (.inr abandons.op_eq) d earlier).1
      rw [given] at none
      cases none
    · cases abandons.op_eq.symm.trans (granted_op given)

end Run

/-- In any window no more tokens are granted than the burst and what that time refills, the
balance stays between nothing and the burst, and a wait that is given up costs no token. -/
theorem token_bucket_bound (p : ResiliencePolicy) (setUp : Rat) (c : GuardConfig)
    (positive : 0 < p.requestsPerSecond) (h : p.Reachable setUp c)
    (ordered : OrderedSince setUp c.log) :
    (∀ start D : Rat, 0 ≤ D →
      (grantsIn c.log start D : Rat) ≤ p.burst + p.requestsPerSecond * D) ∧
    (∀ g ∈ visited (p.start setUp) c.log, 0 ≤ g.tokens ∧ g.tokens ≤ p.burst) ∧
    (∀ e ∈ c.log, Abandons e → ∀ d ∈ c.log, d.caller = e.caller →
      granted d = false ∧ d.pre.tokens ≤ d.post.tokens) ∧
    ∀ (rounds : Nat) (es : List GuardEvent) (x : Progress × AdapterExn),
      Returns (ResilienceGuard.acquireRateToken rounds) es (.error x) →
      ∀ e ∈ es, granted e = false := by
  have run := reachable_run h
  refine ⟨fun start D length => run_grants_within run positive ordered length,
    fun g visit => run_visited_balanced run positive ordered visit, ?_,
    fun rounds es x ended => ResilienceGuard.acquireRateToken_raises ended⟩
  intro e member abandons d other own
  have none := run_abandoned run member abandons other own
  obtain ⟨a, b, whole⟩ := List.append_of_mem other
  exact ⟨none, run_ungranted (whole ▸ run) positive (whole ▸ ordered) none⟩

namespace Sample

def thrifty : ResiliencePolicy := { plugin with burst := 1 }

/-- The only token is taken, and the next call is cancelled while it waits for another. -/
def abandoned : List GuardTurn :=
  [.start observing, .start observing] ++
    List.replicate 2 (.step 0 { now := 1, outcome := healthy }) ++
    List.replicate 2 (.step 1 { now := 1, outcome := healthy }) ++
    List.replicate 2 (.step 1 { now := 2, wait := .cancelled, outcome := healthy })

end Sample

open Sample in
theorem token_bucket_bound_abandoned : ∃ c, thrifty.played abandoned = some c ∧
    c.log.map granted = [false, true, false, false, false, false] ∧
    (grantsIn c.log 0 3 : Rat) ≤ 1 + 1 * 3 := by
  have outcome : (thrifty.played abandoned).map (fun c =>
      (c.log.map granted, c.log.map stepTime)) =
      some ([false, true, false, false, false, false],
        [some 1, some 1, some 1, some 1, none, some 2]) := by decide +kernel
  obtain ⟨c, played, same⟩ := Option.map_eq_some_iff.mp outcome
  obtain ⟨grants, times⟩ := Prod.mk.inj same
  have ordered : OrderedSince 0 c.log := by
    refine ⟨ordered_of_times times (by decide +kernel), fun e member t time => ?_⟩
    have among : some t ∈ c.log.map stepTime := List.mem_map.mpr ⟨e, member, time⟩
    rw [times] at among
    have late : ∀ x ∈ [some 1, some 1, some 1, some 1, none, some (2 : Rat)], ∀ t ∈ x, 0 ≤ t := by
      decide +kernel
    exact late _ among t rfl
  have bound := token_bucket_bound thrifty 0 c (by decide +kernel)
    (guard_played_reachable played) ordered
  exact ⟨c, played, grants, by simpa [thrifty, plugin] using bound.1 0 3 (by decide +kernel)⟩

end Deckhand
