import Deckhand.Lib.Timed
import Deckhand.Leases

/-! How long a lease lasts: what a worker's three adapter calls may take, against what its
claim and its renewal give it. -/
namespace Deckhand
open Lib Lib.Prog

/-- The timeout of the guard around each adapter, as its policy admits it. -/
structure GuardTimeouts where
  seconds : String → Rat
  positive : ∀ name, 0 < seconds name
  bounded : ∀ name, seconds name ≤ 300

def AdapterOp.action : AdapterOp → ActionDefinition
  | .plan action _ => action
  | .execute action _ => action
  | .observe action _ => action
  | .verify action .. => action
  | .cancel action .. => action

namespace GuardTimeouts
variable (guards : GuardTimeouts)

/-- The guard gives a call the action's timeout or its own, whichever is less. -/
def deadline (action : ActionDefinition) : Rat :=
  min (action.timeoutSeconds : Rat) (guards.seconds action.adapter)

/-- Microseconds a call may take: up to the deadline for an adapter, none for the store. -/
def allowance : Op → Rat
  | .adapter name op => min (op.action.timeoutSeconds : Rat) (guards.seconds name) * 1000000
  | _ => 0

/-- Twice the deadline fits into the lease that a renewal gives. -/
def Covers (action : ActionDefinition) : Prop :=
  2 * guards.deadline action ≤ action.timeoutSeconds + 15

end GuardTimeouts

abbrev BrokerTimedLog := TimedLog DB Op.Note Op.Ret

/-- The clock that a store call reads shows `t`. -/
def Shows (t : Timestamp) : BrokerEvent → Prop
  | ⟨_, .store _, _, o, _, _⟩ => o.now = t
  | _ => True

instance (t : Timestamp) (e : BrokerEvent) : Decidable (Shows t e) :=
  match e with
  | ⟨_, .store _, _, o, _, _⟩ => inferInstanceAs (Decidable (o.now = t))
  | ⟨_, .adapter .., _, _, _, _⟩ => isTrue trivial
  | ⟨_, .decide _, _, _, _, _⟩ => isTrue trivial

structure Clocked (timed : BrokerTimedLog) : Prop where
  ordered : InOrder timed
  shows : ∀ x ∈ timed, Shows x.1 x.2

/-- The event gives job `j` a lease. -/
inductive Grants (j : String) (e : BrokerEvent) : Prop where
  | claimed (token : String) : claimToken j e = some token → Grants j e
  | renewed (token : String) (leaseSeconds : Int) :
      e.Answered (.store (.renewLease j token leaseSeconds)) (.ok true) → Grants j e

section Grants
variable {rt : Runtime} {env : Environment} {started : Nat → Option Client} {db : DB}
  {timed : BrokerTimedLog} {j : String}

theorem valid_shown {t : Timestamp} {e : BrokerEvent} {op : StoreOp}
    {r : Except StoreExn op.Value} (valid : e.Valid (rt.sem env)) (shows : Shows t e)
    (answered : e.Answered (.store op) r) :
    ∃ o : Oracle, o.now = t ∧ op.run rt.store o e.pre = (r, e.post) := by
  cases answered
  exact ⟨_, shows, valid⟩

theorem Move.ungranted {s : Store} {e : BrokerEvent} {l l' : Life} (move : Move s j e l l')
    (none : ¬ Grants j e) {row' : JobRow} {expiry : Timestamp} (after : l'.row = some row')
    (lease : row'.leaseExpiresAt = some expiry) :
    ∃ row, l.row = some row ∧ row.leaseExpiresAt = some expiry := by
  cases move with
  | same => exact ⟨row', after, lease⟩
  | created o request subject events =>
    cases after
    cases lease
  | claimed o workerId seconds row events _ _ token => exact absurd (.claimed _ token) none
  | renewed o leaseToken leaseSeconds row events answered =>
    exact absurd (.renewed _ _ answered) none
  | transitioned o target result error fence expectedState row events =>
    cases after
    by_cases verifying : target = .verifying
    · exact ⟨row, rfl, by simpa [JobRow.transition, verifying] using lease⟩
    · simp [JobRow.transition, verifying] at lease
  | lapsed o row events =>
    cases after
    cases lease
  | expired o ttlSeconds row events =>
    cases after
    cases lease
  | attempted maxAttempts limit row events =>
    cases after
    exact ⟨row, rfl, lease⟩

/-- Where each grant leaves a lease of the given length, the lease in the row reaches as far as
any of them. -/
theorem lease_reaches {length : Int} (trace : Trace (rt.sem env) .empty (untimed timed) db)
    (ordered : InOrder timed)
    (grants : ∀ x ∈ timed, Grants j x.2 → ∀ row, x.2.post.job? j = some row →
      row.leaseExpiresAt = some (Timestamp.addSeconds x.1 length))
    {row : JobRow} {expiry : Timestamp} (here : db.job? j = some row)
    (lease : row.leaseExpiresAt = some expiry) :
    ∀ x ∈ timed, Grants j x.2 → Timestamp.addSeconds x.1 length ≤ expiry := by
  induction timed using List.reverseRecOn generalizing db row with
  | nil => simp
  | append_singleton timed last ih =>
    obtain ⟨t, e⟩ := last
    obtain ⟨before, valid, rfl⟩ := (untimed_append timed [(t, e)] ▸ trace).snoc_inv
    obtain ⟨sorted, -, latest⟩ := List.pairwise_append.mp ordered
    intro x member granted
    by_cases now : Grants j e
    · have reached := grants (t, e) (by simp) now row here
      obtain rfl : expiry = Timestamp.addSeconds t length :=
        Option.some.inj (lease.symm.trans reached)
      have sooner : x.1 ≤ t := by
        rcases List.mem_append.mp member with earlier | same
        · exact latest x earlier (t, e) (by simp)
        · rw [List.mem_singleton.mp same]
      exact Int.add_le_add_right sooner _
    · obtain ⟨row₀, here₀, lease₀⟩ := (moved valid j).ungranted now here lease
      rcases List.mem_append.mp member with earlier | same
      · exact ih before sorted (fun x member => grants x (by simp [member])) here₀ lease₀ x
          earlier granted
      · rw [List.mem_singleton.mp same] at granted
        exact absurd granted now

end Grants

namespace Worker
section
variable {rt : Runtime} {workerId : String} {es : BrokerLog} {b : Brief} {op : Op}

theorem leaseFor_valid {catalog : Catalog} {request : ActionRequest} {action : ActionDefinition}
    (valid : catalog.validateRequest request = .ok action) :
    leaseFor catalog request = action.timeoutSeconds + 15 := by
  rw [leaseFor, valid]

theorem leaseFor_nonneg (catalog : Catalog) (request : ActionRequest) :
    0 ≤ leaseFor catalog request := by
  unfold leaseFor
  split
  · omega
  · decide

/-- The calls since the claim were `ops`. -/
def SinceClaim (es : BrokerLog) (ops : List Op) : Prop := ∃ c ys, es = c :: ys ∧
    ys.map Event.op = ops

/-- The calls since the renewal were `ops`. -/
def SinceRenewal (rt : Runtime) (b : Brief) (es : BrokerLog) (ops : List Op) : Prop :=
  ∃ xs n ys v, es = xs ++ n :: ys ∧ n.Answered (.store (b.renew rt)) (.ok v) ∧
    ys.map Event.op = ops

theorem SinceClaim.snoc {ops : List Op} {e : BrokerEvent} (h : SinceClaim es ops) :
    SinceClaim (es ++ [e]) (ops ++ [e.op]) := by
  obtain ⟨c, ys, rfl, rfl⟩ := h
  exact ⟨c, ys ++ [e], rfl, by simp⟩

theorem SinceRenewal.snoc {ops : List Op} {e : BrokerEvent} (h : SinceRenewal rt b es ops) :
    SinceRenewal rt b (es ++ [e]) (ops ++ [e.op]) := by
  obtain ⟨xs, n, ys, v, rfl, renewed, rfl⟩ := h
  exact ⟨xs, n, ys ++ [e], v, by simp, renewed, by simp⟩

theorem Briefed.since (h : Briefed rt workerId es b) :
    SinceClaim es [.store (.getJobContext b.job.id)] := by
  obtain ⟨⟨c, g, owner, rfl, -, context⟩, -⟩ := h
  exact ⟨c, [g], rfl, by simp [context.op_eq]⟩

theorem Executed.since {x : AdapterExecution} (h : Executed rt workerId es b x) :
    SinceClaim es [.store (.getJobContext b.job.id), .adapter b.action.adapter b.execute] := by
  obtain ⟨before, e, rfl, briefed, answered⟩ := h
  exact answered.op_eq ▸ briefed.since.snoc

theorem Recorded.since {x : AdapterExecution} (h : Recorded rt workerId es b x) :
    SinceClaim es [.store (.getJobContext b.job.id), .adapter b.action.adapter b.execute,
        .store (b.record x)] := by
  obtain ⟨before, e, v, rfl, executed, answered⟩ := h
  exact answered.op_eq ▸ executed.since.snoc

theorem Renewed.since {x : AdapterExecution} (h : Renewed rt workerId es b x) :
    SinceRenewal rt b es [] := by
  obtain ⟨before, n, v, rfl, recorded, answered⟩ := h
  exact ⟨before, n, [], v, rfl, answered, rfl⟩

theorem Observed.since {x : AdapterExecution} {o : AdapterObservation}
    (h : Observed rt workerId es b x o) :
    SinceRenewal rt b es [.adapter b.action.adapter b.observe] := by
  obtain ⟨before, e, rfl, renewed, answered⟩ := h
  exact answered.op_eq ▸ renewed.since.snoc

theorem Verified.since {x : AdapterExecution} {o : AdapterObservation}
    {v : AdapterVerification} (h : Verified rt workerId es b x o v) :
    SinceRenewal rt b es [.adapter b.action.adapter b.observe,
      .adapter b.action.adapter (b.verify x o)] := by
  obtain ⟨before, e, rfl, observed, answered⟩ := h
  exact answered.op_eq ▸ observed.since.snoc

def spent (guards : GuardTimeouts) (ops : List Op) (op : Op) : Rat :=
  (ops.map guards.allowance).sum + guards.allowance op

theorem Site.spent (guards : GuardTimeouts) (site : Site rt workerId es op) :
    es = [] ∨ (∃ c, es = [c] ∧ guards.allowance op = 0) ∨
    ∃ b, Knows rt workerId es b ∧
      ((∃ ops, SinceClaim es ops ∧
        Worker.spent guards ops op ≤ guards.deadline b.action * 1000000) ∨
      ∃ ops, SinceRenewal rt b es ops ∧
        Worker.spent guards ops op ≤ 2 * guards.deadline b.action * 1000000) := by
  have positive : ∀ b : Brief, 0 ≤ guards.deadline b.action * 1000000 := by
    intro b
    have timeout : (0 : Rat) ≤ b.action.timeoutSeconds := Nat.cast_nonneg _
    have bound := le_min timeout (guards.positive b.action.adapter).le
    exact mul_nonneg bound (by norm_num)
  have store : ∀ op, guards.allowance (.store op) = 0 := fun _ => rfl
  have adapter : ∀ (b : Brief) op, op.action = b.action →
      guards.allowance (.adapter b.action.adapter op) = guards.deadline b.action * 1000000 := by
    rintro b op same
    rw [GuardTimeouts.allowance, same]
    rfl
  cases site with
  | claim => exact .inl rfl
  | context c => exact .inr (.inl ⟨c, rfl, rfl⟩)
  | execute _ b briefed =>
    refine .inr (.inr ⟨b, briefed.knows, .inl ⟨_, briefed.since, ?_⟩⟩)
    simp [Worker.spent, store, adapter b b.execute rfl]
  | record _ b x executed =>
    refine .inr (.inr ⟨b, executed.knows, .inl ⟨_, executed.since, ?_⟩⟩)
    simp [Worker.spent, store, adapter b b.execute rfl]
  | renew _ b x recorded =>
    refine .inr (.inr ⟨b, recorded.knows, .inl ⟨_, recorded.since, ?_⟩⟩)
    simp [Worker.spent, store, adapter b b.execute rfl]
  | observe _ b x renewed =>
    refine .inr (.inr ⟨b, renewed.knows, .inr ⟨_, renewed.since, ?_⟩⟩)
    simp only [Worker.spent, adapter b b.observe rfl, List.map_nil, List.sum_nil]
    linarith [positive b]
  | verify _ b x o observed =>
    refine .inr (.inr ⟨b, observed.knows, .inr ⟨_, observed.since, ?_⟩⟩)
    simp only [Worker.spent, adapter b b.observe rfl, adapter b (b.verify x o) rfl,
      List.map_cons, List.map_nil, List.sum_cons, List.sum_nil]
    linarith
  | succeed _ b x o v verified =>
    refine .inr (.inr ⟨b, verified.knows, .inr ⟨_, verified.since, ?_⟩⟩)
    simp only [Worker.spent, store, adapter b b.observe rfl, adapter b (b.verify x o) rfl,
      List.map_cons, List.map_nil, List.sum_cons, List.sum_nil]
    linarith
  | giveUp _ b error jobError failed =>
    refine .inr (.inr ⟨b, ?_⟩)
    cases failed with
    | execute es e _ _ briefed answered =>
      refine ⟨briefed.knows.snoc, .inl ⟨_, briefed.since.snoc, ?_⟩⟩
      simp [Worker.spent, store, answered.op_eq, adapter b b.execute rfl]
    | observe es e _ x _ renewed answered =>
      refine ⟨renewed.knows.snoc, .inr ⟨_, renewed.since.snoc, ?_⟩⟩
      simp only [Worker.spent, store, answered.op_eq, adapter b b.observe rfl, List.nil_append,
        List.map_cons, List.map_nil, List.sum_cons, List.sum_nil]
      linarith [positive b]
    | verify es e _ x o _ observed answered =>
      refine ⟨observed.knows.snoc, .inr ⟨_, observed.since.snoc, ?_⟩⟩
      simp only [Worker.spent, store, answered.op_eq, adapter b b.observe rfl,
        adapter b (b.verify x o) rfl, List.cons_append, List.nil_append,
        List.map_cons, List.map_nil, List.sum_cons, List.sum_nil]
      linarith
    | unsatisfied _ _ x o v verified =>
      refine ⟨verified.knows, .inr ⟨_, verified.since, ?_⟩⟩
      simp only [Worker.spent, store, adapter b b.observe rfl, adapter b (b.verify x o) rfl,
        List.map_cons, List.map_nil, List.sum_cons, List.sum_nil]
      linarith

end
end Worker

section Run
variable {rt : Runtime} {env : Environment} {started : Nat → Option Client} {log : BrokerLog}
  {db : DB} {j workerId : String}

theorem claim_first {a b : BrokerLog} {k : BrokerEvent} {token : String}
    (run : rt.Run env started (a ++ k :: b) db)
    (origin : started k.caller = some (.worker workerId))
    (claim : claimToken j k = some token) :
    localOf k.caller a = [] ∧ k.op = .store (Worker.claim rt workerId) := by
  obtain ⟨client, here, site⟩ := run_site run
  obtain rfl : client = .worker workerId := Option.some.inj (here.symm.trans origin)
  obtain ⟨_, _, _, _, answered, -, -⟩ := claimToken_some claim
  generalize localOf k.caller a = es at site ⊢
  generalize is : k.op = op at site ⊢
  have claims := is.symm.trans answered.op_eq
  cases site with
  | claim => exact ⟨rfl, rfl⟩
  | _ => cases claims

theorem site_renew {client : Client} {es : BrokerLog} {token : String} {leaseSeconds : Int}
    (h : rt.Site client es (.store (.renewLease j token leaseSeconds))) :
    ∃ workerId b, Worker.Knows rt workerId es b ∧ b.job.id = j ∧
      leaseSeconds = Worker.leaseFor rt.catalog b.request := by
  cases client with
  | worker workerId =>
    cases h with
    | renew _ b x recorded => exact ⟨workerId, b, recorded.knows, rfl, rfl⟩
  | claimNextJob => cases h.2
  | _ => cases h

/-- What a worker's job is given, by the claim or by a renewal, is what its request asks for. -/
theorem worker_grants {timed : BrokerTimedLog} {k : BrokerEvent} {token : String}
    (run : rt.Run env started (untimed timed) db) (shows : ∀ x ∈ timed, Shows x.1 x.2)
    (member : k ∈ untimed timed) (origin : started k.caller = some (.worker workerId))
    (claim : claimToken j k = some token) {row : JobRow} (here : db.job? j = some row) :
    ∀ x ∈ timed, Grants j x.2 → ∀ row', x.2.post.job? j = some row' →
      row'.leaseExpiresAt =
        some (Timestamp.addSeconds x.1 (Worker.leaseFor rt.catalog row.request)) := by
  intro x among granted row' after
  obtain ⟨a, b, whole⟩ := List.append_of_mem (mem_untimed among)
  have once := (run_tenure run j).at_most_once
  rw [whole] at run
  have same : row'.request = row.request := by
    obtain ⟨row₁, now, same⟩ := row_persists run.trace.split.2.2 after
    obtain rfl := Option.some.inj (here.symm.trans now)
    exact (same_identity same).2.2.symm
  cases granted with
  | claimed token' claim' =>
    obtain rfl := claims_unique once member (mem_untimed among) claim claim'
    obtain ⟨w, _, _, claimed, answered, rfl, -⟩ := claimToken_some claim'
    have op := answered.op_eq.symm.trans (claim_first run origin claim).2
    simp only [Op.store.injEq, StoreOp.claimNextJob.injEq] at op
    obtain ⟨rfl, rfl, rfl⟩ := op
    obtain ⟨o, now, ran⟩ := valid_shown run.valid (shows x among) answered
    rcases claimNextJob_chosen (Txn.atomically_ok ran) with
      ⟨nothing, -⟩ | ⟨row₀, seconds, length, -, -, -, answer, life⟩
    · cases nothing
    · cases answer
      have current : some row' = some (row₀.claim o w seconds) := by
        rw [← after]
        exact (congrArg Life.row (life row₀.id)).trans (by rw [if_pos rfl])
      obtain rfl := Option.some.inj current
      rw [← same, ← now]
      exact congrArg (fun seconds => some (o.now.addSeconds seconds)) length
  | renewed token' leaseSeconds answered =>
    obtain ⟨client, -, site⟩ := run_site run
    rw [answered.op_eq] at site
    obtain ⟨w, b, ⟨_, rest, seen, -, -, g, read, owner, context⟩, rfl, rfl⟩ := site_renew site
    have before : g ∈ a := (mem_of_localOf (i := x.2.caller) (seen ▸ List.mem_cons_of_mem _ read)).1
    obtain ⟨o, now, ran⟩ := valid_shown run.valid (shows x among) answered
    rcases renewLease_spec (Txn.atomically_ok ran) with
      ⟨refused, -⟩ | ⟨row₀, current, -, -, -, life⟩
    · cases refused
    · have renewed : some row' = some (row₀.renew o (Worker.leaseFor rt.catalog b.request)) := by
        rw [← after]
        exact (congrArg Life.row (life _)).trans (by rw [if_pos rfl])
      obtain rfl := Option.some.inj renewed
      have asked : row₀.request = b.request :=
        context_request run.until.trace before context current
      have length : row.request = b.request := same.symm.trans asked
      rw [length, ← now]
      rfl

theorem refused_unleased {a b m : BrokerLog} {n x k : BrokerEvent} {token : String}
    {leaseSeconds : Int} (run : rt.Run env started (a ++ n :: (m ++ x :: b)) db)
    (refused : n.Answered (.store (.renewLease j token leaseSeconds)) (.ok false))
    (member : k ∈ a) (claim : claimToken j k = some token) {row : JobRow}
    (here : x.pre.job? j = some row) : row.leaseExpiresAt = none := by
  obtain ⟨o, ran⟩ := valid_store run.valid refused
  rcases renewLease_spec (Txn.atomically_ok ran) with ⟨-, same, unheld⟩ | ⟨_, _, _, _, renewed, _⟩
  · have lost : Tenure.Lost token (tenure (n.pre.job? j)) := by
      refine ⟨?_, fun held => ?_⟩
      · obtain ⟨y, z, rfl⟩ := List.append_of_mem member
        have steps := run_steps run j k (by simp)
        rw [claim] at steps
        have run : rt.Run env started (y ++ k :: (z ++ n :: (m ++ x :: b))) db := by simpa using run
        refine tenure_stays (P := (· ≠ .free)) (fun _ _ _ => Tenure.Step.never_free) run ?_
          (f := n) (by simp)
        rw [steps.free_of_claim.2]
        nofun
      · obtain ⟨row₀, current, -, holds⟩ := holder held
        have shaped := run_shaped run.until j row₀ current
        exact unheld row₀ current holds (shaped.leased (by simp [holds])).1
    have lost := tenure_stays (fun _ _ _ => Tenure.Step.lost) run (same ▸ lost) (f := x) (by simp)
    have run : rt.Run env started ((a ++ n :: m) ++ x :: b) db := by simpa using run
    have recorded := (run_tenure run.until j).recorded
    have paired := run_paired run.until j row here
    rw [here] at lost recorded
    cases held : row.leaseToken with
    | none =>
      rw [JobRow.Paired, held] at paired
      exact Option.not_isSome_iff_eq_none.mp (by simp [paired])
    | some t =>
      have claimed : row.state ≠ .queued := fun waits => lost.1 (tenure_queued waits)
      rw [tenure_held claimed held] at lost recorded
      have among : token ∈ claims j (a ++ n :: m) :=
        List.mem_filterMap.mpr ⟨k, by simp [member], claim⟩
      have recorded : claims j (a ++ n :: m) = [t] := recorded
      rw [recorded] at among
      obtain rfl := List.mem_singleton.mp among
      exact absurd rfl lost.2
  · cases renewed

theorem swept_late {x : BrokerEvent} {t : Timestamp} (valid : x.Valid (rt.sem env))
    (shows : Shows t x) (sweep : x.op = .store .expireLeases)
    (moved : x.post.job? j ≠ x.pre.job? j) :
    ∃ row expiry, x.pre.job? j = some row ∧ row.leaseExpiresAt = some expiry ∧ expiry < t := by
  obtain ⟨caller, op, pre, o, r, post⟩ := x
  obtain rfl : op = .store .expireLeases := sweep
  cases r with
  | error error => exact absurd (congrArg (DB.job? · j) (run_error valid)) moved
  | ok n =>
    have life := expireLeases_spec (Txn.atomically_ok valid) j
    cases here : pre.job? j with
    | none =>
      rw [Life.rewrite, show (pre.life j).row = none from here] at life
      exact absurd (congrArg Life.row life) moved
    | some row =>
      rw [Life.rewrite, show (pre.life j).row = some row from here] at life
      by_cases lapsed : row.Lapsed o
      · obtain ⟨-, expiry, lease, late⟩ := lapsed
        exact ⟨row, expiry, rfl, lease, lt_of_lt_of_eq late shows⟩
      · simp only [if_neg lapsed] at life
        exact absurd (congrArg Life.row life) moved

end Run

/-- While worker `i`, which claimed job `j`, has a call left to make, the sweep `x` takes the
job away from it. -/
def Reclaims (rt : Runtime) (i : Nat) (workerId : String) (timed : BrokerTimedLog) (j : String)
    (x : BrokerEvent) : Prop :=
  ∃ (a b : BrokerTimedLog) (t : Timestamp), timed = a ++ (t, x) :: b ∧
    x.op = .store .expireLeases ∧ x.post.job? j ≠ x.pre.job? j ∧
    (∃ k ∈ localOf i (untimed a), ∃ token, claimToken j k = some token) ∧
    ∃ op, (rt.code (.worker workerId)).Calls (localOf i (untimed a)) op

/-- A worker whose calls all end in time keeps its job, whatever is swept when, if twice the
deadline of its action's calls fits into the lease. -/
theorem lease_outlives_work (rt : Runtime) (env : Environment) (c : BrokerConfig)
    (h : rt.Reachable env c) (timed : BrokerTimedLog) (log : untimed timed = c.log)
    (clocked : Clocked timed) (guards : GuardTimeouts) (i : Nat) (workerId : String)
    (origin : c.started i = some (.worker workerId))
    (punctual : Punctual rt.code guards.allowance i (.worker workerId) timed) (j : String)
    (x : BrokerEvent) (covers : ∀ row, x.pre.job? j = some row → ∀ action,
      rt.catalog.validateRequest row.request = .ok action → guards.Covers action) :
    ¬ Reclaims rt i workerId timed j x := by
  rintro ⟨a, b, u, rfl, sweep, moved, ⟨k, mine, token, claim⟩, op, calls⟩
  have run : rt.Run env c.started (untimed (a ++ (u, x) :: b)) c.state := by
    rw [log]
    exact reachable_run h
  have run' : rt.Run env c.started (untimed a ++ x :: untimed b) c.state := by
    rw [untimed_append] at run
    exact run
  obtain ⟨row, expiry, here, lease, late⟩ :=
    swept_late run'.valid (clocked.shows (u, x) (by simp)) sweep moved
  obtain ⟨member, caller⟩ := mem_of_localOf mine
  subst caller
  have reaches := lease_reaches run'.until.trace (List.pairwise_append.mp clocked.ordered).1
    (worker_grants run'.until (fun x member => clocked.shows x (by simp [member])) member origin
      claim here) here lease
  -- from an event that granted the lease on, the worker would have waited for longer than it
  have kept : ∀ xs e ys, localOf k.caller (untimed a) = xs ++ e :: ys → Grants j e →
      ¬ Worker.spent guards (ys.map Event.op) op ≤
        Worker.leaseFor rt.catalog row.request * 1000000 := by
    intro xs e ys seen granted fits
    obtain ⟨xs', s, ys', own, -, rfl⟩ := untimed_split ((untimed_ownOf k.caller a).trans seen)
    have waited := punctual.waited run origin rfl calls own
    have among := (mem_of_ownOf (own ▸ List.mem_append_right xs' List.mem_cons_self)).1
    have reached : s + Worker.leaseFor rt.catalog row.request * 1000000 ≤ expiry :=
      reaches (s, e) among granted
    have late : s + Worker.leaseFor rt.catalog row.request * 1000000 < u :=
      lt_of_le_of_lt reached late
    have late : (s : Rat) + Worker.leaseFor rt.catalog row.request * 1000000 < u := by
      exact_mod_cast late
    rw [Worker.spent, untimed, List.map_map, List.map_map] at fits
    simp only [Function.comp_def] at fits
    linarith
  obtain ⟨p, q, split⟩ := List.append_of_mem member
  have first : localOf k.caller (untimed a) = k :: localOf k.caller q := by
    have run := run'.until
    rw [split] at run
    rw [split, localOf_append, (claim_first run origin claim).1]
    simp [localOf]
  rcases Worker.Site.spent guards (code_calls calls) with
    none | ⟨c, only, quick⟩ | ⟨b', ⟨c, rest, seen, answered, valid, g, read, owner, context⟩, phase⟩
  · rw [first] at none
    cases none
  · obtain ⟨rfl, -⟩ := List.cons.inj (first.symm.trans only)
    refine kept [] k [] only (.claimed token claim) ?_
    have nonneg : (0 : Rat) ≤ Worker.leaseFor rt.catalog row.request :=
      Int.cast_nonneg (Worker.leaseFor_nonneg ..)
    simpa [Worker.spent, quick] using nonneg
  obtain ⟨rfl, rfl⟩ := List.cons.inj (first.symm.trans seen)
  obtain ⟨job, rfl⟩ : b'.job.id = j ∧ b'.fence = token := by
    have known := (claimToken_claim (j := j) answered).symm.trans claim
    split at known
    · rename_i same
      exact ⟨same, Option.some.inj known⟩
    · cases known
  subst job
  have asked : row.request = b'.request := by
    have before : g ∈ untimed a :=
      (mem_of_localOf (i := k.caller) (first ▸ List.mem_cons_of_mem _ read)).1
    exact context_request run'.until.trace before context here
  rw [asked, Worker.leaseFor_valid valid] at kept
  have twice : 2 * guards.deadline b'.action ≤ b'.action.timeoutSeconds + 15 :=
    covers row here _ (asked ▸ valid)
  rcases phase with ⟨ops, ⟨c, ys, since, rfl⟩, spent⟩ |
    ⟨ops, ⟨xs, n, ys, v, since, renewed, rfl⟩, spent⟩
  · obtain ⟨rfl, rfl⟩ := List.cons.inj (first.symm.trans since)
    refine kept [] k _ first (.claimed _ claim) (spent.trans ?_)
    have once : guards.deadline b'.action ≤ b'.action.timeoutSeconds := min_le_left _ _
    push_cast
    linarith
  · cases v with
    | true =>
      refine kept xs n ys since (.renewed _ _ renewed) (spent.trans ?_)
      push_cast
      linarith
    | false =>
      obtain ⟨y, z, whole, before⟩ := localOf_split since
      have earlier : k ∈ xs := by
        cases xs with
        | nil =>
          obtain ⟨rfl, -⟩ := List.cons.inj (first.symm.trans since)
          cases answered.op_eq.symm.trans renewed.op_eq
        | cons y xs =>
          obtain ⟨rfl, -⟩ := List.cons.inj (first.symm.trans since)
          exact List.mem_cons_self
      have run := run'
      rw [whole] at run
      have run : rt.Run env c.started (y ++ n :: (z ++ x :: untimed b)) c.state := by
        simpa using run
      have unleased := refused_unleased run renewed (mem_of_localOf (before ▸ earlier)).1 claim here
      rw [lease] at unleased
      cases unleased

def BrokerConfig.timed (c : BrokerConfig) (seconds : List Int) : BrokerTimedLog :=
  (seconds.map (· * 1000000)).zip c.log

theorem untimed_timed {c : BrokerConfig} {seconds : List Int}
    (length : c.log.length ≤ seconds.length) : untimed (BrokerConfig.timed c seconds) = c.log :=
  List.map_snd_zip (by simpa using length)

def Op.isSweep : Op → Bool
  | .store .expireLeases => true
  | _ => false

theorem Op.isSweep_spec {op : Op} (h : op.isSweep = true) : op = .store .expireLeases := by
  unfold isSweep at h
  split at h
  · rfl
  · cases h

def Client.asWorker : Client → Option String
  | .worker workerId => some workerId
  | _ => none

theorem Client.asWorker_some {client : Client} {workerId : String}
    (h : client.asWorker = some workerId) : client = .worker workerId := by
  unfold asWorker at h
  split at h
  · cases h
    rfl
  · cases h

def sweeps (j : String) : BrokerEvent → Bool
  | ⟨_, .store .expireLeases, pre, _, _, post⟩ =>
    (pre.job? j).map JobRow.state = some .verifying &&
      (post.job? j).map JobRow.state = some .unknownOutcome
  | _ => false

theorem sweeps_spec {j : String} {x : BrokerEvent} (h : sweeps j x = true) :
    x.op = .store .expireLeases ∧ x.post.job? j ≠ x.pre.job? j := by
  unfold sweeps at h
  split at h
  · simp only [Bool.and_eq_true, decide_eq_true_eq] at h
    refine ⟨rfl, fun same => ?_⟩
    rw [same, h.1] at h
    cases h.2
  · cases h

namespace Sample

/-- Every adapter behind a guard that gives a call `seconds` at most. -/
def guards (seconds : Rat) (positive : 0 < seconds) (bounded : seconds ≤ 300) : GuardTimeouts :=
  ⟨fun _ => seconds, fun _ => positive, fun _ => bounded⟩

/-- A worker whose three calls take half a minute each, and a sweep during the last. -/
def slow : List Turn :=
  [.start (.createJob (request keyA) subject), .store 0 (oracle 1 "a"),
    .start (.worker "w"), .store 1 (oracle 2 "b"), .store 1 (oracle 2 "c"),
    .adapter 1 fun op => ([], healthy op), .store 1 (oracle 32 "d"), .store 1 (oracle 32 "e"),
    .adapter 1 fun op => ([], healthy op), .start .expireLeases, .store 2 (oracle 78 "f"),
    .adapter 1 fun op => ([], healthy op), .store 1 (oracle 92 "g")]

def slowSeconds : List Int := [1, 2, 2, 32, 32, 32, 62, 78, 92, 92]

def quick : List Turn :=
  [.start (.createJob (request keyA) subject), .store 0 (oracle 1 "a"),
    .start (.worker "w"), .store 1 (oracle 2 "b"), .store 1 (oracle 2 "c"),
    .adapter 1 fun op => ([], healthy op), .store 1 (oracle 12 "d"), .store 1 (oracle 12 "e"),
    .adapter 1 fun op => ([], healthy op), .start .expireLeases, .store 2 (oracle 31 "f"),
    .adapter 1 fun op => ([], healthy op), .store 1 (oracle 32 "g")]

def quickSeconds : List Int := [1, 2, 2, 12, 12, 12, 22, 31, 32, 32]

theorem catalog_action {confirmation : ConfirmationMode} {request : ActionRequest}
    {action : ActionDefinition}
    (valid : (catalog confirmation).validateRequest request = .ok action) :
    action = ensureActive confirmation := by
  have found := Catalog.validateRequest_get valid
  unfold Catalog.get at found
  split at found
  · rename_i here
    obtain rfl := Except.ok.inj found
    exact List.mem_singleton.mp (List.mem_of_find?_eq_some here)
  · cases found

/-- What the timed runs below are checked for, besides being played: the clocks, the worker and
its end, and the time between its events. -/
def paced (seconds : List Int) (guards : GuardTimeouts) (c : BrokerConfig) : Bool :=
  c.log.length ≤ seconds.length && InOrder (BrokerConfig.timed c seconds) &&
    ((BrokerConfig.timed c seconds).all fun x => Shows x.1 x.2) &&
    (c.started 1).bind Client.asWorker = some "w" && (Config.endOf c 1).isSome &&
    (ownOf 1 (BrokerConfig.timed c seconds)).IsChain fun x y =>
      (y.1 : Rat) ≤ x.1 + guards.allowance y.2.op

theorem paced_spec {rt : Runtime} {env : Environment} {c : BrokerConfig} {seconds : List Int}
    {guards : GuardTimeouts} (reached : rt.Reachable env c)
    (paced : paced seconds guards c = true) :
    untimed (BrokerConfig.timed c seconds) = c.log ∧ Clocked (BrokerConfig.timed c seconds) ∧
      c.started 1 = some (.worker "w") ∧
      Punctual rt.code guards.allowance 1 (.worker "w") (BrokerConfig.timed c seconds) := by
  simp only [Sample.paced, Bool.and_eq_true, decide_eq_true_eq, List.all_eq_true] at paced
  obtain ⟨⟨⟨⟨⟨length, ordered⟩, shows⟩, start⟩, ended⟩, chain⟩ := paced
  obtain ⟨client, origin, worker⟩ := Option.bind_eq_some_iff.mp start
  obtain rfl := Client.asWorker_some worker
  obtain ⟨r, ended⟩ := Option.isSome_iff_exists.mp ended
  have log := untimed_timed length
  refine ⟨log, ⟨ordered, shows⟩, origin, ?_⟩
  refine punctual_of_chain (log ▸ reachable_run reached) origin ordered chain (r := r) ?_
  rw [log]
  exact reachable_returns reached origin (endOf_ended ended)

end Sample

open Sample in
theorem lease_outlives_work_quick : ∃ c x, (runtime .none).played quick = some c ∧
    x.op = .store .expireLeases ∧ x ∈ c.log ∧
    (c.state.job? "job_a").map JobRow.state = some .succeeded ∧
    ¬ Reclaims (runtime .none) 1 "w" (BrokerConfig.timed c quickSeconds) "job_a" x := by
  have outcome : ((runtime .none).played quick).map (fun c =>
      ((c.state.job? "job_a").map JobRow.state,
        paced quickSeconds (guards 10 (by decide) (by decide)) c,
        c.log.any fun e => e.op.isSweep)) = some (some .succeeded, true, true) := by decide +kernel
  obtain ⟨c, played, same⟩ := Option.map_eq_some_iff.mp outcome
  simp only [Prod.mk.injEq, List.any_eq_true] at same
  obtain ⟨succeeded, paced, x, member, sweep⟩ := same
  have reached := played_reachable (allowed_any quick) played
  obtain ⟨log, clocked, origin, punctual⟩ := paced_spec reached paced
  refine ⟨c, x, played, Op.isSweep_spec sweep, member, succeeded, ?_⟩
  refine lease_outlives_work (runtime .none) .any c reached _ log clocked _ 1 "w" origin punctual
    "job_a" x fun row _ action valid => ?_
  obtain rfl := catalog_action valid
  have deadline : (guards 10 (by decide) (by decide)).deadline (ensureActive .none) = 10 := by
    decide +kernel
  rw [GuardTimeouts.Covers, deadline]
  decide +kernel

open Sample in
/-- Twice half a minute is more than the lease of an action with half a minute: the job is
reclaimed while its outcome is verified. -/
theorem slow_worker_reclaimed : ∃ c timed x, (runtime .none).Reachable .any c ∧
    untimed timed = c.log ∧ Clocked timed ∧ c.started 1 = some (.worker "w") ∧
    Punctual (runtime .none).code (guards 30 (by decide) (by decide)).allowance 1 (.worker "w")
      timed ∧
    Reclaims (runtime .none) 1 "w" timed "job_a" x := by
  have outcome : ((runtime .none).played slow).map (fun c =>
      let timed := BrokerConfig.timed c slowSeconds
      (paced slowSeconds (guards 30 (by decide) (by decide)) c,
        timed[7]?.map fun x => sweeps "job_a" x.2,
        (localOf 1 (untimed (timed.take 7))).any fun k => (claimToken "job_a" k).isSome,
        (localOf 1 (untimed (timed.drop 7))).isEmpty)) =
      some (true, some true, true, false) := by decide +kernel
  obtain ⟨c, played, same⟩ := Option.map_eq_some_iff.mp outcome
  simp only [Prod.mk.injEq, List.any_eq_true] at same
  obtain ⟨paced, swept, ⟨k, claimed, token⟩, later⟩ := same
  have reached := played_reachable (allowed_any slow) played
  obtain ⟨log, clocked, origin, punctual⟩ := paced_spec reached paced
  obtain ⟨⟨t, x⟩, here, swept⟩ := Option.map_eq_some_iff.mp swept
  obtain ⟨sweep, moved⟩ := sweeps_spec swept
  obtain ⟨bound, same⟩ := List.getElem?_eq_some_iff.mp here
  have split : BrokerConfig.timed c slowSeconds = (BrokerConfig.timed c slowSeconds).take 7 ++
      (t, x) :: (BrokerConfig.timed c slowSeconds).drop 8 := by
    rw [← same, ← List.drop_eq_getElem_cons bound, List.take_append_drop]
  -- the worker comes back after the sweep, so it had a call left to make
  obtain ⟨f, rest, mine⟩ := List.exists_cons_of_ne_nil (List.isEmpty_eq_false_iff.mp later)
  have own : localOf 1 c.log =
      localOf 1 (untimed ((BrokerConfig.timed c slowSeconds).take 7)) ++ f :: rest := by
    rw [← log, ← mine, ← localOf_append, ← untimed_append, List.take_append_drop]
  obtain ⟨a, b, whole, before⟩ := localOf_split own
  have run := reachable_run reached
  rw [whole] at run
  have caller : f.caller = 1 := (mem_of_localOf (mine ▸ List.mem_cons_self)).2
  obtain ⟨client, here, calls⟩ := run.calls
  rw [caller] at here calls
  obtain rfl : client = .worker "w" := Option.some.inj (here.symm.trans origin)
  rw [before] at calls
  obtain ⟨token, claim⟩ := Option.isSome_iff_exists.mp token
  exact ⟨c, _, x, reached, log, clocked, origin, punctual, _, _, t, split, sweep, moved,
    ⟨k, claimed, token, claim⟩, f.op, calls⟩

end Deckhand
