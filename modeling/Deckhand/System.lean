import Deckhand.Lib.Interleave
import Deckhand.Worker
import Deckhand.Reconciler
import Deckhand.Cancellation
import Deckhand.Api

namespace Deckhand
open Lib Lib.Prog

/-- What adapters and the policy engine may answer. -/
structure Environment where
  adapts : (name : String) → (op : AdapterOp) → List GuardEvent → Except AdapterExn op.Value → Prop
  decides : PolicyInput → Inventory → Except PolicyExn PolicyDecision → Prop

/-- Adapters and engines that may answer anything. -/
def Environment.any : Environment := ⟨fun _ _ _ _ => True, fun _ _ _ => True⟩

/-- A store call is one transaction. The other calls leave the database alone. -/
def Runtime.sem (rt : Runtime) (env : Environment) : Semantics DB Op.Note Op.Ret
  | .store op, db, o, r, db' => op.run rt.store o db = (r, db')
  | .adapter name op, db, behind, r, db' => env.adapts name op behind r ∧ db' = db
  | .decide input, db, inventory, r, db' => env.decides input inventory r ∧ db' = db

inductive Client where
  | worker (workerId : String)
  | reconciler (maxAttempts : Nat)
  | canceller (jobId : String) (subject : Subject)
  | plan (actionId : String) (request : ActionRequest) (subject : Subject)
  | execute (actionId : String) (request : ActionRequest) (subject : Subject)
  | cancelConfirmation (confirmationId : String) (subject : Subject)
  | createJob (request : ActionRequest) (subject : Subject)
  | claimNextJob (workerId : String) (leaseSeconds : Int)
      (leaseFor : Option (ActionRequest → Int))
  | expireLeases
  | expireStaleQueued (ttlSeconds : Int)

inductive Answer where
  | job (view : JobView)
  | settled (view : Option JobView)
  | reconciled (views : List JobView)
  | plan (view : PlanView)
  | status (json : Json)
  | claimed (claimed : Option ClaimedJob)
  | count (n : Nat)

def Runtime.code (rt : Runtime) : Client → Process Answer
  | .worker workerId => .settled <$> Worker.runOnce rt workerId
  | .reconciler maxAttempts => .reconciled <$> Reconciler.runOnce rt maxAttempts
  | .canceller jobId subject => .job <$> Canceller.cancel rt jobId subject
  | .plan actionId request subject => .plan <$> Api.plan rt actionId request subject
  | .execute actionId request subject => .job <$> Api.execute rt actionId request subject
  | .cancelConfirmation confirmationId subject =>
    .status <$> Api.cancelConfirmation confirmationId subject
  | .createJob request subject => .job <$> callStore (.createJob request subject)
  | .claimNextJob workerId leaseSeconds leaseFor =>
    .claimed <$> callStore (.claimNextJob workerId leaseSeconds leaseFor)
  | .expireLeases => .count <$> callStore .expireLeases
  | .expireStaleQueued ttlSeconds => .count <$> callStore (.expireStaleQueued ttlSeconds)

abbrev BrokerEvent := Event DB Op.Note Op.Ret

abbrev BrokerLog := List BrokerEvent

abbrev BrokerConfig := Config DB Client Op.Note Op.Ret Exn Answer

abbrev Runtime.Reachable (rt : Runtime) (env : Environment) (c : BrokerConfig) : Prop :=
  Lib.Reachable (rt.sem env) rt.code .empty c

abbrev Runtime.Run (rt : Runtime) (env : Environment) (started : Nat → Option Client)
    (log : BrokerLog) (db : DB) : Prop :=
  Lib.Run (rt.sem env) rt.code .empty started log db

/-- What each kind of process has seen when it makes a call. -/
def Runtime.Site (rt : Runtime) : Client → BrokerLog → Op → Prop
  | .worker workerId, es, op => Worker.Site rt workerId es op
  | .reconciler maxAttempts, es, op => Reconciler.Site rt maxAttempts es op
  | .canceller jobId subject, es, op => Canceller.Site rt jobId subject es op
  | .plan _ request subject, _, op => Api.PlanSite rt request subject op
  | .execute _ request subject, es, op => Api.ExecuteSite rt request subject es op
  | .cancelConfirmation confirmationId subject, _, op =>
    op = .store (.cancelConfirmation confirmationId subject)
  | .createJob request subject, _, op => op = .store (.createJob request subject)
  | .claimNextJob workerId leaseSeconds leaseFor, es, op =>
    es = [] ∧ op = .store (.claimNextJob workerId leaseSeconds leaseFor)
  | .expireLeases, _, op => op = .store .expireLeases
  | .expireStaleQueued ttlSeconds, _, op => op = .store (.expireStaleQueued ttlSeconds)

theorem code_calls {rt : Runtime} {client : Client} {es : BrokerLog} {op : Op}
    (h : Calls (rt.code client) es op) : rt.Site client es op := by
  cases client with
  | worker => exact Worker.runOnce_calls (calls_map.mp h)
  | reconciler => exact Reconciler.runOnce_calls (calls_map.mp h)
  | canceller => exact Canceller.cancel_calls (calls_map.mp h)
  | plan => exact Api.plan_calls (calls_map.mp h)
  | execute => exact Api.execute_calls (calls_map.mp h)
  | cancelConfirmation => exact Api.cancelConfirmation_calls (calls_map.mp h)
  | createJob => exact (calls_callStore.mp (calls_map.mp h)).2
  | claimNextJob => exact calls_callStore.mp (calls_map.mp h)
  | expireLeases => exact (calls_callStore.mp (calls_map.mp h)).2
  | expireStaleQueued => exact (calls_callStore.mp (calls_map.mp h)).2

/-- The transitions the processes ask for: who asks, having seen what, and for what. -/
inductive Writer (rt : Runtime) (es : BrokerLog) : Client → (j : String) → JobState →
    Option Dict → Option JobError → Option String → Option JobState → Prop where
  | workerRecord (workerId : String) (b : Worker.Brief) (x : AdapterExecution) :
      Worker.Executed rt workerId es b x →
      Writer rt es (.worker workerId) b.job.id .verifying (some (Worker.partialResult x)) none
        (some b.fence) none
  | workerSucceed (workerId : String) (b : Worker.Brief) (x : AdapterExecution)
      (o : AdapterObservation) (v : AdapterVerification) :
      Worker.Verified rt workerId es b x o v → v.satisfied = true →
      Writer rt es (.worker workerId) b.job.id .succeeded
        (some (verifiedResult (Worker.partialResult x) o v)) none (some b.fence) none
  | workerGiveUp (workerId : String) (b : Worker.Brief) (error : AdapterError)
      (jobError : JobError) : Worker.Failed rt workerId es b error →
      error.asJobError = .ok jobError →
      Writer rt es (.worker workerId) b.job.id
        (if error.reconciliationRequired then .unknownOutcome else .failed) none (some jobError)
        (some b.fence) none
  | reconcilerEnter (maxAttempts : Nat) (b : Reconciler.Brief) :
      Reconciler.Briefed rt maxAttempts es b →
      Writer rt es (.reconciler maxAttempts) b.job.id .verifying
        (some (Reconciler.partialResult b.job)) b.job.error none none
  | reconcilerSucceed (maxAttempts : Nat) (b : Reconciler.Brief) (o : AdapterObservation)
      (v : AdapterVerification) : Reconciler.Verified rt maxAttempts es b o v →
      v.satisfied = true →
      Writer rt es (.reconciler maxAttempts) b.job.id .succeeded
        (some (verifiedResult (Reconciler.partialResult b.job) o v)) none none none
  | reconcilerUnsettled (maxAttempts : Nat) (b : Reconciler.Brief) (o : AdapterObservation)
      (v : AdapterVerification) : Reconciler.Verified rt maxAttempts es b o v →
      v.satisfied = false →
      Writer rt es (.reconciler maxAttempts) b.job.id .unknownOutcome
        (some (Reconciler.partialResult b.job)) (some (Reconciler.notSatisfied v)) none none
  | reconcilerGiveUp (maxAttempts : Nat) (b : Reconciler.Brief) (error : AdapterError)
      (jobError : JobError) : Reconciler.Failed rt maxAttempts es b error →
      error.asJobError = .ok jobError →
      Writer rt es (.reconciler maxAttempts) b.job.id
        (if error.retry ≠ .never then .unknownOutcome else .failed)
        (some (Reconciler.partialResult b.job)) (some jobError) none none
  | cancellerDequeue (jobId : String) (subject : Subject) (job : JobView) (g : BrokerEvent) :
      g ∈ es → g.Answered (.store (.getJob jobId)) (.ok (some job)) → job.state = .queued →
      Writer rt es (.canceller jobId subject) job.id .cancelled job.result job.error none
        (some .queued)
  | cancellerSucceed (jobId : String) (subject : Subject) (b : Canceller.Brief)
      (result : AdapterCancellation) : Canceller.Asked rt jobId subject es b (.ok result) →
      result.disposition = .cancelled →
      Writer rt es (.canceller jobId subject) b.job.id .cancelled
        (some (Dict.set (b.job.result.getD []) "cancellation" result.modelDump)) none none none
  | cancellerUnknown (jobId : String) (subject : Subject) (b : Canceller.Brief)
      (result : AdapterCancellation) : Canceller.Asked rt jobId subject es b (.ok result) →
      result.disposition = .unknown → b.job.state ≠ .unknownOutcome →
      Writer rt es (.canceller jobId subject) b.job.id .unknownOutcome b.job.result
        (some (Canceller.outcomeUnknown result)) none none
  | cancellerGiveUp (jobId : String) (subject : Subject) (b : Canceller.Brief)
      (error : AdapterError) (jobError : JobError) :
      Canceller.Asked rt jobId subject es b (.error (.adapterError error)) →
      error.reconciliationRequired = true → b.job.state ≠ .unknownOutcome →
      error.asJobError = .ok jobError →
      Writer rt es (.canceller jobId subject) b.job.id .unknownOutcome b.job.result
        (some jobError) none none

theorem site_writer {rt : Runtime} {client : Client} {es : BrokerLog} {j : String}
    {target : JobState} {result : Option Dict} {error : Option JobError} {fence : Option String}
    {expectedState : Option JobState}
    (h : rt.Site client es (.store (.transitionJob j target result error fence expectedState))) :
    Writer rt es client j target result error fence expectedState := by
  cases client with
  | worker workerId =>
    cases h with
    | record _ b x executed => exact .workerRecord workerId b x executed
    | succeed _ b x o v verified satisfied =>
      exact .workerSucceed workerId b x o v verified satisfied
    | giveUp _ b error jobError failed dumped =>
      exact .workerGiveUp workerId b error jobError failed dumped
  | reconciler maxAttempts =>
    cases h with
    | enter _ b briefed => exact .reconcilerEnter maxAttempts b briefed
    | succeed _ b o v verified satisfied =>
      exact .reconcilerSucceed maxAttempts b o v verified satisfied
    | unsettled _ b o v verified unsatisfied =>
      exact .reconcilerUnsettled maxAttempts b o v verified unsatisfied
    | giveUp _ b error jobError failed dumped =>
      exact .reconcilerGiveUp maxAttempts b error jobError failed dumped
  | canceller jobId subject =>
    cases h with
    | dequeue g c job request owned queued =>
      exact .cancellerDequeue jobId subject job g (by simp) owned.found queued
    | succeed _ b result asked cancelled =>
      exact .cancellerSucceed jobId subject b result asked cancelled
    | unknown _ b result asked unknown known =>
      exact .cancellerUnknown jobId subject b result asked unknown known
    | giveUp _ b error jobError asked required known dumped =>
      exact .cancellerGiveUp jobId subject b error jobError asked required known dumped
  | claimNextJob => cases h.2
  | _ => cases h

/-- A reconciler writes without a fence, for the job it was briefed on, and hands on the
execution in its view. -/
theorem reconciler_writer {rt : Runtime} {es : BrokerLog} {maxAttempts : Nat} {j : String}
    {target : JobState} {result : Option Dict} {error : Option JobError} {fence : Option String}
    {expectedState : Option JobState}
    (h : Writer rt es (.reconciler maxAttempts) j target result error fence expectedState) :
    ∃ before b, before <+: es ∧ Reconciler.Briefed rt maxAttempts before b ∧ b.job.id = j ∧
      fence = none ∧ evidence result = evidence b.job.result := by
  cases h with
  | reconcilerEnter _ b briefed => exact ⟨es, b, List.prefix_rfl, briefed, rfl, rfl, rfl⟩
  | reconcilerSucceed _ b o v verified =>
    obtain ⟨before, part, briefed⟩ := verified.briefed
    exact ⟨before, b, part, briefed, rfl, rfl, evidence_verified ..⟩
  | reconcilerUnsettled _ b o v verified =>
    obtain ⟨before, part, briefed⟩ := verified.briefed
    exact ⟨before, b, part, briefed, rfl, rfl, rfl⟩
  | reconcilerGiveUp _ b error jobError failed =>
    obtain ⟨before, part, briefed⟩ := failed.briefed
    exact ⟨before, b, part, briefed, rfl, rfl, rfl⟩

theorem canceller_writer {rt : Runtime} {es : BrokerLog} {jobId j : String} {subject : Subject}
    {target : JobState} {result : Option Dict} {error : Option JobError} {fence : Option String}
    {expectedState : Option JobState}
    (h : Writer rt es (.canceller jobId subject) j target result error fence expectedState) :
    (∃ g ∈ es, ∃ job, g.Answered (.store (.getJob jobId)) (.ok (some job)) ∧
      job.state = .queued ∧ result = job.result ∧ expectedState = some .queued) ∨
    ∃ before job request, before <+: es ∧
      Canceller.Viewed jobId subject before job request ∧ job.id = j ∧ fence = none ∧
      expectedState = none ∧ evidence result = evidence job.result := by
  cases h with
  | cancellerDequeue _ _ job g member found queued =>
    exact .inl ⟨g, member, job, found, queued, rfl, rfl⟩
  | cancellerSucceed _ _ b result asked =>
    obtain ⟨before, e, rfl, briefed, -⟩ := asked
    exact .inr ⟨before, _, _, List.prefix_append .., briefed.viewed, rfl, rfl, rfl,
      Dict.get?_set_other _ _ (by decide)⟩
  | cancellerUnknown _ _ b result asked =>
    obtain ⟨before, e, rfl, briefed, -⟩ := asked
    exact .inr ⟨before, _, _, List.prefix_append .., briefed.viewed, rfl, rfl, rfl, rfl⟩
  | cancellerGiveUp _ _ b error jobError asked =>
    obtain ⟨before, e, rfl, briefed, -⟩ := asked
    exact .inr ⟨before, _, _, List.prefix_append .., briefed.viewed, rfl, rfl, rfl, rfl⟩

theorem site_execute {rt : Runtime} {client : Client} {es : BrokerLog} {name : String}
    {action : ActionDefinition} {request : ActionRequest}
    (h : rt.Site client es (.adapter name (.execute action request))) :
    ∃ workerId b, Worker.Briefed rt workerId es b ∧ b.request = request := by
  cases client with
  | worker workerId =>
    cases h with
    | execute _ b briefed => exact ⟨workerId, b, briefed, rfl⟩
  | claimNextJob => cases h.2
  | _ => cases h

theorem site_cancel {rt : Runtime} {client : Client} {es : BrokerLog} {name : String}
    {action : ActionDefinition} {request : ActionRequest} {x : Option AdapterExecution}
    (h : rt.Site client es (.adapter name (.cancel action request x))) :
    ∃ jobId subject b, client = .canceller jobId subject ∧
      Canceller.Briefed rt jobId subject es b ∧ b.request = request ∧ b.execution = x := by
  cases client with
  | canceller jobId subject =>
    cases h with
    | cancel _ b briefed => exact ⟨jobId, subject, b, rfl, briefed, rfl, rfl⟩
  | claimNextJob => cases h.2
  | _ => cases h

theorem site_verify {rt : Runtime} {client : Client} {es : BrokerLog} {name : String}
    {action : ActionDefinition} {request : ActionRequest} {x : AdapterExecution}
    {o : AdapterObservation}
    (h : rt.Site client es (.adapter name (.verify action request x o))) :
    (∃ workerId b, client = .worker workerId ∧ Worker.Observed rt workerId es b x o ∧
      b.request = request) ∨
    ∃ maxAttempts b, client = .reconciler maxAttempts ∧
      Reconciler.Observed rt maxAttempts es b o ∧ b.request = request ∧ b.execution = x := by
  cases client with
  | worker workerId =>
    cases h with
    | verify _ b _ _ observed => exact .inl ⟨workerId, b, rfl, observed, rfl⟩
  | reconciler maxAttempts =>
    cases h with
    | verify _ b _ observed => exact .inr ⟨maxAttempts, b, rfl, observed, rfl, rfl⟩
  | claimNextJob => cases h.2
  | _ => cases h

/-- The token with which a call claimed job `j`. -/
def claimToken (j : String) : BrokerEvent → Option String
  | ⟨_, .store (.claimNextJob ..), _, _, .ok (some claimed), _⟩ =>
    if claimed.job.id = j then some claimed.leaseToken else none
  | _ => none

/-- The tokens job `j` was claimed with, in order. -/
def claims (j : String) (log : BrokerLog) : List String := log.filterMap (claimToken j)

theorem claimToken_claim {j workerId : String} {leaseSeconds : Int}
    {leaseFor : Option (ActionRequest → Int)} {claimed : ClaimedJob} {e : BrokerEvent}
    (answered : e.Answered (.store (.claimNextJob workerId leaseSeconds leaseFor))
      (.ok (some claimed))) :
    claimToken j e = if claimed.job.id = j then some claimed.leaseToken else none := by
  cases answered
  rfl

theorem claimToken_some {j token : String} {e : BrokerEvent} (h : claimToken j e = some token) :
    ∃ workerId leaseSeconds leaseFor claimed,
      e.Answered (.store (.claimNextJob workerId leaseSeconds leaseFor)) (.ok (some claimed)) ∧
        claimed.job.id = j ∧ claimed.leaseToken = token := by
  unfold claimToken at h
  split at h
  · rename_i workerId leaseSeconds leaseFor _ _ claimed _
    split at h
    · rename_i here
      exact ⟨workerId, leaseSeconds, leaseFor, claimed, .mk .., here, Option.some.inj h⟩
    · cases h
  · cases h

theorem claimToken_other {j : String} {op : Op} {r : op.Ret} {e : BrokerEvent}
    (answered : e.Answered op r) (other : ∀ workerId leaseSeconds leaseFor,
      op ≠ .store (.claimNextJob workerId leaseSeconds leaseFor)) : claimToken j e = none := by
  cases h : claimToken j e with
  | none => rfl
  | some token =>
    obtain ⟨_, _, _, _, claim, _, _⟩ := claimToken_some h
    exact absurd (answered.op_eq.symm.trans claim.op_eq) (other _ _ _)

/-- What an event of a run does to the life of job `j`. -/
inductive Move (s : Store) (j : String) (e : BrokerEvent) : Life → Life → Prop where
  | same (l : Life) : claimToken j e = none → Move s j e l l
  | created (o : Oracle) (request : ActionRequest) (subject : Subject) (events : List JobState) :
      e.Answered (.store (.createJob request subject))
        (.ok (JobRow.queue s o request subject).view) →
      j = (JobRow.queue s o request subject).id →
      Move s j e ⟨none, events⟩ ⟨some (JobRow.queue s o request subject), events ++ [.queued]⟩
  | claimed (o : Oracle) (workerId : String) (seconds : Int) (row : JobRow)
      (events : List JobState) : row.id = j → row.Claimable o →
      claimToken j e = some o.uuid →
      Move s j e ⟨some row, events⟩ ⟨some (row.claim o workerId seconds), events ++ [.running]⟩
  | renewed (o : Oracle) (leaseToken : String) (leaseSeconds : Int) (row : JobRow)
      (events : List JobState) :
      e.Answered (.store (.renewLease j leaseToken leaseSeconds)) (.ok true) → row.id = j →
      row.leaseToken = some leaseToken → (row.state = .running ∨ row.state = .verifying) →
      Move s j e ⟨some row, events⟩ ⟨some (row.renew o leaseSeconds), events⟩
  | transitioned (o : Oracle) (target : JobState) (result : Option Dict)
      (error : Option JobError) (fence : Option String) (expectedState : Option JobState)
      (row : JobRow) (events : List JobState) :
      e.Answered (.store (.transitionJob j target result error fence expectedState))
        (.ok (row.transition o target result error).view) → row.id = j →
      (∀ t ∈ fence, row.leaseToken = some t) →
      (∀ expected ∈ expectedState, row.state = expected) →
      target ∈ allowedTransitions row.state →
      Move s j e ⟨some row, events⟩
        ⟨some (row.transition o target result error), events ++ [target]⟩
  | lapsed (o : Oracle) (row : JobRow) (events : List JobState) : e.op = .store .expireLeases →
      row.id = j → row.Lapsed o →
      Move s j e ⟨some row, events⟩ ⟨some (row.lapse o), events ++ [.unknownOutcome]⟩
  | expired (o : Oracle) (ttlSeconds : Int) (row : JobRow) (events : List JobState) :
      e.op = .store (.expireStaleQueued ttlSeconds) → row.id = j → row.Stale o ttlSeconds →
      Move s j e ⟨some row, events⟩ ⟨some (row.expire o), events ++ [.expired]⟩
  | attempted (maxAttempts limit : Nat) (row : JobRow) (events : List JobState) :
      e.op = .store (.claimReconcileCandidates maxAttempts limit) → row.id = j →
      row.state = .unknownOutcome →
      Move s j e ⟨some row, events⟩ ⟨some row.attempt, events⟩

section Event
variable {rt : Runtime} {env : Environment} {e : BrokerEvent}

theorem valid_store {op : StoreOp} {r : Except StoreExn op.Value} (valid : e.Valid (rt.sem env))
    (answered : e.Answered (.store op) r) :
    ∃ o : Oracle, op.run rt.store o e.pre = (r, e.post) :=
  valid.answered answered

theorem valid_cases (valid : e.Valid (rt.sem env)) :
    (∃ op, ∃ r : Except StoreExn op.Value, e.Answered (.store op) r) ∨
      (∀ op, e.op ≠ .store op) ∧ e.post = e.pre := by
  obtain ⟨caller, op, pre, note, r, post⟩ := e
  cases op with
  | store op => exact .inl ⟨op, r, .mk ..⟩
  | adapter name op => exact .inr ⟨by simp, valid.2⟩
  | decide input => exact .inr ⟨by simp, valid.2⟩

theorem moved_claim {workerId : String} {leaseSeconds : Int}
    {leaseFor : Option (ActionRequest → Int)} {r : Except StoreExn (Option ClaimedJob)}
    (valid : e.Valid (rt.sem env))
    (answered : e.Answered (.store (.claimNextJob workerId leaseSeconds leaseFor)) r)
    (j : String) : Move rt.store j e (e.pre.life j) (e.post.life j) := by
  have quiet : (∀ claimed, r ≠ .ok (some claimed)) → claimToken j e = none := by
    intro none
    cases h : claimToken j e with
    | none => rfl
    | some token =>
      obtain ⟨_, _, _, claimed, claim, -, -⟩ := claimToken_some h
      cases answered.op_eq.symm.trans claim.op_eq
      exact absurd (answered.unique claim) (none claimed)
  obtain ⟨o, run⟩ := valid_store valid answered
  cases r with
  | error x =>
    rw [run_error run]
    exact .same _ (quiet (by simp))
  | ok v =>
    rcases claimNextJob_spec (Txn.atomically_ok run) with
      ⟨rfl, same⟩ | ⟨row, seconds, current, claimable, rfl, life⟩
    · rw [same]
      exact .same _ (quiet (by simp))
    · rw [life]
      have token := claimToken_claim (j := j) answered
      split
      · rename_i here
        subst here
        rw [life_of_row current]
        exact .claimed o workerId seconds row _ rfl claimable (token.trans (if_pos rfl))
      · rename_i other
        exact .same _ (token.trans (if_neg fun same => other same.symm))

theorem moved (valid : e.Valid (rt.sem env)) (j : String) :
    Move rt.store j e (e.pre.life j) (e.post.life j) := by
  rcases valid_cases valid with ⟨op, r, answered⟩ | ⟨elsewhere, same⟩
  · by_cases claim : ∃ workerId leaseSeconds leaseFor,
        op = .claimNextJob workerId leaseSeconds leaseFor
    · obtain ⟨workerId, leaseSeconds, leaseFor, rfl⟩ := claim
      exact moved_claim valid answered j
    · have quiet : claimToken j e = none :=
        claimToken_other answered fun _ _ _ same => claim ⟨_, _, _, Op.store.inj same⟩
      obtain ⟨o, run⟩ := valid_store valid answered
      generalize before : e.pre.life j = l
      generalize after : e.post.life j = l'
      have step : RowStep rt.store o j op r l l' := before ▸ after ▸ (run_step run).rows j
      cases step with
      | same => exact .same _ quiet
      | created request subject events here => exact .created o request subject events answered here
      | claimed => exact absurd ⟨_, _, _, rfl⟩ claim
      | renewed leaseToken leaseSeconds row events here held running =>
        exact .renewed o leaseToken leaseSeconds row events answered here held running
      | transitioned target result error fence expectedState row events here held expected
          allowed =>
        exact .transitioned o target result error fence expectedState row events answered here
          held expected allowed
      | lapsed count row events here lapsed =>
        exact .lapsed o row events answered.op_eq here lapsed
      | expired ttlSeconds count row events here stale =>
        exact .expired o ttlSeconds row events answered.op_eq here stale
      | attempted maxAttempts limit jobs row events here unknown =>
        exact .attempted maxAttempts limit row events answered.op_eq here unknown
  · rw [same]
    exact .same _ (claimToken_other e.answered_self fun _ _ _ => elsewhere _)

theorem moved_row (valid : e.Valid (rt.sem env)) (j : String) :
    ∃ events events', Move rt.store j e ⟨e.pre.job? j, events⟩ ⟨e.post.job? j, events'⟩ :=
  ⟨_, _, moved valid j⟩

/-! What an answered call says about the row it read. -/

theorem answered_getJob {jobId : String} {job : JobView} (valid : e.Valid (rt.sem env))
    (answered : e.Answered (.store (.getJob jobId)) (.ok (some job))) :
    ∃ row, e.pre.job? jobId = some row ∧ row.view = job := by
  obtain ⟨o, run⟩ := valid_store valid answered
  obtain ⟨_, _, ⟨rfl, rfl⟩, found, -⟩ := by
    simpa only [Store.getJob, Txn.run_bind, Txn.run_read, Txn.run_pure] using
      Txn.atomically_ok run
  exact Option.map_eq_some_iff.mp found.symm

theorem answered_context {jobId : String} {request : ActionRequest} {owner : Subject}
    (valid : e.Valid (rt.sem env))
    (answered : e.Answered (.store (.getJobContext jobId)) (.ok (request, owner))) :
    ∃ row, e.pre.job? jobId = some row ∧ row.request = request ∧ row.subject = owner := by
  obtain ⟨o, run⟩ := valid_store valid answered
  obtain ⟨_, _, ⟨rfl, rfl⟩, row, _, ⟨found, rfl⟩, same, -⟩ := by
    simpa only [Store.getJobContext, Txn.run_bind, Txn.run_read, Txn.run_require,
      Txn.run_pure] using Txn.atomically_ok run
  cases same
  exact ⟨row, found, rfl, rfl⟩

theorem answered_candidates {maxAttempts limit : Nat} {jobs : List JobView} {job : JobView}
    (valid : e.Valid (rt.sem env))
    (answered : e.Answered (.store (.claimReconcileCandidates maxAttempts limit)) (.ok jobs))
    (member : job ∈ jobs) : ∃ row, e.pre.job? job.id = some row ∧ row.state = .unknownOutcome ∧
      row.view = job := by
  obtain ⟨o, run⟩ := valid_store valid answered
  obtain ⟨rows, chosen, rfl, -⟩ := claimReconcileCandidates_spec (Txn.atomically_ok run)
  obtain ⟨row, among, rfl⟩ := List.mem_map.mp member
  exact ⟨row, (chosen row among).1, (chosen row among).2, rfl⟩

/-- The request a job was created with, and the key it was created under, do not change. -/
theorem Move.identity {s : Store} {j : String} {e : BrokerEvent} {l l' : Life} {row : JobRow}
    (move : Move s j e l l') (here : l.row = some row) :
    ∃ row', l'.row = some row' ∧ row'.identity = row.identity := by
  cases move with
  | same => exact ⟨row, here, rfl⟩
  | created => cases here
  | claimed => cases here; exact ⟨_, rfl, rfl⟩
  | renewed => cases here; exact ⟨_, rfl, rfl⟩
  | transitioned => cases here; exact ⟨_, rfl, rfl⟩
  | lapsed => cases here; exact ⟨_, rfl, rfl⟩
  | expired => cases here; exact ⟨_, rfl, rfl⟩
  | attempted => cases here; exact ⟨_, rfl, rfl⟩

theorem same_identity {r r' : JobRow} (h : r'.identity = r.identity) :
    r'.id = r.id ∧ r'.idempotencyKey = r.idempotencyKey ∧ r'.request = r.request := by
  simp only [JobRow.identity, Prod.mk.injEq] at h
  exact ⟨h.1, h.2.1, h.2.2.1⟩

end Event

section Run
variable {rt : Runtime} {env : Environment} {started : Nat → Option Client} {log : BrokerLog}
  {db : DB}

theorem run_site {a b : BrokerLog} {e : BrokerEvent} (run : rt.Run env started (a ++ e :: b) db) :
    ∃ client, started e.caller = some client ∧ rt.Site client (localOf e.caller a) e.op := by
  obtain ⟨client, origin, calls⟩ := run.calls
  exact ⟨client, origin, code_calls calls⟩

theorem run_induction {P : BrokerLog → DB → Prop} (start : P [] .empty)
    (keep : ∀ log e client, rt.Run env started log e.pre → e.Valid (rt.sem env) →
      started e.caller = some client → rt.Site client (localOf e.caller log) e.op →
      P log e.pre → P (log ++ [e]) e.post) (run : rt.Run env started log db) : P log db :=
  run.induction start fun log e before valid origin held => by
    obtain ⟨client, origin, calls⟩ := origin
    exact keep log e client before valid origin (code_calls calls) held

theorem row_persists {t u : DB} {between : BrokerLog} (trace : Trace (rt.sem env) t between u)
    {j : String} {row : JobRow} (here : t.job? j = some row) :
    ∃ row', u.job? j = some row' ∧ row'.identity = row.identity :=
  trace.stable (P := fun db => ∃ row', db.job? j = some row' ∧ row'.identity = row.identity)
    (fun _ _ valid ⟨_, now, same⟩ =>
      have ⟨row', later, kept⟩ := (moved valid j).identity now
      ⟨row', later, kept.trans same⟩)
    ⟨row, here, rfl⟩

theorem run_keyed (run : rt.Run env started log db) (j : String) :
    ∀ row, db.job? j = some row → row.idempotencyKey = row.request.idempotencyKey := by
  refine run.trace.stable
    (P := fun db => ∀ row, db.job? j = some row → row.idempotencyKey = row.request.idempotencyKey)
    (fun e _ valid before row here => ?_) (fun row here => by cases here)
  cases old : e.pre.job? j with
  | some row₀ =>
    obtain ⟨row', now, same⟩ := (moved valid j).identity old
    obtain rfl : row' = row := Option.some.inj (now.symm.trans here)
    rw [(same_identity same).2.1, (same_identity same).2.2]
    exact before row₀ old
  | none =>
    obtain ⟨_, _, move⟩ := moved_row valid j
    rw [old, here] at move
    cases move with
    | created => rfl

theorem same_request (run : rt.Run env started log db) {j k : String} {row row' : JobRow}
    (hj : db.job? j = some row) (hk : db.job? k = some row') (same : row.request = row'.request) :
    j = k := by
  have keys : row.idempotencyKey = row'.idempotencyKey := by
    rw [run_keyed run j row hj, run_keyed run k row' hk, same]
  have rows : row = row' := Jobs.key_unique (job?_mem.mp hj).1 (job?_mem.mp hk).1 keys
  rw [← (job?_mem.mp hj).2, ← (job?_mem.mp hk).2, rows]

theorem seen_persists {t u : DB} {log : BrokerLog} (trace : Trace (rt.sem env) t log u)
    {g : BrokerEvent} (member : g ∈ log) {j : String} {row : JobRow}
    (here : g.pre.job? j = some row) :
    ∃ row', u.job? j = some row' ∧ row'.identity = row.identity := by
  obtain ⟨a, b, rfl⟩ := List.append_of_mem member
  obtain ⟨-, valid, after⟩ := trace.split
  obtain ⟨row₁, now, same⟩ := (moved valid j).identity here
  obtain ⟨row₂, later, kept⟩ := row_persists after now
  exact ⟨row₂, later, kept.trans same⟩

theorem context_request {t u : DB} {log : BrokerLog} (trace : Trace (rt.sem env) t log u)
    {g : BrokerEvent} (member : g ∈ log) {j : String} {request : ActionRequest} {owner : Subject}
    (context : g.Answered (.store (.getJobContext j)) (.ok (request, owner))) {row : JobRow}
    (here : u.job? j = some row) : row.request = request := by
  obtain ⟨row₀, found, asked, -⟩ := answered_context (trace.valid member) context
  obtain ⟨row', now, same⟩ := seen_persists trace member found
  obtain rfl : row' = row := Option.some.inj (now.symm.trans here)
  rw [(same_identity same).2.2, asked]

theorem job_of_context (run : rt.Run env started log db) {g : BrokerEvent} (member : g ∈ log)
    {j k : String} {request : ActionRequest} {owner : Subject}
    (context : g.Answered (.store (.getJobContext k)) (.ok (request, owner))) {row : JobRow}
    (here : db.job? j = some row) (same : row.request = request) : k = j := by
  obtain ⟨row₀, found, -⟩ := answered_context (run.trace.valid member) context
  obtain ⟨row', now, -⟩ := seen_persists run.trace member found
  exact same_request run now here ((context_request run.trace member context now).trans same.symm)

theorem view_id {e : BrokerEvent} {j : String} {job : JobView} (valid : e.Valid (rt.sem env))
    (answered : e.Answered (.store (.getJob j)) (.ok (some job))) : job.id = j := by
  obtain ⟨row, found, rfl⟩ := answered_getJob valid answered
  exact (job?_mem.mp found).2

end Run

end Deckhand
