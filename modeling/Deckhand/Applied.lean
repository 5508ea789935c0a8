import Deckhand.Circuit
import Deckhand.Terminal

namespace Deckhand
open Lib Lib.Prog

/-- Adapters behind their guards: a call is answered as `ResilientAdapter` answers it, whatever
the plugin did. -/
def Environment.resilient (policy : String → ResiliencePolicy)
    (decides : PolicyInput → Inventory → Except PolicyExn PolicyDecision → Prop) : Environment where
  adapts name op behind r := (∀ g ∈ behind, g.Valid (policy name).sem) ∧
    ∃ rounds, Returns (ResilientAdapter.call op rounds) behind r
  decides := decides

/-- The event is a call of the adapter, and `behind` is what went on behind its guard. -/
inductive Behind : BrokerEvent → (op : AdapterOp) → List GuardEvent → Except AdapterExn op.Value →
    Prop where
  | mk (caller : Nat) (name : String) (op : AdapterOp) (pre : DB) (behind : List GuardEvent)
      (r : Except AdapterExn op.Value) (post : DB) :
      Behind ⟨caller, .adapter name op, pre, behind, r, post⟩ op behind r

/-- The execution of the mutation that job `j` requests was begun by the plugin, and the plugin
did not say itself that there is nothing to reconcile. -/
def MayHaveApplied (j : String) (request : ActionRequest) (e : BrokerEvent) : Prop :=
  ∃ action row behind r outcome, e.pre.job? j = some row ∧ row.request = request ∧
    Behind e (.execute action request) behind r ∧ action.mutation = true ∧
    Dispatched behind (.execute action request) outcome ∧
    ∀ error, outcome = .error (.adapterError error) → error.reconciliationRequired = true

/-- The worker gives its job up for this only where it knows that it needs reconciliation. -/
def AdapterExn.Reconciled : AdapterExn → Prop
  | .adapterError error => error.recordable = true → error.reconciliationRequired = true
  | .cancelledError => True
  | .baseException _ => True
  | .timeoutError => False
  | .other _ => False

/-- A reconciler does not give its candidate up for good for this. -/
def AdapterExn.Retried : AdapterExn → Prop
  | .adapterError error => error.recordable = true → error.retry ≠ .never
  | .other _ => False
  | _ => True

/-- The plugin let the worker look: it began, and it returned or asked for reconciliation. Or the
worker was cancelled. -/
def ShowsWorker (op : AdapterOp) (behind : List GuardEvent) : Prop :=
  (∃ outcome, Dispatched behind op outcome ∧ ∀ x, outcome = .error x → x.Reconciled) ∨
  Undispatched behind ∧ ResilienceGuard.CancelledWaiting behind

/-- If it began, the plugin did not fail unexpectedly, and did not rule another try out. -/
def ShowsReconciler (op : AdapterOp) (behind : List GuardEvent) : Prop :=
  ∀ outcome, Dispatched behind op outcome → ∀ x, outcome = .error x → x.Retried

/-- What a request needs of the plugin in an event that is about it: no unexpected exception from
the execution, and an observation and a verification that show something. -/
structure Cooperates (started : Nat → Option Client) (request : ActionRequest) (e : BrokerEvent) :
    Prop where
  execute : ∀ action behind r, Behind e (.execute action request) behind r → ∀ message,
    ¬ Dispatched behind (.execute action request) (.error (.other message))
  observe : ∀ action behind r, Behind e (.observe action request) behind r →
    (∀ workerId, started e.caller = some (.worker workerId) →
      ShowsWorker (.observe action request) behind) ∧
    ∀ maxAttempts, started e.caller = some (.reconciler maxAttempts) →
      ShowsReconciler (.observe action request) behind
  verify : ∀ action x o behind r, Behind e (.verify action request x o) behind r →
    (∀ workerId, started e.caller = some (.worker workerId) →
      ShowsWorker (.verify action request x o) behind) ∧
    ∀ maxAttempts, started e.caller = some (.reconciler maxAttempts) →
      ShowsReconciler (.verify action request x o) behind

section Guard
variable {rt : Runtime} {policy : String → ResiliencePolicy}
  {decides : PolicyInput → Inventory → Except PolicyExn PolicyDecision → Prop} {e : BrokerEvent}
  {op : AdapterOp} {behind : List GuardEvent}

theorem answered_behind {name : String} {r : Except AdapterExn op.Value}
    (valid : e.Valid (rt.sem (.resilient policy decides)))
    (answered : e.Answered (.adapter name op) r) : ∃ behind, Behind e op behind r ∧
      (∀ g ∈ behind, g.Valid (policy name).sem) ∧
      ∃ rounds, Returns (ResilientAdapter.call op rounds) behind r := by
  cases answered
  exact ⟨_, .mk .., valid.1⟩

theorem Behind.unique {behind' : List GuardEvent} {r r' : Except AdapterExn op.Value}
    (h : Behind e op behind r) (h' : Behind e op behind' r') : behind' = behind ∧ r' = r := by
  cases h
  cases h'
  exact ⟨rfl, rfl⟩

theorem Behind.op_eq {r : Except AdapterExn op.Value} (h : Behind e op behind r) :
    ∃ name, e.op = .adapter name op := by
  cases h
  exact ⟨_, rfl⟩

open ResilienceGuard in
theorem ShowsWorker.required {p : ResiliencePolicy} {error : AdapterError}
    (shown : ShowsWorker op behind) (looks : op.unknownOnStartedTimeout = false)
    (valid : ∀ g ∈ behind, g.Valid p.sem) {rounds : Nat}
    (h : Returns (ResilientAdapter.call op rounds) behind (.error (.adapterError error))) :
    error.reconciliationRequired = true := by
  have outcome := call_outcome valid h
  rcases shown with ⟨outcome', dispatched, shown⟩ | ⟨idle, cancelled⟩
  · generalize whole : (.error (.adapterError error) : Except AdapterExn op.Value) = r at outcome
    cases outcome with
    | returned v => cases whole
    | raised error' recordable raised =>
      cases whole
      obtain rfl := raised.unique dispatched
      exact shown (.adapterError error) rfl recordable
    | unrecorded => cases whole
    | interrupted => cases whole
    | failed message raised =>
      obtain rfl := raised.unique dispatched
      exact (shown (.other message) rfl).elim
    | unknown flag => cases looks.symm.trans flag
    | timedOut _ raised =>
      obtain rfl := raised.unique dispatched
      exact (shown .timeoutError rfl).elim
    | waited idle => exact absurd idle dispatched.not_undispatched
    | rejected message state _ idle => exact absurd idle dispatched.not_undispatched
    | cancelled => cases whole
  · cases call_cancelled valid h cancelled

open ResilienceGuard in
theorem ShowsReconciler.retried {p : ResiliencePolicy} {error : AdapterError}
    (shown : ShowsReconciler op behind) (valid : ∀ g ∈ behind, g.Valid p.sem) {rounds : Nat}
    (h : Returns (ResilientAdapter.call op rounds) behind (.error (.adapterError error))) :
    error.retry ≠ .never := by
  have outcome := call_outcome valid h
  generalize whole : (.error (.adapterError error) : Except AdapterExn op.Value) = r at outcome
  cases outcome with
  | returned v => cases whole
  | raised error' recordable raised =>
    cases whole
    exact shown _ raised _ rfl recordable
  | unrecorded => cases whole
  | interrupted => cases whole
  | failed message raised => exact (shown _ raised _ rfl).elim
  | unknown =>
    cases whole
    nofun
  | timedOut =>
    cases whole
    nofun
  | waited =>
    cases whole
    nofun
  | rejected message state =>
    cases whole
    nofun
  | cancelled => cases whole

open ResilienceGuard in
/-- A mutation whose execution may have been applied ends with no error that rules
reconciliation out, unless the plugin failed unexpectedly. -/
theorem executed_required {p : ResiliencePolicy} {action : ActionDefinition}
    {request : ActionRequest} {error : AdapterError}
    {outcome : Except AdapterExn AdapterExecution} (mutation : action.mutation = true)
    (dispatched : Dispatched behind (.execute action request) outcome)
    (raised : ∀ error, outcome = .error (.adapterError error) →
      error.reconciliationRequired = true)
    (expected : ∀ message, ¬ Dispatched behind (.execute action request) (.error (.other message)))
    (valid : ∀ g ∈ behind, g.Valid p.sem) {rounds : Nat}
    (h : Returns (ResilientAdapter.call (.execute action request) rounds) behind
      (.error (.adapterError error))) : error.reconciliationRequired = true := by
  have ended := call_outcome valid h
  generalize whole : (.error (.adapterError error) :
    Except AdapterExn (AdapterOp.Value (.execute action request))) = r at ended
  cases ended with
  | returned v => cases whole
  | raised error' recordable here =>
    cases whole
    exact raised error (here.unique dispatched).symm
  | unrecorded => cases whole
  | interrupted => cases whole
  | failed message here => exact absurd here (expected message)
  | unknown =>
    cases whole
    rfl
  | timedOut flag => cases mutation.symm.trans flag
  | waited idle => exact absurd idle dispatched.not_undispatched
  | rejected message state _ idle => exact absurd idle dispatched.not_undispatched
  | cancelled => cases whole

end Guard

section Run
variable {rt : Runtime} {policy : String → ResiliencePolicy}
  {decides : PolicyInput → Inventory → Except PolicyExn PolicyDecision → Prop}
  {started : Nat → Option Client} {log : BrokerLog} {db : DB} {j : String}
  {request : ActionRequest} {e : BrokerEvent}

theorem MayHaveApplied.executes (h : MayHaveApplied j request e) : Executes j e := by
  obtain ⟨action, row, behind, r, outcome, here, rfl, during, -⟩ := h
  obtain ⟨name, op⟩ := during.op_eq
  exact ⟨name, action, row, here, op⟩

theorem one_request {env : Environment} (run : rt.Run env started log db) {f g : BrokerEvent}
    (hf : f ∈ log) (hg : g ∈ log) {row row' : JobRow} (here : f.pre.job? j = some row)
    (there : g.pre.job? j = some row') : row'.request = row.request := by
  obtain ⟨last, now, same⟩ := seen_persists run.trace hf here
  obtain ⟨last', now', same'⟩ := seen_persists run.trace hg there
  obtain rfl := Option.some.inj (now.symm.trans now')
  rw [← (same_identity same').2.2, (same_identity same).2.2]

theorem worker_required {a b : BrokerLog} {f : BrokerEvent} {workerId : String}
    {brief : Worker.Brief} {error : AdapterError} {row : JobRow}
    (run : rt.Run (.resilient policy decides) started (a ++ f :: b) db)
    (applied : MayHaveApplied j request e) (member : e ∈ a ++ f :: b)
    (cooperates : ∀ g ∈ a ++ f :: b, Cooperates started request g)
    (origin : started f.caller = some (.worker workerId))
    (here : f.pre.job? brief.job.id = some row)
    (job : brief.job.id = j)
    (failed : Worker.Failed rt workerId (localOf f.caller a) brief error) :
    error.reconciliationRequired = true := by
  subst job
  obtain ⟨c, rest, seen, -, -, g, read, owner, context⟩ := failed.knows
  have before : g ∈ a := (mem_of_localOf (i := f.caller) (seen ▸ List.mem_cons_of_mem _ read)).1
  have asked : brief.request = request := by
    obtain ⟨action, row₀, behind, r, outcome, first, same, -⟩ := applied
    rw [← context_request run.until.trace before context here, ← same]
    exact one_request run member (by simp) first here
  subst asked
  have shown : ∀ {op : AdapterOp} {name : String} {p : BrokerEvent}, p ∈ localOf f.caller a →
      p.Answered (.adapter name op) (.error (.adapterError error)) →
      op.unknownOnStartedTimeout = false →
      (∀ behind r, Behind p op behind r → ShowsWorker op behind) →
      error.reconciliationRequired = true := by
    intro op name p mine answered looks shows
    obtain ⟨behind, during, valid, rounds, ended⟩ :=
      answered_behind (run.until.trace.valid (mem_of_localOf mine).1) answered
    exact (shows behind _ during).required looks valid ended
  generalize mine : localOf f.caller a = es at failed shown
  have own : ∀ p ∈ es, p ∈ a ++ f :: b ∧ started p.caller = some (.worker workerId) := by
    rintro p among
    obtain ⟨early, caller⟩ := mem_of_localOf (mine ▸ among)
    exact ⟨List.mem_append_left _ early, caller ▸ origin⟩
  cases failed with
  | execute es p _ _ briefed answered =>
    -- a job is executed once, so this is the execution that may have been applied
    obtain ⟨x, y, rfl, prior⟩ := localOf_split mine
    obtain ⟨c', g', owner', rfl, claim', context'⟩ := briefed.seen
    have run : rt.Run (.resilient policy decides) started (x ++ p :: (y ++ f :: b)) db := by
      simpa using run
    have early : g' ∈ x := (mem_of_localOf (i := f.caller) (prior ▸ by simp)).1
    obtain ⟨row₁, found, -⟩ := answered_context (run.until.trace.valid early) context'
    obtain ⟨row₂, now, -⟩ := seen_persists run.until.trace early found
    have asked := context_request run.until.trace early context' now
    have executes : Executes brief.job.id p := by
      refine ⟨brief.action.adapter, brief.action, row₂, now, ?_⟩
      rw [asked]
      exact answered.op_eq
    have whole : x ++ p :: (y ++ f :: b) = x ++ p :: y ++ f :: b := by simp
    obtain rfl := executed_same run (whole ▸ member) (by simp) applied.executes executes
    have cooperates := cooperates e member
    obtain ⟨action, row₃, behind, r, outcome, -, -, during, mutation, dispatched, raised⟩ := applied
    obtain ⟨name, op⟩ := during.op_eq
    obtain ⟨behind', during', valid, rounds, ended⟩ := answered_behind run.valid answered
    have same := op.symm.trans answered.op_eq
    simp only [Op.adapter.injEq, AdapterOp.execute.injEq] at same
    obtain ⟨-, rfl, -⟩ := same
    obtain ⟨rfl, -⟩ := during.unique during'
    exact executed_required mutation dispatched raised (cooperates.execute _ _ _ during) valid ended
  | observe es p _ x _ renewed answered =>
    obtain ⟨among, worker⟩ := own p (by simp)
    exact shown (by simp) answered rfl fun behind r during =>
      ((cooperates p among).observe _ behind r during).1 workerId worker
  | verify es p _ x o _ observed answered =>
    obtain ⟨among, worker⟩ := own p (by simp)
    exact shown (by simp) answered rfl fun behind r during =>
      ((cooperates p among).verify _ x o behind r during).1 workerId worker
  | unsatisfied _ _ x o v verified => rfl

theorem reconciler_retried {a b : BrokerLog} {f : BrokerEvent} {maxAttempts : Nat}
    {brief : Reconciler.Brief} {error : AdapterError} {row : JobRow}
    (run : rt.Run (.resilient policy decides) started (a ++ f :: b) db)
    (cooperates : ∀ g ∈ a ++ f :: b, Cooperates started row.request g)
    (origin : started f.caller = some (.reconciler maxAttempts))
    (here : f.pre.job? brief.job.id = some row)
    (failed : Reconciler.Failed rt maxAttempts (localOf f.caller a) brief error) :
    error.retry ≠ .never := by
  have asked : row.request = brief.request := by
    obtain ⟨before, part, briefed⟩ := failed.briefed
    obtain ⟨g, read, owner, context⟩ := briefed.context
    have early : g ∈ a := (mem_of_localOf (i := f.caller) (part.subset read)).1
    exact context_request run.until.trace early context here
  rw [asked] at cooperates
  have shown : ∀ {op : AdapterOp} {name : String} {p : BrokerEvent}, p ∈ localOf f.caller a →
      p.Answered (.adapter name op) (.error (.adapterError error)) →
      (∀ behind r, Behind p op behind r → ShowsReconciler op behind) → error.retry ≠ .never := by
    intro op name p mine answered shows
    obtain ⟨behind, during, valid, rounds, ended⟩ :=
      answered_behind (run.until.trace.valid (mem_of_localOf mine).1) answered
    exact (shows behind _ during).retried valid ended
  generalize mine : localOf f.caller a = es at failed shown
  have own : ∀ p ∈ es, p ∈ a ++ f :: b ∧ started p.caller = some (.reconciler maxAttempts) := by
    rintro p among
    obtain ⟨early, caller⟩ := mem_of_localOf (mine ▸ among)
    exact ⟨List.mem_append_left _ early, caller ▸ origin⟩
  cases failed with
  | observe es p _ _ entered answered =>
    obtain ⟨among, reconciler⟩ := own p (by simp)
    exact shown (by simp) answered fun behind r during =>
      ((cooperates p among).observe _ behind r during).2 maxAttempts reconciler
  | verify es p _ o _ observed answered =>
    obtain ⟨among, reconciler⟩ := own p (by simp)
    exact shown (by simp) answered fun behind r during =>
      ((cooperates p among).verify _ _ o behind r during).2 maxAttempts reconciler

theorem never_failed (run : rt.Run (.resilient policy decides) started log db)
    (applied : MayHaveApplied j request e) (member : e ∈ log)
    (cooperates : ∀ g ∈ log, Cooperates started request g) :
    ∀ row, db.job? j = some row → row.state ≠ .failed := by
  refine run.trace.stable (P := fun db => ∀ row, db.job? j = some row → row.state ≠ .failed)
    (fun f among valid before row' after => ?_) (fun _ h => by cases h)
  obtain ⟨a, b, rfl⟩ := List.append_of_mem among
  obtain ⟨client, origin, site⟩ := run_site run
  obtain ⟨_, _, move⟩ := moved_row valid j
  generalize old : f.pre.job? j = r at move before
  rw [after] at move
  cases move with
  | same => exact before row' rfl
  | created => nofun
  | claimed => nofun
  | renewed o leaseToken leaseSeconds row => exact before row rfl
  | lapsed => nofun
  | expired => nofun
  | attempted maxAttempts limit row => exact before row rfl
  | transitioned o target result error fence expectedState row events answered =>
    have asked : row.request = request := by
      obtain ⟨action, row₀, behind, r, outcome, first, same, -⟩ := id applied
      exact (one_request run member among first old).trans same
    intro failed
    obtain rfl : target = .failed := failed
    have writer := site_writer (answered.op_eq ▸ site)
    generalize is : JobState.failed = t at writer
    cases writer with
    | workerGiveUp workerId brief error jobError raised =>
      rw [if_pos (worker_required run applied member cooperates origin old rfl raised)] at is
      cases is
    | reconcilerGiveUp maxAttempts brief error jobError raised =>
      rw [if_pos (reconciler_retried run (asked ▸ cooperates) origin old raised)] at is
      cases is
    | _ => cases is

theorem executed_claimed {env : Environment} (run : rt.Run env started log db) (member : e ∈ log)
    (executes : Executes j e) : claims j log ≠ [] := by
  obtain ⟨a, b, rfl⟩ := List.append_of_mem member
  obtain ⟨k, g, token, seen, claim, -⟩ := executes_claimed run executes
  have early : k ∈ a := (mem_of_localOf (i := e.caller) (seen ▸ by simp)).1
  refine List.ne_nil_of_mem (List.mem_filterMap.mpr ⟨k, ?_, claim⟩)
  exact List.mem_append_left _ early

end Run

/-- Where a job is once its execution has begun, unless it is recorded as FAILED. -/
def Unfailed (state : JobState) : Prop :=
  state = .running ∨ state = .verifying ∨ state = .unknownOutcome ∨ state = .succeeded ∨
    state = .cancelled

/-- A mutation that may have been applied is never recorded as FAILED, if the plugin cooperates
on its request. -/
theorem applied_mutation_unfailed (rt : Runtime) (policy : String → ResiliencePolicy)
    (decides : PolicyInput → Inventory → Except PolicyExn PolicyDecision → Prop)
    (c : BrokerConfig) (h : rt.Reachable (.resilient policy decides) c) (j : String)
    (request : ActionRequest) (a b : BrokerLog) (e : BrokerEvent) (whole : c.log = a ++ e :: b)
    (applied : MayHaveApplied j request e)
    (cooperates : ∀ g ∈ c.log, Cooperates c.started request g) :
    ∀ db ∈ visited e.post b, ∀ row, db.job? j = some row → Unfailed row.state := by
  intro db visit row here
  have run := reachable_run h
  rw [whole] at run cooperates
  obtain ⟨log, rest, part, member, run⟩ : ∃ log rest, a ++ e :: b = log ++ rest ∧ e ∈ log ∧
      rt.Run (.resilient policy decides) c.started log db := by
    rcases List.mem_cons.mp visit with rfl | later
    · exact ⟨a ++ [e], b, by simp, by simp, run.through⟩
    · obtain ⟨g, among, rfl⟩ := List.mem_map.mp later
      obtain ⟨x, y, rfl⟩ := List.append_of_mem among
      have run : rt.Run (.resilient policy decides) c.started ((a ++ e :: x) ++ g :: y)
          c.state := by
        simpa using run
      exact ⟨(a ++ e :: x) ++ [g], y, by simp, by simp, run.through⟩
  have unfailed := never_failed run applied member
    (fun g among => cooperates g (part ▸ List.mem_append_left _ among)) row here
  have claimed := executed_claimed run member applied.executes
  have unexpired : row.state ≠ .expired :=
    fun expired => claimed ((run_truthful run j row here).expired expired)
  have taken : row.state ≠ .queued := fun queued => claimed (queued_unclaimed run here queued)
  have live := (run_shaped run j row here).live
  unfold Deckhand.Live at live
  unfold Unfailed
  tauto

/-! Runs whose adapters answer through their guards. -/

section Guarded
variable {rt : Runtime} {policy : String → ResiliencePolicy}
  {decides : PolicyInput → Inventory → Except PolicyExn PolicyDecision → Prop}
  {started : Nat → Option Client} {log : BrokerLog} {db : DB} {e : BrokerEvent}

theorem returned_dispatched {op : AdapterOp} {behind : List GuardEvent} {v : op.Value}
    (valid : e.Valid (rt.sem (.resilient policy decides))) (during : Behind e op behind (.ok v)) :
    Dispatched behind op (.ok v) := by
  cases during with
  | mk caller name _ pre _ _ post =>
    obtain ⟨⟨sound, rounds, ended⟩, -⟩ := valid
    have outcome := ResilienceGuard.call_outcome sound ended
    generalize whole : (.ok v : Except AdapterExn op.Value) = r at outcome
    cases outcome with
    | returned w dispatched =>
      cases whole
      exact dispatched
    | _ => cases whole

def answersWell : BrokerEvent → Bool
  | ⟨_, .adapter .., _, _, .error _, _⟩ => false
  | _ => true

theorem answersWell_ok {op : AdapterOp} {behind : List GuardEvent} {r : Except AdapterExn op.Value}
    (well : answersWell e = true) (during : Behind e op behind r) : ∃ v, r = .ok v := by
  cases during
  cases r with
  | ok v => exact ⟨v, rfl⟩
  | error x => cases well

theorem cooperates_well {request : ActionRequest}
    (valid : e.Valid (rt.sem (.resilient policy decides))) (well : answersWell e = true) :
    Cooperates started request e := by
  have returned : ∀ {op : AdapterOp} {behind : List GuardEvent} {r : Except AdapterExn op.Value},
      Behind e op behind r → ∃ v, Dispatched behind op (.ok v) := by
    intro op behind r during
    obtain ⟨v, rfl⟩ := answersWell_ok well during
    exact ⟨v, returned_dispatched valid during⟩
  have worker : ∀ {op : AdapterOp} {behind : List GuardEvent} {r : Except AdapterExn op.Value},
      Behind e op behind r → ShowsWorker op behind := by
    intro op behind r during
    obtain ⟨v, dispatched⟩ := returned during
    exact .inl ⟨.ok v, dispatched, nofun⟩
  have reconciler : ∀ {op : AdapterOp} {behind : List GuardEvent}
      {r : Except AdapterExn op.Value}, Behind e op behind r → ShowsReconciler op behind := by
    intro op behind r during outcome dispatched x failed
    obtain ⟨v, dispatched'⟩ := returned during
    cases failed.symm.trans (dispatched.unique dispatched')
  refine ⟨fun action behind r during message dispatched => ?_,
    fun action behind r during => ⟨fun _ _ => worker during, fun _ _ => reconciler during⟩,
    fun action x o behind r during => ⟨fun _ _ => worker during, fun _ _ => reconciler during⟩⟩
  obtain ⟨v, dispatched'⟩ := returned during
  cases dispatched.unique dispatched'

def executesMutation : BrokerEvent → Bool
  | ⟨_, .adapter _ (.execute action _), _, _, .ok _, _⟩ => action.mutation
  | _ => false

theorem executesMutation_applied {a b : BrokerLog}
    (run : rt.Run (.resilient policy decides) started (a ++ e :: b) db)
    (executes : executesMutation e = true) : ∃ j request, MayHaveApplied j request e := by
  have valid := run.valid
  unfold executesMutation at executes
  split at executes
  · obtain ⟨j, name, action, row, here, op⟩ := execute_of_job run rfl
    simp only [Op.adapter.injEq, AdapterOp.execute.injEq] at op
    obtain ⟨-, rfl, rfl⟩ := op
    exact ⟨j, row.request, _, row, _, _, _, here, rfl, .mk .., executes,
      returned_dispatched valid (.mk ..), nofun⟩
  · cases executes

end Guarded

namespace Sample

/-- A plugin behind its guard, without a wait while a slot is free. -/
def reply (outcome : (op : AdapterOp) → Except AdapterExn op.Value) (g : GuardState) : Reply where
  wait := if g.permits = 0 then .pastDeadline else .finished
  outcome := outcome

theorem reply_answers (outcome : (op : AdapterOp) → Except AdapterExn op.Value) (g : GuardState)
    (op : GuardOp) : (GuardOp.run plugin g op ((reply outcome g).note op)).isSome = true := by
  cases op with
  | acquireSlot =>
    by_cases none : g.permits = 0
    · simp [reply, Reply.note, GuardOp.run, none]
    · simp [reply, Reply.note, GuardOp.run, none]
  | recordFailure error =>
    cases recorded : g.recordFailure plugin ((reply outcome g).note (.recordFailure error))
      error with
    | none => simp [GuardOp.run, recorded]
    | some g' => simp [GuardOp.run, recorded]
  | _ => rfl

def respond (outcome : (op : AdapterOp) → Except AdapterExn op.Value) (op : GuardOp)
    (g : GuardState) : op.Note × op.Ret × GuardState :=
  ((reply outcome g).note op,
    (GuardOp.run plugin g op ((reply outcome g).note op)).get (reply_answers outcome g op))

/-- What a call through the guard is answered, with what went on behind it. -/
def guarded (outcome : (op : AdapterOp) → Except AdapterExn op.Value) (op : AdapterOp) :
    List GuardEvent × Except AdapterExn op.Value :=
  (ResilientAdapter.call op 1).follow (respond outcome) (plugin.start 0)

abbrev resilient : Environment := .resilient (fun _ => plugin) fun _ _ _ => True

theorem guarded_allowed (i : Nat) (outcome : (op : AdapterOp) → Except AdapterExn op.Value) :
    (Turn.adapter i (guarded outcome)).Allowed resilient := by
  intro name op
  refine ⟨follow_valid (fun op g => ?_) _ _, 1, follow_returns ..⟩
  exact (Option.some_get (reply_answers outcome g op)).symm

/-- A plugin that executes, and then does not come back from looking. -/
def blind : (op : AdapterOp) → Except AdapterExn op.Value
  | .observe .. => .error .timeoutError
  | op => healthy op

/-- A worker takes its job from the queue to its end, behind the guard. -/
def worked (outcome : (op : AdapterOp) → Except AdapterExn op.Value) : List Turn :=
  [.start (.createJob (request keyA) subject), .store 0 (oracle 1 "a"),
    .start (.worker "w"), .store 1 (oracle 2 "b"), .store 1 (oracle 3 "c"),
    .adapter 1 (guarded outcome), .store 1 (oracle 4 "d"), .store 1 (oracle 5 "e"),
    .adapter 1 (guarded outcome)]

def verified : List Turn :=
  worked healthy ++ [.adapter 1 (guarded healthy), .store 1 (oracle 6 "f")]

def unseen : List Turn := worked blind ++ [.store 1 (oracle 6 "f")]

theorem worked_allowed (outcome : (op : AdapterOp) → Except AdapterExn op.Value) :
    ∀ turn ∈ worked outcome, turn.Allowed resilient := by
  intro turn member
  simp only [worked, List.mem_cons, List.not_mem_nil, or_false] at member
  rcases member with rfl | rfl | rfl | rfl | rfl | rfl | rfl | rfl | rfl
  all_goals first | trivial | exact guarded_allowed 1 outcome

end Sample

open Sample in
theorem applied_mutation_unfailed_verified : ∃ c j request a e b row,
    (runtime .none).played verified = some c ∧ c.log = a ++ e :: b ∧ MayHaveApplied j request e ∧
    c.state.job? "job_a" = some row ∧ row.state = .succeeded ∧
    ∀ db ∈ visited e.post b, ∀ row, db.job? j = some row → Unfailed row.state := by
  have outcome : ((runtime .none).played verified).map (fun c =>
      (c.log.any executesMutation, c.log.all answersWell,
        (c.state.job? "job_a").map JobRow.state)) = some (true, true, some .succeeded) := by
    decide +kernel
  obtain ⟨c, played, same⟩ := Option.map_eq_some_iff.mp outcome
  simp only [Prod.mk.injEq, List.any_eq_true, List.all_eq_true] at same
  obtain ⟨⟨e, member, executes⟩, well, state⟩ := same
  obtain ⟨row, here, state⟩ := Option.map_eq_some_iff.mp state
  have allowed : ∀ turn ∈ verified, turn.Allowed resilient := by
    intro turn among
    rcases List.mem_append.mp among with early | late
    · exact worked_allowed healthy turn early
    · simp only [List.mem_cons, List.not_mem_nil, or_false] at late
      rcases late with rfl | rfl
      · exact guarded_allowed 1 healthy
      · trivial
  have reached := played_reachable allowed played
  have run := reachable_run reached
  obtain ⟨a, b, whole⟩ := List.append_of_mem member
  rw [whole] at run
  obtain ⟨j, request, applied⟩ := executesMutation_applied run executes
  refine ⟨c, j, request, a, e, b, row, played, whole, applied, here, state, ?_⟩
  refine applied_mutation_unfailed (runtime .none) (fun _ => plugin) (fun _ _ _ => True) c reached j
    request a b e whole applied fun g among => ?_
  exact cooperates_well ((reachable_run reached).trace.valid among) (well g among)

open Sample in
/-- The mutation was executed, the observation after it timed out, and the job is FAILED. -/
theorem applied_mutation_failed : ∃ c request e row, (runtime .none).Reachable resilient c ∧
    e ∈ c.log ∧ MayHaveApplied "job_a" request e ∧ c.state.job? "job_a" = some row ∧
    row.state = .failed := by
  have outcome : ((runtime .none).played unseen).map (fun c =>
      (c.log.any fun e => executesMutation e && e.pre.jobs.rows.all fun row => row.id = "job_a",
        (c.state.job? "job_a").map JobRow.state)) = some (true, some .failed) := by decide +kernel
  obtain ⟨c, played, same⟩ := Option.map_eq_some_iff.mp outcome
  simp only [Prod.mk.injEq, List.any_eq_true, Bool.and_eq_true, List.all_eq_true,
    decide_eq_true_eq] at same
  obtain ⟨⟨e, member, executes, only⟩, state⟩ := same
  obtain ⟨row, here, failed⟩ := Option.map_eq_some_iff.mp state
  have allowed : ∀ turn ∈ unseen, turn.Allowed resilient := by
    intro turn among
    rcases List.mem_append.mp among with early | late
    · exact worked_allowed blind turn early
    · rw [List.mem_singleton.mp late]
      trivial
  have reached := played_reachable allowed played
  have run := reachable_run reached
  obtain ⟨a, b, whole⟩ := List.append_of_mem member
  rw [whole] at run
  obtain ⟨j, request, applied⟩ := executesMutation_applied run executes
  obtain ⟨action, row', behind, r, outcome, found, -⟩ := id applied
  obtain rfl : j = "job_a" := by
    obtain ⟨among, is⟩ := job?_mem.mp found
    rw [← is, only row' among]
  exact ⟨c, request, e, row, reached, member, applied, here, failed⟩

end Deckhand
