import Deckhand.Lib.Alone
import Deckhand.Races

/-! Jobs that nothing can end any more: which states can still be left for a terminal one,
whatever the processes stand at, and which never can. -/
namespace Deckhand
open Lib Lib.Prog

theorem serves_iff {rt : Runtime} {request : ActionRequest} : rt.serves request = true ↔
    ∃ action, rt.catalog.validateRequest request = .ok action ∧
      action.adapter ∈ rt.adapters.names := by
  unfold Runtime.serves
  cases rt.catalog.validateRequest request with
  | ok action => simp
  | error x => simp

/-- A process has read the request of job `j`, and the request is served. -/
def ReadServed (rt : Runtime) (j : String) (es : BrokerLog) : Prop :=
  ∃ g ∈ es, ∃ request owner,
    g.Answered (.store (.getJobContext j)) (.ok (request, owner)) ∧ rt.serves request = true

theorem ReadServed.later {rt : Runtime} {j : String} {es : BrokerLog} (before : BrokerLog)
    (h : ReadServed rt j es) : ReadServed rt j (before ++ es) := by
  obtain ⟨g, member, rest⟩ := h
  exact ⟨g, List.mem_append_right _ member, rest⟩

section Writes
variable {rt : Runtime} {es : BrokerLog} {j : String} {target : JobState} {result : Option Dict}
  {error : Option JobError} {fence : Option String} {expectedState : Option JobState}

theorem calls_served {α : Type} {request : ActionRequest} {f : ActionDefinition → Process α}
    {op : Op} (h : Calls (do
      let action ← rt.validateRequest request
      rt.getAdapter action.adapter
      f action) es op) : rt.serves request = true ∧ ∃ action, Calls (f action) es op := by
  rcases calls_bind.mp h with here | ⟨action, _, es₁, rfl, ran, h₁⟩
  · exact absurd here calls_validateRequest
  obtain ⟨rfl, valid⟩ := returns_validateRequest_ok.mp ran
  rcases calls_bind.mp h₁ with here | ⟨_, _, es₂, rfl, ran, h₂⟩
  · exact absurd here calls_getAdapter
  obtain ⟨rfl, registered⟩ := returns_getAdapter_ok.mp ran
  exact ⟨serves_iff.mpr ⟨action, valid, registered⟩, action, h₂⟩

theorem Worker.write_served {workerId : String} (h : Calls (Worker.runOnce rt workerId) es
    (.store (.transitionJob j target result error fence expectedState))) : ReadServed rt j es := by
  have knows : ∃ b, Worker.Knows rt workerId es b ∧ b.job.id = j := by
    cases Worker.runOnce_calls h with
    | record _ b x executed => exact ⟨b, executed.knows, rfl⟩
    | succeed _ b x o v verified => exact ⟨b, verified.knows, rfl⟩
    | giveUp _ b error jobError failed => exact ⟨b, failed.knows, rfl⟩
  obtain ⟨b, ⟨c, rest, rfl, claim, -⟩, rfl⟩ := knows
  rcases calls_store_then h with ⟨none, -⟩ | ⟨c', claimed, es₁, same, claim', h₁⟩
  · cases none
  obtain ⟨rfl, rfl⟩ := List.cons.inj same
  cases claim'.unique claim
  rcases calls_store_then h₁ with ⟨-, other⟩ | ⟨g, ⟨request, owner⟩, es₂, rfl, context, h₂⟩
  · cases other
  exact ⟨g, by simp, request, owner, context, (calls_served h₂).1⟩

theorem Reconciler.settle_write {b : Reconciler.Brief} (h : Calls (Reconciler.settle b) es
    (.store (.transitionJob j target result error fence expectedState))) : j = b.job.id := by
  rcases calls_adapter_then h with ⟨-, other⟩ | ⟨_, o, es₁, rfl, -, h₁⟩
  · cases other
  rcases calls_adapter_then h₁ with ⟨-, other⟩ | ⟨_, v, es₂, rfl, -, h₂⟩
  · cases other
  split at h₂
  · have written := (calls_requireDump_then (calls_requireDump_then h₂).2).2
    cases (calls_callStore.mp written).2
    rfl
  · cases (calls_callStore.mp h₂).2
    rfl

theorem Reconciler.reconcile_write {job : JobView} (h : Calls (Reconciler.reconcile rt job) es
    (.store (.transitionJob j target result error fence expectedState))) :
    ReadServed rt j es := by
  rcases calls_store_then h with ⟨-, other⟩ | ⟨g, ⟨request, owner⟩, es₁, rfl, context, h₁⟩
  · cases other
  obtain ⟨served, action, h₂⟩ := calls_served h₁
  suffices same : j = job.id by
    subst same
    exact ⟨g, by simp, request, owner, context, served⟩
  rcases calls_bind.mp h₂ with here | ⟨x, _, es₃, rfl, ran, h₃⟩
  · exact absurd here calls_lift
  rcases calls_store_then h₃ with ⟨-, enter⟩ | ⟨_, v, es₄, rfl, -, h₄⟩
  · cases enter
    rfl
  rcases calls_tryCatch.mp h₄ with here | ⟨x, seen, es₅, rfl, -, h₅⟩
  · exact Reconciler.settle_write here
  · obtain ⟨error, jobError, -, -, -, given⟩ := Reconciler.handle_calls h₅
    cases given
    rfl

theorem Reconciler.write_served {maxAttempts : Nat} (h : Calls (Reconciler.runOnce rt maxAttempts)
    es (.store (.transitionJob j target result error fence expectedState))) : ReadServed rt j
    es := by
  rcases calls_store_then h with ⟨-, other⟩ | ⟨x, n, es₁, rfl, -, h₁⟩
  · cases other
  rcases calls_store_then h₁ with ⟨-, other⟩ | ⟨c, jobs, es₂, rfl, -, h₂⟩
  · cases other
  obtain ⟨job, -, first, rest, rfl, later⟩ := calls_mapM h₂
  exact (Reconciler.reconcile_write later).later (x :: c :: first)

/-- A canceller writes with a compare-and-set on QUEUED, or for a request that is served. -/
theorem Canceller.write_served {jobId : String} {subject : Subject}
    (h : Calls (Canceller.cancel rt jobId subject) es
      (.store (.transitionJob j target result error fence expectedState))) :
    expectedState = some .queued ∨ ReadServed rt jobId es := by
  rcases calls_store_then h with ⟨-, other⟩ | ⟨g, found, es₁, rfl, -, h₁⟩
  · cases other
  rcases calls_bind.mp h₁ with here | ⟨job, _, es₂, rfl, ran, h₂⟩
  · exact absurd here calls_require
  obtain ⟨rfl, rfl⟩ := returns_require_ok.mp ran
  rcases calls_store_then h₂ with ⟨-, other⟩ | ⟨c, ⟨request, owner⟩, es₃, rfl, context, h₃⟩
  · cases other
  have read : ∀ rest, rt.serves request = true → ReadServed rt jobId (g :: ([] ++ c :: rest)) :=
    fun rest served => ⟨c, by simp, request, owner, context, served⟩
  rcases calls_bind.mp h₃ with here | ⟨_, _, es₄, rfl, -, h₄⟩
  · exact absurd here calls_raiseIf
  rcases calls_bind.mp h₄ with here | ⟨_, _, es₅, rfl, -, h₅⟩
  · exact absurd here calls_raiseIf
  split at h₅
  · rcases calls_call.mp h₅ with ⟨-, dequeue⟩ | ⟨t, rest, r, rfl, -, h₆⟩
    · cases dequeue
      exact .inl rfl
    split at h₆
    · exact absurd h₆ calls_pure
    · rcases calls_bind.mp h₆ with here | ⟨job', _, es₇, rfl, -, h₇⟩
      · cases (Canceller.refresh_calls here).2
      · exact .inr (read _ (calls_served h₇).1)
    · exact absurd h₆ calls_throw
  · exact .inr (read _ (calls_served h₅).1)

end Writes

/-- The row has left the queue, it has not ended, and its request is not served. -/
structure JobRow.Abandoned (rt : Runtime) (row : JobRow) : Prop where
  taken : row.state ≠ .queued
  unended : row.state ∉ terminalJobStates
  unserved : rt.serves row.request = false

section Run
variable {rt : Runtime} {env : Environment} {started : Nat → Option Client} {log : BrokerLog}
  {e : BrokerEvent} {t : DB} {j : String}

/-- A row that has left the queue is written to by a process that has found its request served. -/
theorem written_served (run : rt.Run env started (log ++ [e]) t) {target : JobState}
    {result : Option Dict} {error : Option JobError} {fence : Option String}
    {expectedState : Option JobState} {row : JobRow} (here : e.pre.job? j = some row)
    (op : e.op = .store (.transitionJob j target result error fence expectedState)) :
    expectedState = some .queued ∨ rt.serves row.request = true := by
  obtain ⟨client, -, calls⟩ := run.calls
  rw [op] at calls
  have trace := run.until.trace
  have asked : ReadServed rt j (localOf e.caller log) → rt.serves row.request = true := by
    rintro ⟨g, member, request, owner, context, served⟩
    rw [context_request trace (mem_of_localOf member).1 context here]
    exact served
  cases client with
  | worker workerId => exact .inr (asked (Worker.write_served (calls_map.mp calls)))
  | reconciler maxAttempts => exact .inr (asked (Reconciler.write_served (calls_map.mp calls)))
  | canceller jobId subject =>
    rcases Canceller.write_served (calls_map.mp calls) with queued | served
    · exact .inl queued
    rcases canceller_writer (site_writer (code_calls calls)) with
      ⟨_, _, _, _, _, _, queued⟩ | ⟨before, job, request, part, viewed, rfl, -⟩
    · exact .inl queued
    obtain ⟨g, member, read⟩ := viewed.read
    have valid := trace.valid (mem_of_localOf (part.subset member)).1
    rw [view_id valid read] at asked
    exact .inr (asked served)
  | _ => cases site_writer (code_calls calls)

theorem abandoned_stays (run : rt.Run env started (log ++ [e]) t) :
    (∃ row, e.pre.job? j = some row ∧ row.Abandoned rt) →
      ∃ row, e.post.job? j = some row ∧ row.Abandoned rt := by
  rintro ⟨row, here, abandoned⟩
  obtain ⟨events, events', move⟩ := moved_row run.valid j
  have written : ∀ {target result error fence expectedState}, e.op = .store (.transitionJob j
      target result error fence expectedState) → _ := written_served run here
  rw [here] at move
  generalize e.post.job? j = after at move ⊢
  cases move with
  | same => exact ⟨row, rfl, abandoned⟩
  | claimed o workerId seconds _ _ _ claimable => exact absurd claimable.1 abandoned.taken
  | renewed o => exact ⟨_, rfl, abandoned.taken, abandoned.unended, abandoned.unserved⟩
  | transitioned o target result error fence expectedState _ _ answered _ held expected =>
    rcases written answered.op_eq with rfl | served
    · exact absurd (expected _ rfl) abandoned.taken
    · rw [abandoned.unserved] at served
      cases served
  | lapsed o =>
    have unknown : (row.lapse o).state = .unknownOutcome := rfl
    exact ⟨_, rfl, by simp [unknown], by rw [unknown]; decide, abandoned.unserved⟩
  | expired o ttlSeconds _ _ _ _ stale => exact absurd stale.1 abandoned.taken
  | attempted => exact ⟨_, rfl, abandoned.taken, abandoned.unended, abandoned.unserved⟩

end Run

section Alone
variable {rt : Runtime} {o : Oracle} {db db' : DB} {row : JobRow}

theorem alone_store {op : StoreOp} {v : op.Value}
    (ran : op.run rt.store o db = (.ok v, db')) :
    Alone (rt.sem .any) (callStore op) db (.ok v) db' :=
  have answers : rt.sem .any (.store op) db o (Except.ok v : Except StoreExn op.Value) db' := ran
  .call _ _ _ _ _ _ _ _ answers (.ret _ db')

theorem alone_getJob (unfailing : o.fault = none) (here : db.job? row.id = some row) :
    Alone (rt.sem .any) (callStore (.getJob row.id)) db (.ok (some row.view)) db := by
  have found : (Store.getJob row.id).run db = .ok (some row.view, db) := by
    rw [getJob_ends, here]
    rfl
  exact alone_store (connect_ends unfailing found)

theorem alone_getJobContext (unfailing : o.fault = none) (here : db.job? row.id = some row) :
    Alone (rt.sem .any) (callStore (.getJobContext row.id)) db
      (.ok (row.request, row.subject)) db :=
  alone_store (connect_ends unfailing (getJobContext_ends here))

theorem cancelled_ends (unfailing : o.fault = none) (ready : AuditReady rt.store o db.auditEvents)
    (here : db.job? row.id = some row) (allowed : .cancelled ∈ allowedTransitions row.state)
    (result : Option Dict) (error : Option JobError) (expectedState : Option JobState)
    (expected : ∀ state ∈ expectedState, row.state = state)
    (writes : JobRow.transitionWritable result error = true) : ∃ view db' row',
      StoreOp.run rt.store o (.transitionJob row.id .cancelled result error none expectedState) db =
        (.ok view, db') ∧ db'.job? row.id = some row' ∧ row'.state = .cancelled := by
  obtain ⟨view, db', ends⟩ := transitionJob_ends .cancelled result error none expectedState here
    (by simp) expected allowed writes ready
  obtain ⟨row', -, -, -, -, -, -, life⟩ := transitionJob_spec ends
  refine ⟨view, db', row'.transition o .cancelled result error, connect_ends unfailing ends, ?_,
    rfl⟩
  exact (congrArg Life.row (life row.id)).trans (by rw [if_pos rfl])

/-- A canceller that is left alone with its own job, of a state that allows it, cancels it: from
the queue at once, later if the request is served and the adapter agrees. -/
theorem cancel_alone (unfailing : o.fault = none) (ready : AuditReady rt.store o db.auditEvents)
    (here : db.job? row.id = some row) (unended : row.state ∉ terminalJobStates)
    (allowed : .cancelled ∈ allowedTransitions row.state) (rewritable : row.Rewritable)
    {x : Option AdapterExecution} (readable : Canceller.execution row.view = .ok x)
    (served : row.state = .queued ∨ rt.serves row.request = true) : ∃ view db' row',
      Alone (rt.sem .any) (Canceller.cancel rt row.id row.subject) db (.ok view) db' ∧
        db'.job? row.id = some row' ∧ row'.state = .cancelled := by
  by_cases queued : row.state = .queued
  · obtain ⟨view, db', row', ran, after, cancelled⟩ := cancelled_ends unfailing ready here allowed
      row.result row.error (some .queued) (by simpa using queued) rewritable
    refine ⟨view, db', row', ?_, after, cancelled⟩
    apply Alone.bind (alone_getJob unfailing here)
    apply Alone.bind (.require rfl)
    apply Alone.bind (alone_getJobContext unfailing here)
    apply Alone.bind (.raiseIf (by simp))
    apply Alone.bind (.raiseIf unended)
    have waits : row.view.state = .queued := queued
    rw [if_pos waits]
    have answers : rt.sem .any (.store (Canceller.dequeue row.view)) db o
        (Except.ok view : Except StoreExn JobView) db' := ran
    exact .call _ _ _ _ _ _ _ _ answers (.ret _ db')
  · obtain ⟨action, valid, registered⟩ := serves_iff.mp (served.resolve_left queued)
    have writes : JobRow.transitionWritable (some (Dict.set (row.result.getD []) "cancellation"
        (AdapterCancellation.modelDump ⟨.cancelled, []⟩))) none = true :=
      Bool.and_eq_true .. |>.mpr ⟨set_writable (result_writable rewritable) (by decide), rfl⟩
    obtain ⟨view, db', row', ran, after, cancelled⟩ := cancelled_ends unfailing ready here allowed
      (some (Dict.set (row.result.getD []) "cancellation"
        (AdapterCancellation.modelDump ⟨.cancelled, []⟩))) none none (by simp) writes
    refine ⟨view, db', row', ?_, after, cancelled⟩
    apply Alone.bind (alone_getJob unfailing here)
    apply Alone.bind (.require rfl)
    apply Alone.bind (alone_getJobContext unfailing here)
    apply Alone.bind (.raiseIf (by simp))
    apply Alone.bind (.raiseIf unended)
    have claimed : row.view.state ≠ .queued := queued
    rw [if_neg claimed]
    apply Alone.bind (.lift (by rw [valid]; rfl))
    apply Alone.bind (.lift (by rw [AdapterRegistry.get, if_pos registered]; rfl))
    apply Alone.bind (.lift (by rw [readable]; rfl))
    have agrees : rt.sem .any (.adapter action.adapter (.cancel action row.request x)) db
        ([] : List GuardEvent)
        (Except.ok ⟨.cancelled, []⟩ : Except AdapterExn AdapterCancellation) db := ⟨trivial, rfl⟩
    refine .call _ _ _ _ _ _ _ _ agrees ?_
    exact Alone.bind (.raiseIf (by decide)) (alone_store ran)

end Alone

theorem live_cancellable (state : JobState) (live : Live state)
    (unended : state ∉ terminalJobStates) : .cancelled ∈ allowedTransitions state := by
  revert live unended
  cases state <;> decide

namespace Sample

def strayRequest : ActionRequest := { request keyA with actionId := "test.resource.absent" }

/-- It is claimed, and its worker reads its context. -/
def strayed : List Turn :=
  [.start (.createJob strayRequest subject), .store 0 (oracle 1 "a"),
    .start (.worker "w"), .store 1 (oracle 2 "b"), .store 1 (oracle 3 "c")]

end Sample

end Deckhand
