import Deckhand.Store.Ops

/-! Operations that nothing makes fail: where each next audit event can be appended and the
state machine allows the move, a job operation ends. -/
namespace Deckhand
open Lib Lib.Txn StoreTxn

section
variable {s : Store} {o : Oracle} {db : DB}

theorem connect_ends {α : Type} {body : StoreTxn α} {v : α} {db' : DB} (unfailing : o.fault = none)
    (h : body.run db = .ok (v, db')) : connect o body db = (.ok v, db') := by
  rw [connect, unfailing, atomically_none, h]

theorem getJob_ends (jobId : String) :
    (Store.getJob jobId).run db = .ok ((db.job? jobId).map JobRow.view, db) := rfl

theorem getJobContext_ends {jobId : String} {row : JobRow} (here : db.job? jobId = some row) :
    (Store.getJobContext jobId).run db = .ok ((row.request, row.subject), db) := by
  simp only [Store.getJobContext, run_bind, run_read, run_require, run_pure]
  exact ⟨db, db, ⟨rfl, rfl⟩, row, db, ⟨here, rfl⟩, rfl, rfl⟩

theorem insert?_ends {t : Jobs} {row : JobRow} (key : row.idempotencyKey ∉ t.rows.map
    JobRow.idempotencyKey) (id : row.id ∉ t.rows.map JobRow.id) : ∃ t',
    t.insert? row = some t' := by
  obtain ⟨u, inserted⟩ : ∃ u, t.toTable.insert? row = some u := ⟨_, dif_neg id⟩
  unfold Jobs.insert?
  rw [dif_neg key]
  split
  · rename_i refused
    cases inserted.symm.trans refused
  · exact ⟨_, rfl⟩

theorem createJob_ends (request : ActionRequest) (subject : Subject)
    (absent : db.job? (JobRow.queue s o request subject).id = none)
    (unused : ∀ row ∈ db.jobs.rows, row.idempotencyKey ≠ request.idempotencyKey)
    (storable : request.storable = true) (named : subject.writable = true)
    (ready : AuditReady s o db.auditEvents) :
    ∃ v db', (s.createJob o request subject).run db = .ok (v, db') := by
  have key : (JobRow.queue s o request subject).idempotencyKey ∉
      db.jobs.rows.map JobRow.idempotencyKey := by
    intro taken
    obtain ⟨row, member, same⟩ := List.mem_map.mp taken
    exact unused row member same
  have id : (JobRow.queue s o request subject).id ∉ db.jobs.rows.map JobRow.id := by
    intro taken
    obtain ⟨row, member, same⟩ := List.mem_map.mp taken
    cases absent.symm.trans (job?_mem.mpr ⟨member, same⟩)
  obtain ⟨t, inserted⟩ := insert?_ends key id
  obtain ⟨db₂, append⟩ := appendAudit_succeeds { db with jobs := t } ready "job.queued"
    [("job_id", .str (JobRow.queue s o request subject).id),
      ("request_digest", .str (JobRow.queue s o request subject).requestDigest),
      ("subject", subject.modelDump)]
  have new : db.jobs.rows.find? (fun r => r.idempotencyKey = request.idempotencyKey) = none := by
    simpa using unused
  have insert : (insertJob (JobRow.queue s o request subject)).run db =
      .ok (0, { db with jobs := t }) := by
    simp [insertJob, constrained, inserted]
  have found : db₂.job? (JobRow.queue s o request subject).id =
      some (JobRow.queue s o request subject) := by
    rw [(run_appendAudit append).job?, job?_insert inserted, if_pos rfl]
  refine ⟨(JobRow.queue s o request subject).view, db₂, ?_⟩
  simp only [Store.createJob, run_bind, run_raiseIf, run_read]
  refine ⟨(), db, ⟨by simp [storable], rfl⟩, db, db, ⟨rfl, rfl⟩, ?_⟩
  simp only [new, run_bind, run_raiseIf, run_read, run_require, run_pure]
  exact ⟨(), db, ⟨by simp [named], rfl⟩, 0, _, insert, (), db₂, append, db₂, db₂, ⟨rfl, rfl⟩, _,
      db₂, ⟨found, rfl⟩, rfl, rfl⟩

theorem move_ends {id : String} {row : JobRow} (eventType : String) (f : JobRow → JobRow)
    (keeps : ∀ r, (f r).identity = r.identity) (payload : Dict)
    (here : db.job? id = some row) (ready : AuditReady s o db.auditEvents) :
    ∃ db', (s.appendAudit o eventType payload).run (db.updateJob id f keeps) = .ok ((), db') ∧
      db'.job? id = some (f row) := by
  obtain ⟨db', append⟩ := appendAudit_succeeds (db.updateJob id f keeps) ready eventType payload
  refine ⟨db', append, ?_⟩
  rw [(run_appendAudit append).job?, DB.job?_updateJob, if_pos rfl, here]
  rfl

theorem claimNextJob_ends (workerId : String) (leaseSeconds : Int)
    (leaseFor : Option (ActionRequest → Int)) (ready : AuditReady s o db.auditEvents) :
    ∃ v db', (s.claimNextJob o workerId leaseSeconds leaseFor).run db = .ok (v, db') := by
  simp only [Store.claimNextJob, run_bind, run_read]
  cases chosen : (orderBy JobRow.createdAt (fun r => o.rank r.id)
      (db.jobs.rows.filter fun r => r.Claimable o)).head? with
  | none =>
    refine ⟨none, db, db, db, ⟨rfl, rfl⟩, ?_⟩
    simp [chosen]
  | some row =>
    have member := List.mem_of_mem_head? chosen
    simp only [mem_orderBy, List.mem_filter, decide_eq_true_eq] at member
    have queued : JobState.running ∈ allowedTransitions row.state := by
      rw [member.2.1]
      decide
    obtain ⟨db₂, append, found⟩ := move_ends (s := s) (o := o) "job.running"
      (JobRow.claim o workerId (leaseFor.elim leaseSeconds fun f => f row.request))
      (fun r => r.claim_identity o workerId _)
      [("job_id", .str row.id), ("worker_id", .str workerId)] (job?_of_mem member.1) ready
    refine ⟨some ⟨(row.claim o workerId (leaseFor.elim leaseSeconds fun f => f row.request)).view,
      o.uuid⟩, db₂, db, db, ⟨rfl, rfl⟩, ?_⟩
    simp only [chosen, run_bind, run_lift, requireTransition_ok, run_updateJob, run_read,
      run_require, run_pure]
    exact ⟨(), db, ⟨queued, rfl⟩, 1, _, ⟨rfl, rfl⟩, (), db₂, append, db₂, db₂, ⟨rfl, rfl⟩, _, db₂,
      ⟨found, rfl⟩, rfl, rfl⟩

theorem transitionJob_ends {jobId : String} {row : JobRow} (target : JobState)
    (result : Option Dict) (error : Option JobError) (fence : Option String)
    (expectedState : Option JobState) (here : db.job? jobId = some row)
    (held : ∀ t ∈ fence, row.leaseToken = some t)
    (expected : ∀ state ∈ expectedState, row.state = state)
    (allowed : target ∈ allowedTransitions row.state)
    (writes : JobRow.transitionWritable result error = true)
    (ready : AuditReady s o db.auditEvents) :
    ∃ v db', (s.transitionJob o jobId target result error fence expectedState).run db =
      .ok (v, db') := by
  obtain ⟨db₂, append, found⟩ := move_ends (s := s) (o := o) ("job." ++ target.value)
    (JobRow.transition o target result error)
    (fun r => r.transition_identity o target result error)
    [("job_id", .str jobId), ("result", result.elim .null .obj),
      ("error", error.elim .null JobError.modelDump)] here ready
  refine ⟨(row.transition o target result error).view, db₂, ?_⟩
  simp only [Store.transitionJob, run_bind, run_read, run_require, run_raiseIf, run_lift,
    run_updateJob, run_pure, requireTransition_ok]
  refine ⟨db, db, ⟨rfl, rfl⟩, row, db, ⟨here, rfl⟩, (), db, ⟨?_, rfl⟩, (), db, ⟨?_, rfl⟩, (), db,
    ⟨allowed, rfl⟩, (), db, ⟨by simp [writes], rfl⟩, 1, _, ⟨rfl, rfl⟩, (), db₂, append, db₂, db₂,
    ⟨rfl, rfl⟩, _, db₂, ⟨found, rfl⟩, rfl, rfl⟩
  · rintro ⟨fenced, lost⟩
    obtain ⟨t, rfl⟩ := Option.isSome_iff_exists.mp fenced
    exact lost (held t rfl)
  · rintro ⟨state, wanted, other⟩
    exact other (expected state wanted)

theorem transitionJob_differs {jobId : String} {expected : JobState} {row : JobRow}
    (target : JobState) (result : Option Dict) (error : Option JobError)
    (here : db.job? jobId = some row) (differs : row.state ≠ expected) :
    ∃ message, (s.transitionJob o jobId target result error none (some expected)).run db =
      .error (.staleLease message) := by
  refine ⟨"job " ++ jobId ++ " is " ++ row.state.value ++ ", expected " ++ expected.value, ?_⟩
  simp [Store.transitionJob, bind, Txn.bind, Txn.read, require, raiseIf, Txn.run, here, differs]

theorem claimReconcileCandidates_ends (maxAttempts limit : Nat)
    (ready : ∀ t : AuditEvents, Linked s t.rows → AuditReady s o t)
    (linked : Linked s db.auditEvents.rows) :
    ∃ v db', (s.claimReconcileCandidates o maxAttempts limit).run db = .ok (v, db') := by
  have round : ∀ (row : JobRow) (t : DB), Linked s t.auditEvents.rows →
      ∃ t', (do
        let _ ← updateJob row.id JobRow.attempt JobRow.attempt_identity
        if row.reconcileAttempts + 1 = maxAttempts then
          s.appendAudit o "job.reconcile_exhausted" [("job_id", .str row.id),
            ("attempts", .int (row.reconcileAttempts + 1 : Nat))] : StoreTxn Unit).run t =
          .ok ((), t') ∧ Linked s t'.auditEvents.rows := by
    intro row t before
    simp only [run_bind, run_updateJob]
    by_cases exhausted : row.reconcileAttempts + 1 = maxAttempts
    · obtain ⟨t', append⟩ := appendAudit_succeeds
        (t.updateJob row.id JobRow.attempt JobRow.attempt_identity) (ready _ before)
        "job.reconcile_exhausted" [("job_id", .str row.id),
          ("attempts", .int (row.reconcileAttempts + 1 : Nat))]
      refine ⟨t', ⟨1, t.updateJob row.id JobRow.attempt JobRow.attempt_identity, ⟨rfl, rfl⟩, ?_⟩,
        (run_appendAudit append).linked (by decide) before⟩
      rw [if_pos exhausted]
      exact append
    · refine ⟨t.updateJob row.id JobRow.attempt JobRow.attempt_identity,
        ⟨1, t.updateJob row.id JobRow.attempt JobRow.attempt_identity, ⟨rfl, rfl⟩, ?_⟩, before⟩
      rw [if_neg exhausted]
      exact run_pure.mpr ⟨rfl, rfl⟩
  simp only [Store.claimReconcileCandidates, run_bind, run_read, run_pure]
  obtain ⟨db', loop, -⟩ := run_forM_ends _ round linked
  exact ⟨_, db', db, db, ⟨rfl, rfl⟩, (), db', loop, rfl, rfl⟩

end
end Deckhand
