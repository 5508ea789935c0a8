import Deckhand.Store.JobSpec
import Deckhand.Store.Confirmations

/-! The store as a machine: its calls, each one atomic, and what a call does to every job
and every confirmation. -/
namespace Deckhand
open Lib Lib.Txn

inductive StoreOp where
  | createJob (request : ActionRequest) (subject : Subject)
  | getJob (jobId : String)
  | getJobContext (jobId : String)
  | claimNextJob (workerId : String) (leaseSeconds : Int)
      (leaseFor : Option (ActionRequest → Int))
  | renewLease (jobId leaseToken : String) (leaseSeconds : Int)
  | transitionJob (jobId : String) (target : JobState) (result : Option Dict)
      (error : Option JobError) (fence : Option String) (expectedState : Option JobState)
  | expireLeases
  | expireStaleQueued (ttlSeconds : Int)
  | listJobs (state : JobState) (limit : Nat)
  | claimReconcileCandidates (maxAttempts limit : Nat)
  | createConfirmation (request : ActionRequest) (subject : Subject) (mode : ConfirmationMode)
      (prompt : String) (ttlSeconds : Int)
  | consumeConfirmation (request : ActionRequest) (subject : Subject) (token : String)
      (response : Option String)
  | cancelConfirmation (confirmationId : String) (subject : Subject)
  | recordPolicyDenial (request : ActionRequest) (subject : Subject) (phase : String)
      (reason : PyStr)
  | listAuditEvents (afterSequence limit : Nat)
  | verifyAuditChain
  | auditIsWritable

abbrev StoreOp.Value : StoreOp → Type
  | .createJob .. => JobView
  | .getJob .. => Option JobView
  | .getJobContext .. => ActionRequest × Subject
  | .claimNextJob .. => Option ClaimedJob
  | .renewLease .. => Bool
  | .transitionJob .. => JobView
  | .expireLeases => Nat
  | .expireStaleQueued .. => Nat
  | .listJobs .. => List JobView
  | .claimReconcileCandidates .. => List JobView
  | .createConfirmation .. => ConfirmationChallenge
  | .consumeConfirmation .. => Bool
  | .cancelConfirmation .. => Bool
  | .recordPolicyDenial .. => Unit
  | .listAuditEvents .. => List AuditRow
  | .verifyAuditChain => Bool
  | .auditIsWritable => Bool

/-- `connect` rolls back and rewraps the driver's exceptions; any other exception closes the
connection with the transaction open, which discards it as well. -/
def connect {α : Type} (o : Oracle) (body : StoreTxn α) (db : DB) : Except StoreExn α × DB :=
  body.atomically (fun | .sqliteError message => .storeError message | x => x) o.fault db

def Store.listAuditEvents (afterSequence limit : Nat) : StoreTxn (List AuditRow) := do
  let db ← read
  return (db.auditEvents.rows.filter fun r => afterSequence < r.sequence).take (min limit 1000)

def Store.verifyStoredChain (s : Store) : StoreTxn Bool := do
  let db ← read
  lift (s.verifyAuditChain (db.auditEvents.rows.map AuditRow.raw))

def StoreOp.run (s : Store) (o : Oracle) :
    (op : StoreOp) → DB → Except StoreExn op.Value × DB
  | .createJob request subject => connect o (s.createJob o request subject)
  | .getJob jobId => connect o (Store.getJob jobId)
  | .getJobContext jobId => connect o (Store.getJobContext jobId)
  | .claimNextJob workerId leaseSeconds leaseFor =>
    connect o (s.claimNextJob o workerId leaseSeconds leaseFor)
  | .renewLease jobId leaseToken leaseSeconds =>
    connect o (Store.renewLease o jobId leaseToken leaseSeconds)
  | .transitionJob jobId target result error fence expectedState =>
    connect o (s.transitionJob o jobId target result error fence expectedState)
  | .expireLeases => connect o (s.expireLeases o)
  | .expireStaleQueued ttlSeconds => connect o (s.expireStaleQueued o ttlSeconds)
  | .listJobs state limit => connect o (Store.listJobs o state limit)
  | .claimReconcileCandidates maxAttempts limit =>
    connect o (s.claimReconcileCandidates o maxAttempts limit)
  | .createConfirmation request subject mode prompt ttlSeconds =>
    connect o (s.createConfirmation o request subject mode prompt ttlSeconds)
  | .consumeConfirmation request subject token response =>
    connect o (s.consumeConfirmation o request subject token response)
  | .cancelConfirmation confirmationId subject =>
    connect o (s.cancelConfirmation o confirmationId subject)
  | .recordPolicyDenial request subject phase reason =>
    connect o (s.recordPolicyDenial o request subject phase reason)
  | .listAuditEvents afterSequence limit => connect o (Store.listAuditEvents afterSequence limit)
  | .verifyAuditChain => connect o s.verifyStoredChain
  | .auditIsWritable => Store.auditIsWritable o

/-- What an answered call did to the life of job `j`. -/
inductive RowStep (s : Store) (o : Oracle) (j : String) :
    (op : StoreOp) → Except StoreExn op.Value → Life → Life → Prop where
  | same (op : StoreOp) (r : Except StoreExn op.Value) (l : Life) : RowStep s o j op r l l
  | created (request : ActionRequest) (subject : Subject) (events : List JobState) :
      j = (JobRow.queue s o request subject).id →
      RowStep s o j (.createJob request subject) (.ok (JobRow.queue s o request subject).view)
        ⟨none, events⟩ ⟨some (JobRow.queue s o request subject), events ++ [.queued]⟩
  | claimed (workerId : String) (leaseSeconds : Int) (leaseFor : Option (ActionRequest → Int))
      (seconds : Int) (row : JobRow) (events : List JobState) :
      row.id = j → row.Claimable o →
      RowStep s o j (.claimNextJob workerId leaseSeconds leaseFor)
        (.ok (some ⟨(row.claim o workerId seconds).view, o.uuid⟩))
        ⟨some row, events⟩ ⟨some (row.claim o workerId seconds), events ++ [.running]⟩
  | renewed (leaseToken : String) (leaseSeconds : Int) (row : JobRow) (events : List JobState) :
      row.id = j → row.leaseToken = some leaseToken →
      (row.state = .running ∨ row.state = .verifying) →
      RowStep s o j (.renewLease j leaseToken leaseSeconds) (.ok true)
        ⟨some row, events⟩ ⟨some (row.renew o leaseSeconds), events⟩
  | transitioned (target : JobState) (result : Option Dict) (error : Option JobError)
      (fence : Option String) (expectedState : Option JobState) (row : JobRow)
      (events : List JobState) :
      row.id = j → (∀ t ∈ fence, row.leaseToken = some t) →
      (∀ expected ∈ expectedState, row.state = expected) →
      target ∈ allowedTransitions row.state →
      JobRow.transitionWritable result error = true →
      RowStep s o j (.transitionJob j target result error fence expectedState)
        (.ok (row.transition o target result error).view)
        ⟨some row, events⟩ ⟨some (row.transition o target result error), events ++ [target]⟩
  | lapsed (count : Nat) (row : JobRow) (events : List JobState) : row.id = j → row.Lapsed o →
      RowStep s o j .expireLeases (.ok count)
        ⟨some row, events⟩ ⟨some (row.lapse o), events ++ [.unknownOutcome]⟩
  | expired (ttlSeconds : Int) (count : Nat) (row : JobRow) (events : List JobState) :
      row.id = j → row.Stale o ttlSeconds →
      RowStep s o j (.expireStaleQueued ttlSeconds) (.ok count)
        ⟨some row, events⟩ ⟨some (row.expire o), events ++ [.expired]⟩
  | attempted (maxAttempts limit : Nat) (jobs : List JobView) (row : JobRow)
      (events : List JobState) : row.id = j → row.state = .unknownOutcome →
      RowStep s o j (.claimReconcileCandidates maxAttempts limit) (.ok jobs)
        ⟨some row, events⟩ ⟨some row.attempt, events⟩

/-- What an answered call did to the usage of confirmation `c`. -/
inductive UseStep (s : Store) (o : Oracle) (c : String) :
    (op : StoreOp) → Except StoreExn op.Value → Usage → Usage → Prop where
  | same (op : StoreOp) (r : Except StoreExn op.Value) (u : Usage) : UseStep s o c op r u u
  | issued (request : ActionRequest) (subject : Subject) (mode : ConfirmationMode)
      (prompt : String) (ttlSeconds : Int) (challenge : ConfirmationChallenge) (uses : Nat) :
      c = (ConfirmationRow.issue s o request subject mode ttlSeconds).id →
      UseStep s o c (.createConfirmation request subject mode prompt ttlSeconds) (.ok challenge)
        ⟨none, uses⟩ ⟨some (ConfirmationRow.issue s o request subject mode ttlSeconds), uses⟩
  | consumed (request : ActionRequest) (subject : Subject) (token : String)
      (response : Option String) (row : ConfirmationRow) (uses : Nat) :
      row.id = c → row.Awaits s request subject →
      UseStep s o c (.consumeConfirmation request subject token response) (.ok true)
        ⟨some row, uses⟩ ⟨some (row.use o.now), uses + 1⟩
  | cancelled (subject : Subject) (row : ConfirmationRow) (uses : Nat) :
      row.id = c → row.usedAt = none →
      row.subjectName = subject.name ∧ row.subjectDevice = subject.device →
      UseStep s o c (.cancelConfirmation c subject) (.ok true)
        ⟨some row, uses⟩ ⟨some (row.use o.now), uses + 1⟩

structure OpStep (s : Store) (o : Oracle) (op : StoreOp) (r : Except StoreExn op.Value)
    (db db' : DB) : Prop where
  rows : ∀ j, RowStep s o j op r (db.life j) (db'.life j)
  uses : ∀ c, UseStep s o c op r (db.usage c) (db'.usage c)
  linked : Linked s db.auditEvents.rows → Linked s db'.auditEvents.rows
  grows : db.auditEvents.rows <+: db'.auditEvents.rows

section
variable {s : Store} {o : Oracle} {db db' : DB}

theorem OpStep.refl (op : StoreOp) (r : Except StoreExn op.Value) : OpStep s o op r db db :=
  ⟨fun _ => .same .., fun _ => .same .., id, List.prefix_rfl⟩

theorem OpStep.of_job {op : StoreOp} {r : Except StoreExn op.Value} {α : Type} {v : α}
    {t : StoreTxn α} (frame : Keeps (JobFrame s db) t) (run : t.run db = .ok (v, db'))
    (rows : ∀ j, RowStep s o j op r (db.life j) (db'.life j)) : OpStep s o op r db db' := by
  have kept := frame db v db' (.refl s db) run
  exact ⟨rows, fun c => (kept.usage c).symm ▸ .same .., kept.linked, kept.grows⟩

theorem OpStep.of_confirmation {op : StoreOp} {r : Except StoreExn op.Value} {α : Type} {v : α}
    {t : StoreTxn α} (frame : Keeps (ConfirmationFrame s db) t) (run : t.run db = .ok (v, db'))
    (uses : ∀ c, UseStep s o c op r (db.usage c) (db'.usage c)) : OpStep s o op r db db' := by
  have kept := frame db v db' (.refl s db) run
  exact ⟨fun j => (kept.life j).symm ▸ .same .., uses, kept.linked, kept.grows⟩

theorem run_error {op : StoreOp} {x : StoreExn} (h : op.run s o db = (.error x, db')) :
    db' = db := by
  cases op with
  | auditIsWritable => exact (congrArg Prod.snd h).symm.trans (auditIsWritable_frame o db)
  | _ => exact atomically_error h

theorem only_read {α : Type} {t : StoreTxn α} {v : α} (reads : Keeps (· = db) t)
    (h : connect o t db = (.ok v, db')) : db' = db :=
  reads db v db' rfl (atomically_ok h)

theorem life_of_row {j : String} {row : JobRow} (h : db.job? j = some row) :
    db.life j = ⟨some row, db.jobEvents j⟩ := by
  rw [DB.life, h]

theorem run_step {op : StoreOp} {r : Except StoreExn op.Value} (h : op.run s o db = (r, db')) :
    OpStep s o op r db db' := by
  cases r with
  | error x =>
    obtain rfl := run_error h
    exact .refl ..
  | ok v =>
    cases op with
    | createJob request subject =>
      have run := atomically_ok h
      refine .of_job (createJob_frame request subject) run fun j => ?_
      rcases createJob_spec run with ⟨_, _, _, _, _, rfl⟩ | ⟨_, absent, rfl, life⟩
      · exact .same ..
      · rw [life]
        split
        · rename_i here
          rw [DB.life, here, absent]
          exact .created request subject _ rfl
        · exact .same ..
    | claimNextJob workerId leaseSeconds leaseFor =>
      have run := atomically_ok h
      refine .of_job (claimNextJob_frame workerId leaseSeconds leaseFor) run fun j => ?_
      rcases claimNextJob_spec run with ⟨_, rfl⟩ | ⟨row, seconds, current, claimable, rfl, life⟩
      · exact .same ..
      · rw [life]
        split
        · rename_i here
          subst here
          rw [life_of_row current]
          exact .claimed _ _ _ seconds row _ rfl claimable
        · exact .same ..
    | renewLease jobId leaseToken leaseSeconds =>
      have run := atomically_ok h
      refine .of_job (renewLease_frame jobId leaseToken leaseSeconds) run fun j => ?_
      rcases renewLease_spec run with ⟨_, rfl, -⟩ | ⟨row, current, held, running, rfl, life⟩
      · exact .same ..
      · rw [life]
        split
        · rename_i here
          subst here
          rw [life_of_row current]
          exact .renewed _ _ row _ (job?_mem.mp current).2 held running
        · exact .same ..
    | transitionJob jobId target result error fence expectedState =>
      have run := atomically_ok h
      refine .of_job (transitionJob_frame jobId target result error fence expectedState) run
        fun j => ?_
      obtain ⟨row, current, held, expected, allowed, writes, rfl, life⟩ := transitionJob_spec run
      rw [life]
      split
      · rename_i here
        subst here
        rw [life_of_row current]
        exact .transitioned _ _ _ _ _ row _ (job?_mem.mp current).2 held expected allowed writes
      · exact .same ..
    | expireLeases =>
      have run := atomically_ok h
      refine .of_job expireLeases_frame run fun j => ?_
      rw [expireLeases_spec run]
      cases current : db.job? j with
      | none => simpa [DB.life, current, Life.rewrite] using .same ..
      | some row =>
        rw [life_of_row current]
        unfold Life.rewrite
        dsimp only
        split
        · rename_i lapsed
          exact .lapsed v row _ (job?_mem.mp current).2 lapsed
        · exact .same ..
    | expireStaleQueued ttlSeconds =>
      have run := atomically_ok h
      refine .of_job (expireStaleQueued_frame ttlSeconds) run fun j => ?_
      rw [expireStaleQueued_spec run]
      cases current : db.job? j with
      | none => simpa [DB.life, current, Life.rewrite] using .same ..
      | some row =>
        rw [life_of_row current]
        unfold Life.rewrite
        dsimp only
        split
        · rename_i stale
          exact .expired _ v row _ (job?_mem.mp current).2 stale
        · exact .same ..
    | claimReconcileCandidates maxAttempts limit =>
      have run := atomically_ok h
      refine .of_job (claimReconcileCandidates_frame maxAttempts limit) run fun j => ?_
      obtain ⟨rows, chosen, rfl, life⟩ := claimReconcileCandidates_spec run
      rw [life]
      split
      · rename_i member
        obtain ⟨row, hrow, rfl⟩ := List.mem_map.mp member
        obtain ⟨current, unknown⟩ := chosen row hrow
        rw [life_of_row current, current]
        exact .attempted _ _ _ row _ rfl unknown
      · exact .same ..
    | createConfirmation request subject mode prompt ttlSeconds =>
      have run := atomically_ok h
      refine .of_confirmation (createConfirmation_frame request subject mode prompt ttlSeconds)
        run fun c => ?_
      obtain ⟨-, -, absent, usage⟩ := createConfirmation_spec run
      rw [usage]
      split
      · rename_i here
        rw [DB.usage, here, absent]
        exact .issued _ _ _ _ _ _ _ rfl
      · exact .same ..
    | consumeConfirmation request subject token response =>
      have run := atomically_ok h
      refine .of_confirmation (consumeConfirmation_frame request subject token response) run
        fun c => ?_
      rcases consumeConfirmation_spec run with ⟨_, usage⟩ | ⟨row, picked, _, rfl, usage⟩
      · rw [usage]
        exact .same ..
      · rw [usage]
        obtain ⟨current, awaits⟩ := pendingConfirmation_some picked
        split
        · rename_i here
          subst here
          rw [DB.usage, current]
          exact .consumed _ _ _ _ row _ rfl awaits
        · exact .same ..
    | cancelConfirmation confirmationId subject =>
      have run := atomically_ok h
      refine .of_confirmation (cancelConfirmation_frame confirmationId subject) run fun c => ?_
      rcases cancelConfirmation_spec run with
        ⟨_, rfl⟩ | ⟨row, current, unused, name, device, rfl, usage⟩
      · exact .same ..
      · rw [usage]
        split
        · rename_i here
          subst here
          rw [DB.usage, current]
          exact .cancelled _ row _ (confirmation?_mem.mp current).2 unused ⟨name, device⟩
        · exact .same ..
    | recordPolicyDenial request subject phase reason =>
      have run := atomically_ok h
      refine .of_confirmation (recordPolicyDenial_frame request subject phase reason) run
        fun c => ?_
      simp only [Store.recordPolicyDenial, run_bind, run_raiseIf] at run
      obtain ⟨_, _, ⟨-, rfl⟩, run⟩ := run
      rw [(run_appendAudit run).usage_foreign (by decide)]
      exact .same ..
    | getJob jobId =>
      obtain rfl := only_read (keeps_bind keeps_read fun _ => keeps_pure) h
      exact .refl ..
    | getJobContext jobId =>
      obtain rfl := only_read
        (keeps_bind keeps_read fun _ => keeps_bind keeps_require fun _ => keeps_pure) h
      exact .refl ..
    | listJobs state limit =>
      obtain rfl := only_read (keeps_bind keeps_read fun _ => keeps_pure) h
      exact .refl ..
    | listAuditEvents afterSequence limit =>
      obtain rfl := only_read (keeps_bind keeps_read fun _ => keeps_pure) h
      exact .refl ..
    | verifyAuditChain =>
      obtain rfl := only_read (keeps_bind keeps_read fun _ => keeps_lift) h
      exact .refl ..
    | auditIsWritable =>
      obtain rfl : db' = db := (congrArg Prod.snd h).symm.trans (auditIsWritable_frame o db)
      exact .refl ..

end
end Deckhand
