import Deckhand.Store.Audit

namespace Deckhand
open Lib Lib.Txn StoreTxn

def JobRow.view (r : JobRow) : JobView where
  id := r.id
  state := r.state
  actionId := r.request.actionId
  target := r.request.target
  createdAt := r.createdAt
  updatedAt := r.updatedAt
  result := r.result
  error := r.error

/-- A leased job and the fencing token its holder presents on writes. -/
structure ClaimedJob where
  job : JobView
  leaseToken : String

namespace JobRow

def queue (s : Store) (o : Oracle) (request : ActionRequest) (subject : Subject) : JobRow where
  id := "job_" ++ o.uuid
  idempotencyKey := request.idempotencyKey
  request := request.modelDumpJson
  requestDigest := Deckhand.requestDigest s.hashlib request
  subject := subject
  state := .queued
  createdAt := o.now
  updatedAt := o.now

def claim (o : Oracle) (workerId : String) (leaseSeconds : Int) (r : JobRow) : JobRow :=
  { r with
    state := .running
    leaseOwner := some workerId
    leaseToken := some o.uuid
    leaseExpiresAt := some (o.now.addSeconds leaseSeconds)
    updatedAt := o.now }

def renew (o : Oracle) (leaseSeconds : Int) (r : JobRow) : JobRow :=
  { r with leaseExpiresAt := some (o.now.addSeconds leaseSeconds), updatedAt := o.now }

/-- The lease columns are kept on the way to VERIFYING and cleared otherwise. -/
def transition (o : Oracle) (target : JobState) (result : Option Dict) (error : Option JobError)
    (r : JobRow) : JobRow :=
  { r with
    state := target
    result := result.map joinedMembers
    error := error.map JobError.modelDumpJson
    leaseOwner := if target = .verifying then r.leaseOwner else none
    leaseToken := if target = .verifying then r.leaseToken else none
    leaseExpiresAt := if target = .verifying then r.leaseExpiresAt else none
    updatedAt := o.now }

/-- Both columns of a transition can be written. -/
def transitionWritable (result : Option Dict) (error : Option JobError) : Bool :=
  result.all (fun d => (Json.obj d).writable) && error.all JobError.writable

def leaseExpired : JobError where
  code := "lease_expired"
  message := "worker lease expired; reconciliation required"
  retry := .reconcileFirst
  reconciliationRequired := true
  codeMatches := by decide
  messageNonempty := by decide
  messageBounded := by decide

def lapse (o : Oracle) (r : JobRow) : JobRow :=
  { r with
    state := .unknownOutcome
    leaseOwner := none
    leaseToken := none
    leaseExpiresAt := none
    error := some leaseExpired
    updatedAt := o.now }

def expire (o : Oracle) (r : JobRow) : JobRow :=
  { r with
    state := .expired
    leaseOwner := none
    leaseToken := none
    leaseExpiresAt := none
    updatedAt := o.now }

def attempt (r : JobRow) : JobRow := { r with reconcileAttempts := r.reconcileAttempts + 1 }

section
variable (o : Oracle) (r : JobRow)

theorem claim_identity (workerId : String) (leaseSeconds : Int) :
    (r.claim o workerId leaseSeconds).identity = r.identity := rfl

theorem renew_identity (leaseSeconds : Int) : (r.renew o leaseSeconds).identity = r.identity := rfl

theorem transition_identity (target : JobState) (result : Option Dict) (error : Option JobError) :
    (r.transition o target result error).identity = r.identity := rfl

theorem lapse_identity : (r.lapse o).identity = r.identity := rfl

theorem expire_identity : (r.expire o).identity = r.identity := rfl

theorem attempt_identity : r.attempt.identity = r.identity := rfl

end

def Lapsed (o : Oracle) (r : JobRow) : Prop :=
  (r.state = .running ∨ r.state = .verifying) ∧ ∃ expiry ∈ r.leaseExpiresAt, expiry < o.now

instance (o : Oracle) (r : JobRow) : Decidable (r.Lapsed o) :=
  inferInstanceAs (Decidable (_ ∧ _))

def Stale (o : Oracle) (ttlSeconds : Int) (r : JobRow) : Prop :=
  r.state = .queued ∧ r.createdAt < o.now.addSeconds (-ttlSeconds)

instance (o : Oracle) (ttlSeconds : Int) (r : JobRow) : Decidable (r.Stale o ttlSeconds) :=
  inferInstanceAs (Decidable (_ ∧ _))

def Claimable (o : Oracle) (r : JobRow) : Prop :=
  r.state = .queued ∧ ∀ expiry ∈ r.leaseExpiresAt, expiry < o.now

instance (o : Oracle) (r : JobRow) : Decidable (r.Claimable o) :=
  inferInstanceAs (Decidable (_ ∧ _))

end JobRow

namespace Store
variable (s : Store) (o : Oracle)

def createJob (request : ActionRequest) (subject : Subject) : StoreTxn JobView := do
  raiseIf (request.storable = false) .valueError
  let db ← read
  match db.jobs.rows.find? fun r => r.idempotencyKey = request.idempotencyKey with
  | some existing =>
    raiseIf (existing.requestDigest ≠ requestDigest s.hashlib request)
      (.storeError "idempotency key reused with a different request")
    return existing.view
  | none =>
    raiseIf (subject.writable = false) .valueError
    let job := JobRow.queue s o request subject
    let _ ← insertJob job
    s.appendAudit o "job.queued"
      [("job_id", .str job.id), ("request_digest", .str job.requestDigest),
        ("subject", subject.modelDump)]
    let db ← read
    let row ← require (db.job? job.id) (.storeError "job write did not persist")
    return row.view

def getJob (jobId : String) : StoreTxn (Option JobView) := do
  let db ← read
  return (db.job? jobId).map JobRow.view

def getJobContext (jobId : String) : StoreTxn (ActionRequest × Subject) := do
  let db ← read
  let row ← require (db.job? jobId) (.storeError "job not found")
  return (row.request, row.subject)

def claimNextJob (workerId : String) (leaseSeconds : Int)
    (leaseFor : Option (ActionRequest → Int)) : StoreTxn (Option ClaimedJob) := do
  let db ← read
  let rows := orderBy JobRow.createdAt (fun r => o.rank r.id)
    (db.jobs.rows.filter fun r => r.Claimable o)
  match rows.head? with
  | none => return none
  | some row =>
    let leaseSeconds := leaseFor.elim leaseSeconds fun f => f row.request
    lift (requireTransition row.state .running)
    let _ ← updateJob row.id (JobRow.claim o workerId leaseSeconds) fun r =>
      r.claim_identity o workerId leaseSeconds
    s.appendAudit o "job.running" [("job_id", .str row.id), ("worker_id", .str workerId)]
    let db ← read
    let claimed ← require (db.job? row.id) (.storeError "claimed job disappeared")
    return some ⟨claimed.view, o.uuid⟩

def renewLease (jobId leaseToken : String) (leaseSeconds : Int) : StoreTxn Bool := do
  let count ← write fun db =>
    match db.job? jobId with
    | none => .ok (0, db)
    | some row =>
      if row.leaseToken = some leaseToken ∧ (row.state = .running ∨ row.state = .verifying) then
        .ok (1, db.updateJob jobId (JobRow.renew o leaseSeconds) fun r =>
          r.renew_identity o leaseSeconds)
      else .ok (0, db)
  return count == 1

def transitionJob (jobId : String) (target : JobState) (result : Option Dict)
    (error : Option JobError) (fence : Option String) (expectedState : Option JobState) :
    StoreTxn JobView := do
  let db ← read
  let row ← require (db.job? jobId) (.storeError "job not found")
  raiseIf (fence.isSome ∧ row.leaseToken ≠ fence)
    (.staleLease ("lease for " ++ jobId ++ " is no longer held"))
  raiseIf (∃ expected ∈ expectedState, row.state ≠ expected)
    (.staleLease ("job " ++ jobId ++ " is " ++ row.state.value ++ ", expected " ++
      (expectedState.elim "" JobState.value)))
  lift (requireTransition row.state target)
  raiseIf (JobRow.transitionWritable result error = false) .valueError
  let _ ← updateJob jobId (JobRow.transition o target result error) fun r =>
    r.transition_identity o target result error
  s.appendAudit o ("job." ++ target.value)
    [("job_id", .str jobId), ("result", result.elim .null .obj),
      ("error", error.elim .null JobError.modelDump)]
  let db ← read
  let updated ← require (db.job? jobId) (.storeError "updated job disappeared")
  return updated.view

def expireLeases : StoreTxn Nat := do
  let db ← read
  let rows := orderBy (fun _ => 0) (fun r => o.rank r.id)
    (db.jobs.rows.filter fun r => r.Lapsed o)
  rows.forM fun row => do
    lift (requireTransition row.state .unknownOutcome)
    let _ ← updateJob row.id (JobRow.lapse o) (JobRow.lapse_identity o)
    s.appendAudit o "job.unknown_outcome"
      [("job_id", .str row.id), ("reason", .str "lease_expired")]
  return rows.length

def expireStaleQueued (ttlSeconds : Int) : StoreTxn Nat := do
  let db ← read
  let rows := orderBy (fun _ => 0) (fun r => o.rank r.id)
    (db.jobs.rows.filter fun r => r.Stale o ttlSeconds)
  rows.forM fun row => do
    lift (requireTransition row.state .expired)
    let _ ← updateJob row.id (JobRow.expire o) (JobRow.expire_identity o)
    s.appendAudit o "job.expired" [("job_id", .str row.id), ("reason", .str "queue_ttl")]
  return rows.length

def listJobs (state : JobState) (limit : Nat) : StoreTxn (List JobView) := do
  let db ← read
  let rows := orderBy JobRow.updatedAt (fun r => o.rank r.id)
    (db.jobs.rows.filter fun r => r.state = state)
  return (rows.take (min limit 1000)).map JobRow.view

/-- Rows that used up the budget are skipped; the views are of the rows as selected. -/
def claimReconcileCandidates (maxAttempts limit : Nat) : StoreTxn (List JobView) := do
  let db ← read
  let rows := orderBy JobRow.updatedAt (fun r => o.rank r.id)
    (db.jobs.rows.filter fun r => r.state = .unknownOutcome)
  let rows := (rows.take (min limit 1000)).filter fun r => r.reconcileAttempts < maxAttempts
  rows.forM fun row => do
    let _ ← updateJob row.id JobRow.attempt JobRow.attempt_identity
    if row.reconcileAttempts + 1 = maxAttempts then
      s.appendAudit o "job.reconcile_exhausted"
        [("job_id", .str row.id), ("attempts", .int (row.reconcileAttempts + 1 : Nat))]
  return rows.map JobRow.view

end Store
end Deckhand
