import Deckhand.Store.Jobs

/-! What the database says about one job and about one confirmation: the row, and the
events of the log that name it. -/
namespace Deckhand
open Lib Lib.Txn StoreTxn

/-- The state a `job.<state>` event announces. -/
def jobState? (eventType : String) : Option JobState :=
  JobState.all.find? fun state => eventType = "job." ++ state.value

@[simp] theorem jobState?_job (state : JobState) :
    jobState? ("job." ++ state.value) = some state := by
  cases state <;> decide

def isUse (eventType : String) : Bool :=
  eventType = "confirmation.consumed" || eventType = "confirmation.cancelled"

theorem jobEventTypes_isUse : ∀ eventType ∈ jobEventTypes, isUse eventType = false := by
  decide +kernel

theorem requestEventTypes_jobState? :
    ∀ eventType ∈ requestEventTypes, jobState? eventType = none := by
  decide +kernel

def namedBy (payload : Dict) (key : String) : Option PyStr :=
  match Dict.get? payload key with
  | some (.str id) => some id
  | _ => none

@[simp] theorem namedBy_cons (key id : String) (rest : Dict) :
    namedBy ((pyStr key, .str id) :: rest) key = some (pyStr id) := by
  simp [namedBy]

/-- The events of a job's history that an audit row is: one or none. -/
def AuditRow.jobEvents (r : AuditRow) (id : String) : List JobState :=
  if namedBy r.payload "job_id" = some (pyStr id) then (jobState? r.eventType).toList else []

def AuditRow.uses (r : AuditRow) (id : String) : Nat :=
  if namedBy r.payload "confirmation_id" = some (pyStr id) then (isUse r.eventType).toNat else 0

/-- A job's row, and the states its `job.<state>` events announce, in order. -/
structure Life where
  row : Option JobRow
  events : List JobState

structure Usage where
  row : Option ConfirmationRow
  uses : Nat

namespace DB

def jobEvents (db : DB) (id : String) : List JobState :=
  db.auditEvents.rows.flatMap fun r => r.jobEvents id

def uses (db : DB) (id : String) : Nat := (db.auditEvents.rows.map fun r => r.uses id).sum

@[simp] theorem jobEvents_updateJob (db : DB) (id j : String) (f : JobRow → JobRow) (keeps) :
    (db.updateJob id f keeps).jobEvents j = db.jobEvents j := rfl

@[simp] theorem uses_useConfirmation (db : DB) (id c : String) (now : Timestamp) :
    (db.useConfirmation id now).uses c = db.uses c := rfl

def life (db : DB) (id : String) : Life := ⟨db.job? id, db.jobEvents id⟩

def usage (db : DB) (id : String) : Usage := ⟨db.confirmation? id, db.uses id⟩

end DB

section Append
variable {s : Store} {eventType : String} {payload : Dict} {db db' : DB}

theorem Appended.jobEvents (h : Appended s eventType payload db db') (j : String) :
    db'.jobEvents j = db.jobEvents j ++
      if namedBy payload "job_id" = some (pyStr j) then (jobState? eventType).toList else [] := by
  obtain ⟨r, rows, rfl, rfl, -⟩ := h.row
  simp [DB.jobEvents, rows, AuditRow.jobEvents]

theorem Appended.uses (h : Appended s eventType payload db db') (c : String) :
    db'.uses c = db.uses c +
      if namedBy payload "confirmation_id" = some (pyStr c) then
        (isUse eventType).toNat else 0 := by
  obtain ⟨r, rows, rfl, rfl, -⟩ := h.row
  simp [DB.uses, rows, AuditRow.uses]

theorem Appended.job? (h : Appended s eventType payload db db') (j : String) :
    db'.job? j = db.job? j := by
  simp only [DB.job?, h.jobs]

theorem Appended.confirmation? (h : Appended s eventType payload db db') (c : String) :
    db'.confirmation? c = db.confirmation? c := by
  simp only [DB.confirmation?, h.confirmations]

theorem Appended.life_foreign (h : Appended s eventType payload db db')
    (foreign : jobState? eventType = none) (j : String) : db'.life j = db.life j := by
  simp [DB.life, h.job?, h.jobEvents, foreign]

theorem Appended.usage_foreign (h : Appended s eventType payload db db')
    (foreign : isUse eventType = false) (c : String) : db'.usage c = db.usage c := by
  simp [DB.usage, h.confirmation?, h.uses, foreign]

end Append

@[simp] theorem run_updateJob {id : String} {f : JobRow → JobRow} {keeps} {db db' : DB}
    {n : Nat} : (updateJob id f keeps).run db = .ok (n, db') ↔
      n = 1 ∧ db' = db.updateJob id f keeps := by
  simp only [updateJob, run_write, Except.ok.injEq, Prod.mk.injEq]
  tauto

theorem run_move {s : Store} {o : Oracle} {id eventType : String} (state : JobState)
    {f : JobRow → JobRow} {keeps} {payload : Dict} {db db' : DB} {u : Unit}
    (type : eventType = "job." ++ state.value) (named : namedBy payload "job_id" = some (pyStr id))
    (h : (s.appendAudit o eventType payload).run (db.updateJob id f keeps) = .ok (u, db'))
    (j : String) :
    db'.life j = if j = id then ⟨(db.job? j).map f, db.jobEvents j ++ [state]⟩ else db.life j := by
  have appended := run_appendAudit h
  rw [DB.life, appended.job?, appended.jobEvents, DB.job?_updateJob, type, named, jobState?_job]
  by_cases same : j = id
  · subst same
    simp
  · have other : id ≠ j := fun h => same h.symm
    simp [same, other, DB.life]

/-! What a job operation leaves alone: the chain stays linked, the log only grows, and no
confirmation changes. -/

structure JobFrame (s : Store) (start db : DB) : Prop where
  linked : Linked s start.auditEvents.rows → Linked s db.auditEvents.rows
  grows : start.auditEvents.rows <+: db.auditEvents.rows
  usage : ∀ c, db.usage c = start.usage c

section JobFrame
variable {s : Store} {start : DB}

theorem JobFrame.refl (s : Store) (db : DB) : JobFrame s db db :=
  ⟨id, List.prefix_rfl, fun _ => rfl⟩

theorem JobFrame.of_jobs {db : DB} (jobs : Jobs) (h : JobFrame s start db) :
    JobFrame s start { db with jobs := jobs } := ⟨h.linked, h.grows, h.usage⟩

theorem keeps_appendAudit_job {o : Oracle} {eventType : String} {payload : Dict}
    (known : eventType ∈ jobEventTypes) :
    Keeps (JobFrame s start) (s.appendAudit o eventType payload) := by
  intro db u db' before h
  have appended := run_appendAudit h
  have foreign := jobEventTypes_isUse eventType known
  exact ⟨fun link => appended.linked (List.mem_append_left _ known) (before.linked link),
    before.grows.trans appended.grows,
    fun c => (appended.usage_foreign foreign c).trans (before.usage c)⟩

theorem keeps_updateJob {id : String} {f : JobRow → JobRow} {keeps} :
    Keeps (JobFrame s start) (updateJob id f keeps) := by
  intro db n db' before h
  obtain ⟨-, rfl⟩ := run_updateJob.mp h
  exact before.of_jobs _

theorem run_insertJob {row : JobRow} {db db' : DB} {n : Nat}
    (h : (insertJob row).run db = .ok (n, db')) :
    ∃ t, db.jobs.insert? row = some t ∧ db' = { db with jobs := t } := by
  have h := run_write.mp h
  cases found : db.jobs.insert? row with
  | none => simp [found, constrained] at h
  | some t => exact ⟨t, rfl, (show _ ∧ _ by simpa [found, constrained, eq_comm] using h).2⟩

theorem keeps_insertJob {row : JobRow} : Keeps (JobFrame s start) (insertJob row) := by
  intro db n db' before h
  obtain ⟨t, -, rfl⟩ := run_insertJob h
  exact before.of_jobs t

variable {o : Oracle}

theorem createJob_frame (request : ActionRequest) (subject : Subject) :
    Keeps (JobFrame s start) (s.createJob o request subject) := by
  refine keeps_bind keeps_raiseIf fun _ => keeps_bind keeps_read fun db => ?_
  split
  · exact keeps_bind keeps_raiseIf fun _ => keeps_pure
  · exact keeps_bind keeps_raiseIf fun _ => keeps_bind keeps_insertJob fun _ =>
      keeps_bind (keeps_appendAudit_job (by decide +kernel)) fun _ =>
        keeps_bind keeps_read fun _ => keeps_bind keeps_require fun _ => keeps_pure

theorem claimNextJob_frame (workerId : String) (leaseSeconds : Int)
    (leaseFor : Option (ActionRequest → Int)) :
    Keeps (JobFrame s start) (s.claimNextJob o workerId leaseSeconds leaseFor) := by
  refine keeps_bind keeps_read fun db => ?_
  dsimp only
  split
  · exact keeps_pure
  · exact keeps_bind keeps_lift fun _ => keeps_bind keeps_updateJob fun _ =>
      keeps_bind (keeps_appendAudit_job (by decide +kernel)) fun _ =>
        keeps_bind keeps_read fun _ => keeps_bind keeps_require fun _ => keeps_pure

theorem renewLease_frame (jobId leaseToken : String) (leaseSeconds : Int) :
    Keeps (JobFrame s start) (Store.renewLease o jobId leaseToken leaseSeconds) := by
  refine keeps_bind (fun db n db' before h => ?_) fun _ => keeps_pure
  have h := run_write.mp h
  split at h
  · obtain ⟨-, rfl⟩ : _ ∧ db = db' := by simpa using h
    exact before
  · split at h
    · obtain ⟨-, rfl⟩ := Prod.mk.inj (Except.ok.inj h)
      exact before.of_jobs _
    · obtain ⟨-, rfl⟩ : _ ∧ db = db' := by simpa using h
      exact before

theorem transitionJob_frame (jobId : String) (target : JobState) (result : Option Dict)
    (error : Option JobError) (fence : Option String) (expectedState : Option JobState) :
    Keeps (JobFrame s start)
      (s.transitionJob o jobId target result error fence expectedState) :=
  keeps_bind keeps_read fun _ => keeps_bind keeps_require fun _ =>
    keeps_bind keeps_raiseIf fun _ => keeps_bind keeps_raiseIf fun _ =>
      keeps_bind keeps_lift fun _ => keeps_bind keeps_raiseIf fun _ =>
        keeps_bind keeps_updateJob fun _ =>
        keeps_bind (keeps_appendAudit_job (mem_jobEventTypes target)) fun _ =>
          keeps_bind keeps_read fun _ => keeps_bind keeps_require fun _ => keeps_pure

theorem expireLeases_frame : Keeps (JobFrame s start) (s.expireLeases o) :=
  keeps_bind keeps_read fun _ => keeps_bind
    (keeps_forM fun _ => keeps_bind keeps_lift fun _ =>
      keeps_bind keeps_updateJob fun _ => keeps_appendAudit_job (by decide +kernel))
    fun _ => keeps_pure

theorem expireStaleQueued_frame (ttlSeconds : Int) :
    Keeps (JobFrame s start) (s.expireStaleQueued o ttlSeconds) :=
  keeps_bind keeps_read fun _ => keeps_bind
    (keeps_forM fun _ => keeps_bind keeps_lift fun _ =>
      keeps_bind keeps_updateJob fun _ => keeps_appendAudit_job (by decide +kernel))
    fun _ => keeps_pure

theorem claimReconcileCandidates_frame (maxAttempts limit : Nat) :
    Keeps (JobFrame s start) (s.claimReconcileCandidates o maxAttempts limit) := by
  refine keeps_bind keeps_read fun _ => keeps_bind (keeps_forM fun row => ?_) fun _ =>
    keeps_pure
  refine keeps_bind keeps_updateJob fun _ => ?_
  split
  · exact keeps_appendAudit_job (by decide +kernel)
  · exact keeps_pure

end JobFrame

end Deckhand
