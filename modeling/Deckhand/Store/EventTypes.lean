import Deckhand.Store.History

/-! What every call keeps of the log, and that no call appends an event of another type than
the store's own. -/
namespace Deckhand
open Lib Lib.Txn StoreTxn

def eventTypes : List String := jobEventTypes ++ requestEventTypes

/-- Every event is of a type that the store writes. -/
def DB.Typed (db : DB) : Prop := ∀ r ∈ db.auditEvents.rows, r.eventType ∈ eventTypes

section
variable {s : Store} {o : Oracle} {db : DB} {I : DB → Prop}

/-- A property of the log that appending an event of a known type keeps. -/
structure Logged (s : Store) (I : DB → Prop) : Prop where
  silent : ∀ {db db' : DB}, I db → db'.auditEvents = db.auditEvents → I db'
  append : ∀ {eventType : String} {payload : Dict} {db db' : DB}, eventType ∈ eventTypes →
    Appended s eventType payload db db' → I db → I db'

theorem Logged.keeps_append (logged : Logged s I) {eventType : String} {payload : Dict}
    (known : eventType ∈ eventTypes) : Keeps I (s.appendAudit o eventType payload) := by
  intro db u db' before h
  exact logged.append known (run_appendAudit h) before

theorem Logged.keeps_update (logged : Logged s I) {id : String} {f : JobRow → JobRow} {keeps} :
    Keeps I (updateJob id f keeps) := by
  intro db n db' before h
  obtain ⟨-, rfl⟩ := run_updateJob.mp h
  exact logged.silent before rfl

theorem Logged.keeps_insert (logged : Logged s I) {row : JobRow} : Keeps I (insertJob row) := by
  intro db n db' before h
  obtain ⟨t, -, rfl⟩ := run_insertJob h
  exact logged.silent before rfl

theorem Logged.keeps_use (logged : Logged s I) {id : String} {now : Timestamp} :
    Keeps I (useConfirmation id now) := by
  intro db n db' before h
  obtain ⟨-, rfl⟩ := run_useConfirmation.mp h
  exact logged.silent before rfl

theorem Logged.keeps_issue (logged : Logged s I) {row : ConfirmationRow} :
    Keeps I (insertConfirmation row) := by
  intro db n db' before h
  have h := run_write.mp h
  cases found : db.confirmations.insert? row with
  | none => simp [found, constrained] at h
  | some t =>
    obtain ⟨-, rfl⟩ : _ ∧ { db with confirmations := t } = db' := by
      simpa [found, constrained] using h
    exact logged.silent before rfl

theorem Logged.keeps_renew (logged : Logged s I) {jobId leaseToken : String}
    {leaseSeconds : Int} : Keeps I (Store.renewLease o jobId leaseToken leaseSeconds) := by
  refine keeps_bind (fun db n db' before h => ?_) fun _ => keeps_pure
  have h := run_write.mp h
  split at h
  · obtain ⟨-, rfl⟩ : _ ∧ db = db' := by simpa using h
    exact before
  · split at h
    · obtain ⟨-, rfl⟩ := Prod.mk.inj (Except.ok.inj h)
      exact logged.silent before rfl
    · obtain ⟨-, rfl⟩ : _ ∧ db = db' := by simpa using h
      exact before

theorem job_typed (state : JobState) : "job." ++ state.value ∈ eventTypes :=
  List.mem_append_left _ (mem_jobEventTypes state)

theorem Logged.run (logged : Logged s I) {op : StoreOp} (before : I db) :
    I (op.run s o db).2 := by
  cases run : op.run s o db with
  | mk r db' =>
    have ended : ∀ {α : Type} {t : StoreTxn α} {v : α}, Keeps I t →
        connect o t db = (.ok v, db') → I db' :=
      fun keeps run => keeps db _ db' before (atomically_ok run)
    cases r with
    | error x =>
      obtain rfl := run_error run
      exact before
    | ok v =>
      cases op with
      | createJob request subject =>
        refine ended (keeps_bind keeps_raiseIf fun _ => keeps_bind keeps_read fun db => ?_) run
        split
        · exact keeps_bind keeps_raiseIf fun _ => keeps_pure
        · exact keeps_bind keeps_raiseIf fun _ => keeps_bind logged.keeps_insert fun _ =>
            keeps_bind (logged.keeps_append (job_typed .queued)) fun _ =>
              keeps_bind keeps_read fun _ => keeps_bind keeps_require fun _ => keeps_pure
      | claimNextJob workerId leaseSeconds leaseFor =>
        refine ended (keeps_bind keeps_read fun db => ?_) run
        dsimp only
        split
        · exact keeps_pure
        · exact keeps_bind keeps_lift fun _ => keeps_bind logged.keeps_update fun _ =>
            keeps_bind (logged.keeps_append (job_typed .running)) fun _ =>
              keeps_bind keeps_read fun _ => keeps_bind keeps_require fun _ => keeps_pure
      | renewLease jobId leaseToken leaseSeconds => exact ended logged.keeps_renew run
      | transitionJob jobId target result error fence expectedState =>
        exact ended (keeps_bind keeps_read fun _ => keeps_bind keeps_require fun _ =>
          keeps_bind keeps_raiseIf fun _ => keeps_bind keeps_raiseIf fun _ =>
            keeps_bind keeps_lift fun _ => keeps_bind keeps_raiseIf fun _ =>
              keeps_bind logged.keeps_update fun _ =>
                keeps_bind (logged.keeps_append (job_typed target)) fun _ =>
                keeps_bind keeps_read fun _ => keeps_bind keeps_require fun _ => keeps_pure) run
      | expireLeases =>
        exact ended (keeps_bind keeps_read fun _ => keeps_bind
          (keeps_forM fun _ => keeps_bind keeps_lift fun _ =>
            keeps_bind logged.keeps_update fun _ =>
              logged.keeps_append (job_typed .unknownOutcome)) fun _ => keeps_pure) run
      | expireStaleQueued ttlSeconds =>
        exact ended (keeps_bind keeps_read fun _ => keeps_bind
          (keeps_forM fun _ => keeps_bind keeps_lift fun _ =>
            keeps_bind logged.keeps_update fun _ =>
              logged.keeps_append (job_typed .expired)) fun _ => keeps_pure) run
      | claimReconcileCandidates maxAttempts limit =>
        refine ended (keeps_bind keeps_read fun _ => keeps_bind (keeps_forM fun row => ?_)
          fun _ => keeps_pure) run
        refine keeps_bind logged.keeps_update fun _ => ?_
        split
        · exact logged.keeps_append (by decide +kernel)
        · exact keeps_pure
      | createConfirmation request subject mode prompt ttlSeconds =>
        exact ended (keeps_bind keeps_raiseIf fun _ => keeps_bind logged.keeps_issue fun _ =>
          keeps_bind (logged.keeps_append (by decide +kernel)) fun _ => keeps_pure) run
      | consumeConfirmation request subject token response =>
        refine ended (keeps_bind keeps_raiseIf fun _ => keeps_bind keeps_read fun _ =>
          keeps_bind keeps_lift fun _ => ?_) run
        split
        · exact keeps_bind (logged.keeps_append (by decide +kernel)) fun _ => keeps_pure
        · exact keeps_bind logged.keeps_use fun _ =>
            keeps_bind (logged.keeps_append (by decide +kernel)) fun _ => keeps_pure
        · exact keeps_raise
      | cancelConfirmation confirmationId subject =>
        refine ended (keeps_bind keeps_raiseIf fun _ => keeps_bind keeps_read fun _ => ?_) run
        split
        · exact keeps_pure
        · exact keeps_bind logged.keeps_use fun _ =>
            keeps_bind (logged.keeps_append (by decide +kernel)) fun _ => keeps_pure
      | recordPolicyDenial request subject phase reason =>
        exact ended (keeps_bind keeps_raiseIf fun _ => logged.keeps_append (by decide +kernel)) run
      | auditIsWritable =>
        obtain rfl : db' = db := (congrArg Prod.snd run).symm.trans (auditIsWritable_frame o db)
        exact before
      | getJob jobId => exact ended (keeps_bind keeps_read fun _ => keeps_pure) run
      | getJobContext jobId =>
        exact ended (keeps_bind keeps_read fun _ => keeps_bind keeps_require fun _ =>
          keeps_pure) run
      | listJobs state limit => exact ended (keeps_bind keeps_read fun _ => keeps_pure) run
      | listAuditEvents afterSequence limit =>
        exact ended (keeps_bind keeps_read fun _ => keeps_pure) run
      | verifyAuditChain => exact ended (keeps_bind keeps_read fun _ => keeps_lift) run

theorem typed_logged (s : Store) : Logged s DB.Typed := by
  constructor
  · intro db db' typed same
    rw [DB.Typed, same]
    exact typed
  · intro eventType payload db db' known appended typed r member
    obtain ⟨row, rows, type, -⟩ := appended.row
    rw [rows] at member
    rcases List.mem_append.mp member with old | new
    · exact typed r old
    · obtain rfl := List.mem_singleton.mp new
      rw [type]
      exact known

theorem typed_empty : DB.empty.Typed := fun _ member => absurd member List.not_mem_nil

end
end Deckhand
