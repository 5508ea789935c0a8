import Deckhand.Store.History

/-! The reconciler's budget: how often a job was handed out as a candidate, its counter, and
the event that says that the budget is spent. -/
namespace Deckhand
open Lib Lib.Txn StoreTxn

def exhaustedType : String := "job.reconcile_exhausted"

def AuditRow.exhausts (r : AuditRow) (id : String) : Bool :=
  r.eventType = exhaustedType && namedBy r.payload "job_id" = some id

/-- A job's counter, and how many events say that its budget is spent. -/
structure Budget where
  attempts : Nat
  exhausted : Nat

def DB.exhausted (db : DB) (id : String) : Nat :=
  db.auditEvents.rows.countP fun r => r.exhausts id

def DB.budget (db : DB) (id : String) : Budget where
  attempts := (db.job? id).elim 0 JobRow.reconcileAttempts
  exhausted := db.exhausted id

/-- One attempt spent; the last one is logged. -/
def Budget.spend (maxAttempts : Nat) (b : Budget) : Budget where
  attempts := b.attempts + 1
  exhausted := b.exhausted + if b.attempts + 1 = maxAttempts then 1 else 0

section
variable {s : Store} {o : Oracle} {start db db' : DB} {eventType : String} {payload : Dict}

theorem Appended.exhausted (h : Appended s eventType payload db db') (j : String) :
    db'.exhausted j = db.exhausted j +
      if eventType = exhaustedType ∧ namedBy payload "job_id" = some j then 1 else 0 := by
  obtain ⟨r, rows, rfl, rfl, -⟩ := h.row
  rw [DB.exhausted, rows, List.countP_append, List.countP_singleton]
  simp only [AuditRow.exhausts, Bool.and_eq_true, decide_eq_true_eq]
  rfl

/-- No event of the start says anything else about a spent budget. -/
def SameExhausted (start db : DB) : Prop := ∀ j, db.exhausted j = start.exhausted j

theorem keeps_append_other (other : eventType ≠ exhaustedType) :
    Keeps (SameExhausted start) (s.appendAudit o eventType payload) := by
  intro db u db' before h j
  rw [(run_appendAudit h).exhausted, if_neg fun both => other both.1]
  exact before j

theorem keeps_unlogged {α : Type} {t : StoreTxn α}
    (silent : ∀ db a db', t.run db = .ok (a, db') → db'.auditEvents = db.auditEvents) :
    Keeps (SameExhausted start) t := by
  intro db a db' before h j
  rw [DB.exhausted, silent db a db' h]
  exact before j

theorem keeps_update {id : String} {f : JobRow → JobRow} {keeps} :
    Keeps (SameExhausted start) (updateJob id f keeps) := by
  apply keeps_unlogged
  intro db n db' h
  obtain ⟨-, rfl⟩ := run_updateJob.mp h
  rfl

theorem keeps_insert {row : JobRow} : Keeps (SameExhausted start) (insertJob row) := by
  apply keeps_unlogged
  intro db n db' h
  obtain ⟨t, -, rfl⟩ := run_insertJob h
  rfl

theorem keeps_use {id : String} {now : Timestamp} :
    Keeps (SameExhausted start) (useConfirmation id now) := by
  apply keeps_unlogged
  intro db n db' h
  obtain ⟨-, rfl⟩ := run_useConfirmation.mp h
  rfl

theorem keeps_insertConfirmation {row : ConfirmationRow} :
    Keeps (SameExhausted start) (insertConfirmation row) := by
  apply keeps_unlogged
  intro db n db' h
  have h := run_write.mp h
  cases found : db.confirmations.insert? row with
  | none => simp [found, constrained] at h
  | some t =>
    obtain ⟨-, rfl⟩ : _ ∧ { db with confirmations := t } = db' := by
      simpa [found, constrained] using h
    rfl

theorem job_type_other (state : JobState) : "job." ++ state.value ≠ exhaustedType := by
  cases state <;> decide

theorem run_exhausted {op : StoreOp} {r : Except StoreExn op.Value}
    (h : op.run s o db = (r, db'))
    (other : ∀ maxAttempts limit, op ≠ .claimReconcileCandidates maxAttempts limit) :
    SameExhausted db db' := by
  have ended : ∀ {α : Type} {t : StoreTxn α} {v : α}, Keeps (SameExhausted db) t →
      connect o t db = (.ok v, db') → SameExhausted db db' :=
    fun keeps run => keeps db _ db' (fun _ => rfl) (atomically_ok run)
  cases r with
  | error x =>
    obtain rfl := run_error h
    exact fun _ => rfl
  | ok v =>
    cases op with
    | createJob request subject =>
      refine ended (keeps_bind keeps_raiseIf fun _ => keeps_bind keeps_read fun db => ?_) h
      split
      · exact keeps_bind keeps_raiseIf fun _ => keeps_pure
      · exact keeps_bind keeps_raiseIf fun _ => keeps_bind keeps_insert fun _ =>
          keeps_bind (keeps_append_other (by decide)) fun _ =>
            keeps_bind keeps_read fun _ => keeps_bind keeps_require fun _ => keeps_pure
    | claimNextJob workerId leaseSeconds leaseFor =>
      refine ended (keeps_bind keeps_read fun db => ?_) h
      dsimp only
      split
      · exact keeps_pure
      · exact keeps_bind keeps_lift fun _ => keeps_bind keeps_update fun _ =>
          keeps_bind (keeps_append_other (by decide)) fun _ =>
            keeps_bind keeps_read fun _ => keeps_bind keeps_require fun _ => keeps_pure
    | renewLease jobId leaseToken leaseSeconds =>
      refine ended (keeps_bind (keeps_unlogged fun db n db' h => ?_) fun _ => keeps_pure) h
      have h := run_write.mp h
      split at h
      · obtain ⟨-, rfl⟩ : _ ∧ db = db' := by simpa using h
        rfl
      · split at h
        · obtain ⟨-, rfl⟩ := Prod.mk.inj (Except.ok.inj h)
          rfl
        · obtain ⟨-, rfl⟩ : _ ∧ db = db' := by simpa using h
          rfl
    | transitionJob jobId target result error fence expectedState =>
      exact ended (keeps_bind keeps_read fun _ => keeps_bind keeps_require fun _ =>
        keeps_bind keeps_raiseIf fun _ => keeps_bind keeps_raiseIf fun _ =>
          keeps_bind keeps_lift fun _ => keeps_bind keeps_raiseIf fun _ =>
            keeps_bind keeps_update fun _ =>
              keeps_bind (keeps_append_other (job_type_other target)) fun _ =>
              keeps_bind keeps_read fun _ => keeps_bind keeps_require fun _ => keeps_pure) h
    | expireLeases =>
      exact ended (keeps_bind keeps_read fun _ => keeps_bind
        (keeps_forM fun _ => keeps_bind keeps_lift fun _ =>
          keeps_bind keeps_update fun _ => keeps_append_other (by decide)) fun _ => keeps_pure) h
    | expireStaleQueued ttlSeconds =>
      exact ended (keeps_bind keeps_read fun _ => keeps_bind
        (keeps_forM fun _ => keeps_bind keeps_lift fun _ =>
          keeps_bind keeps_update fun _ => keeps_append_other (by decide)) fun _ => keeps_pure) h
    | claimReconcileCandidates maxAttempts limit => exact absurd rfl (other maxAttempts limit)
    | createConfirmation request subject mode prompt ttlSeconds =>
      exact ended (keeps_bind keeps_raiseIf fun _ => keeps_bind keeps_insertConfirmation fun _ =>
        keeps_bind (keeps_append_other (by decide)) fun _ => keeps_pure) h
    | consumeConfirmation request subject token response =>
      refine ended (keeps_bind keeps_raiseIf fun _ => keeps_bind keeps_read fun _ =>
        keeps_bind keeps_lift fun _ => ?_) h
      split
      · exact keeps_bind (keeps_append_other (by decide)) fun _ => keeps_pure
      · exact keeps_bind keeps_use fun _ =>
          keeps_bind (keeps_append_other (by decide)) fun _ => keeps_pure
      · exact keeps_raise
    | cancelConfirmation confirmationId subject =>
      refine ended (keeps_bind keeps_raiseIf fun _ => keeps_bind keeps_read fun _ => ?_) h
      split
      · exact keeps_pure
      · exact keeps_bind keeps_use fun _ =>
          keeps_bind (keeps_append_other (by decide)) fun _ => keeps_pure
    | recordPolicyDenial request subject phase reason =>
      exact ended (keeps_bind keeps_raiseIf fun _ => keeps_append_other (by decide)) h
    | auditIsWritable =>
      obtain rfl : db' = db := (congrArg Prod.snd h).symm.trans (auditIsWritable_frame o db)
      exact fun _ => rfl
    | getJob jobId => exact ended (keeps_bind keeps_read fun _ => keeps_pure) h
    | getJobContext jobId =>
      exact ended (keeps_bind keeps_read fun _ => keeps_bind keeps_require fun _ => keeps_pure) h
    | listJobs state limit => exact ended (keeps_bind keeps_read fun _ => keeps_pure) h
    | listAuditEvents afterSequence limit =>
      exact ended (keeps_bind keeps_read fun _ => keeps_pure) h
    | verifyAuditChain => exact ended (keeps_bind keeps_read fun _ => keeps_lift) h

theorem RowStep.attempts {op : StoreOp} {r : Except StoreExn op.Value} {j : String} {l l' : Life}
    (h : RowStep s o j op r l l')
    (other : ∀ maxAttempts limit, op ≠ .claimReconcileCandidates maxAttempts limit) :
    l'.row.elim 0 JobRow.reconcileAttempts = l.row.elim 0 JobRow.reconcileAttempts := by
  cases h with
  | attempted maxAttempts limit => exact absurd rfl (other maxAttempts limit)
  | same => rfl
  | created => rfl
  | claimed => rfl
  | renewed => rfl
  | transitioned => rfl
  | lapsed => rfl
  | expired => rfl

theorem run_budget {op : StoreOp} {r : Except StoreExn op.Value} (h : op.run s o db = (r, db'))
    (other : ∀ maxAttempts limit, op ≠ .claimReconcileCandidates maxAttempts limit) (j : String) :
    db'.budget j = db.budget j := by
  have attempts := ((run_step h).rows j).attempts other
  have exhausted := run_exhausted h other j
  unfold DB.budget
  rw [exhausted]
  exact congrArg (Budget.mk · _) attempts

theorem run_attempt {maxAttempts : Nat} {row : JobRow} {u : Unit}
    (h : (do
      let _ ← updateJob row.id JobRow.attempt JobRow.attempt_identity
      if row.reconcileAttempts + 1 = maxAttempts then
        s.appendAudit o "job.reconcile_exhausted"
          [("job_id", .str row.id), ("attempts", .int (row.reconcileAttempts + 1 : Nat))] :
      StoreTxn Unit).run db = .ok (u, db')) (j : String) :
    db'.job? j = (if j = row.id then (db.job? j).map JobRow.attempt else db.job? j) ∧
      db'.exhausted j = (db.budget j).exhausted +
        if j = row.id ∧ row.reconcileAttempts + 1 = maxAttempts then 1 else 0 := by
  simp only [run_bind, run_updateJob] at h
  obtain ⟨_, _, ⟨-, rfl⟩, h⟩ := h
  have updated := DB.job?_updateJob db row.id j JobRow.attempt JobRow.attempt_identity
  split at h
  · rename_i last
    have appended := run_appendAudit h
    rw [appended.job?, appended.exhausted, updated, namedBy_cons]
    refine ⟨rfl, congrArg _ ?_⟩
    simp [exhaustedType, last, eq_comm]
  · rename_i more
    obtain ⟨-, rfl⟩ := run_pure.mp h
    refine ⟨updated, ?_⟩
    rw [if_neg fun both => more both.2]
    rfl

/-- A job's row, and how many events say that its budget is spent. -/
def DB.spending (db : DB) (id : String) : Option JobRow × Nat := (db.job? id, db.exhausted id)

/-- Each candidate that is handed out is one, was within its budget, and has an attempt less. -/
theorem claimReconcileCandidates_budget {maxAttempts limit : Nat} {v : List JobView}
    (h : (s.claimReconcileCandidates o maxAttempts limit).run db = .ok (v, db')) :
    (v.map JobView.id).Nodup ∧
      (∀ j ∈ v.map JobView.id, (db.budget j).attempts < maxAttempts) ∧
      ∀ j, db'.budget j =
        if j ∈ v.map JobView.id then (db.budget j).spend maxAttempts else db.budget j := by
  simp only [Store.claimReconcileCandidates, run_bind, run_read, run_pure] at h
  obtain ⟨_, _, ⟨rfl, rfl⟩, u, _, loop, rfl, rfl⟩ := h
  rename_i db
  obtain ⟨current, nodup, -⟩ := selected db (fun r => r.state = .unknownOutcome)
    JobRow.updatedAt fun r => o.rank r.id
  generalize rows : ((orderBy JobRow.updatedAt (fun r => o.rank r.id)
      (db.jobs.rows.filter fun r => r.state = .unknownOutcome)).take (min limit 1000)).filter
        (fun r => r.reconcileAttempts < maxAttempts) = chosen at loop ⊢
  have sub : chosen.Sublist (orderBy JobRow.updatedAt (fun r => o.rank r.id)
      (db.jobs.rows.filter fun r => r.state = .unknownOutcome)) :=
    rows ▸ List.filter_sublist.trans (List.take_sublist ..)
  have within : ∀ r ∈ chosen, r.reconcileAttempts < maxAttempts := by
    intro r member
    rw [← rows] at member
    simpa using (List.mem_filter.mp member).2
  have ids : (chosen.map JobRow.view).map JobView.id = chosen.map JobRow.id := by
    rw [List.map_map]
    rfl
  have spent := run_forM_pointwise DB.spending JobRow.id (P := fun r v => v.1 = some r)
    (g := fun v => (v.1.map JobRow.attempt,
      v.2 + if v.1.elim 0 JobRow.reconcileAttempts + 1 = maxAttempts then 1 else 0)) chosen
    ((sub.map JobRow.id).nodup nodup) (by
      intro x t t' u here round j
      obtain ⟨row, exhausted⟩ := run_attempt round j
      unfold DB.spending
      rw [row, exhausted]
      by_cases same : j = x.id
      · subst same
        have here : t.job? x.id = some x := here
        simp [here, DB.budget]
      · simp [same, DB.budget])
    (fun r member => current r (sub.mem member)) loop
  rw [ids]
  refine ⟨(sub.map JobRow.id).nodup nodup, ?_, fun j => ?_⟩
  · intro j member
    obtain ⟨r, among, rfl⟩ := List.mem_map.mp member
    have here : db.job? r.id = some r := current r (sub.mem among)
    simpa [DB.budget, here] using within r among
  · have after := spent j
    unfold DB.spending at after
    split at after
    · rename_i member
      obtain ⟨row, exhausted⟩ := Prod.mk.inj after
      obtain ⟨r, among, rfl⟩ := List.mem_map.mp member
      have here : db.job? r.id = some r := current r (sub.mem among)
      rw [if_pos member, DB.budget, row, exhausted]
      simp [DB.budget, Budget.spend, here, JobRow.attempt]
    · rename_i other
      obtain ⟨row, exhausted⟩ := Prod.mk.inj after
      rw [if_neg other, DB.budget, row, exhausted]
      rfl

end

def candidateIds : StoreEvent → List String
  | ⟨_, .claimReconcileCandidates .., _, _, .ok jobs, _⟩ => jobs.map JobView.id
  | _ => []

def timesReturned (log : List StoreEvent) (j : String) : Nat :=
  (log.flatMap candidateIds).count j

/-- All calls for candidates have the same budget. -/
def OneBudget (maxAttempts : Nat) (log : List StoreEvent) : Prop :=
  ∀ e ∈ log, ∀ other limit, e.op = .claimReconcileCandidates other limit → other = maxAttempts

/-- The counter is how often the job was handed out, within the budget, and the one event
about a spent budget is there just if the budget is spent. -/
structure Budget.Exact (maxAttempts returned : Nat) (b : Budget) : Prop where
  counted : returned = b.attempts
  within : b.attempts ≤ maxAttempts
  logged : b.exhausted = if b.attempts = maxAttempts then 1 else 0

section
variable {s : Store} {maxAttempts : Nat} {log : List StoreEvent} {db : DB}

theorem Budget.Exact.spend {returned : Nat} {b : Budget} (h : b.Exact maxAttempts returned)
    (left : b.attempts < maxAttempts) : (b.spend maxAttempts).Exact maxAttempts (returned + 1) := by
  obtain ⟨counted, within, logged⟩ := h
  rw [if_neg (Nat.ne_of_lt left)] at logged
  refine ⟨congrArg (· + 1) counted, left, ?_⟩
  rw [Budget.spend, logged, Nat.zero_add]

theorem event_exact {e : StoreEvent} (valid : e.Valid s.sem) (fixed : OneBudget maxAttempts [e])
    {j : String} {returned : Nat} (before : (e.pre.budget j).Exact maxAttempts returned) :
    (e.post.budget j).Exact maxAttempts (returned + (candidateIds e).count j) := by
  obtain ⟨caller, op, pre, o, r, post⟩ := e
  by_cases selects : ∃ other limit, op = .claimReconcileCandidates other limit
  · obtain ⟨other, limit, rfl⟩ := selects
    obtain rfl := fixed _ List.mem_cons_self other limit rfl
    cases r with
    | error x =>
      obtain rfl : post = pre := run_error valid
      exact before
    | ok jobs =>
      obtain ⟨nodup, within, after⟩ := claimReconcileCandidates_budget (atomically_ok valid)
      change (post.budget j).Exact other (returned + (jobs.map JobView.id).count j)
      rw [after j]
      by_cases member : j ∈ jobs.map JobView.id
      · rw [if_pos member, List.count_eq_one_of_mem nodup member]
        exact before.spend (within j member)
      · rw [if_neg member, List.count_eq_zero.mpr member]
        exact before
  · have other : ∀ maxAttempts limit, op ≠ .claimReconcileCandidates maxAttempts limit :=
      fun maxAttempts limit same => selects ⟨maxAttempts, limit, same⟩
    have none : candidateIds ⟨caller, op, pre, o, r, post⟩ = [] := by
      cases op with
      | claimReconcileCandidates => exact absurd rfl (other _ _)
      | _ => rfl
    rw [none, List.count_nil, Nat.add_zero, run_budget valid other]
    exact before

theorem trace_exact (run : Trace s.sem DB.empty log db) (positive : 1 ≤ maxAttempts)
    (fixed : OneBudget maxAttempts log) (j : String) :
    (db.budget j).Exact maxAttempts (timesReturned log j) := by
  induction run with
  | nil =>
    refine ⟨rfl, Nat.zero_le _, ?_⟩
    have unspent : (0 : Nat) ≠ maxAttempts := by omega
    exact (if_neg unspent).symm
  | snoc log e _ valid ih =>
    have before := ih fun d member => fixed d (List.mem_append_left _ member)
    have after := event_exact valid
      (fun d member => fixed d (List.mem_append_right _ member)) before
    rw [timesReturned, List.flatMap_append, List.count_append, List.flatMap_singleton]
    exact after

end

/-- Over a whole run a job is handed out no more often than its budget, and one event says
that the budget is spent if it is, and none if it is not. -/
theorem reconcile_budget_exact (s : Store) (maxAttempts : Nat) (log : List StoreEvent) (db : DB)
    (run : Trace s.sem DB.empty log db) (positive : 1 ≤ maxAttempts)
    (fixed : OneBudget maxAttempts log) (j : String) :
    timesReturned log j ≤ maxAttempts ∧
      db.exhausted j = if timesReturned log j = maxAttempts then 1 else 0 := by
  obtain ⟨counted, within, logged⟩ := trace_exact run positive fixed j
  rw [counted]
  exact ⟨within, logged⟩

namespace Sample

/-- A job of unknown outcome is asked for three times, and looked at by an operator between. -/
def reconciling : List ((_ : StoreOp) × Oracle) :=
  [⟨.createJob (request keyA) subject, oracle 1 "a"⟩,
    ⟨.claimNextJob "w" 30 none, oracle 2 "b"⟩,
    ⟨.transitionJob "job_a" .unknownOutcome none none (some "b") none, oracle 3 "c"⟩,
    ⟨.claimReconcileCandidates 2 100, oracle 4 "d"⟩,
    ⟨.transitionJob "job_a" .verifying none none none none, oracle 5 "e"⟩,
    ⟨.transitionJob "job_a" .unknownOutcome none none none none, oracle 6 "f"⟩,
    ⟨.claimReconcileCandidates 2 100, oracle 7 "g"⟩,
    ⟨.claimReconcileCandidates 2 100, oracle 8 "h"⟩]

def reconcileLog : List StoreEvent :=
  replay (fun op o db => op.run store o db) DB.empty reconciling

def reconciled : DB := replayed (fun op o db => op.run store o db) DB.empty reconciling

theorem reconciling_budget : OneBudget 2 reconcileLog := by
  have fixed : ∀ op ∈ reconcileLog.map Event.op, ∀ other limit,
      op = .claimReconcileCandidates other limit → other = 2 := by
    intro op member other limit same
    subst same
    have sizes : other = 2 ∧ limit = 100 := by
      simpa [reconcileLog, reconciling, replay] using member
    exact sizes.1
  exact fun e member other limit same =>
    fixed e.op (List.mem_map_of_mem member) other limit same

end Sample

open Sample in
theorem reconcile_budget_exact_twice : timesReturned reconcileLog "job_a" = 2 ∧
    reconciled.exhausted "job_a" = 1 := by
  have returned : timesReturned reconcileLog "job_a" = 2 := by decide +kernel
  have exact := reconcile_budget_exact store 2 reconcileLog reconciled (replay_trace ..)
    (by decide) reconciling_budget "job_a"
  rw [if_pos returned] at exact
  exact ⟨returned, exact.2⟩

end Deckhand
