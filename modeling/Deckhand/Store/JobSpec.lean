import Deckhand.Store.Life

/-! One specification for each job operation that ends: what it answers, and the row and the
events of every job afterwards. -/
namespace Deckhand
open Lib Lib.Txn StoreTxn

/-- The rows with `p` rewritten by `f`, each with the given events appended. -/
def Life.rewrite (p : JobRow → Prop) [DecidablePred p] (f : JobRow → JobRow)
    (events : List JobState) (l : Life) : Life :=
  match l.row with
  | some r => if p r then ⟨some (f r), l.events ++ events⟩ else l
  | none => l

section
variable {s : Store} {o : Oracle} {db db' : DB}

theorem job?_mem {j : String} {r : JobRow} : db.job? j = some r ↔ r ∈ db.jobs.rows ∧ r.id = j :=
  Table.find?_eq_some

theorem job?_of_mem {r : JobRow} (h : r ∈ db.jobs.rows) : db.job? r.id = some r :=
  Table.find?_of_mem h

theorem job?_insert {row : JobRow} {t : Jobs} (h : db.jobs.insert? row = some t) (j : String) :
    DB.job? { db with jobs := t } j = if j = row.id then some row else db.job? j :=
  Table.find?_insert? (Jobs.insert?_table h) j

theorem createJob_spec {request : ActionRequest} {subject : Subject} {v : JobView}
    (h : (s.createJob o request subject).run db = .ok (v, db')) :
    (∃ row ∈ db.jobs.rows, row.idempotencyKey = request.idempotencyKey ∧
      row.requestDigest = requestDigest s.hashlib request ∧ v = row.view ∧ db' = db) ∨
    ((∀ row ∈ db.jobs.rows, row.idempotencyKey ≠ request.idempotencyKey) ∧
      db.job? (JobRow.queue s o request subject).id = none ∧
      v = (JobRow.queue s o request subject).view ∧
      ∀ j, db'.life j = if j = (JobRow.queue s o request subject).id then
        ⟨some (JobRow.queue s o request subject), db.jobEvents j ++ [.queued]⟩ else db.life j) := by
  simp only [Store.createJob, run_bind, run_raiseIf, run_read] at h
  obtain ⟨_, _, ⟨-, rfl⟩, _, db, ⟨rfl, rfl⟩, h⟩ := h
  split at h
  · rename_i existing found
    simp only [run_bind, run_raiseIf, run_pure] at h
    obtain ⟨_, _, ⟨same, rfl⟩, rfl, rfl⟩ := h
    exact .inl ⟨existing, List.mem_of_find?_eq_some found,
      by simpa using List.find?_some found, not_not.mp same, rfl, rfl⟩
  · rename_i fresh
    simp only [run_bind, run_raiseIf, run_read, run_require, run_pure] at h
    obtain ⟨_, _, ⟨-, rfl⟩, _, db₁, insert, _, db₂, append, _, _, ⟨rfl, rfl⟩, row, _, ⟨found, rfl⟩,
        rfl, rfl⟩ := h
    rename_i db₂
    obtain ⟨t, inserted, rfl⟩ := run_insertJob insert
    have appended := run_appendAudit append
    have absent := (Table.insert?_rows (Jobs.insert?_table inserted)).2
    have row_eq : row = JobRow.queue s o request subject := by
      rw [appended.job?, job?_insert inserted, if_pos rfl] at found
      exact (Option.some.inj found).symm
    refine .inr ⟨by simpa using fresh, absent, congrArg JobRow.view row_eq, fun j => ?_⟩
    have type : jobState? "job.queued" = some .queued := by decide
    rw [DB.life, appended.job?, appended.jobEvents, job?_insert inserted, type, namedBy_cons]
    by_cases same : j = (JobRow.queue s o request subject).id
    · subst same
      simp [DB.jobEvents]
    · have other : (JobRow.queue s o request subject).id ≠ j := fun h => same h.symm
      simp [same, other, DB.life, DB.jobEvents]

theorem createJob_storable {request : ActionRequest} {subject : Subject} {v : JobView}
    (h : (s.createJob o request subject).run db = .ok (v, db')) : request.storable = true := by
  simp only [Store.createJob, run_bind, run_raiseIf] at h
  obtain ⟨_, _, ⟨storable, -⟩, -⟩ := h
  exact Bool.eq_true_of_not_eq_false storable

theorem createJob_row {request : ActionRequest} {subject : Subject} {v : JobView}
    (h : (s.createJob o request subject).run db = .ok (v, db')) :
    ∃ row, db'.job? v.id = some row ∧ row.idempotencyKey = request.idempotencyKey ∧
      row.requestDigest = requestDigest s.hashlib request := by
  rcases createJob_spec h with ⟨row, member, key, digest, rfl, rfl⟩ | ⟨-, -, rfl, life⟩
  · exact ⟨row, job?_of_mem member, key, digest⟩
  · refine ⟨JobRow.queue s o request subject, ?_, rfl, rfl⟩
    exact (congrArg Life.row (life (JobRow.queue s o request subject).id)).trans
      (by rw [if_pos rfl])

theorem createJob_again {request : ActionRequest} (subject : Subject) {row : JobRow}
    (member : row ∈ db.jobs.rows) (key : row.idempotencyKey = request.idempotencyKey)
    (digest : row.requestDigest = requestDigest s.hashlib request)
    (storable : request.storable = true) :
    (s.createJob o request subject).run db = .ok (row.view, db) := by
  have found : (db.jobs.rows.find? fun r => r.idempotencyKey = request.idempotencyKey) =
      some row := by
    cases found : db.jobs.rows.find? fun r => r.idempotencyKey = request.idempotencyKey with
    | none => simpa [key] using List.find?_eq_none.mp found row member
    | some other =>
      have same : other.idempotencyKey = request.idempotencyKey := by
        simpa using List.find?_some found
      rw [Jobs.key_unique (List.mem_of_find?_eq_some found) member (same.trans key.symm)]
  simp only [Store.createJob, run_bind, run_raiseIf, run_read]
  refine ⟨(), db, ⟨by simp [storable], rfl⟩, db, db, ⟨rfl, rfl⟩, ?_⟩
  simp only [found, run_bind, run_raiseIf, run_pure]
  exact ⟨(), db, ⟨not_not.mpr digest, rfl⟩, trivial, rfl⟩

theorem claimNextJob_chosen {workerId : String} {leaseSeconds : Int}
    {leaseFor : Option (ActionRequest → Int)} {v : Option ClaimedJob}
    (h : (s.claimNextJob o workerId leaseSeconds leaseFor).run db = .ok (v, db')) :
    (v = none ∧ db' = db ∧ ∀ r ∈ db.jobs.rows, ¬ r.Claimable o) ∨
    ∃ row seconds, seconds = leaseFor.elim leaseSeconds (fun f => f row.request) ∧
      db.job? row.id = some row ∧ row.Claimable o ∧
      (∀ r ∈ db.jobs.rows, r.Claimable o → row.createdAt ≤ r.createdAt) ∧
      v = some ⟨(row.claim o workerId seconds).view, o.uuid⟩ ∧
      ∀ j, db'.life j = if j = row.id then
        ⟨some (row.claim o workerId seconds), db.jobEvents j ++ [.running]⟩ else db.life j := by
  simp only [Store.claimNextJob, run_bind, run_read] at h
  obtain ⟨_, _, ⟨rfl, rfl⟩, h⟩ := h
  rename_i db
  have queue : ∀ r, r ∈ orderBy JobRow.createdAt (fun r => o.rank r.id)
      (db.jobs.rows.filter fun r => r.Claimable o) ↔ r ∈ db.jobs.rows ∧ r.Claimable o := by
    intro r
    simp only [mem_orderBy, List.mem_filter, decide_eq_true_eq]
  have oldest := orderBy_pairwise JobRow.createdAt (fun r => o.rank r.id)
    (db.jobs.rows.filter fun r => r.Claimable o)
  split at h
  · rename_i empty
    have none_left := List.head?_eq_none_iff.mp empty
    refine .inl ⟨(run_pure.mp h).1, (run_pure.mp h).2, fun r member claimable => ?_⟩
    have there := (queue r).mpr ⟨member, claimable⟩
    rw [none_left] at there
    cases there
  · rename_i row chosen
    have member := (queue row).mp (List.mem_of_mem_head? chosen)
    have current := job?_of_mem member.1
    have first : ∀ r ∈ db.jobs.rows, r.Claimable o → row.createdAt ≤ r.createdAt := by
      intro r hr claimable
      have there := (queue r).mpr ⟨hr, claimable⟩
      obtain ⟨rest, split⟩ := List.head?_eq_some_iff.mp chosen
      rw [split] at there oldest
      rcases List.mem_cons.mp there with rfl | later
      · exact Int.le_refl _
      · exact (List.pairwise_cons.mp oldest).1 r later
    simp only [run_bind, run_lift, run_updateJob, run_read, run_require, run_pure] at h
    obtain ⟨_, _, ⟨-, rfl⟩, _, _, ⟨-, rfl⟩, _, db₂, append, _, _, ⟨rfl, rfl⟩, claimed, _,
      ⟨found, rfl⟩, rfl, rfl⟩ := h
    rename_i db₂
    have life := run_move .running (by decide) (namedBy_cons ..) append
    have claimed_eq : some claimed = some _ :=
      found.symm.trans (by
        rw [(run_appendAudit append).job?, DB.job?_updateJob, if_pos rfl, current]; rfl)
    refine .inr ⟨row, _, rfl, current, member.2, first,
      by rw [Option.some.inj claimed_eq], fun j => ?_⟩
    rw [life]
    by_cases same : j = row.id
    · simp [same, current]
    · simp [same]

theorem claimNextJob_spec {workerId : String} {leaseSeconds : Int}
    {leaseFor : Option (ActionRequest → Int)} {v : Option ClaimedJob}
    (h : (s.claimNextJob o workerId leaseSeconds leaseFor).run db = .ok (v, db')) :
    (v = none ∧ db' = db) ∨
    ∃ row seconds, db.job? row.id = some row ∧ row.Claimable o ∧
      v = some ⟨(row.claim o workerId seconds).view, o.uuid⟩ ∧
      ∀ j, db'.life j = if j = row.id then
        ⟨some (row.claim o workerId seconds), db.jobEvents j ++ [.running]⟩ else db.life j := by
  rcases claimNextJob_chosen h with
    ⟨nothing, same, -⟩ | ⟨row, seconds, -, current, claimable, -, answer, life⟩
  · exact .inl ⟨nothing, same⟩
  · exact .inr ⟨row, seconds, current, claimable, answer, life⟩

theorem renewLease_spec {jobId leaseToken : String} {leaseSeconds : Int} {v : Bool}
    (h : (Store.renewLease o jobId leaseToken leaseSeconds).run db = .ok (v, db')) :
    (v = false ∧ db' = db ∧ ∀ row, db.job? jobId = some row → row.leaseToken = some leaseToken →
      ¬ (row.state = .running ∨ row.state = .verifying)) ∨
    ∃ row, db.job? jobId = some row ∧ row.leaseToken = some leaseToken ∧
      (row.state = .running ∨ row.state = .verifying) ∧ v = true ∧
      ∀ j, db'.life j = if j = jobId then ⟨some (row.renew o leaseSeconds), db.jobEvents j⟩
        else db.life j := by
  simp only [Store.renewLease, run_bind, run_write, run_pure] at h
  obtain ⟨count, _, h, rfl, rfl⟩ := h
  split at h
  · rename_i absent
    obtain ⟨rfl, rfl⟩ : 0 = count ∧ db = db' := by simpa using h
    exact .inl ⟨rfl, rfl, fun row current => by cases absent.symm.trans current⟩
  · rename_i row current
    split at h
    · rename_i held
      obtain ⟨rfl, rfl⟩ := Prod.mk.inj (Except.ok.inj h)
      refine .inr ⟨row, current, held.1, held.2, rfl, fun j => ?_⟩
      rw [DB.life, DB.job?_updateJob]
      by_cases same : j = jobId
      · simp [same, current]
      · simp [same, DB.life]
    · rename_i lost
      obtain ⟨rfl, rfl⟩ : 0 = count ∧ db = db' := by simpa using h
      refine .inl ⟨rfl, rfl, fun row' current' token running => lost ?_⟩
      obtain rfl := Option.some.inj (current.symm.trans current')
      exact ⟨token, running⟩

theorem transitionJob_spec {jobId : String} {target : JobState} {result : Option Dict}
    {error : Option JobError} {fence : Option String} {expectedState : Option JobState}
    {v : JobView}
    (h : (s.transitionJob o jobId target result error fence expectedState).run db =
      .ok (v, db')) :
    ∃ row, db.job? jobId = some row ∧ (∀ t ∈ fence, row.leaseToken = some t) ∧
      (∀ expected ∈ expectedState, row.state = expected) ∧
      target ∈ allowedTransitions row.state ∧ JobRow.transitionWritable result error = true ∧
      v = (row.transition o target result error).view ∧
      ∀ j, db'.life j = if j = jobId then
        ⟨some (row.transition o target result error), db.jobEvents j ++ [target]⟩
        else db.life j := by
  simp only [Store.transitionJob, run_bind, run_read, run_require, run_raiseIf, run_lift,
    run_updateJob, run_pure, requireTransition_ok] at h
  obtain ⟨_, _, ⟨rfl, rfl⟩, row, _, ⟨current, rfl⟩, _, _, ⟨held, rfl⟩, _, _, ⟨expected, rfl⟩,
    _, _, ⟨allowed, rfl⟩, _, _, ⟨writes, rfl⟩, _, _, ⟨-, rfl⟩, _, db₂, append, _, _, ⟨rfl, rfl⟩,
    updated, _, ⟨found, rfl⟩, rfl, rfl⟩ := h
  rename_i db db₂
  have life := run_move target rfl (namedBy_cons ..) append
  have updated_eq : some updated = some _ :=
    found.symm.trans (by
      rw [(run_appendAudit append).job?, DB.job?_updateJob, if_pos rfl, current]
      rfl)
  refine ⟨row, current, ?_, ?_, allowed, by simpa using writes,
    by rw [Option.some.inj updated_eq], fun j => ?_⟩
  · intro t member
    obtain rfl : fence = some t := member
    simpa using held
  · intro state member
    exact not_not.mp fun differs => expected ⟨state, member, differs⟩
  · rw [life]
    by_cases same : j = jobId
    · simp [same, current]
    · simp [same]

theorem selected (db : DB) (p : JobRow → Prop) [DecidablePred p] (column : JobRow → Int)
    (rank : JobRow → Nat) :
    (∀ r ∈ orderBy column rank (db.jobs.rows.filter fun r => p r), (db.life r.id).row = some r) ∧
    ((orderBy column rank (db.jobs.rows.filter fun r => p r)).map JobRow.id).Nodup ∧
    ∀ j, j ∈ (orderBy column rank (db.jobs.rows.filter fun r => p r)).map JobRow.id ↔
      ∃ r, db.job? j = some r ∧ p r := by
  refine ⟨fun r member => ?_, orderBy_map_nodup ?_, fun j => ?_⟩
  · simp only [mem_orderBy, List.mem_filter] at member
    exact job?_of_mem member.1
  · exact (List.Sublist.map _ List.filter_sublist).nodup db.jobs.nodup
  · simp only [List.mem_map, mem_orderBy, List.mem_filter, decide_eq_true_eq, job?_mem]
    constructor
    · rintro ⟨r, ⟨member, hp⟩, rfl⟩
      exact ⟨r, ⟨member, rfl⟩, hp⟩
    · rintro ⟨r, ⟨member, rfl⟩, hp⟩
      exact ⟨r, ⟨member, hp⟩, rfl⟩

theorem run_sweep {p : JobRow → Prop} [DecidablePred p] {f : JobRow → JobRow} {keeps}
    {state : JobState} {eventType : String} {payload : JobRow → Dict}
    {guard : JobRow → Except StoreExn Unit} {rank : JobRow → Nat} {u : Unit}
    (type : eventType = "job." ++ state.value)
    (named : ∀ r, namedBy (payload r) "job_id" = some r.id)
    (h : ((orderBy (fun _ => 0) rank (db.jobs.rows.filter fun r => p r)).forM fun row => do
      lift (guard row)
      let _ ← updateJob row.id f keeps
      s.appendAudit o eventType (payload row)).run db = .ok (u, db')) (j : String) :
    db'.life j = (db.life j).rewrite p f [state] := by
  obtain ⟨current, nodup, chosen⟩ := selected db p (fun _ => 0) rank
  have each : ∀ (x : JobRow) (t t' : DB) (u : Unit), (t.life x.id).row = some x →
      (do lift (guard x)
          let _ ← updateJob x.id f keeps
          s.appendAudit o eventType (payload x) : StoreTxn Unit).run t = .ok (u, t') →
      ∀ j, t'.life j = if j = x.id then ⟨(t.life j).row.map f, (t.life j).events ++ [state]⟩
        else t.life j := by
    intro x t t' u _ round j
    simp only [run_bind, run_lift, run_updateJob] at round
    obtain ⟨_, _, ⟨-, rfl⟩, _, _, ⟨-, rfl⟩, append⟩ := round
    exact run_move state type (named x) append j
  have whole := run_forM_pointwise DB.life JobRow.id
    (P := fun r l => l.row = some r)
    (g := fun l => ⟨l.row.map f, l.events ++ [state]⟩) _ nodup each current h j
  rw [whole]
  unfold Life.rewrite
  cases found : db.job? j with
  | none =>
    have out : ¬ ∃ r, db.job? j = some r ∧ p r := by simp [found]
    rw [if_neg (mt (chosen j).mp out)]
    simp [DB.life, found]
  | some r =>
    by_cases hp : p r
    · rw [if_pos ((chosen j).mpr ⟨r, found, hp⟩)]
      simp [DB.life, found, hp]
    · have out : ¬ ∃ r, db.job? j = some r ∧ p r := by simp [found, hp]
      rw [if_neg (mt (chosen j).mp out)]
      simp [DB.life, found, hp]

theorem expireLeases_spec {n : Nat} (h : (s.expireLeases o).run db = .ok (n, db')) (j : String) :
    db'.life j = (db.life j).rewrite (JobRow.Lapsed o) (JobRow.lapse o) [.unknownOutcome] := by
  simp only [Store.expireLeases, run_bind, run_read, run_pure] at h
  obtain ⟨_, _, ⟨rfl, rfl⟩, u, _, loop, -, rfl⟩ := h
  exact run_sweep (by decide) (fun _ => namedBy_cons ..) loop j

theorem expireStaleQueued_spec {ttlSeconds : Int} {n : Nat}
    (h : (s.expireStaleQueued o ttlSeconds).run db = .ok (n, db')) (j : String) :
    db'.life j =
      (db.life j).rewrite (JobRow.Stale o ttlSeconds) (JobRow.expire o) [.expired] := by
  simp only [Store.expireStaleQueued, run_bind, run_read, run_pure] at h
  obtain ⟨_, _, ⟨rfl, rfl⟩, u, _, loop, -, rfl⟩ := h
  exact run_sweep (by decide) (fun _ => namedBy_cons ..) loop j

theorem claimReconcileCandidates_spec {maxAttempts limit : Nat} {v : List JobView}
    (h : (s.claimReconcileCandidates o maxAttempts limit).run db = .ok (v, db')) :
    ∃ rows : List JobRow, (∀ r ∈ rows, db.job? r.id = some r ∧ r.state = .unknownOutcome) ∧
      v = rows.map JobRow.view ∧ ∀ j, db'.life j = if j ∈ rows.map JobRow.id then
        ⟨(db.job? j).map JobRow.attempt, db.jobEvents j⟩ else db.life j := by
  simp only [Store.claimReconcileCandidates, run_bind, run_read, run_pure] at h
  obtain ⟨_, _, ⟨rfl, rfl⟩, u, _, loop, rfl, rfl⟩ := h
  rename_i db
  obtain ⟨current, nodup, chosen⟩ := selected db (fun r => r.state = .unknownOutcome)
    JobRow.updatedAt fun r => o.rank r.id
  have sub := (List.filter_sublist
      (p := fun r : JobRow => decide (r.reconcileAttempts < maxAttempts))
    (l := (orderBy JobRow.updatedAt (fun r => o.rank r.id)
      (db.jobs.rows.filter fun r => r.state = .unknownOutcome)).take (min limit 1000))).trans
    (List.take_sublist ..)
  refine ⟨_, fun r member => ?_, rfl, fun j => ?_⟩
  · have member := sub.mem member
    simp only [mem_orderBy, List.mem_filter, decide_eq_true_eq] at member
    exact ⟨job?_of_mem member.1, member.2⟩
  · refine run_forM_pointwise DB.life JobRow.id
      (P := fun r l => l.row = some r) (g := fun l => ⟨l.row.map JobRow.attempt, l.events⟩) _
      ((sub.map JobRow.id).nodup nodup) ?_ (fun x hx => current x (sub.mem hx)) loop j
    intro x t t' u _ round j
    simp only [run_bind, run_updateJob] at round
    obtain ⟨_, _, ⟨-, rfl⟩, round⟩ := round
    have bumped : (t.updateJob x.id JobRow.attempt JobRow.attempt_identity).life j =
        if j = x.id then ⟨(t.life j).row.map JobRow.attempt, (t.life j).events⟩
        else t.life j := by
      rw [DB.life, DB.job?_updateJob]
      by_cases same : j = x.id <;> simp [same, DB.life]
    split at round
    · rw [(run_appendAudit round).life_foreign (by decide)]
      exact bumped
    · obtain ⟨-, rfl⟩ := run_pure.mp round
      exact bumped

/-- Where all jobs of unknown outcome fit under the limit, those within the budget are chosen. -/
theorem claimReconcileCandidates_complete {maxAttempts limit : Nat} {v : List JobView}
    (h : (s.claimReconcileCandidates o maxAttempts limit).run db = .ok (v, db'))
    (room : (db.jobs.rows.filter fun r => r.state = .unknownOutcome).length ≤ min limit 1000)
    {j : String} {row : JobRow} (here : db.job? j = some row)
    (unknown : row.state = .unknownOutcome)
    (budget : row.reconcileAttempts < maxAttempts) : row.view ∈ v := by
  simp only [Store.claimReconcileCandidates, run_bind, run_read, run_pure] at h
  obtain ⟨_, _, ⟨rfl, rfl⟩, u, db₁, -, rfl, -⟩ := h
  rename_i db
  have all : (orderBy JobRow.updatedAt (fun r => o.rank r.id)
      (db.jobs.rows.filter fun r => r.state = .unknownOutcome)).length = _ :=
    (orderBy_perm _).length_eq
  refine List.mem_map_of_mem (List.mem_filter.mpr ⟨?_, by simpa using budget⟩)
  rw [List.take_of_length_le (all.trans_le room), mem_orderBy, List.mem_filter]
  exact ⟨(job?_mem.mp here).1, by simpa using unknown⟩

end
end Deckhand
