import Mathlib.Data.List.TakeWhile
import Deckhand.Store.History
import Deckhand.Store.Progress

/-! Which jobs of unknown outcome a reconciler gets to see: the query's limit is taken before
the jobs that used up their budget are left out. -/
namespace Deckhand
open Lib Lib.Txn StoreTxn

/-- The jobs of unknown outcome in the order of the query. -/
def reconcileQueue (o : Oracle) (db : DB) : List JobRow :=
  orderBy JobRow.updatedAt (fun r => o.rank r.id)
    (db.jobs.rows.filter fun r => r.state = .unknownOutcome)

/-- How many jobs that used up their budget stand before the first that has not. -/
def parkedAhead (o : Oracle) (maxAttempts : Nat) (db : DB) : Nat :=
  ((reconcileQueue o db).takeWhile fun r => maxAttempts ≤ r.reconcileAttempts).length

def JobRow.Live (maxAttempts : Nat) (r : JobRow) : Prop :=
  r.state = .unknownOutcome ∧ r.reconcileAttempts < maxAttempts

section
variable {s : Store} {o : Oracle} {maxAttempts limit : Nat} {db db' : DB} {jobs : List JobView}

theorem mem_reconcileQueue {r : JobRow} :
    r ∈ reconcileQueue o db ↔ r ∈ db.jobs.rows ∧ r.state = .unknownOutcome := by
  simp [reconcileQueue]

theorem claimReconcileCandidates_answer
    (h : (StoreOp.claimReconcileCandidates maxAttempts limit).run s o db = (.ok jobs, db')) :
    jobs = (((reconcileQueue o db).take (min limit 1000)).filter fun r =>
      r.reconcileAttempts < maxAttempts).map JobRow.view := by
  have h := atomically_ok h
  simp only [Store.claimReconcileCandidates, run_bind, run_read, run_pure] at h
  obtain ⟨_, _, ⟨rfl, rfl⟩, _, _, -, answer, -⟩ := h
  exact answer

/-- The first `n` elements hold one that `p` rejects just if fewer than `n` it accepts come
first. -/
theorem take_filter_nonempty {α : Type} {p : α → Bool} {l : List α} (n : Nat)
    (some : ∃ x ∈ l, p x = false) :
    (l.take n).filter (fun x => !p x) ≠ [] ↔ (l.takeWhile p).length < n := by
  induction l generalizing n with
  | nil =>
    obtain ⟨x, member, -⟩ := some
    cases member
  | cons y l ih =>
    cases n with
    | zero => simp
    | succ n =>
      cases accepted : p y with
      | false => simp [accepted]
      | true =>
        have later : ∃ x ∈ l, p x = false := by
          obtain ⟨x, member, rejected⟩ := some
          rcases List.mem_cons.mp member with rfl | member
          · cases accepted.symm.trans rejected
          · exact ⟨x, member, rejected⟩
        simpa [accepted] using ih n later

end

/-- A reconciler is given a job, where one is left within the budget, just if fewer than the
limit of parked jobs stand before it. -/
theorem live_job_claimed_iff (s : Store) (o : Oracle) (maxAttempts : Nat) (db db' : DB)
    (jobs : List JobView)
    (h : (StoreOp.claimReconcileCandidates maxAttempts 100).run s o db = (.ok jobs, db'))
    (live : ∃ j row, db.job? j = some row ∧ row.Live maxAttempts) :
    jobs ≠ [] ↔ parkedAhead o maxAttempts db < 100 := by
  have rejects : ∃ x ∈ reconcileQueue o db, decide (maxAttempts ≤ x.reconcileAttempts) = false := by
    obtain ⟨j, row, here, unknown, budget⟩ := live
    refine ⟨row, mem_reconcileQueue.mpr ⟨(job?_mem.mp here).1, unknown⟩, ?_⟩
    simpa using budget
  have counted := take_filter_nonempty 100 rejects
  rw [claimReconcileCandidates_answer h, parkedAhead, ← counted, ne_eq, List.map_eq_nil_iff]
  simp

namespace Sample

theorem text_injective {i k : Nat} (same : toString i = toString k) : i = k := by
  have digits : Nat.toDigits 10 i = Nat.toDigits 10 k := String.ofList_injective same
  rw [← Nat.ofDigitChars_ten_toDigits (n := i), digits, Nat.ofDigitChars_ten_toDigits]

def keyAt (i : Nat) : String := "9b2f64d1-6c0e-4f7a-9d55-" ++ toString (10 ^ 11 + i)

theorem keyAt_injective {i k : Nat} (same : keyAt i = keyAt k) : i = k := by
  have numbers := text_injective ((String.append_right_inj _).mp same)
  omega

def jobId (i : Nat) : String := "job_" ++ toString i

theorem jobId_injective {i k : Nat} (same : jobId i = jobId k) : i = k := by
  have chars := congrArg String.toList same
  rw [jobId, jobId, String.toList_append, String.toList_append] at chars
  exact text_injective (String.toList_injective (List.append_cancel_left chars))

/-- Jobs that workers left in doubt one after the other, and no other jobs. -/
structure Gathered (n : Nat) (db : DB) : Prop where
  reached : ∃ log, Trace store.sem DB.empty log db
  row : ∀ i < n, ∃ row, db.job? (jobId i) = some row ∧ row.idempotencyKey = keyAt i ∧
    row.state = .unknownOutcome ∧ row.updatedAt = i * 1000000
  only : ∀ j row, db.job? j = some row → ∃ i < n, j = jobId i

section
variable {n : Nat} {db : DB}

theorem reached_linked (h : ∃ log, Trace store.sem DB.empty log db) :
    Linked store db.auditEvents.rows :=
  h.elim fun _ run => trace_linked run

theorem reached_step {db' : DB} (h : ∃ log, Trace store.sem DB.empty log db) (op : StoreOp)
    {o : Oracle} {r : Except StoreExn op.Value} (valid : op.run store o db = (r, db')) :
    ∃ log, Trace store.sem DB.empty log db' := by
  obtain ⟨log, run⟩ := h
  exact ⟨_, .snoc log ⟨0, op, db, o, r, db'⟩ run valid⟩

theorem Gathered.of_mem (h : Gathered n db) {r : JobRow} (member : r ∈ db.jobs.rows) :
    ∃ i < n, r.id = jobId i ∧ r.idempotencyKey = keyAt i ∧ r.state = .unknownOutcome ∧
      r.updatedAt = i * 1000000 := by
  obtain ⟨i, bound, same⟩ := h.only r.id r (job?_of_mem member)
  obtain ⟨row, here, key, unknown, time⟩ := h.row i bound
  obtain rfl : r = row := by
    rw [← same, job?_of_mem member] at here
    exact Option.some.inj here
  exact ⟨i, bound, same, key, unknown, time⟩

theorem Gathered.length (h : Gathered n db) :
    (db.jobs.rows.filter fun r => r.state = .unknownOutcome).length = n := by
  have all : (db.jobs.rows.filter fun r => r.state = .unknownOutcome) = db.jobs.rows := by
    refine List.filter_eq_self.mpr fun r member => ?_
    obtain ⟨_, _, _, _, unknown, _⟩ := h.of_mem member
    simpa using unknown
  have ids : (db.jobs.rows.map JobRow.id).Perm ((List.range n).map jobId) := by
    refine (List.perm_ext_iff_of_nodup db.jobs.nodup
      (List.nodup_range.map fun _ _ => jobId_injective)).mpr fun j => ?_
    simp only [List.mem_map, List.mem_range]
    constructor
    · rintro ⟨r, member, rfl⟩
      obtain ⟨i, bound, same, _⟩ := h.of_mem member
      exact ⟨i, bound, same.symm⟩
    · rintro ⟨i, bound, rfl⟩
      obtain ⟨row, here, _⟩ := h.row i bound
      exact ⟨row, (job?_mem.mp here).1, (job?_mem.mp here).2⟩
  rw [all]
  simpa using ids.length_eq

theorem jobId_apart {i : Nat} (bound : i < n) : jobId i ≠ jobId n := by
  intro same
  have := jobId_injective same
  omega

/-- The next job is there as the given row, and the jobs there were are as they were. -/
structure Joined (n : Nat) (db db' : DB) (row : JobRow) : Prop where
  reached : ∃ log, Trace store.sem DB.empty log db'
  here : db'.job? (jobId n) = some row
  others : ∀ j, j ≠ jobId n → db'.job? j = db.job? j

theorem Joined.move {db' db'' : DB} {row row' : JobRow} {events : String → List JobState}
    {o : Oracle} (op : StoreOp) {r : Except StoreExn op.Value} (h : Joined n db db' row)
    (valid : op.run store o db' = (r, db''))
    (life : ∀ j, db''.life j = if j = jobId n then ⟨some row', events j⟩ else db'.life j) :
    Joined n db db'' row' :=
  ⟨reached_step h.reached op valid, congrArg Life.row ((life (jobId n)).trans (if_pos rfl)),
    fun j other => (congrArg Life.row ((life j).trans (if_neg other))).trans (h.others j other)⟩

def newcomer (n : Nat) : JobRow :=
  JobRow.queue store (oracle n (toString n)) (request (keyAt n)) subject

theorem Gathered.submit (h : Gathered n db) : ∃ db', Joined n db db' (newcomer n) := by
  have absent : db.job? (jobId n) = none := by
    cases found : db.job? (jobId n) with
    | none => rfl
    | some row =>
      obtain ⟨i, bound, same⟩ := h.only _ _ found
      exact absurd same.symm (jobId_apart bound)
  have unused : ∀ row ∈ db.jobs.rows, row.idempotencyKey ≠ keyAt n := by
    intro row member taken
    obtain ⟨i, bound, -, key, -⟩ := h.of_mem member
    have := keyAt_injective (key.symm.trans taken)
    omega
  obtain ⟨v, db', run⟩ := createJob_ends (s := store) (o := oracle n (toString n))
    (request (keyAt n)) subject absent unused rfl rfl
    (linked_ready (reached_linked h.reached) _)
  have reached := reached_step h.reached (.createJob (request (keyAt n)) subject)
    (connect_ends (by rfl) run)
  rcases createJob_spec run with ⟨row, member, taken, -⟩ | ⟨-, -, -, life⟩
  · exact absurd taken (unused row member)
  · exact ⟨db', reached, congrArg Life.row ((life (jobId n)).trans (if_pos rfl)),
      fun j other => congrArg Life.row ((life j).trans (if_neg other))⟩

theorem Gathered.claim {db₁ : DB} (h : Gathered n db) (joined : Joined n db db₁ (newcomer n)) :
    ∃ seconds db', Joined n db db' ((newcomer n).claim (oracle n (toString n)) "w" seconds) := by
  obtain ⟨v, db', run⟩ := claimNextJob_ends (s := store) (o := oracle n (toString n)) "w" 30 none
    (linked_ready (reached_linked joined.reached) _)
  rcases claimNextJob_chosen run with ⟨-, -, idle⟩ | ⟨row, seconds, -, here, claimable, -, -, life⟩
  · exact absurd ⟨rfl, by simp [newcomer, JobRow.queue]⟩ (idle _ (job?_mem.mp joined.here).1)
  have newest : row.id = jobId n := by
    refine Classical.byContradiction fun other => ?_
    rw [joined.others row.id other] at here
    obtain ⟨_, _, _, _, unknown, _⟩ := h.of_mem (job?_mem.mp here).1
    cases claimable.1.symm.trans unknown
  obtain rfl : row = newcomer n := by
    rw [newest, joined.here] at here
    exact (Option.some.inj here).symm
  exact ⟨seconds, db', joined.move (.claimNextJob "w" 30 none) (connect_ends (by rfl) run)
    life⟩

theorem Joined.doubt {db₂ : DB} {row : JobRow} (joined : Joined n db db₂ row)
    (running : row.state = .running) (held : row.leaseToken = some (toString n)) :
    ∃ db', Joined n db db' (row.transition (oracle n (toString n)) .unknownOutcome none none) := by
  have allowed : JobState.unknownOutcome ∈ allowedTransitions row.state := by
    rw [running]
    decide
  obtain ⟨v, db', run⟩ := transitionJob_ends (s := store) (o := oracle n (toString n))
    .unknownOutcome none none (some (toString n)) none joined.here (by simp [held]) (by simp)
      allowed
    rfl (linked_ready (reached_linked joined.reached) _)
  obtain ⟨row', found, -, -, -, -, -, life⟩ := transitionJob_spec run
  obtain rfl := Option.some.inj (joined.here.symm.trans found)
  exact ⟨db', joined.move (.transitionJob (jobId n) .unknownOutcome none none
    (some (toString n)) none) (connect_ends (by rfl) run) life⟩

theorem Gathered.join (h : Gathered n db) :
    ∃ db', Gathered (n + 1) db' ∧ (∀ i < n, db'.job? (jobId i) = db.job? (jobId i)) ∧
      ∃ row, db'.job? (jobId n) = some row ∧ row.Live 1 := by
  obtain ⟨db₁, queued⟩ := h.submit
  obtain ⟨seconds, db₂, claimed⟩ := h.claim queued
  obtain ⟨db₃, joined⟩ := claimed.doubt rfl rfl
  refine ⟨db₃, ⟨joined.reached, fun i bound => ?_, fun j row found => ?_⟩,
    fun i bound => joined.others _ (jobId_apart bound), _, joined.here, rfl, Nat.zero_lt_one⟩
  · rcases Nat.lt_succ_iff_lt_or_eq.mp bound with before | rfl
    · obtain ⟨row, here, facts⟩ := h.row i before
      exact ⟨row, (joined.others _ (jobId_apart before)).trans here, facts⟩
    · exact ⟨_, joined.here, rfl, rfl, rfl⟩
  · by_cases same : j = jobId n
    · exact ⟨n, Nat.lt_succ_self n, same⟩
    · obtain ⟨i, bound, at_i⟩ := h.only j row ((joined.others j same).symm.trans found)
      exact ⟨i, Nat.lt_succ_of_lt bound, at_i⟩

theorem gathered (n : Nat) : ∃ db, Gathered n db := by
  induction n with
  | zero =>
    refine ⟨DB.empty, ⟨⟨[], .nil⟩, by simp, fun j row found => ?_⟩⟩
    cases found
  | succ n ih =>
    obtain ⟨db, before⟩ := ih
    obtain ⟨db', after, -⟩ := before.join
    exact ⟨db', after⟩

/-- One selection with a budget of one charges them all, as long as they fit under the limit. -/
theorem Gathered.charge (h : Gathered n db) (room : n ≤ 100) :
    ∃ db', Gathered n db' ∧ ∀ i < n, ∀ row, db'.job? (jobId i) = some row → ¬ row.Live 1 := by
  obtain ⟨v, db', run⟩ := claimReconcileCandidates_ends (s := store) (o := oracle n "sweep") 1 100
    (fun t linked => linked_ready linked _) (reached_linked h.reached)
  have reached := reached_step h.reached (.claimReconcileCandidates 1 100)
    (connect_ends (by rfl) run)
  have fits : (db.jobs.rows.filter fun r => r.state = .unknownOutcome).length ≤ min 100 1000 :=
    h.length.trans_le room
  have chosen : ∀ {j : String} {row : JobRow}, db.job? j = some row → row.Live 1 → row.view ∈ v :=
    fun here live => claimReconcileCandidates_complete run fits here live.1 live.2
  obtain ⟨rows, -, rfl, life⟩ := claimReconcileCandidates_spec run
  have job : ∀ j, db'.job? j =
      if j ∈ rows.map JobRow.id then (db.job? j).map JobRow.attempt else db.job? j := by
    intro j
    have row := congrArg Life.row (life j)
    split at row <;> rename_i member
    · rw [if_pos member]
      exact row
    · rw [if_neg member]
      exact row
  refine ⟨db', ⟨reached, fun i bound => ?_, fun j row found => ?_⟩, fun i bound row found live =>
      ?_⟩
  · obtain ⟨row, here, facts⟩ := h.row i bound
    rw [job, here]
    split
    · exact ⟨row.attempt, rfl, facts⟩
    · exact ⟨row, rfl, facts⟩
  · rw [job] at found
    split at found
    · obtain ⟨row', here, -⟩ := Option.map_eq_some_iff.mp found
      exact h.only j row' here
    · exact h.only j row found
  · obtain ⟨row', here, -, unknown, -⟩ := h.row i bound
    rw [job, here] at found
    split at found
    · obtain rfl := Option.some.inj found
      exact absurd live.2 (by simp [JobRow.attempt])
    · rename_i out
      obtain rfl := Option.some.inj found
      obtain ⟨r, member, view⟩ := List.mem_map.mp (chosen here live)
      refine out (List.mem_map.mpr ⟨r, member, ?_⟩)
      exact (congrArg JobView.id view).trans (job?_mem.mp here).2

theorem Gathered.starve (h : Gathered 101 db)
    (parked : ∀ i < 100, ∀ row, db.job? (jobId i) = some row → ¬ row.Live 1) (o : Oracle) :
    (((reconcileQueue o db).take (min 100 1000)).filter fun r => r.reconcileAttempts < 1) = [] := by
  have length : (reconcileQueue o db).length = 101 :=
    (orderBy_perm _).length_eq.trans h.length
  have sorted : (reconcileQueue o db).Pairwise fun a b => a.updatedAt ≤ b.updatedAt :=
    orderBy_pairwise _ _ _
  have nodup : ((reconcileQueue o db).map JobRow.id).Nodup := (selected db _ _ _).2.1
  refine List.filter_eq_nil_iff.mpr fun r member live => ?_
  obtain ⟨k, bound, rfl⟩ := List.mem_take_iff_getElem.mp member
  have within : k < 100 := by omega
  have here := List.getElem_mem (l := reconcileQueue o db) (n := k) (by omega)
  have last := List.getElem_mem (l := reconcileQueue o db) (n := 100) (by omega)
  have live_id : (reconcileQueue o db)[k].id = jobId 100 := by
    obtain ⟨i, below, id, -, unknown, time⟩ := h.of_mem (mem_reconcileQueue.mp here).1
    have : ¬ i < 100 := fun parked_i => parked i parked_i _
      (id ▸ job?_of_mem (mem_reconcileQueue.mp here).1) ⟨unknown, by simpa using live⟩
    obtain rfl : i = 100 := by omega
    exact id
  have last_id : (reconcileQueue o db)[100].id = jobId 100 := by
    have before := List.pairwise_iff_getElem.mp sorted k 100 (by omega) (by omega) within
    obtain ⟨i, below, id, -, -, time⟩ := h.of_mem (mem_reconcileQueue.mp here).1
    obtain ⟨i', below', id', -, -, time'⟩ := h.of_mem (mem_reconcileQueue.mp last).1
    obtain rfl : i = 100 := jobId_injective (id.symm.trans live_id)
    rw [time, time'] at before
    obtain rfl : i' = 100 := by
      have : (100 : Int) * 1000000 ≤ i' * 1000000 := before
      omega
    exact id'
  have apart := List.pairwise_iff_getElem.mp (List.pairwise_map.mp nodup) k 100 (by omega)
    (by omega) within
  exact apart (live_id.trans last_id.symm)

end

end Sample

open Sample in
/-- A hundred jobs whose budget of one is spent, and a live one that no reconciler gets. -/
theorem live_job_starved : ∃ log db, Trace store.sem DB.empty log db ∧
    (∃ j row, db.job? j = some row ∧ row.Live 1) ∧
    ∃ db', (StoreOp.claimReconcileCandidates 1 100).run store (oracle 101 "x") db =
      (.ok [], db') := by
  obtain ⟨db₀, before⟩ := gathered 100
  obtain ⟨db₁, charged, spent⟩ := before.charge (le_refl 100)
  obtain ⟨db, whole, kept, live⟩ := charged.join
  obtain ⟨jobs, db', run⟩ := claimReconcileCandidates_ends (s := store) (o := oracle 101 "x") 1 100
    (fun t linked => linked_ready linked _) (reached_linked whole.reached)
  have answered : (StoreOp.claimReconcileCandidates 1 100).run store (oracle 101 "x") db =
    (.ok jobs, db') := connect_ends (by rfl) run
  have nothing : jobs = [] := by
    rw [claimReconcileCandidates_answer answered, whole.starve fun i bound row here =>
      spent i bound row ((kept i bound).symm.trans here)]
    rfl
  obtain ⟨log, reached⟩ := whole.reached
  exact ⟨log, db, reached, ⟨_, live⟩, db', nothing ▸ answered⟩

open Sample in
/-- One parked job fewer, and the live one is taken. -/
theorem live_job_claimed_iff_behind : ∃ db jobs db', Gathered 100 db ∧
    (∀ i < 99, ∀ row, db.job? (jobId i) = some row → ¬ row.Live 1) ∧
    (StoreOp.claimReconcileCandidates 1 100).run store (oracle 101 "x") db = (.ok jobs, db') ∧
    jobs ≠ [] := by
  obtain ⟨db₀, before⟩ := gathered 99
  obtain ⟨db₁, charged, spent⟩ := before.charge (by decide)
  obtain ⟨db, whole, kept, live⟩ := charged.join
  obtain ⟨jobs, db', run⟩ := claimReconcileCandidates_ends (s := store) (o := oracle 101 "x") 1 100
    (fun t linked => linked_ready linked _) (reached_linked whole.reached)
  have answered : (StoreOp.claimReconcileCandidates 1 100).run store (oracle 101 "x") db =
    (.ok jobs, db') := connect_ends (by rfl) run
  have length : (reconcileQueue (oracle 101 "x") db).length = 100 :=
    (orderBy_perm _).length_eq.trans whole.length
  have few : parkedAhead (oracle 101 "x") 1 db < 100 := by
    by_contra all
    obtain ⟨row, here, unknown, budget⟩ := live
    have parked := List.takeWhile_eq_self_iff.mp
      ((List.takeWhile_sublist _).eq_of_length_le (length.trans_le (not_lt.mp all))) row
      (mem_reconcileQueue.mpr ⟨(job?_mem.mp here).1, unknown⟩)
    simp only [decide_eq_true_eq] at parked
    omega
  exact ⟨db, jobs, db', whole, fun i bound row here =>
      spent i bound row ((kept i bound).symm.trans here),
    answered, (live_job_claimed_iff store (oracle 101 "x") 1 db db' jobs answered ⟨_, live⟩).mpr
      few⟩

end Deckhand
