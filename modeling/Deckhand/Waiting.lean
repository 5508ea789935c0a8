import Deckhand.Fencing

namespace Deckhand
open Lib

def claimedId : BrokerEvent → Option String
  | ⟨_, .store (.claimNextJob ..), _, _, .ok (some claimed), _⟩ => some claimed.job.id
  | _ => none

def DB.queued (db : DB) : List JobRow := db.jobs.rows.filter fun r => r.state = .queued

/-- The waiting jobs, other than `j`, with a stamp that is no later. -/
def DB.ahead (db : DB) (j : String) (stamp : Timestamp) : List JobRow :=
  db.queued.filter fun r => r.id ≠ j ∧ r.createdAt ≤ stamp

/-- The jobs that were not there before, with a stamp that is no later. -/
def DB.slipped (db before : DB) (stamp : Timestamp) : List JobRow :=
  db.jobs.rows.filter fun r => (before.job? r.id).isNone ∧ r.createdAt ≤ stamp

theorem claimedId_some {e : BrokerEvent} {k : String} (h : claimedId e = some k) :
    ∃ workerId leaseSeconds leaseFor claimed,
      e.Answered (.store (.claimNextJob workerId leaseSeconds leaseFor)) (.ok (some claimed)) ∧
        claimed.job.id = k ∧ claimToken k e = some claimed.leaseToken := by
  unfold claimedId at h
  split at h
  · rename_i workerId leaseSeconds leaseFor _ _ claimed _
    exact ⟨workerId, leaseSeconds, leaseFor, claimed, .mk .., Option.some.inj h,
      if_pos (Option.some.inj h)⟩
  · cases h

theorem tenure_free {db : DB} {j : String} {row : JobRow} (here : db.job? j = some row)
    (free : tenure (db.job? j) = .free) : row.state = .queued := by
  by_contra claimed
  rw [here, tenure_claimed claimed] at free
  cases h : row.leaseToken <;> simp [h] at free

section Run
variable {rt : Runtime} {env : Environment} {started : Nat → Option Client} {log : BrokerLog}
  {db : DB}

theorem free_before {a b : BrokerLog} {e : BrokerEvent} {j : String}
    (run : rt.Run env started (a ++ e :: b) db) (free : tenure (db.job? j) = .free) :
    tenure (e.post.job? j) = .free := by
  by_contra claimed
  have steps := run_steps run j
  refine run.trace.split.2.2.stable (P := fun db => tenure (db.job? j) ≠ .free)
    (fun g among _ => (steps g ?_).never_free) claimed free
  simp [among]

theorem free_at {a b : BrokerLog} {e : BrokerEvent} {j : String}
    (run : rt.Run env started (a ++ e :: b) db) (free : tenure (db.job? j) = .free) :
    tenure (e.pre.job? j) = .free := by
  by_contra claimed
  exact (run_steps run j e (by simp)).never_free claimed (free_before run free)

theorem claimed_nodup (run : rt.Run env started log db) : (log.filterMap claimedId).Nodup := by
  rw [List.nodup_iff_count_le_one]
  intro k
  have once := (run_tenure run k).at_most_once
  suffices counted : (log.filterMap claimedId).count k = (claims k log).length from counted ▸ once
  clear once run
  induction log with
  | nil => rfl
  | cons e log ih =>
    have single : (claimedId e).toList.count k = (claimToken k e).toList.length := by
      cases claimed : claimedId e with
      | none =>
        cases token : claimToken k e with
        | none => rfl
        | some t =>
          obtain ⟨_, _, _, c, answered, same, -⟩ := claimToken_some token
          cases answered
          cases claimed
      | some j =>
        obtain ⟨_, _, _, c, answered, rfl, token⟩ := claimedId_some claimed
        rw [claimToken_claim answered]
        by_cases same : c.job.id = k
        · simp [same]
        · simp [same]
    have cons : ∀ {α β : Type} (f : α → Option β) (x : α) (xs : List α),
        (x :: xs).filterMap f = (f x).toList ++ xs.filterMap f := by
      intro α β f x xs
      cases h : f x <;> simp [h]
    rw [claims, cons, cons, List.count_append, List.length_append, single, ih]
    rfl

/-- A job that is claimed while another waits is no younger, and it waited before or came in
since. -/
theorem claimed_ahead {a b : BrokerLog} {e f : BrokerEvent} {j k : String} {row : JobRow}
    (run : rt.Run env started (a ++ e :: b) db) (there : (e.post.job? j).isSome = true)
    (here : db.job? j = some row) (waits : row.state = .queued) (member : f ∈ b)
    (claimed : claimedId f = some k) :
    ∃ other, db.job? k = some other ∧ other.createdAt ≤ row.createdAt ∧
      (k ∈ (e.post.ahead j row.createdAt).map JobRow.id ∨
        k ∈ (db.slipped e.post row.createdAt).map JobRow.id) := by
  obtain ⟨x, y, rfl⟩ := List.append_of_mem member
  have whole : a ++ e :: (x ++ f :: y) = (a ++ e :: x) ++ f :: y := by simp
  have run' := whole ▸ run
  obtain ⟨_, _, _, c, answered, rfl, token⟩ := claimedId_some claimed
  obtain ⟨o, ran⟩ := valid_store run'.valid answered
  obtain ⟨first, current, claimable, oldest, same⟩ : ∃ first, f.pre.job? first.id = some first ∧
      first.Claimable o ∧ (∀ r ∈ f.pre.jobs.rows, r.Claimable o → first.createdAt ≤ r.createdAt) ∧
      c.job.id = first.id := by
    rcases claimNextJob_chosen (Txn.atomically_ok ran) with
      ⟨nothing, -⟩ | ⟨first, seconds, -, current, claimable, oldest, answer, -⟩
    · cases nothing
    · cases answer
      exact ⟨first, current, claimable, oldest, rfl⟩
  rw [same] at token ⊢
  have free : tenure (db.job? j) = .free := by rw [here, tenure_queued waits]
  -- the one that waits could have been claimed, too
  have younger : first.createdAt ≤ row.createdAt := by
    obtain ⟨row₀, now⟩ := Option.isSome_iff_exists.mp there
    obtain ⟨row₁, seen, -⟩ := row_persists run'.until.trace.split.2.2 now
    obtain ⟨row₂, later, kept⟩ := row_persists (Trace.append (.snoc [] f .nil run'.valid)
      run'.trace.split.2.2) seen
    obtain rfl : row = row₂ := Option.some.inj (here.symm.trans later)
    have queued := tenure_free seen (free_at run' free)
    have unleased := ((run_shaped run'.until j row₁ seen).queued queued).2.1
    have stamp : row₁.createdAt = row.createdAt := by
      simp only [JobRow.identity, Prod.mk.injEq] at kept
      exact kept.2.2.2.2.2.symm
    rw [← stamp]
    exact oldest row₁ (job?_mem.mp seen).1 ⟨queued, by simp [unleased]⟩
  obtain ⟨other, final, kept⟩ := row_persists (Trace.append (.snoc [] f .nil run'.valid)
    run'.trace.split.2.2) current
  have stamp : other.createdAt = first.createdAt := by
    simp only [JobRow.identity, Prod.mk.injEq] at kept
    exact kept.2.2.2.2.2
  refine ⟨other, final, stamp ▸ younger, ?_⟩
  cases before : e.post.job? first.id with
  | none =>
    refine .inr (List.mem_map.mpr ⟨other, ?_, (job?_mem.mp final).2⟩)
    rw [DB.slipped, List.mem_filter]
    refine ⟨(job?_mem.mp final).1, ?_⟩
    simp [(job?_mem.mp final).2, before, stamp, younger]
  | some early =>
    refine .inl (List.mem_map.mpr ⟨early, ?_, (job?_mem.mp before).2⟩)
    have free' : tenure (f.pre.job? first.id) = .free := by rw [current, tenure_queued claimable.1]
    have queued := tenure_free before (free_before run'.until free')
    obtain ⟨row₁, seen, same'⟩ := row_persists run'.until.trace.split.2.2 before
    obtain rfl : first = row₁ := Option.some.inj (current.symm.trans seen)
    have stamp' : first.createdAt = early.createdAt := by
      simp only [JobRow.identity, Prod.mk.injEq] at same'
      exact same'.2.2.2.2.2
    have apart : early.id ≠ j := by
      rintro rfl
      rw [(job?_mem.mp before).2] at free
      have step := run_steps run' first.id f (by simp)
      rw [token] at step
      have held := step.free_of_claim.2
      have unheld := free_before run' free
      rw [held] at unheld
      cases unheld
    rw [DB.ahead, DB.queued, List.mem_filter, List.mem_filter]
    refine ⟨⟨(job?_mem.mp before).1, by simp [queued]⟩, ?_⟩
    simp [apart, ← stamp', younger]

end Run

/-- Jobs are served in turn: while a job waits, only jobs with no later stamp are claimed, each of
them once, and no more of them than waited when it had come in, and came in since with such a
stamp. -/
theorem served_in_turn (rt : Runtime) (env : Environment) (c : BrokerConfig)
    (h : rt.Reachable env c) (a b : BrokerLog) (e : BrokerEvent) (whole : c.log = a ++ e :: b)
    (j : String) (row : JobRow) (there : (e.post.job? j).isSome = true)
    (here : c.state.job? j = some row) (waits : row.state = .queued) :
    (∀ k ∈ b.filterMap claimedId, ∃ other, c.state.job? k = some other ∧
      other.createdAt ≤ row.createdAt) ∧
    (b.filterMap claimedId).Nodup ∧
    (b.filterMap claimedId).length ≤ (e.post.ahead j row.createdAt).length +
      (c.state.slipped e.post row.createdAt).length := by
  have run := whole ▸ reachable_run h
  have nodup : (b.filterMap claimedId).Nodup := by
    have all := claimed_nodup run
    rw [List.filterMap_append, List.filterMap_cons] at all
    split at all
    · exact (List.nodup_append.mp all).2.1
    · exact (List.nodup_cons.mp (List.nodup_append.mp all).2.1).2
  have each : ∀ k ∈ b.filterMap claimedId, ∃ other, c.state.job? k = some other ∧
      other.createdAt ≤ row.createdAt ∧
      (k ∈ (e.post.ahead j row.createdAt).map JobRow.id ∨
        k ∈ (c.state.slipped e.post row.createdAt).map JobRow.id) := by
    intro k member
    obtain ⟨f, among, claimed⟩ := List.mem_filterMap.mp member
    exact claimed_ahead run there here waits among claimed
  refine ⟨fun k member => ?_, nodup, ?_⟩
  · obtain ⟨other, final, stamp, -⟩ := each k member
    exact ⟨other, final, stamp⟩
  · have within : b.filterMap claimedId ⊆ (e.post.ahead j row.createdAt).map JobRow.id ++
        (c.state.slipped e.post row.createdAt).map JobRow.id := by
      intro k member
      obtain ⟨_, -, -, place⟩ := each k member
      exact List.mem_append.mpr place
    simpa using (List.subperm_of_subset nodup within).length_le

namespace Sample

/-- Three jobs come in, and the first one is claimed. -/
def queueing : List Turn :=
  [.start (.createJob (request keyA) subject), .store 0 (oracle 1 "a"),
    .start (.createJob (request keyB) subject), .store 1 (oracle 2 "b"),
    .start (.createJob (request keyC) subject), .store 2 (oracle 3 "c"),
    .start (.claimNextJob "w" 30 none), .store 3 (oracle 4 "d")]

end Sample

open Sample in
theorem served_in_turn_queueing : ∃ c a e b row, (runtime .none).played queueing = some c ∧
    c.log = a ++ e :: b ∧ c.state.job? "job_b" = some row ∧ row.state = .queued ∧
    b.filterMap claimedId = ["job_a"] ∧ (e.post.ahead "job_b" row.createdAt).length = 1 ∧
    c.state.slipped e.post row.createdAt = [] ∧
    (b.filterMap claimedId).length ≤ (e.post.ahead "job_b" row.createdAt).length +
      (c.state.slipped e.post row.createdAt).length := by
  have outcome : ((runtime .none).played queueing).map (fun c =>
      (c.log.map fun e => (claimedId e, (e.post.job? "job_b").isSome,
          (e.post.ahead "job_b" 2000000).length, (c.state.slipped e.post 2000000).length),
        (c.state.job? "job_b").any fun row => row.state = .queued ∧ row.createdAt = 2000000)) =
      some ([(none, false, 1, 1), (none, true, 1, 0), (none, true, 1, 0),
        (some "job_a", true, 0, 0)], true) := by decide +kernel
  obtain ⟨c, played, same⟩ := Option.map_eq_some_iff.mp outcome
  obtain ⟨calls, row⟩ := Prod.mk.inj same
  obtain ⟨row, here, shape⟩ := (Option.any_eq_true _ _).mp row
  obtain ⟨waits, stamp⟩ := of_decide_eq_true shape
  obtain ⟨x, rest, log, -, calls⟩ := List.map_eq_cons_iff.mp calls
  obtain ⟨e, b, rfl, facts, calls⟩ := List.map_eq_cons_iff.mp calls
  simp only [Prod.mk.injEq] at facts
  obtain ⟨-, there, ahead, slipped⟩ := facts
  have claimed : b.filterMap claimedId = ["job_a"] := by
    have ids := congrArg (List.filterMap Prod.fst) calls
    simpa [List.filterMap_map, Function.comp_def] using ids
  have turn := served_in_turn (runtime .none) .any c
    (played_reachable (allowed_any queueing) played)
    [x] b e log "job_b" row there here waits
  rw [← stamp] at ahead slipped
  exact ⟨c, [x], e, b, row, played, log, here, waits, claimed, ahead,
    List.eq_nil_of_length_eq_zero slipped, turn.2.2⟩

end Deckhand
