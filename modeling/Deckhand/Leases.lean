import Deckhand.Fencing

namespace Deckhand
open Lib

/-- A reconciler that has attempts left for the job, and room for all such jobs, selects it. -/
def Candidate (s : Store) (db : DB) (row : JobRow) : Prop :=
  ∀ o maxAttempts limit jobs db', row.reconcileAttempts < maxAttempts →
    (db.jobs.rows.filter fun r => r.state = .unknownOutcome).length ≤ min limit 1000 →
    (StoreOp.claimReconcileCandidates maxAttempts limit).run s o db = (.ok jobs, db') →
    row.view ∈ jobs

/-- Every job that runs or is verified has a lease, and once the lease is past an expiry sweep
leaves the job for the reconciler. -/
def Recoverable (s : Store) (db : DB) : Prop :=
  ∀ j row, db.job? j = some row → row.state = .running ∨ row.state = .verifying →
    ∃ expiry, row.leaseExpiresAt = some expiry ∧ ∀ o n db', expiry < o.now →
      StoreOp.expireLeases.run s o db = (.ok n, db') →
      ∃ row', db'.job? j = some row' ∧ row'.state = .unknownOutcome ∧ Candidate s db' row'

/-- A reconciler's transition to VERIFYING took effect. -/
def Reenters (started : Nat → Option Client) (e : BrokerEvent) : Prop :=
  ∃ maxAttempts j result error fence expectedState view,
    started e.caller = some (.reconciler maxAttempts) ∧
    e.Answered (.store (.transitionJob j .verifying result error fence expectedState)) (.ok view)

/-- The lease is in the row, or it is not. -/
def JobRow.Leased (r : JobRow) : Prop :=
  r.state = .running ∨ r.state = .verifying → r.leaseExpiresAt.isSome = true

theorem sweep_recovers {s : Store} {o : Oracle} {db db' : DB} {n : Nat} {j : String}
    {row : JobRow} {expiry : Timestamp} (swept : StoreOp.expireLeases.run s o db = (.ok n, db'))
    (here : db.job? j = some row) (running : row.state = .running ∨ row.state = .verifying)
    (lease : row.leaseExpiresAt = some expiry) (late : expiry < o.now) :
    ∃ row', db'.job? j = some row' ∧ row'.state = .unknownOutcome ∧ Candidate s db' row' := by
  have lapsed : row.Lapsed o := ⟨running, expiry, lease, late⟩
  have life := congrArg Life.row (expireLeases_spec (Txn.atomically_ok swept) j)
  have here' : (db'.life j).row = some (row.lapse o) := by
    simpa [life_of_row here, Life.rewrite, lapsed] using life
  refine ⟨row.lapse o, here', rfl, fun o' maxAttempts limit jobs db'' budget room chosen => ?_⟩
  exact claimReconcileCandidates_complete (Txn.atomically_ok chosen) room here' rfl budget

theorem recoverable_iff {s : Store} {db : DB} :
    Recoverable s db ↔ ∀ j row, db.job? j = some row → row.Leased := by
  constructor
  · intro recoverable j row here running
    obtain ⟨expiry, lease, -⟩ := recoverable j row here running
    simp [lease]
  · intro leased j row here running
    obtain ⟨expiry, lease⟩ := Option.isSome_iff_exists.mp (leased j row here running)
    exact ⟨expiry, lease, fun o n db' late swept => sweep_recovers swept here running lease late⟩

/-- The token and the time of a lease are set and cleared together. -/
def JobRow.Paired (r : JobRow) : Prop := r.leaseExpiresAt.isSome = r.leaseToken.isSome

section Move
variable {s : Store} {j : String} {e : BrokerEvent} {l l' : Life}

theorem Move.paired (move : Move s j e l l')
    (before : ∀ row, l.row = some row → row.Paired) : ∀ row, l'.row = some row → row.Paired := by
  obtain ⟨_, events'⟩ := l'
  rintro row' ⟨⟩
  cases move with
  | same => exact before _ rfl
  | renewed o leaseToken leaseSeconds row events answered here held running =>
    simp [JobRow.Paired, JobRow.renew, held]
  | transitioned o target result error fence expectedState row events =>
    have paired : row.leaseExpiresAt.isSome = row.leaseToken.isSome := before row rfl
    by_cases verifying : target = .verifying
    · simp [JobRow.Paired, JobRow.transition, verifying, paired]
    · simp [JobRow.Paired, JobRow.transition, verifying]
  | attempted maxAttempts limit row events => exact before row rfl
  | created => rfl
  | claimed => rfl
  | lapsed => rfl
  | expired => rfl

end Move

section Run
variable {rt : Runtime} {env : Environment} {started : Nat → Option Client} {log : BrokerLog}
  {db : DB}

theorem run_paired (run : rt.Run env started log db) (j : String) :
    ∀ row, db.job? j = some row → row.Paired :=
  run.trace.stable (P := fun db => ∀ row, db.job? j = some row → row.Paired)
    (fun _ _ valid before => (moved valid j).paired before) fun _ h => by cases h

theorem reenters_unleased {a b : BrokerLog} {e : BrokerEvent}
    (run : rt.Run env started (a ++ e :: b) db) (reenters : Reenters started e) :
    ∃ j row, e.post.job? j = some row ∧ ¬ row.Leased := by
  obtain ⟨maxAttempts, j, result, error, fence, expectedState, view, origin, answered⟩ := reenters
  obtain ⟨client, started', site⟩ := run_site run
  obtain rfl : client = .reconciler maxAttempts := Option.some.inj (started'.symm.trans origin)
  rw [answered.op_eq] at site
  obtain ⟨before, brief, part, briefed, same, -, -⟩ := reconciler_writer (site_writer site)
  obtain ⟨row, here, stopped⟩ := reconciles_stopped run.until briefed part
  rw [same] at here
  obtain ⟨o, ran⟩ := valid_store run.valid answered
  obtain ⟨row', current, -, -, allowed, -, -, life⟩ := transitionJob_spec (Txn.atomically_ok ran)
  obtain rfl : row = row' := Option.some.inj (here.symm.trans current)
  have entry : ∀ state, state ≠ .running → JobState.verifying ∈ allowedTransitions state →
      state = .unknownOutcome := by
    intro state
    cases state <;> decide
  have unknown := entry row.state stopped.2 allowed
  have token : row.leaseToken.isSome = false := by
    cases held : row.leaseToken with
    | none => rfl
    | some token =>
      have leased := (run_shaped run.until j row here).leased (by simp [held])
      simp [unknown] at leased
  have lease : row.leaseExpiresAt.isSome = false := (run_paired run.until j row here).trans token
  refine ⟨j, row.transition o .verifying result error, ?_, fun leased => ?_⟩
  · exact (congrArg Life.row (life j)).trans (by rw [if_pos rfl])
  · have kept : row.leaseExpiresAt.isSome = true := leased (.inr rfl)
    rw [lease] at kept
    cases kept

theorem run_leased (run : rt.Run env started log db)
    (never : ∀ e ∈ log, ¬ Reenters started e) (j : String) :
    ∀ row, db.job? j = some row → row.Leased := by
  revert never
  refine run_induction (P := fun log db => (∀ e ∈ log, ¬ Reenters started e) →
    ∀ row, db.job? j = some row → row.Leased) (fun _ _ h => by cases h) ?_ run
  intro log e client before valid origin site held never row' here
  have held := held fun f member => never f (List.mem_append_left _ member)
  have shaped := run_shaped before j
  obtain ⟨_, _, move⟩ := moved_row valid j
  generalize e.pre.job? j = r at move held shaped
  rw [here] at move
  cases move with
  | same => exact held row' rfl
  | created => exact fun running => by simp [JobRow.queue] at running
  | claimed => exact fun _ => rfl
  | renewed => exact fun _ => rfl
  | transitioned o target result error fence expectedState row events answered _ holds expected
      allowed =>
    intro running
    have writer := site_writer (answered.op_eq ▸ site)
    obtain rfl : target = .verifying := by
      have targets := writer_target writer
      have running : target = .running ∨ target = .verifying := running
      rcases running with rfl | rfl
      · simp at targets
      · rfl
    cases fence with
    | some token =>
      have leased := (shaped row rfl).leased (by simp [holds token rfl])
      exact leased.2
    | none =>
      refine absurd ?_ (never e (by simp))
      generalize is : JobState.verifying = t at writer
      generalize unfenced : (none : Option String) = f at writer
      cases writer with
      | workerRecord => cases unfenced
      | workerSucceed => cases is
      | workerGiveUp => cases unfenced
      | reconcilerEnter maxAttempts =>
        exact ⟨maxAttempts, _, _, _, _, _, _, origin, answered⟩
      | reconcilerSucceed => cases is
      | reconcilerUnsettled => cases is
      | reconcilerGiveUp => split at is <;> cases is
      | cancellerDequeue => cases is
      | cancellerSucceed => cases is
      | cancellerUnknown => cases is
      | cancellerGiveUp => cases is
  | lapsed => exact fun running => by simp [JobRow.lapse] at running
  | expired => exact fun running => by simp [JobRow.expire] at running
  | attempted maxAttempts limit row => exact fun running => held row rfl running

end Run

/-- Every state that a run visits is recoverable exactly if no reconciler's transition to
VERIFYING took effect in it. -/
theorem recoverable_iff_never_reenters (rt : Runtime) (env : Environment) (c : BrokerConfig)
    (h : rt.Reachable env c) :
    (∀ db ∈ visited .empty c.log, Recoverable rt.store db) ↔
      ∀ e ∈ c.log, ¬ Reenters c.started e := by
  have run := reachable_run h
  constructor
  · intro recoverable e member reenters
    obtain ⟨a, b, whole⟩ := List.append_of_mem member
    rw [whole] at run
    obtain ⟨j, row, here, unleased⟩ := reenters_unleased run reenters
    have visit : e.post ∈ visited .empty c.log :=
      List.mem_cons_of_mem _ (List.mem_map_of_mem member)
    exact unleased (recoverable_iff.mp (recoverable e.post visit) j row here)
  · intro never db visit
    obtain ⟨a, b, whole, part⟩ := run.visit visit
    rw [whole] at never
    exact recoverable_iff.mpr (run_leased part fun e member => never e (by simp [member]))

namespace Sample

/-- A worker and then a reconciler stop in the middle of one job; later the leases are swept. -/
def stranded : List Turn :=
  [.start (.createJob (request keyA) subject), .store 0 (oracle 1 "a"),
    .start (.worker "w"), .store 1 (oracle 2 "b"), .crash 1,
    .start (.reconciler 5), .store 2 (oracle 100 "c"), .store 2 (oracle 101 "d"),
    .store 2 (oracle 102 "e"), .store 2 (oracle 103 "f"), .crash 2,
    .start .expireLeases, .store 3 (oracle 1000000 "g")]

def begun : List Turn :=
  [.start (.createJob (request keyA) subject), .store 0 (oracle 1 "a"),
    .start (.worker "w"), .store 1 (oracle 2 "b")]

end Sample

open Sample in
theorem recoverable_iff_never_reenters_begun : ∃ c, (runtime .none).played begun = some c ∧
    (c.state.job? "job_a").map JobRow.state = some .running ∧
    ∀ db ∈ visited .empty c.log, Recoverable store db := by
  have outcome : ((runtime .none).played begun).map (fun c =>
      ((c.state.job? "job_a").map JobRow.state,
        c.procs.all fun p => !p.1.isReconciler)) =
        some (some .running, true) := by decide +kernel
  obtain ⟨c, played, same⟩ := Option.map_eq_some_iff.mp outcome
  simp only [Prod.mk.injEq, List.all_eq_true] at same
  obtain ⟨running, others⟩ := same
  have leased := recoverable_iff_never_reenters (runtime .none) .any c
    (played_reachable (allowed_any begun) played)
  refine ⟨c, played, running, leased.mpr ?_⟩
  rintro e - ⟨maxAttempts, _, _, _, _, _, _, origin, -⟩
  obtain ⟨p, here, is⟩ := Option.map_eq_some_iff.mp origin
  have other := others p (List.mem_of_getElem? here)
  rw [is] at other
  cases other

open Sample in
/-- A reconciler that stops after its transition leaves a job no sweep picks up. -/
theorem reconciler_strands_job : ∃ c row, (runtime .none).Reachable .any c ∧
    c.state.job? "job_a" = some row ∧ row.state = .verifying ∧ row.leaseExpiresAt = none ∧
    ¬ Recoverable store c.state := by
  have outcome : ((runtime .none).played stranded).map (fun c =>
      (c.state.job? "job_a").map fun row => (row.state, row.leaseExpiresAt)) =
        some (some (.verifying, none)) := by decide +kernel
  obtain ⟨c, played, same⟩ := Option.map_eq_some_iff.mp outcome
  obtain ⟨row, here, columns⟩ := Option.map_eq_some_iff.mp same
  obtain ⟨state, lease⟩ := Prod.mk.inj columns
  refine ⟨c, row, played_reachable (allowed_any stranded) played, here, state, lease, ?_⟩
  intro recoverable
  obtain ⟨expiry, leased, -⟩ := recoverable "job_a" row here (.inr state)
  rw [lease] at leased
  cases leased

end Deckhand
