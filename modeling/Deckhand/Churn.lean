import Deckhand.Lib.Credit
import Deckhand.Store.Budget
import Deckhand.Candidates

namespace Deckhand
open Lib Lib.Prog Lib.Tariff

/-- A call that takes job `j` into VERIFYING again: no worker's, for it has no fence. -/
def Op.enters (j : String) : Op → Bool
  | .store (.transitionJob id .verifying _ _ none _) => id = j
  | _ => false

/-- A job that is handed out as a candidate may enter VERIFYING once for it. -/
def entries (j : String) : Tariff Op.Ret where
  cost op := if op.enters j then 1 else 0
  pays op r := match op, r with
    | .store (.claimReconcileCandidates ..), .ok jobs => (jobs.map JobView.id).count j
    | _, _ => 0

theorem entries_cost (j : String) (op : Op) :
    (entries j).cost op = if op.enters j then 1 else 0 := rfl

/-- How far a job has come. Only the way from an unknown outcome to VERIFYING leads back. -/
def JobState.stage : JobState → Nat
  | .queued => 1
  | .running => 2
  | .verifying => 3
  | .unknownOutcome => 4
  | _ => 5

theorem stage_onward (s t : JobState) :
    Live s → t ∈ allowedTransitions s → t ≠ .verifying → s.stage + 1 ≤ t.stage := by
  cases s <;> cases t <;> decide

theorem stage_le (s : JobState) : s.stage ≤ 5 := by
  cases s <;> decide

theorem into_verifying (s : JobState) : JobState.verifying ∈ allowedTransitions s →
    s = .running ∨ s = .unknownOutcome := by
  cases s <;> decide

/-- A job's history is as long as its stage and the entries it was taken through allow. -/
structure Churned (entered : Nat) (l : Life) : Prop where
  absent : l.row = none → l.events = []
  moves : ∀ row, l.row = some row → l.events.length ≤ 2 * entered + row.state.stage
  verifies : ∀ row, l.row = some row →
    l.events.count .verifying + (if row.state.stage ≤ 2 then 1 else 0) ≤ entered + 1

section Program
variable {j : String} {rt : Runtime}

theorem free_settle (b : Reconciler.Brief) : (entries j).Affords 0 (Reconciler.settle b) := by
  refine affords_invoke_bind (Nat.zero_le _) fun _ observation _ => ?_
  refine affords_invoke_bind (Nat.zero_le _) fun _ verification _ => ?_
  split
  · refine affords_lift_bind fun _ => affords_lift_bind fun _ => ?_
    exact affords_invoke (Nat.zero_le _)
  · exact affords_invoke (Nat.zero_le _)

theorem free_handle (b : Reconciler.Brief) (x : Exn) :
    (entries j).Affords 0 (Reconciler.handle b x) := by
  unfold Reconciler.handle
  split
  · rename_i error
    refine affords_lift_bind fun jobError => affords_invoke ?_
    have target : (Op.store (b.giveUp error jobError)).enters j = false := by
      unfold Reconciler.Brief.giveUp
      split <;> rfl
    rw [entries_cost, target]
    exact Nat.le_refl 0
  · exact affords_throw

theorem affords_reconcile (job : JobView) :
    (entries j).Affords (if job.id = j then 1 else 0) (Reconciler.reconcile rt job) := by
  refine affords_invoke_bind (Nat.zero_le _) fun _ context _ => ?_
  have kept : ∀ n, n ≤ n - (entries j).cost (.store (.getJobContext job.id)) + 0 := fun n => by
    simp [entries_cost, Op.enters]
  refine Affords.mono ?_ (kept _)
  refine affords_lift_bind fun action => affords_lift_bind fun _ => affords_lift_bind fun x => ?_
  refine affords_invoke_bind (by simp [entries_cost, Op.enters]) fun _ _ _ => ?_
  exact ((free_settle _).tryCatch (m := 0) (free_handle _)).mono (Nat.zero_le _)

theorem candidate_credit (jobs : List JobView) :
    (jobs.map fun job => if job.id = j then 1 else 0).sum = (jobs.map JobView.id).count j := by
  induction jobs with
  | nil => rfl
  | cons job jobs ih =>
    simp only [List.map_cons, List.sum_cons, List.count_cons, beq_iff_eq, ih]
    omega

theorem affords_runOnce (maxAttempts : Nat) :
    (entries j).Affords 0 (Reconciler.runOnce rt maxAttempts) := by
  refine affords_invoke_bind (Nat.zero_le _) fun _ _ _ => ?_
  refine affords_invoke_bind (Nat.zero_le _) fun r jobs answer => ?_
  obtain rfl : r = .ok jobs := mapError_ok.mp answer
  refine (affords_mapM fun job _ => affords_reconcile job).mono ?_
  rw [candidate_credit]
  exact Nat.le_add_left _ _

end Program

section Site
variable {rt : Runtime} {client : Client} {es : BrokerLog}

theorem site_enters {j : String} {op : Op} (site : rt.Site client es op)
    (enters : op.enters j = true) : ∃ maxAttempts, client = .reconciler maxAttempts := by
  unfold Op.enters at enters
  split at enters
  · cases client with
    | reconciler maxAttempts => exact ⟨maxAttempts, rfl⟩
    | worker =>
      generalize JobState.verifying = target at site
      cases site
    | claimNextJob => cases site.2
    | _ => cases site
  · cases enters

end Site

theorem site_single {rt : Runtime} {started : Nat → Option Client} {e : BrokerEvent}
    {maxAttempts other limit : Nat} {es : BrokerLog} {client : Client}
    (single : ∀ i n, started i = some (.reconciler n) → n = maxAttempts)
    (origin : started e.caller = some client) (site : rt.Site client es e.op)
    (asks : e.op = .store (.claimReconcileCandidates other limit)) : other = maxAttempts := by
  rw [asks] at site
  exact single e.caller other ((site_candidates site).1 ▸ origin)

section Run
variable {rt : Runtime} {env : Environment} {started : Nat → Option Client} {log : BrokerLog}
  {db : DB}

theorem run_entries (run : rt.Run env started log db) (j : String) :
    (entries j).spent log ≤ (entries j).paid log := by
  refine sum_le_of_callers ?_
  refine run.induction (P := fun log _ => ∀ i, (entries j).spent (localOf i log) ≤
    (entries j).paid (localOf i log)) (fun _ => Nat.le_refl 0) ?_
  intro log e before valid origin held i
  by_cases own : e.caller = i
  · subst own
    obtain ⟨client, started', calls⟩ := origin
    have kept := held e.caller
    have affordable : (entries j).spent (localOf e.caller log) + (entries j).cost e.op ≤
        (entries j).paid (localOf e.caller log) := by
      by_cases enters : e.op.enters j = true
      · obtain ⟨maxAttempts, rfl⟩ := site_enters (code_calls calls) enters
        exact (affords_runOnce maxAttempts).call (calls_map.mp calls)
      · rw [entries_cost, if_neg enters]
        exact kept
    rw [localOf_snoc_self]
    simp only [spent, paid, List.map_append, List.sum_append, List.map_singleton,
      List.sum_singleton] at affordable ⊢
    omega
  · rw [localOf_snoc_other log own]
    exact held i

theorem run_attempts {maxAttempts : Nat}
    (single : ∀ i n, started i = some (.reconciler n) → n = maxAttempts)
    (run : rt.Run env started log db) (j : String) :
    (entries j).paid log = (db.budget j).attempts ∧ (db.budget j).attempts ≤ maxAttempts := by
  refine run_induction (P := fun log db => (entries j).paid log = (db.budget j).attempts ∧
    (db.budget j).attempts ≤ maxAttempts) ⟨rfl, Nat.zero_le _⟩ ?_ run
  intro log e client before valid origin site held
  obtain ⟨counted, within⟩ := held
  have grown : (entries j).paid (log ++ [e]) =
      (entries j).paid log + (entries j).pays e.op e.ret := by simp [paid]
  rw [grown, counted]
  have unpaid : (entries j).pays e.op e.ret = 0 → e.post.budget j = e.pre.budget j →
      (e.pre.budget j).attempts + (entries j).pays e.op e.ret = (e.post.budget j).attempts ∧
        (e.post.budget j).attempts ≤ maxAttempts := by
    intro free same
    rw [free, same]
    exact ⟨rfl, within⟩
  rcases valid_cases valid with ⟨op, r, answered⟩ | ⟨elsewhere, same⟩
  · obtain ⟨o, ran⟩ := valid_store valid answered
    by_cases selects : ∃ other limit, op = .claimReconcileCandidates other limit
    · obtain ⟨other, limit, rfl⟩ := selects
      obtain rfl := site_single single origin site answered.op_eq
      cases answered
      cases r with
      | error x =>
        have same := run_error ran
        exact unpaid rfl (by rw [same])
      | ok jobs =>
        obtain ⟨nodup, left, after⟩ := claimReconcileCandidates_budget (Txn.atomically_ok ran)
        rw [after j]
        change _ + (jobs.map JobView.id).count j = _ ∧ _
        by_cases member : j ∈ jobs.map JobView.id
        · rw [if_pos member, List.count_eq_one_of_mem nodup member]
          exact ⟨rfl, left j member⟩
        · rw [if_neg member, List.count_eq_zero.mpr member]
          exact ⟨rfl, within⟩
    · have other : ∀ maxAttempts limit, op ≠ .claimReconcileCandidates maxAttempts limit :=
        fun maxAttempts limit same => selects ⟨maxAttempts, limit, same⟩
      cases answered
      refine unpaid ?_ (run_budget ran other j)
      cases op with
      | claimReconcileCandidates => exact absurd rfl (other _ _)
      | _ => rfl
  · refine unpaid ?_ (by rw [same])
    obtain ⟨caller, op, pre, note, r, post⟩ := e
    cases op with
    | store op => exact absurd rfl (elsewhere op)
    | adapter => rfl
    | decide => rfl

theorem Churned.empty : Churned 0 ⟨none, []⟩ := by
  constructor
  · exact fun _ => rfl
  · intro row here
    cases here
  · intro row here
    cases here

theorem Churned.onward {entered : Nat} {row row' : JobRow} {target : JobState}
    {events : List JobState} (before : Churned entered ⟨some row, events⟩) (live : Live row.state)
    (state : row'.state = target) (allowed : target ∈ allowedTransitions row.state)
    (other : target ≠ .verifying) : Churned entered ⟨some row', events ++ [target]⟩ := by
  have onward := stage_onward _ _ live allowed other
  have moves : events.length ≤ 2 * entered + row.state.stage := before.moves row rfl
  have verifies : events.count .verifying + (if row.state.stage ≤ 2 then 1 else 0) ≤ entered + 1 :=
    before.verifies row rfl
  refine ⟨nofun, ?_, ?_⟩
  · rintro _ ⟨⟩
    rw [List.length_append, List.length_singleton, state]
    omega
  · rintro _ ⟨⟩
    rw [List.count_append, List.count_singleton, if_neg (by simpa using other), state]
    split at verifies <;> split <;> omega

theorem Churned.rewrite {entered : Nat} {row row' : JobRow} {events : List JobState}
    (before : Churned entered ⟨some row, events⟩) (state : row'.state = row.state) :
    Churned entered ⟨some row', events⟩ := by
  refine ⟨nofun, ?_, ?_⟩
  · rintro _ ⟨⟩
    exact state ▸ before.moves row rfl
  · rintro _ ⟨⟩
    exact state ▸ before.verifies row rfl

/-- Into VERIFYING: once from RUNNING, with a fence, and from an unknown outcome without. -/
theorem Churned.verifying {entered n : Nat} {row row' : JobRow} {events : List JobState}
    (before : Churned entered ⟨some row, events⟩) (state : row'.state = .verifying)
    (source : row.state = .running ∨ row.state = .unknownOutcome ∧ n = 1) :
    Churned (entered + n) ⟨some row', events ++ [.verifying]⟩ := by
  have moves : events.length ≤ 2 * entered + row.state.stage := before.moves row rfl
  have verifies : events.count .verifying + (if row.state.stage ≤ 2 then 1 else 0) ≤ entered + 1 :=
    before.verifies row rfl
  refine ⟨nofun, ?_, ?_⟩
  · rintro _ ⟨⟩
    rw [List.length_append, List.length_singleton, state]
    rcases source with running | ⟨unknown, rfl⟩
    · rw [running] at moves
      change _ ≤ 2 * entered + 2 at moves
      change _ ≤ 2 * (entered + n) + 3
      omega
    · rw [unknown] at moves
      change _ ≤ 2 * entered + 4 at moves
      change _ ≤ 2 * (entered + 1) + 3
      omega
  · rintro _ ⟨⟩
    rw [List.count_append, List.count_singleton, state]
    rcases source with running | ⟨unknown, rfl⟩
    · rw [running] at verifies
      simp [JobState.stage] at verifies ⊢
      omega
    · rw [unknown] at verifies
      simp [JobState.stage] at verifies ⊢
      omega

theorem Move.churned {s : Store} {j : String} {e : BrokerEvent} {l l' : Life} {entered : Nat}
    (move : Move s j e l l') (shaped : ∀ row, l.row = some row → row.Shaped)
    (before : Churned entered l) :
    Churned (entered + (entries j).cost e.op) l' := by
  have more : ∀ {n m : Nat} {l : Life}, n ≤ m → Churned n l → Churned m l := by
    intro n m l le h
    refine ⟨h.absent, fun row here => ?_, fun row here => ?_⟩
    · have := h.moves row here
      omega
    · have := h.verifies row here
      omega
  cases move with
  | same => exact more (Nat.le_add_right ..) before
  | created o request subject events answered here =>
    refine more (Nat.le_add_right ..) ?_
    obtain rfl : events = [] := before.absent rfl
    refine ⟨nofun, ?_, ?_⟩
    · rintro _ ⟨⟩
      exact Nat.le_add_left _ _
    · rintro _ ⟨⟩
      exact Nat.le_add_left _ _
  | claimed o workerId seconds row events here claimable token =>
    refine more (Nat.le_add_right ..) ?_
    have allowed : JobState.running ∈ allowedTransitions row.state := by
      rw [claimable.1]
      decide
    exact before.onward (shaped row rfl).live rfl allowed (by decide)
  | renewed o leaseToken leaseSeconds row events answered here held running =>
    exact more (Nat.le_add_right ..) (before.rewrite rfl)
  | transitioned o target result error fence expectedState row events answered here held expected
      allowed =>
    have shaped := shaped row rfl
    by_cases verifying : target = .verifying
    · subst verifying
      refine before.verifying rfl ((into_verifying _ allowed).imp_right fun unknown =>
        ⟨unknown, ?_⟩)
      rw [answered.op_eq, entries_cost]
      cases fence with
      | none => exact if_pos (decide_eq_true rfl)
      | some token =>
        have leased := (shaped.leased (by simp [held token rfl])).1
        simp [unknown] at leased
    · exact more (Nat.le_add_right ..)
        (before.onward shaped.live rfl allowed verifying)
  | lapsed o row events op here lapsed =>
    refine more (Nat.le_add_right ..) ?_
    refine before.onward (shaped row rfl).live rfl ?_ (by decide)
    rcases lapsed.1 with running | verifying
    · rw [running]
      decide
    · rw [verifying]
      decide
  | expired o ttlSeconds row events op here stale =>
    refine more (Nat.le_add_right ..) ?_
    refine before.onward (shaped row rfl).live rfl ?_ (by decide)
    rw [stale.1]
    decide
  | attempted maxAttempts limit row events op here unknown =>
    exact more (Nat.le_add_right ..) (before.rewrite rfl)

theorem run_churned (run : rt.Run env started log db) (j : String) :
    Churned ((entries j).spent log) (db.life j) := by
  refine run_induction (P := fun log db => Churned ((entries j).spent log) (db.life j))
    Churned.empty ?_ run
  intro log e client before valid origin site held
  have grown : (entries j).spent (log ++ [e]) = (entries j).spent log + (entries j).cost e.op := by
    simp [spent]
  rw [grown]
  exact (moved valid j).churned (run_shaped before j) held

end Run

/-- However many workers, reconcilers and cancellers race, a job is taken to VERIFYING at most once
more than the reconcilers' budget allows, and it has a bounded number of moves in its history. -/
theorem bounded_churn (rt : Runtime) (env : Environment) (c : BrokerConfig)
    (h : rt.Reachable env c) (maxAttempts : Nat)
    (single : ∀ i n, c.started i = some (.reconciler n) → n = maxAttempts) (j : String) :
    (c.state.jobEvents j).count .verifying ≤ maxAttempts + 1 ∧
      (c.state.jobEvents j).length ≤ 2 * maxAttempts + 5 := by
  have run := reachable_run h
  have churned := run_churned run j
  obtain ⟨counted, within⟩ := run_attempts single run j
  have entered : (entries j).spent c.log ≤ maxAttempts :=
    (run_entries run j).trans (counted ▸ within)
  cases here : c.state.job? j with
  | none =>
    have silent : c.state.jobEvents j = [] := churned.absent here
    simp [silent]
  | some row =>
    have verifies : (c.state.jobEvents j).count .verifying + _ ≤ _ := churned.verifies row here
    have moves : (c.state.jobEvents j).length ≤ _ := churned.moves row here
    have stage := stage_le row.state
    omega

namespace Sample

def notYet : AdapterError where
  message := "not yet"
  retry := .reconcileFirst
  reconciliationRequired := true

def undecided : (op : AdapterOp) → Except AdapterExn op.Value := fun _ =>
  .error (.adapterError notYet)

/-- A job that is in doubt until the budget of one attempt is spent, and then cancelled. -/
def doubted : List Turn :=
  [.start (.createJob (request keyA) subject), .store 0 (oracle 1 "a"),
    .start (.worker "w"), .store 1 (oracle 2 "b"), .store 1 (oracle 3 "c"),
    .adapter 1 fun op => ([], healthy op), .store 1 (oracle 4 "d"), .store 1 (oracle 5 "e"),
    .adapter 1 fun op => ([], undecided op), .store 1 (oracle 6 "f"),
    .start (.reconciler 1), .store 2 (oracle 7 "g"), .store 2 (oracle 8 "h"),
    .store 2 (oracle 9 "i"), .store 2 (oracle 10 "j"), .adapter 2 fun op => ([], undecided op),
    .store 2 (oracle 11 "k"), .start (.canceller "job_a" subject), .store 3 (oracle 12 "l"),
    .store 3 (oracle 13 "m"), .adapter 3 fun op => ([], healthy op), .store 3 (oracle 14 "n")]

theorem doubted_single {rt : Runtime} {c : BrokerConfig} (h : rt.played doubted = some c) :
    ∀ i n, c.started i = some (.reconciler n) → n = 1 := by
  intro i n origin
  rw [played_started h] at origin
  have member := List.mem_of_getElem? origin
  simpa [doubted, Turn.client, eq_comm] using member

end Sample

open Sample in
/-- Both bounds are reached. -/
theorem bounded_churn_doubted : ∃ c, (runtime .none).played doubted = some c ∧
    (c.state.jobEvents "job_a").count .verifying = 1 + 1 ∧
    (c.state.jobEvents "job_a").length = 2 * 1 + 5 ∧
    ∀ j, (c.state.jobEvents j).count .verifying ≤ 1 + 1 ∧
      (c.state.jobEvents j).length ≤ 2 * 1 + 5 := by
  have outcome : ((runtime .none).played doubted).map (fun c =>
      ((c.state.jobEvents "job_a").count .verifying, (c.state.jobEvents "job_a").length)) =
        some (2, 7) := by decide +kernel
  obtain ⟨c, played, same⟩ := Option.map_eq_some_iff.mp outcome
  obtain ⟨verified, moved⟩ := Prod.mk.inj same
  exact ⟨c, played, verified, moved, bounded_churn (runtime .none) .any c
    (played_reachable (allowed_any doubted) played) 1 (doubted_single played)⟩

end Deckhand
