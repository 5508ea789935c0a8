import Deckhand.Fencing

/-! How long a job waits: a claim does not look at the age of what it takes, so a job that is
past its time in the queue is executed unless a sweep came first. -/
namespace Deckhand
open Lib

/-- A claim that committed, with the clock and the random values it took. -/
inductive Claiming : BrokerEvent → Oracle → Option ClaimedJob → Prop where
  | mk (caller : Nat) (workerId : String) (leaseSeconds : Int)
      (leaseFor : Option (ActionRequest → Int)) (pre : DB) (o : Oracle)
      (claimed : Option ClaimedJob) (post : DB) :
      Claiming ⟨caller, .store (.claimNextJob workerId leaseSeconds leaseFor), pre, o, .ok claimed,
        post⟩ o claimed

/-- The claim moves to RUNNING a job that has been queued for longer than the time to live. -/
def ClaimsLate (ttlSeconds : Int) (e : BrokerEvent) : Prop :=
  ∃ o claimed j row row', Claiming e o claimed ∧ e.pre.job? j = some row ∧
    row.Stale o ttlSeconds ∧ e.post.job? j = some row' ∧ row'.state = .running

/-- A sweep at the time of the claim would have found something to expire. -/
def SweepOwed (ttlSeconds : Int) (e : BrokerEvent) : Prop :=
  ∃ o claimed, Claiming e o claimed ∧ ∃ row ∈ e.pre.jobs.rows, row.Stale o ttlSeconds

/-- `SweepOwed` on the events of a run that was played out. -/
def sweepOwed (ttlSeconds : Int) : BrokerEvent → Bool
  | ⟨_, .store (.claimNextJob ..), pre, o, .ok _, _⟩ =>
    pre.jobs.rows.any fun row => row.Stale o ttlSeconds
  | _ => false

section
variable {rt : Runtime} {env : Environment} {started : Nat → Option Client} {e : BrokerEvent}
  {ttlSeconds : Int}

theorem SweepOwed.computed (owed : SweepOwed ttlSeconds e) : sweepOwed ttlSeconds e = true := by
  obtain ⟨o, claimed, claiming, row, member, stale⟩ := owed
  cases claiming
  exact List.any_eq_true.mpr ⟨row, member, by simpa using stale⟩

theorem sweepOwed_spec (computed : sweepOwed ttlSeconds e = true) : SweepOwed ttlSeconds e := by
  unfold sweepOwed at computed
  split at computed
  · obtain ⟨row, member, stale⟩ := List.any_eq_true.mp computed
    exact ⟨_, _, .mk .., row, member, by simpa using stale⟩
  · cases computed

theorem ClaimsLate.owed (late : ClaimsLate ttlSeconds e) : SweepOwed ttlSeconds e := by
  obtain ⟨o, claimed, j, row, row', claiming, here, stale, -⟩ := late
  exact ⟨o, claimed, claiming, row, (job?_mem.mp here).1, stale⟩

theorem SweepOwed.late {log : BrokerLog} (run : rt.Run env started log e.pre)
    (valid : e.Valid (rt.sem env)) (owed : SweepOwed ttlSeconds e) : ClaimsLate ttlSeconds e := by
  obtain ⟨o, claimed, claiming, row, member, stale⟩ := owed
  have free : row.Claimable o := by
    have shaped := run_shaped run row.id row (job?_of_mem member)
    refine ⟨stale.1, fun expiry held => ?_⟩
    rw [(shaped.queued stale.1).2.1] at held
    cases held
  cases claiming with
  | mk caller workerId leaseSeconds leaseFor pre o claimed post =>
    rcases claimNextJob_chosen (Txn.atomically_ok valid) with
      ⟨-, -, idle⟩ | ⟨oldest, seconds, -, current, claimable, first, answer, life⟩
    · exact absurd free (idle row member)
    · refine ⟨o, claimed, oldest.id, oldest, oldest.claim o workerId seconds, .mk .., current,
        ⟨claimable.1, ?_⟩, ?_, rfl⟩
      · exact (first row member free).trans_lt stale.2
      · exact (congrArg Life.row (life oldest.id)).trans (by rw [if_pos rfl])

end

/-- No claim of a run takes a job that is past its time exactly if none comes while the queue
holds such a job. -/
theorem no_late_claim_iff (rt : Runtime) (env : Environment) (ttlSeconds : Int) (c : BrokerConfig)
    (h : rt.Reachable env c) :
    (∀ e ∈ c.log, ¬ ClaimsLate ttlSeconds e) ↔ ∀ e ∈ c.log, ¬ SweepOwed ttlSeconds e := by
  have run := reachable_run h
  constructor
  · intro timely e member owed
    obtain ⟨a, b, whole⟩ := List.append_of_mem member
    rw [whole] at run
    exact timely e member (owed.late run.until run.valid)
  · intro swept e member late
    exact swept e member late.owed

namespace Sample

/-- A job is submitted, and a worker comes back a quarter of an hour too late. -/
def overdue : List Turn :=
  [.start (.createJob (request keyA) subject), .store 0 (oracle 1 "a"),
    .start (.worker "w"), .store 1 (oracle 1000 "b")]

def prompt : List Turn :=
  [.start (.createJob (request keyA) subject), .store 0 (oracle 1 "a"),
    .start (.worker "w"), .store 1 (oracle 900 "b")]

end Sample

open Sample in
theorem no_late_claim_iff_prompt : ∃ c, (runtime .none).played prompt = some c ∧
    (c.state.job? "job_a").map JobRow.state = some .running ∧
    ∀ e ∈ c.log, ¬ ClaimsLate 900 e := by
  have outcome : ((runtime .none).played prompt).map (fun c =>
      ((c.state.job? "job_a").map JobRow.state, c.log.all fun e => !sweepOwed 900 e)) =
        some (some .running, true) := by decide +kernel
  obtain ⟨c, played, same⟩ := Option.map_eq_some_iff.mp outcome
  simp only [Prod.mk.injEq, List.all_eq_true, Bool.not_eq_true'] at same
  obtain ⟨running, swept⟩ := same
  refine ⟨c, played, running, (no_late_claim_iff (runtime .none) .any 900 c
    (played_reachable (allowed_any prompt) played)).mpr fun e member owed => ?_⟩
  cases owed.computed.symm.trans (swept e member)

open Sample in
/-- No sweep came between: the worker starts a job that has waited 999 seconds. -/
theorem overdue_job_claimed : ∃ c, (runtime .none).Reachable .any c ∧
    ∃ e ∈ c.log, ClaimsLate 900 e := by
  have outcome : ((runtime .none).played overdue).map (fun c =>
      ((c.state.job? "job_a").map JobRow.state, c.log.map (sweepOwed 900))) =
        some (some .running, [false, true]) := by decide +kernel
  obtain ⟨c, played, same⟩ := Option.map_eq_some_iff.mp outcome
  have reached := played_reachable (allowed_any overdue) played
  obtain ⟨e, member, owed⟩ : ∃ e ∈ c.log, sweepOwed 900 e = true := by
    refine List.mem_map.mp ?_
    rw [(Prod.mk.inj same).2]
    decide
  obtain ⟨a, b, split⟩ := List.append_of_mem member
  have run := reachable_run reached
  rw [split] at run
  refine ⟨c, reached, e, member, SweepOwed.late run.until run.valid ?_⟩
  exact sweepOwed_spec owed

end Deckhand
