import Deckhand.Fencing

/-! What the terminal states of a job mean, over any run: a success was verified on an
observation made after the claim, a cancellation came before any claim or from the adapter,
and an expired job was never claimed. -/
namespace Deckhand
open Lib

/-- After a claim on job `j` its request was observed, and on that observation verified; the
result holds both, as JSON text is read back. -/
def Vouched (log : BrokerLog) (j : String) (request : ActionRequest) (result : Option Dict) :
    Prop :=
  ∃ k p q token name action execution observation verification members,
    [k, p, q].Sublist log ∧ claimToken j k = some token ∧
    p.Answered (.adapter name (.observe action request)) (.ok observation) ∧
    q.Answered (.adapter name (.verify action request execution observation))
      (.ok verification) ∧ verification.satisfied = true ∧ result = some members ∧
    Dict.get? members "observation" = some observation.modelDump.joined ∧
    Dict.get? members "verification" = some verification.modelDump.joined

/-- The adapter was asked to cancel the request and reported it cancelled; the result holds
what it reported, as JSON text is read back. -/
def Withdrawn (log : BrokerLog) (request : ActionRequest) (result : Option Dict) : Prop :=
  ∃ e ∈ log, ∃ name action execution cancellation members,
    e.Answered (.adapter name (.cancel action request execution)) (.ok cancellation) ∧
    cancellation.disposition = .cancelled ∧ result = some members ∧
    Dict.get? members "cancellation" = some cancellation.modelDump.joined

def Unclaimed (state : JobState) : Prop :=
  state = .queued ∨ state = .expired ∨ state = .cancelled

structure Truthful (log : BrokerLog) (j : String) (row : JobRow) : Prop where
  expired : row.state = .expired → claims j log = []
  succeeded : row.state = .succeeded → Vouched log j row.request row.result
  cancelled : row.state = .cancelled →
    claims j log = [] ∨ Withdrawn log row.request row.result

section Log
variable {log : BrokerLog} {j : String} {row : JobRow} {e : BrokerEvent}

theorem claims_snoc_quiet (log : BrokerLog) (quiet : claimToken j e = none) :
    claims j (log ++ [e]) = claims j log := by
  simp [claims, quiet]

theorem claims_snoc_claim (log : BrokerLog) {token : String} (claim : claimToken j e = some token) :
    claims j (log ++ [e]) ≠ [] := by
  simp [claims, claim]

theorem exists_claim (claimed : claims j log ≠ []) : ∃ k ∈ log, ∃ token,
    claimToken j k = some token := by
  obtain ⟨token, member⟩ := List.exists_mem_of_ne_nil _ claimed
  obtain ⟨k, among, claim⟩ := List.mem_filterMap.mp member
  exact ⟨k, among, token, claim⟩

theorem Vouched.later {request : ActionRequest} {result : Option Dict} {more : BrokerLog}
    (h : Vouched log j request result) : Vouched (log ++ more) j request result := by
  obtain ⟨k, p, q, token, name, action, x, o, v, members, order, rest⟩ := h
  exact ⟨k, p, q, token, name, action, x, o, v, members,
    order.trans (List.sublist_append_left ..), rest⟩

theorem Withdrawn.later {request : ActionRequest} {result : Option Dict} {more : BrokerLog}
    (h : Withdrawn log request result) : Withdrawn (log ++ more) request result := by
  obtain ⟨e, member, rest⟩ := h
  exact ⟨e, List.mem_append_left _ member, rest⟩

theorem Truthful.later (h : Truthful log j row) (quiet : claimToken j e = none) :
    Truthful (log ++ [e]) j row := by
  have same := claims_snoc_quiet log quiet
  refine ⟨fun expired => same ▸ h.expired expired, fun done => (h.succeeded done).later,
    fun cancelled => ?_⟩
  rw [same]
  exact (h.cancelled cancelled).imp_right Withdrawn.later

theorem Truthful.open (h : row.state ≠ .expired ∧ row.state ≠ .succeeded ∧
    row.state ≠ .cancelled) : Truthful log j row :=
  ⟨fun is => absurd is h.1, fun is => absurd is h.2.1, fun is => absurd is h.2.2⟩

end Log

section Run
variable {rt : Runtime} {env : Environment} {started : Nat → Option Client} {log : BrokerLog}
  {db : DB} {j : String}

theorem queued_unclaimed (run : rt.Run env started log db) {row : JobRow}
    (here : db.job? j = some row) (queued : row.state = .queued) : claims j log = [] := by
  have recorded := (run_tenure run j).recorded
  rwa [here, tenure_queued queued] at recorded

theorem run_unclaimed (run : rt.Run env started log db) (j : String) :
    ∀ row, db.job? j = some row → claims j log = [] → Unclaimed row.state := by
  refine run_induction
    (P := fun log db => ∀ row, db.job? j = some row → claims j log = [] → Unclaimed row.state)
    (fun _ h => by cases h) ?_ run
  intro log e client before valid origin site held row' here none
  obtain ⟨_, _, move⟩ := moved_row valid j
  have shaped := run_shaped before j
  generalize e.pre.job? j = r at move held shaped
  rw [here] at move
  have earlier : claims j log = [] := by
    cases h : claimToken j e with
    | none => exact claims_snoc_quiet log h ▸ none
    | some token => exact absurd none (claims_snoc_claim log h)
  have claimed : ∀ {row : JobRow}, r = some row → row.state = .running ∨ row.state = .verifying ∨
      row.state = .unknownOutcome → False := by
    rintro row is running
    have idle := held row is earlier
    rcases running with h | h | h <;> simp [Unclaimed, h] at idle
  cases move with
  | same => exact held row' rfl earlier
  | created => exact .inl rfl
  | claimed o workerId seconds row events here claimable token =>
    exact absurd none (claims_snoc_claim log token)
  | renewed o leaseToken leaseSeconds row events answered here holds running =>
    exact (claimed rfl (running.imp_right .inl)).elim
  | transitioned o target result error fence expectedState row events answered here holds expected
      allowed =>
    rcases writer_allowed (shaped row rfl) (site_writer (answered.op_eq ▸ site)) allowed with
      ⟨-, rfl⟩ | running
    · exact .inr (.inr rfl)
    · exact (claimed rfl running).elim
  | lapsed o row events op here lapsed => exact (claimed rfl (lapsed.1.imp_right .inl)).elim
  | expired => exact .inr (.inl rfl)
  | attempted maxAttempts limit row events op here unknown =>
    exact (claimed rfl (.inr (.inr unknown))).elim

theorem verifiedResult_stored (result : Dict) (o : AdapterObservation) (v : AdapterVerification) :
    Dict.get? (joinedMembers (verifiedResult result o v)) "observation" =
      some o.modelDump.joined ∧
    Dict.get? (joinedMembers (verifiedResult result o v)) "verification" =
      some v.modelDump.joined := by
  constructor
  · rw [get?_joined _ (by decide), verifiedResult_observation, Option.map_some]
  · rw [get?_joined _ (by decide), verifiedResult_verification, Option.map_some]

theorem worker_vouched {i : Nat} {workerId : String} {b : Worker.Brief} {x : AdapterExecution}
    {o : AdapterObservation} {v : AdapterVerification} {row : JobRow}
    (run : rt.Run env started log db)
    (verified : Worker.Verified rt workerId (localOf i log) b x o v)
    (satisfied : v.satisfied = true) (here : db.job? b.job.id = some row) :
    Vouched log b.job.id row.request
      (some (joinedMembers (verifiedResult (Worker.partialResult x) o v))) := by
  obtain ⟨c, g, e, r, n, p, q, owner, seen, claim, context, observed, approved⟩ := verified.seen
  have sub : [c, g, e, r, n, p, q].Sublist log := seen ▸ localOf_sublist i log
  have request := context_request run.trace (sub.mem (by simp)) context here
  have order : [c, p, q].Sublist [c, g, e, r, n, p, q] :=
    .cons_cons c (List.sublist_append_right [g, e, r, n] [p, q])
  exact ⟨c, p, q, b.fence, b.action.adapter, b.action, x, o, v, _, order.trans sub,
    (claimToken_claim claim).trans (if_pos rfl), request ▸ observed, request ▸ approved,
    satisfied, rfl, verifiedResult_stored ..⟩

theorem reconciler_vouched {i maxAttempts : Nat} {b : Reconciler.Brief} {o : AdapterObservation}
    {v : AdapterVerification} {row : JobRow} (run : rt.Run env started log db)
    (verified : Reconciler.Verified rt maxAttempts (localOf i log) b o v)
    (satisfied : v.satisfied = true) (here : db.job? b.job.id = some row) :
    Vouched log b.job.id row.request
      (some (joinedMembers (verifiedResult (Reconciler.partialResult b.job) o v))) := by
  obtain ⟨x, c, rest, g, n, p, q, jobs, owner, seen, chosen, among, context, observed, approved⟩ :=
    verified.seen
  have sub : (x :: c :: rest ++ [g, n, p, q]).Sublist log := seen ▸ localOf_sublist i log
  have request := context_request run.trace (sub.mem (by simp)) context here
  have order : [c, p, q].Sublist (x :: c :: rest ++ [g, n, p, q]) := by
    refine .cons _ (.cons_cons _ (.trans ?_ (List.sublist_append_right rest _)))
    simp
  obtain ⟨first, second, rfl, member, last⟩ := List.cons_sublist_iff.mp (order.trans sub)
  obtain ⟨y, z, rfl⟩ := List.append_of_mem member
  have run' : rt.Run env started (y ++ c :: (z ++ second)) db := by simpa using run
  obtain ⟨row₀, found, unknown, -⟩ := answered_candidates run'.valid chosen among
  have claimed : claims b.job.id y ≠ [] := by
    intro none
    have idle := run_unclaimed run'.until _ row₀ found none
    simp [Unclaimed, unknown] at idle
  obtain ⟨k, before, token, claim⟩ := exists_claim claimed
  exact ⟨k, p, q, token, b.action.adapter, b.action, b.execution, o, v, _,
    List.Sublist.append (List.singleton_sublist.mpr (by simp [before])) last, claim,
    request ▸ observed, request ▸ approved, satisfied, rfl, verifiedResult_stored ..⟩

theorem canceller_withdrawn {i : Nat} {jobId : String} {subject : Subject} {b : Canceller.Brief}
    {cancellation : AdapterCancellation} {row : JobRow} (run : rt.Run env started log db)
    (asked : Canceller.Asked rt jobId subject (localOf i log) b (.ok cancellation))
    (cancelled : cancellation.disposition = .cancelled) (here : db.job? b.job.id = some row) :
    Withdrawn log row.request (some (joinedMembers (Dict.set (b.job.result.getD [])
      "cancellation" cancellation.modelDump))) := by
  obtain ⟨before, e, seen, briefed, answered⟩ := asked
  have member : ∀ f ∈ before ++ [e], f ∈ log := fun f hf => (mem_of_localOf (seen ▸ hf)).1
  obtain ⟨g, hg, read⟩ := briefed.viewed.read
  obtain ⟨c, hc, owner, context⟩ := briefed.viewed.context
  rw [view_id (run.trace.valid (member g (by simp [hg]))) read] at here
  have request := context_request run.trace (member c (by simp [hc])) context here
  refine ⟨e, member e (by simp), b.action.adapter, b.action, b.execution, cancellation, _,
    request ▸ answered, cancelled, rfl, ?_⟩
  rw [get?_joined _ (by decide), Dict.get?_set_self, Option.map_some]

theorem writer_truthful {i : Nat} {client : Client} {target : JobState} {result : Option Dict}
    {error : Option JobError} {fence : Option String} {expectedState : Option JobState}
    {row : JobRow} (run : rt.Run env started log db)
    (writer : Writer rt (localOf i log) client j target result error fence expectedState)
    (here : db.job? j = some row) (expected : ∀ state ∈ expectedState, row.state = state) :
    target ≠ .expired ∧
      (target = .succeeded → Vouched log j row.request (result.map joinedMembers)) ∧
      (target = .cancelled →
        claims j log = [] ∨ Withdrawn log row.request (result.map joinedMembers)) := by
  have unsettled : ∀ c : Prop, [Decidable c] →
      (if c then JobState.unknownOutcome else .failed) ≠ .expired ∧
      (if c then JobState.unknownOutcome else .failed) ≠ .succeeded ∧
      (if c then JobState.unknownOutcome else .failed) ≠ .cancelled := by
    intro c _
    split <;> simp
  cases writer with
  | workerRecord => simp
  | workerSucceed workerId b x o v verified satisfied =>
    exact ⟨by simp, fun _ => worker_vouched run verified satisfied here, by simp⟩
  | workerGiveUp workerId b error =>
    have other := unsettled (error.reconciliationRequired = true)
    exact ⟨other.1, fun is => absurd is other.2.1, fun is => absurd is other.2.2⟩
  | reconcilerEnter => simp
  | reconcilerSucceed maxAttempts b o v verified satisfied =>
    exact ⟨by simp, fun _ => reconciler_vouched run verified satisfied here, by simp⟩
  | reconcilerUnsettled => simp
  | reconcilerGiveUp maxAttempts b error =>
    have other := unsettled (error.retry ≠ .never)
    exact ⟨other.1, fun is => absurd is other.2.1, fun is => absurd is other.2.2⟩
  | cancellerDequeue jobId subject job =>
    have queued : row.state = .queued := expected .queued rfl
    exact ⟨by simp, by simp, fun _ => .inl (queued_unclaimed run here queued)⟩
  | cancellerSucceed jobId subject b result asked cancelled =>
    exact ⟨by simp, by simp, fun _ => .inr (canceller_withdrawn run asked cancelled here)⟩
  | cancellerUnknown => simp
  | cancellerGiveUp => simp

theorem run_truthful (run : rt.Run env started log db) (j : String) :
    ∀ row, db.job? j = some row → Truthful log j row := by
  refine run_induction (P := fun log db => ∀ row, db.job? j = some row → Truthful log j row)
    (fun _ h => by cases h) ?_ run
  intro log e client before valid origin site held row' here
  obtain ⟨_, _, move⟩ := moved_row valid j
  generalize old : e.pre.job? j = r at move held
  rw [here] at move
  cases move with
  | same _ quiet => exact (held row' rfl).later quiet
  | created => exact .open (by simp [JobRow.queue])
  | claimed => exact .open (by simp [JobRow.claim])
  | renewed o leaseToken leaseSeconds row events answered here holds running =>
    refine .open ?_
    rcases running with h | h <;> simp [JobRow.renew, h]
  | transitioned o target result error fence expectedState row events answered here holds expected
      allowed =>
    have quiet := claimToken_other (j := j) answered (by simp)
    obtain ⟨unexpired, vouched, withdrawn⟩ :=
      writer_truthful before (site_writer (answered.op_eq ▸ site)) old expected
    refine ⟨fun is => absurd is unexpired, fun done => (vouched done).later, fun cancelled => ?_⟩
    rw [claims_snoc_quiet log quiet]
    exact (withdrawn cancelled).imp_right Withdrawn.later
  | lapsed => exact .open (by simp [JobRow.lapse])
  | expired o ttlSeconds row events op here stale =>
    have quiet := claimToken_other (j := j) e.answered_self (by simp [op])
    refine ⟨fun _ => ?_, by simp [JobRow.expire], by simp [JobRow.expire]⟩
    rw [claims_snoc_quiet log quiet]
    exact queued_unclaimed before old stale.1
  | attempted maxAttempts limit row events op here unknown =>
    exact .open (by simp [JobRow.attempt, unknown])

end Run

/-- Truthful terminal states. -/
theorem truthful_terminal_states (rt : Runtime) (env : Environment) (c : BrokerConfig)
    (h : rt.Reachable env c) (j : String) (row : JobRow) (here : c.state.job? j = some row) :
    (row.state = .succeeded → Vouched c.log j row.request row.result) ∧
    (row.state = .cancelled → claims j c.log = [] ∨ Withdrawn c.log row.request row.result) ∧
    (row.state = .expired → claims j c.log = []) := by
  have truthful := run_truthful (reachable_run h) j row here
  exact ⟨truthful.succeeded, truthful.cancelled, truthful.expired⟩

open Sample in
theorem truthful_terminal_states_finished : ∃ c row, (runtime .none).played finished = some c ∧
    c.state.job? "job_a" = some row ∧ row.state = .succeeded ∧
    Vouched c.log "job_a" row.request row.result := by
  have outcome : ((runtime .none).played finished).map (fun c =>
      (c.state.job? "job_a").map JobRow.state) = some (some .succeeded) := by decide +kernel
  obtain ⟨c, played, same⟩ := Option.map_eq_some_iff.mp outcome
  obtain ⟨row, here, state⟩ := Option.map_eq_some_iff.mp same
  have reachable := played_reachable (allowed_any finished) played
  exact ⟨c, row, played, here, state,
    (truthful_terminal_states (runtime .none) .any c reachable "job_a" row here).1 state⟩

end Deckhand
