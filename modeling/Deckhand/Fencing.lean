import Deckhand.Lib.Tenure
import Deckhand.Scenario

/-! Leases: who may write a job, over any run. A job is claimed at most once, and what its
holder has lost it never gets back. -/
namespace Deckhand
open Lib

/-- The columns that depend on the state. -/
structure JobRow.Shaped (r : JobRow) : Prop where
  live : Deckhand.Live r.state
  queued : r.state = .queued → r.leaseToken = none ∧ r.leaseExpiresAt = none ∧ r.result = none
  running : r.state = .running →
    r.leaseToken.isSome = true ∧ r.leaseExpiresAt.isSome = true ∧ r.result = none
  leased : r.leaseToken.isSome = true →
    (r.state = .running ∨ r.state = .verifying) ∧ r.leaseExpiresAt.isSome = true

/-- The states a job is in once it has stopped running. -/
def JobRow.Stopped (r : JobRow) : Prop := r.state ≠ .queued ∧ r.state ≠ .running

/-- A job that waits is free; a claimed one is held by the token in its row, if any. -/
def tenure : Option JobRow → Tenure String
  | none => .free
  | some row => if row.state = .queued then .free else row.leaseToken.elim .past .held

theorem tenure_queued {row : JobRow} (h : row.state = .queued) : tenure (some row) = .free :=
  if_pos h

theorem tenure_claimed {row : JobRow} (h : row.state ≠ .queued) :
    tenure (some row) = row.leaseToken.elim .past .held := if_neg h

theorem tenure_held {row : JobRow} {token : String} (claimed : row.state ≠ .queued)
    (h : row.leaseToken = some token) : tenure (some row) = .held token := by
  rw [tenure_claimed claimed, h]
  rfl

theorem holder {r : Option JobRow} {token : String} (h : tenure r = .held token) :
    ∃ row, r = some row ∧ row.state ≠ .queued ∧ row.leaseToken = some token := by
  cases r with
  | none => cases h
  | some row =>
    by_cases waiting : row.state = .queued
    · rw [tenure_queued waiting] at h
      cases h
    · rw [tenure_claimed waiting] at h
      cases holds : row.leaseToken with
      | none =>
        rw [holds] at h
        cases h
      | some t =>
        rw [holds] at h
        cases h
        exact ⟨row, rfl, waiting, holds⟩

section Transition
variable {rt : Runtime} {client : Client} {es : BrokerLog} {j : String} {target : JobState}
  {result : Option Dict} {error : Option JobError} {fence : Option String}
  {expectedState : Option JobState}

theorem writer_target (h : Writer rt es client j target result error fence expectedState) :
    target = .verifying ∨ target = .succeeded ∨ target = .failed ∨ target = .unknownOutcome ∨
      target = .cancelled := by
  cases h with
  | workerGiveUp => split <;> simp
  | reconcilerGiveUp => split <;> simp
  | _ => simp

/-- Into VERIFYING it is the worker with its fence, or the reconciler from an unknown outcome. -/
theorem writer_allowed {row : JobRow} (shaped : row.Shaped)
    (h : Writer rt es client j target result error fence expectedState)
    (allowed : target ∈ allowedTransitions row.state) :
    (row.state = .queued ∧ target = .cancelled) ∨
      row.state = .running ∨ row.state = .verifying ∨ row.state = .unknownOutcome := by
  have live := shaped.live
  have targets := writer_target h
  revert live targets allowed
  cases row.state <;> cases target <;> decide

end Transition

section Step
variable {s : Store} {rt : Runtime} {j : String} {e : BrokerEvent} {l l' : Life}
  {client : Client} {es : BrokerLog}

theorem JobRow.Shaped.transition {row : JobRow} {target : JobState} {result : Option Dict}
    {error : Option JobError} {fence : Option String} {expectedState : Option JobState}
    (shaped : row.Shaped) (o : Oracle)
    (writer : Writer rt es client j target result error fence expectedState)
    (allowed : target ∈ allowedTransitions row.state) :
    (row.transition o target result error).Shaped := by
  have targets := writer_target writer
  refine ⟨live_closed _ _ shaped.live allowed, fun queued => ?_, fun running => ?_,
    fun leased => ?_⟩
  · obtain rfl : target = .queued := queued
    simp at targets
  · obtain rfl : target = .running := running
    simp at targets
  · by_cases verifying : target = .verifying
    · subst verifying
      exact ⟨.inr rfl, (shaped.leased leased).2⟩
    · simp [JobRow.transition, verifying] at leased

theorem Move.shaped (move : Move s j e l l') (site : rt.Site client es e.op)
    (before : ∀ row, l.row = some row → row.Shaped) : ∀ row, l'.row = some row → row.Shaped := by
  have unleased : ∀ {row : JobRow} {t : JobState}, row.state = t → Live t → t ≠ .queued →
      t ≠ .running → row.leaseToken = none → row.Shaped := by
    rintro row _ rfl live waiting running none
    exact ⟨live, fun h => absurd h waiting, fun h => absurd h running, fun h => by simp [none] at h⟩
  obtain ⟨_, events'⟩ := l'
  rintro row' ⟨⟩
  cases move with
  | same => exact before _ rfl
  | created o request subject events answered here =>
    exact ⟨.inl rfl, fun _ => ⟨rfl, rfl, rfl⟩, nofun, nofun⟩
  | claimed o workerId seconds row events here claimable token =>
    have shaped := before row rfl
    refine ⟨.inr (.inl rfl), nofun, fun _ => ⟨rfl, rfl, ?_⟩, fun _ => ⟨.inl rfl, rfl⟩⟩
    exact (shaped.queued claimable.1).2.2
  | renewed o leaseToken leaseSeconds row events answered here held running =>
    have shaped := before row rfl
    refine ⟨shaped.live, fun queued => ?_, fun running => ?_, fun leased => ?_⟩
    · have queued : row.state = .queued := queued
      rw [queued] at running
      simp at running
    · have := shaped.running running
      exact ⟨this.1, rfl, this.2.2⟩
    · exact ⟨running, rfl⟩
  | transitioned o target result error fence expectedState row events answered here held expected
      allowed =>
    exact (before row rfl).transition o (site_writer (answered.op_eq ▸ site)) allowed
  | lapsed => exact unleased (t := .unknownOutcome) rfl (by decide) (by decide) (by decide) rfl
  | expired => exact unleased (t := .expired) rfl (by decide) (by decide) (by decide) rfl
  | attempted maxAttempts limit row events op here unknown =>
    have shaped := before row rfl
    exact ⟨shaped.live, shaped.queued, shaped.running, shaped.leased⟩

theorem Move.tenure (move : Move s j e l l') (site : rt.Site client es e.op)
    (shaped : ∀ row, l.row = some row → row.Shaped) :
    Tenure.Step (tenure l.row) (claimToken j e) (tenure l'.row) := by
  have ended : ∀ {row row' : JobRow}, row'.state ≠ .queued → row'.leaseToken = none →
      claimToken j e = none →
      Tenure.Step (Deckhand.tenure (some row)) (claimToken j e) (Deckhand.tenure (some row')) := by
    intro row row' claimed dropped quiet
    rw [quiet, tenure_claimed claimed, dropped]
    by_cases waiting : row.state = .queued
    · rw [tenure_queued waiting]
      exact .close
    · rw [tenure_claimed waiting]
      cases row.leaseToken with
      | none => exact .stay .past
      | some token => exact .drop token
  cases move with
  | same _ quiet =>
    rw [quiet]
    exact .stay _
  | created o request subject events answered here =>
    rw [claimToken_other answered (by simp), tenure_queued rfl]
    exact .stay .free
  | claimed o workerId seconds row events here claimable token =>
    rw [token, tenure_queued claimable.1, tenure_held (by simp [JobRow.claim]) rfl]
    exact .claim o.uuid
  | renewed o leaseToken leaseSeconds row events answered here held running =>
    rw [claimToken_other answered (by simp)]
    exact .stay _
  | transitioned o target result error fence expectedState row events answered here held expected
      allowed =>
    have quiet := claimToken_other (j := j) answered (by simp)
    have shaped := shaped row rfl
    have writer := site_writer (answered.op_eq ▸ site)
    by_cases verifying : target = .verifying
    · subst verifying
      have claimed : row.state ≠ .queued := by
        intro queued
        rcases writer_allowed shaped writer allowed with h | h | h | h
        · cases h.2
        all_goals simp [queued] at h
      rw [quiet, tenure_claimed claimed, tenure_claimed (by simp [JobRow.transition])]
      exact .stay _
    · refine ended ?_ (by simp [JobRow.transition, verifying]) quiet
      exact fun queued => never_requeued row.state shaped.live (queued ▸ allowed)
  | lapsed o row events op here lapsed =>
    exact ended (by simp [JobRow.lapse]) rfl
      (claimToken_other e.answered_self (by simp [op]))
  | expired o ttlSeconds row events op here stale =>
    exact ended (by simp [JobRow.expire]) rfl
      (claimToken_other e.answered_self (by simp [op]))
  | attempted maxAttempts limit row events op here unknown =>
    rw [claimToken_other e.answered_self (by simp [op])]
    exact .stay _

theorem Move.stopped (move : Move s j e l l') (site : rt.Site client es e.op) {row : JobRow}
    (here : l.row = some row) (before : row.Stopped) :
    ∃ row', l'.row = some row' ∧ row'.Stopped := by
  cases move with
  | same => exact ⟨row, here, before⟩
  | created => cases here
  | claimed o workerId seconds row events _ claimable =>
    cases here
    exact absurd claimable.1 before.1
  | renewed o =>
    cases here
    exact ⟨_, rfl, before⟩
  | transitioned o target result error fence expectedState row events answered _ held expected
      allowed =>
    cases here
    have targets := writer_target (site_writer (answered.op_eq ▸ site))
    refine ⟨_, rfl, fun queued => ?_, fun running => ?_⟩
    · obtain rfl : target = .queued := queued
      simp at targets
    · obtain rfl : target = .running := running
      simp at targets
  | lapsed => exact ⟨_, rfl, by simp [JobRow.Stopped, JobRow.lapse]⟩
  | expired => exact ⟨_, rfl, by simp [JobRow.Stopped, JobRow.expire]⟩
  | attempted => cases here; exact ⟨_, rfl, before⟩

end Step

section Run
variable {rt : Runtime} {env : Environment} {started : Nat → Option Client} {log : BrokerLog}
  {db : DB}

theorem run_shaped (run : rt.Run env started log db) (j : String) :
    ∀ row, db.job? j = some row → row.Shaped := by
  refine run_induction (P := fun _ db => ∀ row, db.job? j = some row → row.Shaped) ?_ ?_ run
  · intro row h
    cases h
  · intro log e client _ valid _ site before
    exact (moved valid j).shaped site before

theorem run_tenure (run : rt.Run env started log db) (j : String) :
    Tenure.History (claims j log) (tenure (db.job? j)) := by
  refine run_induction (P := fun log db => Tenure.History (claims j log) (tenure (db.job? j)))
    .start ?_ run
  intro log e client before valid _ site held
  rw [claims, List.filterMap_append]
  have step := (moved valid j).tenure site (run_shaped before j)
  have label : List.filterMap (claimToken j) [e] = (claimToken j e).toList := by
    cases h : claimToken j e <;> simp [h]
  exact label ▸ .snoc _ _ _ _ held step

theorem stopped_stays {a b : BrokerLog} {s : DB} {j : String} {row : JobRow}
    (run : rt.Run env started (a ++ b) db) (trace : Trace (rt.sem env) .empty a s)
    (here : s.job? j = some row) (stopped : row.Stopped) :
    ∃ row', db.job? j = some row' ∧ row'.Stopped := by
  induction b using List.reverseRecOn generalizing db with
  | nil =>
    rw [List.append_nil] at run
    rw [trace.unique run.trace]
    exact ⟨row, here, stopped⟩
  | append_singleton b last ih =>
    have run : rt.Run env started ((a ++ b) ++ last :: []) db := by simpa using run
    obtain ⟨row', now, stopped'⟩ := ih run.until
    obtain ⟨client, -, site⟩ := run_site run
    rw [run.trace.snoc_inv.2.2]
    exact (moved run.valid j).stopped site now stopped'

theorem candidate_view {i maxAttempts : Nat} {es : BrokerLog} {b : Reconciler.Brief}
    (run : rt.Run env started log db) (briefed : Reconciler.Briefed rt maxAttempts es b)
    (part : es <+: localOf i log) : ∃ p c q row, log = p ++ c :: q ∧
      c.pre.job? b.job.id = some row ∧ row.state = .unknownOutcome ∧ row.view = b.job := by
  obtain ⟨before, g, owner, rfl, ⟨x, c, rest, n, jobs, rfl, -, chosen, among⟩, -⟩ := briefed.seen
  have member : c ∈ log := (mem_of_localOf (i := i) (part.subset (by simp))).1
  obtain ⟨p, q, rfl⟩ := List.append_of_mem member
  obtain ⟨row, found, unknown, view⟩ := answered_candidates run.valid chosen among
  exact ⟨p, c, q, row, rfl, found, unknown, view⟩

theorem reconciles_stopped {i maxAttempts : Nat} {es : BrokerLog} {b : Reconciler.Brief}
    (run : rt.Run env started log db) (briefed : Reconciler.Briefed rt maxAttempts es b)
    (part : es <+: localOf i log) : ∃ row, db.job? b.job.id = some row ∧ row.Stopped := by
  obtain ⟨p, c, q, row, rfl, found, unknown, -⟩ := candidate_view run briefed part
  exact stopped_stays run run.until.trace found (by simp [JobRow.Stopped, unknown])

/-- The event asks an adapter to execute the request of job `j`. -/
def Executes (j : String) (e : BrokerEvent) : Prop :=
  ∃ name action row, e.pre.job? j = some row ∧ e.op = .adapter name (.execute action row.request)

theorem execute_of_job {a b : BrokerLog} {e : BrokerEvent} {name : String}
    {action : ActionDefinition} {request : ActionRequest}
    (run : rt.Run env started (a ++ e :: b) db)
    (op : e.op = .adapter name (.execute action request)) : ∃ j, Executes j e := by
  obtain ⟨client, -, site⟩ := run_site run
  rw [op] at site
  obtain ⟨workerId, brief, briefed, rfl⟩ := site_execute site
  obtain ⟨k, g, owner, seen, -, context⟩ := briefed.seen
  have member : g ∈ a := (mem_of_localOf (i := e.caller) (seen ▸ by simp)).1
  have trace := run.until.trace
  obtain ⟨row, found, -⟩ := answered_context (trace.valid member) context
  obtain ⟨row', now, -⟩ := seen_persists trace member found
  exact ⟨brief.job.id, name, action, row', now,
    op.trans (by rw [context_request trace member context now])⟩

/-- Whoever executes a job has claimed it, and has asked for nothing but its request since. -/
theorem executes_claimed {a b : BrokerLog} {e : BrokerEvent} {j : String}
    (run : rt.Run env started (a ++ e :: b) db) (executes : Executes j e) :
    ∃ k g token, localOf e.caller a = [k, g] ∧ claimToken j k = some token ∧
      ∀ name op, g.op ≠ .adapter name op := by
  obtain ⟨name, action, row, here, op⟩ := executes
  obtain ⟨client, -, site⟩ := run_site run
  rw [op] at site
  obtain ⟨workerId, brief, briefed, request⟩ := site_execute site
  obtain ⟨k, g, owner, seen, claim, context⟩ := briefed.seen
  have member : g ∈ a := (mem_of_localOf (i := e.caller) (seen ▸ by simp)).1
  have job := job_of_context run.until member context here request.symm
  exact ⟨k, g, brief.fence, seen, (claimToken_claim claim).trans (if_pos job),
    by simp [context.op_eq]⟩

theorem run_steps (run : rt.Run env started log db) (j : String) : ∀ f ∈ log,
    Tenure.Step (tenure (f.pre.job? j)) (claimToken j f) (tenure (f.post.job? j)) := by
  intro f member
  obtain ⟨a, b, rfl⟩ := List.append_of_mem member
  obtain ⟨client, -, site⟩ := run_site run
  exact (moved run.valid j).tenure site (run_shaped run.until j)

theorem tenure_stays {P : Tenure String → Prop} {a b : BrokerLog} {e f : BrokerEvent} {j : String}
    (stable : ∀ x label y, Tenure.Step x label y → P x → P y)
    (run : rt.Run env started (a ++ e :: b) db) (start : P (tenure (e.post.job? j)))
    (member : f ∈ b) : P (tenure (f.pre.job? j)) := by
  obtain ⟨x, y, rfl⟩ := List.append_of_mem member
  have steps := run_steps run j
  refine run.trace.split.2.2.split.1.stable (P := fun db => P (tenure (db.job? j)))
    (fun g here _ => stable _ _ _ (steps g ?_)) start
  simp [here]

theorem claims_unique {log : BrokerLog} {j token token' : String} {k k' : BrokerEvent}
    (once : (claims j log).length ≤ 1) (hk : k ∈ log) (hk' : k' ∈ log)
    (claim : claimToken j k = some token) (claim' : claimToken j k' = some token') : k = k' := by
  obtain ⟨a, b, rfl⟩ := List.append_of_mem hk
  have elsewhere : ∀ part : BrokerLog, claims j part = [] → k' ∉ part := by
    intro part none member
    have : token' ∈ claims j part := List.mem_filterMap.mpr ⟨k', member, claim'⟩
    rw [none] at this
    cases this
  have split : claims j (a ++ k :: b) = claims j a ++ token :: claims j b := by
    simp [claims, claim]
  rw [split, List.length_append, List.length_cons] at once
  rcases List.mem_append.mp hk' with member | member
  · exact absurd member (elsewhere a (List.eq_nil_of_length_eq_zero (by omega)))
  · rcases List.mem_cons.mp member with same | member
    · exact same.symm
    · exact absurd member (elsewhere b (List.eq_nil_of_length_eq_zero (by omega)))

/-- The event takes token `t` away from job `j`. -/
def Loses (j token : String) (e : BrokerEvent) : Prop :=
  (∃ row, e.pre.job? j = some row ∧ row.leaseToken = some token) ∧
    ∀ row, e.post.job? j = some row → row.leaseToken ≠ some token

/-- The call presents the fence `token` for a write to job `j`. -/
def PresentsFence (j token : String) (e : BrokerEvent) : Prop :=
  (∃ target result error expectedState,
    e.op = .store (.transitionJob j target result error (some token) expectedState)) ∨
  ∃ leaseSeconds, e.op = .store (.renewLease j token leaseSeconds)

theorem Loses.lost {a b : BrokerLog} {e : BrokerEvent} {j token : String}
    (run : rt.Run env started (a ++ e :: b) db) (loses : Loses j token e) :
    Tenure.Lost token (tenure (e.post.job? j)) := by
  obtain ⟨⟨row, here, holds⟩, after⟩ := loses
  have shaped := run_shaped run.until j row here
  have claimed : row.state ≠ .queued := by
    intro queued
    have free := (shaped.queued queued).1
    rw [holds] at free
    cases free
  have step := run_steps run j e (by simp)
  rw [here, tenure_held claimed holds] at step
  refine ⟨step.never_free nofun, fun held => ?_⟩
  obtain ⟨row', now, -⟩ := (moved run.valid j).identity here
  have now : e.post.job? j = some row' := now
  rw [now] at held
  obtain ⟨_, same, -, holds'⟩ := holder held
  cases same
  exact after row' now holds'

theorem fence_refused {e : BrokerEvent} {j token : String} (valid : e.Valid (rt.sem env))
    (shaped : ∀ row, e.pre.job? j = some row → row.Shaped)
    (lost : Tenure.Lost token (tenure (e.pre.job? j))) (presents : PresentsFence j token e) :
    e.post.job? j = e.pre.job? j := by
  have unheld : ∀ row, e.pre.job? j = some row → row.leaseToken ≠ some token := by
    intro row here holds
    have claimed : row.state ≠ .queued := by
      intro queued
      have free := ((shaped row here).queued queued).1
      rw [holds] at free
      cases free
    exact lost.2 (by rw [here, tenure_held claimed holds])
  obtain ⟨_, _, move⟩ := moved_row valid j
  generalize e.pre.job? j = r at move unheld ⊢
  generalize e.post.job? j = r' at move ⊢
  have foreign : ∀ op : StoreOp, e.op = .store op →
      (∀ target result error expectedState,
        op ≠ .transitionJob j target result error (some token) expectedState) →
      (∀ leaseSeconds, op ≠ .renewLease j token leaseSeconds) → r' = r := by
    intro op is transition renew
    rcases presents with ⟨_, _, _, _, op'⟩ | ⟨_, op'⟩
    · exact absurd (Op.store.inj (is.symm.trans op')) (transition _ _ _ _)
    · exact absurd (Op.store.inj (is.symm.trans op')) (renew _)
  cases move with
  | same => rfl
  | created o request subject events answered here =>
    exact foreign _ answered.op_eq (by simp) (by simp)
  | claimed o workerId seconds row events here claimable claim =>
    obtain ⟨_, _, _, _, answered, -, -⟩ := claimToken_some claim
    exact foreign _ answered.op_eq (by simp) (by simp)
  | renewed o leaseToken leaseSeconds row events answered here held running =>
    refine foreign _ answered.op_eq (by simp) fun _ same => unheld row rfl ?_
    cases same
    exact held
  | transitioned o target result error fence expectedState row events answered here held expected
      allowed =>
    refine foreign _ answered.op_eq (fun _ _ _ _ same => unheld row rfl ?_) (by simp)
    cases same
    exact held token rfl
  | lapsed o row events op here lapsed => exact foreign _ op (by simp) (by simp)
  | expired o ttlSeconds row events op here stale => exact foreign _ op (by simp) (by simp)
  | attempted maxAttempts limit row events op here unknown =>
    exact foreign _ op (by simp) (by simp)

/-- Once a job has been executed it is not executed again: the one claim on it was the first
executor's, who makes no second such call. -/
theorem executed_once {a m b : BrokerLog} {e e' : BrokerEvent} {j : String}
    (run : rt.Run env started (a ++ e :: (m ++ e' :: b)) db) (first : Executes j e) :
    ¬ Executes j e' := by
  intro second
  obtain ⟨k, g, token, seen, claim, -⟩ := executes_claimed run first
  have run' : rt.Run env started ((a ++ e :: m) ++ e' :: b) db := by simpa using run
  obtain ⟨k', g', token', seen', claim', -⟩ := executes_claimed run' second
  have here : k ∈ a ∧ k.caller = e.caller := mem_of_localOf (seen ▸ by simp)
  have here' : k' ∈ a ++ e :: m ∧ k'.caller = e'.caller := mem_of_localOf (seen' ▸ by simp)
  have once := (run_tenure run'.until j).at_most_once
  have same : k = k' := claims_unique once (by simp [here.1]) here'.1 claim claim'
  have caller : e'.caller = e.caller := by rw [← here'.2, ← same, here.2]
  have length := congrArg List.length seen'
  rw [caller, localOf_append, seen] at length
  simp [localOf] at length

theorem executed_same {e e' : BrokerEvent} {j : String} (run : rt.Run env started log db)
    (first : e ∈ log) (second : e' ∈ log) (executes : Executes j e) (executes' : Executes j e') :
    e = e' := by
  obtain ⟨a, b, whole⟩ := List.append_of_mem first
  obtain ⟨a', b', whole'⟩ := List.append_of_mem second
  refine (same_place (fun a m b x x' split => ?_) whole whole' executes executes').2
  exact executed_once (split ▸ run)

theorem claimed_from_queue {a b : BrokerLog} {k : BrokerEvent} {j token : String}
    (run : rt.Run env started (a ++ k :: b) db) (claim : claimToken j k = some token) :
    ∀ s ∈ visited .empty a, ∀ row, s.job? j = some row → row.state = .queued := by
  intro s visit row here
  by_contra claimed
  have step := run_steps run j k (by simp)
  rw [claim] at step
  have free := step.free_of_claim.1
  rcases List.mem_cons.mp visit with rfl | member
  · cases here
  · obtain ⟨f, among, rfl⟩ := List.mem_map.mp member
    obtain ⟨x, y, rfl⟩ := List.append_of_mem among
    have run : rt.Run env started (x ++ f :: (y ++ k :: b)) db := by simpa using run
    refine tenure_stays (P := (· ≠ .free)) (fun _ _ _ => Tenure.Step.never_free) run ?_
      (List.mem_append_right y List.mem_cons_self) free
    rw [here, tenure_claimed claimed]
    cases row.leaseToken <;> simp

theorem lost_fence_refused {a b : BrokerLog} {e e' : BrokerEvent} {j token : String}
    (run : rt.Run env started (a ++ e :: b) db) (loses : Loses j token e) (later : e' ∈ b)
    (presents : PresentsFence j token e') : e'.post.job? j = e'.pre.job? j := by
  have lost := tenure_stays (fun _ _ _ => Tenure.Step.lost) run (loses.lost run) later
  obtain ⟨x, y, rfl⟩ := List.append_of_mem later
  have run : rt.Run env started ((a ++ e :: x) ++ e' :: y) db := by simpa using run
  exact fence_refused run.valid (run_shaped run.until j) lost presents

end Run

/-- At-most-once execution under fencing: every execution is of some job, a job is executed at
most once, by the worker that took it from the queue, and a fence that was lost is refused. -/
theorem at_most_once_under_fencing (rt : Runtime) (env : Environment) (c : BrokerConfig)
    (h : rt.Reachable env c) :
    (∀ e ∈ c.log, ∀ name action request, e.op = .adapter name (.execute action request) →
      ∃ j, Executes j e) ∧
    (∀ j a e b a' e' b', c.log = a ++ e :: b → c.log = a' ++ e' :: b' →
      Executes j e → Executes j e' → a = a') ∧
    (∀ j a e b, c.log = a ++ e :: b → Executes j e → ∃ x k y token, a = x ++ k :: y ∧
      k.caller = e.caller ∧ claimToken j k = some token ∧
      ∀ s ∈ visited .empty x, ∀ row, s.job? j = some row → row.state = .queued) ∧
    ∀ j token a e b, c.log = a ++ e :: b → Loses j token e → ∀ e' ∈ b,
      PresentsFence j token e' → e'.post.job? j = e'.pre.job? j := by
  have run := reachable_run h
  refine ⟨?_, ?_, ?_, ?_⟩
  · intro e member name action request op
    obtain ⟨a, b, whole⟩ := List.append_of_mem member
    rw [whole] at run
    exact execute_of_job run op
  · intro j a e b a' e' b' whole whole' first second
    refine (same_place (fun a m b x x' split => ?_) whole whole' first second).1
    exact executed_once (split ▸ run)
  · intro j a e b whole executes
    rw [whole] at run
    obtain ⟨k, g, token, seen, claim, -⟩ := executes_claimed run executes
    have here : k ∈ a ∧ k.caller = e.caller := mem_of_localOf (seen ▸ by simp)
    obtain ⟨x, y, rfl⟩ := List.append_of_mem here.1
    exact ⟨x, k, y, token, rfl, here.2, claim, claimed_from_queue run.until claim⟩
  · intro j token a e b whole loses e' later presents
    rw [whole] at run
    exact lost_fence_refused run loses later presents

namespace Sample

/-- A worker executes its job, stalls, loses its lease, and comes back to write. -/
def stalled : List Turn :=
  [.start (.createJob (request keyA) subject), .store 0 (oracle 1 "a"),
    .start (.worker "w"), .store 1 (oracle 2 "b"), .store 1 (oracle 3 "c"),
    .adapter 1 fun op => ([], healthy op),
    .start .expireLeases, .store 2 (oracle 100 "d"),
    .store 1 (oracle 101 "e")]

end Sample

open Sample in
theorem at_most_once_under_fencing_stalled : ∃ c, (runtime .none).played stalled = some c ∧
    c.log.length = 6 ∧ (c.state.job? "job_a").map JobRow.state = some .unknownOutcome ∧
    ∀ a e b, c.log = a ++ e :: b → Loses "job_a" "b" e → ∀ e' ∈ b,
      PresentsFence "job_a" "b" e' → e'.post.job? "job_a" = e'.pre.job? "job_a" := by
  have outcome : ((runtime .none).played stalled).map (fun c =>
      (c.log.length, (c.state.job? "job_a").map JobRow.state)) =
        some (6, some .unknownOutcome) := by decide +kernel
  obtain ⟨c, played, same⟩ := Option.map_eq_some_iff.mp outcome
  obtain ⟨length, state⟩ := Prod.mk.inj same
  have reachable := played_reachable (allowed_any stalled) played
  have fenced := at_most_once_under_fencing (runtime .none) .any c reachable
  exact ⟨c, played, length, state, fenced.2.2.2 "job_a" "b"⟩

end Deckhand
