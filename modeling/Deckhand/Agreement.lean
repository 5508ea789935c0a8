import Deckhand.DigestFields
import Deckhand.Mediation
import Deckhand.Store.Challenge

/-! Agreement: a confirmation that an execute request consumes was handed out to the same subject,
with a plan for the same action that the policy allowed. -/
namespace Deckhand
open Lib Lib.Prog

/-- The call handed confirmation `c` out with a plan for `request`, having `o`. -/
inductive Issues (s : Store) (request : ActionRequest) (subject : Subject)
    (mode : ConfirmationMode) (ttlSeconds : Int) (o : Oracle) (c : String) : BrokerEvent →
      Prop where
  | mk (caller : Nat) (prompt : String) (pre post : DB) :
      c = (ConfirmationRow.issue s o request subject mode ttlSeconds).id →
      Issues s request subject mode ttlSeconds o c
        ⟨caller, .store (.createConfirmation request subject mode prompt ttlSeconds), pre, o,
          .ok ⟨c, o.token, mode, o.now.addSeconds ttlSeconds, prompt⟩, post⟩

/-- The call consumes what was handed out with the plan: a token with the same hash, in time, from
the same control and by the same subject, for a request with the same digest. -/
inductive Answers (s : Store) (planned : ActionRequest) (owner : Subject)
    (mode : ConfirmationMode) (ttlSeconds : Int) (o : Oracle) (request : ActionRequest)
    (subject : Subject) : BrokerEvent → Prop where
  | mk (caller : Nat) (token : String) (pre post : DB) (o' : Oracle) :
      request.confirmationToken = some token →
      s.hashlib.sha256 o.token.toList = s.hashlib.sha256 token.toList →
      confirmationDigest s.hashlib planned = confirmationDigest s.hashlib request →
      owner.name = subject.name ∧ owner.device = subject.device →
      planned.context.control = request.context.control →
      (mode = .typed → planned.target.id = request.confirmationResponse.getD "") →
      o'.now < o.now.addSeconds ttlSeconds →
      Answers s planned owner mode ttlSeconds o request subject
        ⟨caller, .store (.consumeConfirmation request subject token request.confirmationResponse),
          pre, o', .ok true, post⟩

/-- It is the token that was handed out, for the action that was planned, with parameters that are
written alike: the same parameters, where no text in them has two surrogates that make a pair. -/
structure SameIntent (planned : ActionRequest) (o : Oracle) (request : ActionRequest) : Prop where
  token : request.confirmationToken = some o.token
  action : SameAction planned request
  parameters : WrittenAlike planned.parameters request.parameters
  exactly : (Json.obj planned.parameters).Distinct →
    (Json.obj planned.parameters).lasting = true ∧ (Json.obj request.parameters).lasting = true →
    SameParameters planned request

theorem Answers.same_intent {s : Store} {planned : ActionRequest} {owner : Subject}
    {mode : ConfirmationMode} {ttlSeconds : Int} {o : Oracle} {request : ActionRequest}
    {subject : Subject} {k : BrokerEvent}
    (h : Answers s planned owner mode ttlSeconds o request subject k)
    (collisionFree : Function.Injective s.hashlib.sha256) : SameIntent planned o request := by
  cases h with
  | mk caller token pre post o' present hashed digest =>
    have same : token = o.token := String.toList_injective (collisionFree hashed).symm
    obtain ⟨action, alike⟩ := (confirmationDigest_eq_iff collisionFree).mp digest
    exact ⟨same ▸ present, action, alike, fun distinct lasting =>
      (alike_iff_same distinct lasting).mp alike⟩

namespace Api
variable {σ : Type} (rt : Runtime) (request : ActionRequest) (subject : Subject)

/-- What a plan request has seen when it asks for a challenge: the policy's permission for a
mutation that needs a confirmation of the given mode. -/
def Permitted (es : List (Event σ Op.Note Op.Ret)) (mode : ConfirmationMode) : Prop :=
  ∃ action p w d writable decision, es = [p, w, d] ∧
    rt.catalog.validateRequest request = .ok action ∧ action.mutation = true ∧
    w.Answered (.store .auditIsWritable) (.ok writable) ∧
    d.Answered (.decide (policyInput rt action request subject writable "plan" false))
      (.ok decision) ∧
    decision.allow = true ∧ mode = decision.requiredConfirmation ∧ mode ≠ .none

variable {rt request subject}
variable {es : List (Event σ Op.Note Op.Ret)}

theorem plan_permitted {actionId : String} {request' : ActionRequest} {subject' : Subject}
    {mode : ConfirmationMode} {prompt : String} {ttlSeconds : Int}
    (h : Calls (plan rt actionId request subject) es
      (.store (.createConfirmation request' subject' mode prompt ttlSeconds))) :
    request' = request ∧ subject' = subject ∧ Permitted rt request subject es mode := by
  rcases calls_bind.mp (calls_raiseIf_then (calls_raiseIf_then h)) with
    here | ⟨⟨action, adapterPlan, decision⟩, before, es₁, rfl, ran, h₁⟩
  · -- nothing before the challenge is such a call
    exfalso
    rcases calls_bind.mp (calls_rethrow here) with here | ⟨action, _, es₁, _, _, h₁⟩
    · exact calls_validateRequest here
    rcases calls_bind.mp h₁ with here | ⟨_, _, es₂, _, _, h₂⟩
    · exact calls_getAdapter here
    rcases calls_adapter_then h₂ with ⟨_, same⟩ | ⟨_, _, es₃, _, _, h₃⟩
    · cases same
    rcases calls_store_then h₃ with ⟨_, same⟩ | ⟨_, _, es₄, _, _, h₄⟩
    · cases same
    rcases calls_bind.mp h₄ with here | ⟨decision, _, es₅, _, _, h₅⟩
    · cases (calls_decidePolicy.mp here).2
    split at h₅
    · rcases calls_store_then h₅ with ⟨_, same⟩ | ⟨_, _, _, _, _, last⟩
      · cases same
      · exact calls_pure last
    · exact absurd h₅ (by simp)
  rcases calls_bind.mp h₁ with here | ⟨_, _, _, _, _, last⟩
  swap
  · exact absurd last calls_pure
  unfold challenge at here
  split at here
  swap
  · exact absurd here calls_pure
  rename_i needed
  obtain ⟨allowed, mutation, confirmation⟩ := needed
  obtain ⟨rfl, same⟩ := calls_callStore.mp (calls_map.mp here)
  cases same
  refine ⟨rfl, rfl, ?_⟩
  rcases returns_tryCatch.mp ran with ⟨v, ran, same⟩ | ⟨x, _, _, _, _, later⟩
  swap
  · cases (returns_throw.mp later).2
  cases same
  rcases returns_bind.mp ran with ⟨x, _, same⟩ | ⟨action', _, es₂, rfl, validated, h₂⟩
  · cases same
  obtain ⟨rfl, known⟩ := returns_validateRequest_ok.mp validated
  rcases returns_bind.mp h₂ with ⟨x, _, same⟩ | ⟨_, _, es₃, rfl, got, h₃⟩
  · cases same
  obtain ⟨rfl, -⟩ := returns_getAdapter_ok.mp got
  rcases returns_adapter_then h₃ with ⟨_, _, _, _, same⟩ | ⟨p, _, es₄, rfl, _, h₄⟩
  · cases same
  rcases returns_store_then h₄ with ⟨_, _, _, _, same⟩ | ⟨w, writable, es₅, rfl, probe, h₅⟩
  · cases same
  rcases returns_bind.mp h₅ with ⟨x, _, same⟩ | ⟨decision', _, es₆, rfl, decided, h₆⟩
  · cases same
  obtain ⟨d, rfl, answered⟩ := returns_decidePolicy_ok.mp decided
  split at h₆
  · rename_i denied
    rcases returns_store_then h₆ with ⟨_, _, _, _, same⟩ | ⟨_, _, _, _, _, last⟩
    · cases same
    · cases (returns_pure.mp last).2
      simp [denied] at allowed
  · obtain ⟨rfl, same⟩ := returns_pure.mp h₆
    cases same
    exact ⟨action, p, w, d, writable, decision, by simp, known, mutation, probe, answered, allowed,
      rfl, confirmation⟩

end Api

section Run
variable {rt : Runtime} {env : Environment} {started : Nat → Option Client} {log : BrokerLog}
  {db : DB} {c : String} {row : ConfirmationRow}

theorem confirmation_issued (run : rt.Run env started log db)
    (here : db.confirmation? c = some row) :
    ∃ a p b request subject mode ttlSeconds o, log = a ++ p :: b ∧
      Issues rt.store request subject mode ttlSeconds o c p ∧
      row.issued = ConfirmationRow.issue rt.store o request subject mode ttlSeconds := by
  refine run_induction (P := fun log db => ∀ row, db.confirmation? c = some row →
    ∃ a p b request subject mode ttlSeconds o, log = a ++ p :: b ∧
      Issues rt.store request subject mode ttlSeconds o c p ∧
      row.issued = ConfirmationRow.issue rt.store o request subject mode ttlSeconds)
    (fun row here => by cases here) ?_ run row here
  intro log e client before valid _ _ held row here
  have earlier : ∀ old, e.pre.confirmation? c = some old → row.issued = old.issued →
      ∃ a p b request subject mode ttlSeconds o, log ++ [e] = a ++ p :: b ∧
        Issues rt.store request subject mode ttlSeconds o c p ∧
        row.issued = ConfirmationRow.issue rt.store o request subject mode ttlSeconds := by
    intro old was kept
    obtain ⟨a, p, b, request, subject, mode, ttl, o, rfl, issues, same⟩ := held old was
    exact ⟨a, p, b ++ [e], request, subject, mode, ttl, o, by simp, issues, kept.trans same⟩
  rcases valid_cases valid with ⟨op, r, answered⟩ | ⟨-, same⟩
  swap
  · exact earlier row (same ▸ here) rfl
  cases answered with
  | mk caller _ pre o _ post =>
    have step : UseStep rt.store o c op r (pre.usage c) (post.usage c) := (run_step valid).uses c
    generalize was : pre.usage c = u at step
    generalize now : post.usage c = u' at step
    have found : u'.row = some row := (congrArg Usage.row now).symm.trans here
    have old : pre.confirmation? c = u.row := congrArg Usage.row was
    cases step with
    | same => exact earlier row (old.trans found) rfl
    | issued request subject mode prompt ttl challenge uses named =>
      cases found
      have answer : challenge = ⟨c, Oracle.token o, mode, (Oracle.now o).addSeconds ttl, prompt⟩ :=
        named ▸ (createConfirmation_spec (Txn.atomically_ok valid)).2.1
      refine ⟨log, _, [], request, subject, mode, ttl, o, rfl, ?_, rfl⟩
      rw [answer]
      exact .mk caller prompt pre post named
    | consumed =>
      cases found
      exact earlier _ old rfl
    | cancelled =>
      cases found
      exact earlier _ old rfl

theorem issue_site {a b : BrokerLog} {p : BrokerEvent} {request : ActionRequest} {subject : Subject}
    {mode : ConfirmationMode} {ttlSeconds : Int} {o : Oracle}
    (run : rt.Run env started (a ++ p :: b) db)
    (issues : Issues rt.store request subject mode ttlSeconds o c p) :
    (∃ actionId, started p.caller = some (.plan actionId request subject)) ∧
      Api.Permitted rt request subject (localOf p.caller a) mode := by
  obtain ⟨client, origin, calls⟩ := run.calls
  have site := code_calls calls
  cases issues with
  | mk caller prompt pre post named =>
    change rt.Site client (localOf caller a) _ at site
    change Calls _ (localOf caller a) _ at calls
    change _ ∧ Api.Permitted rt request subject (localOf caller a) mode
    generalize localOf caller a = es at site calls ⊢
    cases client with
    | plan actionId request' subject' =>
      obtain ⟨rfl, rfl, permitted⟩ := Api.plan_permitted (calls_map.mp calls)
      exact ⟨⟨actionId, origin⟩, permitted⟩
    | worker => cases site
    | reconciler => cases site
    | canceller => cases site
    | execute => cases site
    | cancelConfirmation => cases site
    | createJob => cases site
    | claimNextJob => cases site.2
    | expireLeases => cases site
    | expireStaleQueued => cases site

theorem consumed_planned {a b : BrokerLog} {k : BrokerEvent} {request : ActionRequest}
    {subject : Subject} (run : rt.Run env started (a ++ k :: b) db)
    (consumes : Consumes rt.store request subject c k) :
    ∃ x p y actionId planned owner mode ttlSeconds o, a = x ++ p :: y ∧
      started p.caller = some (.plan actionId planned owner) ∧
      Api.Permitted rt planned owner (localOf p.caller x) mode ∧
      Issues rt.store planned owner mode ttlSeconds o c p ∧
      Answers rt.store planned owner mode ttlSeconds o request subject k := by
  cases consumes with
  | mk caller token row pre post o' present here awaits proved =>
    obtain ⟨x, p, y, planned, owner, mode, ttl, o, rfl, issues, same⟩ :=
      confirmation_issued run.until here
    obtain ⟨⟨actionId, origin⟩, permitted⟩ := issue_site run.until issues
    refine ⟨x, p, y, actionId, planned, owner, mode, ttl, o, rfl, origin, permitted, issues, ?_⟩
    have kept : row = ConfirmationRow.issue rt.store o planned owner mode ttl := by
      rw [← same, ConfirmationRow.issued, ← awaits.2.2.2]
    subst kept
    obtain ⟨digest, name, device, -⟩ := awaits
    refine .mk caller token pre post o' present proved.token digest ⟨name, device⟩ proved.control
      (fun typed => ?_) proved.live
    exact proved.response planned.target.id (by simp [ConfirmationRow.issue, typed])

theorem Issues.only {s : Store} {p : BrokerEvent} {c c' : String} {planned planned' : ActionRequest}
    {owner owner' : Subject} {mode mode' : ConfirmationMode} {ttl ttl' : Int} {o o' : Oracle}
    (h : Issues s planned owner mode ttl o c p) (h' : Issues s planned' owner' mode' ttl' o' c' p) :
    c = c' := by
  cases h
  cases h'
  rfl

end Run

/-- Agreement: what an adapter is asked to do about a job, where it is a mutation that needs a
confirmation, was planned before, with the policy's permission; the challenge that was handed out
then was answered by the same subject for the same action, and the answer let the job in. No plan
lets two jobs in. -/
theorem planned_before_executed (rt : Runtime) (c : BrokerConfig) (h : rt.Reachable .governed c)
    (fronted : Fronted c.started) :
    (∀ a e b name op action request, c.log = a ++ e :: b → e.op = .adapter name op →
      op.work = some (action, request) → action.mutation = true → action.confirmation ≠ .none →
      ∃ x p y k z i w j id planId planned owner mode ttlSeconds o executeId submitted subject,
        a = x ++ p :: (y ++ k :: (z ++ i :: w)) ∧
        c.started p.caller = some (.plan planId planned owner) ∧
        Api.Permitted rt planned owner (localOf p.caller x) mode ∧
        Issues rt.store planned owner mode ttlSeconds o id p ∧
        Answers rt.store planned owner mode ttlSeconds o submitted subject k ∧
        (Function.Injective rt.store.hashlib.sha256 → SameIntent planned o submitted) ∧
        k.caller = i.caller ∧ c.started i.caller = some (.execute executeId submitted subject) ∧
        Inserts j i ∧ Backs rt c.log id j ∧ request = submitted.modelDumpJson) ∧
    ∀ p id id' j j' planned planned' owner owner' mode mode' ttl ttl' o o',
      Issues rt.store planned owner mode ttl o id p →
      Issues rt.store planned' owner' mode' ttl' o' id' p →
      Backs rt c.log id j → Backs rt c.log id' j' → j = j' := by
  have run := reachable_run h
  constructor
  · intro a e b name op action request whole asks work mutation needed
    rw [whole] at run
    obtain ⟨before, i, w, j, executeId, submitted, subject, rfl, origin, inserts, same, granted⟩ :=
      work_granted run fronted asks work
    obtain ⟨k, member, id, consumes⟩ := (granted.cleared mutation).confirmed needed
    have backs : Backs rt c.log id j :=
      ⟨before, i, w ++ e :: b, k, submitted, subject, by simpa using whole, inserts, member,
        consumes⟩
    obtain ⟨earlier, z, rfl⟩ := List.append_of_mem (mem_of_localOf member).1
    have until_k : rt.Run .governed c.started (earlier ++ k :: (z ++ i :: w)) e.pre := by
      simpa using run.until
    obtain ⟨x, p, y, planId, planned, owner, mode, ttl, o, rfl, plans, permitted, issues,
      answers⟩ := consumed_planned until_k consumes
    exact ⟨x, p, y, k, z, i, w, j, id, planId, planned, owner, mode, ttl, o, executeId, submitted,
      subject, by simp, plans, permitted, issues, answers, answers.same_intent,
      (mem_of_localOf member).2, origin, inserts, backs, same⟩
  · intro p id id' j j' planned planned' owner owner' mode mode' ttl ttl' o o' issues issues' backs
      backs'
    obtain rfl := issues.only issues'
    exact (backs_unique run backs backs').mp rfl

open Sample in
theorem planned_before_executed_mediated : ∃ c, (runtime .confirm).played mediated = some c ∧
    c.log.length = 11 ∧
    ∀ a e b name op action request, c.log = a ++ e :: b → e.op = .adapter name op →
      op.work = some (action, request) → action.mutation = true → action.confirmation ≠ .none →
      ∃ p ∈ a, ∃ id planId planned owner mode ttlSeconds o,
        c.started p.caller = some (.plan planId planned owner) ∧
        Issues (runtime .confirm).store planned owner mode ttlSeconds o id p := by
  have outcome : ((runtime .confirm).played mediated).map (fun c => c.log.length) = some 11 := by
    decide +kernel
  obtain ⟨c, played, length⟩ := Option.map_eq_some_iff.mp outcome
  have agreed := planned_before_executed (runtime .confirm) c
    (played_reachable (allowed_governed mediated) played) (mediated_fronted played)
  refine ⟨c, played, length, fun a e b name op action request whole asks work mutation needed => ?_⟩
  obtain ⟨x, p, y, k, z, i, w, j, id, planId, planned, owner, mode, ttl, o, executeId, submitted,
    subject, rfl, plans, -, issues, -⟩ :=
    agreed.1 a e b name op action request whole asks work mutation needed
  exact ⟨p, by simp, id, planId, planned, owner, mode, ttl, o, plans, issues⟩

end Deckhand
