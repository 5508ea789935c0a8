import Deckhand.Broker

namespace Deckhand
open Lib Lib.Prog

namespace Api

def policyInput (rt : Runtime) (action : ActionDefinition) (request : ActionRequest)
    (subject : Subject) (auditWritable : Bool) (phase : String) (confirmationValid : Bool) :
    PolicyInput where
  action := action
  subject := subject
  target := request.target
  targetProtected := rt.isProtected request.target
  parameters := request.parameters
  mutationsEnabled := rt.allowMutations
  auditWritable := auditWritable
  environment := rt.environment
  profile := request.context.profile
  control := request.context.control
  requestDigest := requestDigest rt.store.hashlib request
  phase := phase
  confirmationValid := confirmationValid
  confirmationRequestDigest :=
    if confirmationValid then some (requestDigest rt.store.hashlib request) else none

/-- `json.loads` of the body refuses an integer of too many digits. -/
def readBody (request : ActionRequest) : Process Unit :=
  raiseIf (request.writable = false) (.http 400 (.str "There was an error parsing the body"))

def mismatch (actionId : String) (request : ActionRequest) : Process Unit :=
  raiseIf (actionId ≠ request.actionId) (.http 422 (.str "action ID mismatch"))

def planFailure : Exn → Exn
  | .catalog x => .http 422 (.str x.message)
  | .adapter (.adapterError e) =>
    match e.kind.value with
    | some code => .http 503 (.obj [("code", .str code), ("retry", .str e.retry.value)])
    | none => .data .attributeError
  | .policy (.policyUnavailable message) => .http 503 (.str message)
  | x => x

def executeFailure : Exn → Exn
  | .catalog x => .http 422 (.str x.message)
  | .policy (.policyUnavailable message) => .http 503 (.str message)
  | .store (.storeError message) => .http 409 (.str message)
  | .store (.staleLease message) => .http 409 (.str message)
  | x => x

abbrev createConfirmation (rt : Runtime) (request : ActionRequest) (subject : Subject)
    (action : ActionDefinition) (decision : PolicyDecision) : StoreOp :=
  .createConfirmation request subject decision.requiredConfirmation
    ("Confirm " ++ action.title ++ " for " ++ request.target.type ++ ":" ++ request.target.id)
    rt.confirmationTtlSeconds

/-- An allowed mutation that needs a confirmation gets a challenge with its plan. -/
def challenge (rt : Runtime) (request : ActionRequest) (subject : Subject)
    (action : ActionDefinition) (decision : PolicyDecision) :
    Process (Option ConfirmationChallenge) :=
  if decision.allow = true ∧ action.mutation = true ∧ decision.requiredConfirmation ≠ .none then
    some <$> callStore (createConfirmation rt request subject action decision)
  else return none

def plan (rt : Runtime) (actionId : String) (request : ActionRequest) (subject : Subject) :
    Process PlanView := do
  readBody request
  mismatch actionId request
  let (action, adapterPlan, decision) ← tryCatch (do
    let action ← rt.validateRequest request
    rt.getAdapter action.adapter
    let adapterPlan ← callAdapter action.adapter (.plan action request)
    let auditWritable ← callStore .auditIsWritable
    let decision ← decidePolicy (policyInput rt action request subject auditWritable "plan" false)
    if decision.allow = false then
      callStore (.recordPolicyDenial request subject "plan" decision.reason)
    return (action, adapterPlan, decision)) fun x => throw (planFailure x)
  let challenge ← challenge rt request subject action decision
  return {
    requestDigest := requestDigest rt.store.hashlib request
    confirmationDigest := confirmationDigest rt.store.hashlib request
    actionId := action.id
    actionVersion := action.version
    target := request.target
    mutation := action.mutation
    executable := decision.allow
    steps := adapterPlan.steps
    requiredConfirmation := decision.requiredConfirmation
    confirmation := challenge
    denialReason := if decision.allow = true then none else some decision.reason }

/-- A token is consumed only where it is there and not empty. -/
def token (request : ActionRequest) : Option String :=
  request.confirmationToken.filter fun token => token ≠ ""

abbrev consume (request : ActionRequest) (subject : Subject) (token : String) : StoreOp :=
  .consumeConfirmation request subject token request.confirmationResponse

def confirm (request : ActionRequest) (subject : Subject) : Process Bool :=
  match token request with
  | some token => callStore (consume request subject token)
  | none => return false

def submit (rt : Runtime) (request : ActionRequest) (subject : Subject) : Process JobView := do
  let action ← rt.validateRequest request
  let confirmationValid ← confirm request subject
  let auditWritable ← callStore .auditIsWritable
  let decision ← decidePolicy
    (policyInput rt action request subject auditWritable "execute" confirmationValid)
  if decision.allow = true then do
    raiseIf (request.dryRun = true) (.http 422 (.str "execute rejects dry-run requests"))
    callStore (.createJob request subject)
  else do
    let _ ← callStore (.recordPolicyDenial request subject "execute" decision.reason)
    throw (.http 403 (.str decision.reason))

def execute (rt : Runtime) (actionId : String) (request : ActionRequest) (subject : Subject) :
    Process JobView := do
  readBody request
  mismatch actionId request
  tryCatch (submit rt request subject) fun x => throw (executeFailure x)

def cancelConfirmation (confirmationId : String) (subject : Subject) : Process Json := do
  let cancelled ← callStore (.cancelConfirmation confirmationId subject)
  raiseIf (cancelled = false)
    (.http 404 (.str "confirmation not found or already resolved"))
  return .obj [("status", .str "cancelled")]

section Site
variable {σ : Type} (rt : Runtime) (request : ActionRequest) (subject : Subject)

/-! What a request handler has seen when it makes a call. -/

inductive Confirmed : List (Event σ Op.Note Op.Ret) → Bool → Prop where
  | none : token request = .none → Confirmed [] false
  | asked (c : Event σ Op.Note Op.Ret) (token : String) (valid : Bool) :
      Api.token request = some token →
      c.Answered (.store (consume request subject token)) (.ok valid) → Confirmed [c] valid

/-- The decision an execute request got, and what it was about. -/
structure Decided (es : List (Event σ Op.Note Op.Ret)) (action : ActionDefinition)
    (valid auditWritable : Bool) (decision : PolicyDecision) : Prop where
  validated : rt.catalog.validateRequest request = .ok action
  seen : ∃ before w d, es = before ++ [w, d] ∧ Confirmed request subject before valid ∧
    w.Answered (.store .auditIsWritable) (.ok auditWritable) ∧
    d.Answered (.decide (policyInput rt action request subject auditWritable "execute" valid))
      (.ok decision)

inductive ExecuteSite : List (Event σ Op.Note Op.Ret) → Op → Prop where
  | consume (token : String) : Api.token request = some token →
      ExecuteSite [] (.store (consume request subject token))
  | audit (es : List (Event σ Op.Note Op.Ret)) (valid : Bool) :
      Confirmed request subject es valid → ExecuteSite es (.store .auditIsWritable)
  | decide (es : List (Event σ Op.Note Op.Ret)) (input : PolicyInput) :
      ExecuteSite es (.decide input)
  | deny (es : List (Event σ Op.Note Op.Ret)) (action : ActionDefinition)
      (valid auditWritable : Bool) (decision : PolicyDecision) :
      Decided rt request subject es action valid auditWritable decision →
      decision.allow = false →
      ExecuteSite es (.store (.recordPolicyDenial request subject "execute" decision.reason))
  | create (es : List (Event σ Op.Note Op.Ret)) (action : ActionDefinition)
      (valid auditWritable : Bool) (decision : PolicyDecision) :
      Decided rt request subject es action valid auditWritable decision →
      decision.allow = true → request.dryRun = false →
      ExecuteSite es (.store (.createJob request subject))

/-- How an execute request can end, and what it has seen by then. -/
inductive ExecuteEnding : List (Event σ Op.Note Op.Ret) → Except Exn JobView → Prop where
  | unread (x : Exn) : request.writable = false → ExecuteEnding [] (.error x)
  | invalid (x : CatalogError) : rt.catalog.validateRequest request = .error x →
      ExecuteEnding [] (.error (executeFailure (.catalog x)))
  | unconfirmed (c : Event σ Op.Note Op.Ret) (token : String) (x : StoreExn) :
      Api.token request = some token →
      c.Answered (.store (consume request subject token)) (.error x) →
      ExecuteEnding [c] (.error (executeFailure (.store x)))
  | unprobed (es : List (Event σ Op.Note Op.Ret)) (w : Event σ Op.Note Op.Ret) (x : StoreExn) :
      w.Answered (.store .auditIsWritable) (.error x) →
      ExecuteEnding (es ++ [w]) (.error (executeFailure (.store x)))
  | undecided (es : List (Event σ Op.Note Op.Ret)) (d : Event σ Op.Note Op.Ret)
      (input : PolicyInput) (x : PolicyExn) : d.Answered (.decide input) (.error x) →
      ExecuteEnding (es ++ [d]) (.error (executeFailure (.policy x)))
  | denied (es : List (Event σ Op.Note Op.Ret)) (n : Event σ Op.Note Op.Ret)
      (action : ActionDefinition) (valid auditWritable : Bool) (decision : PolicyDecision)
      (x : Exn) : Decided rt request subject es action valid auditWritable decision →
      decision.allow = false →
      n.op = .store (.recordPolicyDenial request subject "execute" decision.reason) →
      ExecuteEnding (es ++ [n]) (.error (executeFailure x))
  | dryRun (es : List (Event σ Op.Note Op.Ret)) (x : Exn) : request.dryRun = true →
      ExecuteEnding es (.error (executeFailure x))
  | submitted (es : List (Event σ Op.Note Op.Ret)) (c : Event σ Op.Note Op.Ret)
      (action : ActionDefinition) (valid auditWritable : Bool) (decision : PolicyDecision)
      (r : Except StoreExn JobView) :
      Decided rt request subject es action valid auditWritable decision →
      decision.allow = true → request.dryRun = false →
      c.Answered (.store (.createJob request subject)) r →
      ExecuteEnding (es ++ [c]) (r.mapError fun x => executeFailure (.store x))

/-- The calls of a planning request; none of them touches a job or uses a confirmation. -/
inductive PlanSite : Op → Prop where
  | plan (action : ActionDefinition) : PlanSite (.adapter action.adapter (.plan action request))
  | audit : PlanSite (.store .auditIsWritable)
  | decide (input : PolicyInput) : PlanSite (.decide input)
  | deny (reason : PyStr) : PlanSite (.store (.recordPolicyDenial request subject "plan" reason))
  | create (action : ActionDefinition) (decision : PolicyDecision) :
      PlanSite (.store (createConfirmation rt request subject action decision))

end Site

section Calls
variable {σ : Type} {rt : Runtime} {request : ActionRequest} {subject : Subject}
  {es : List (Event σ Op.Note Op.Ret)} {op : Op}

theorem calls_raiseIf_then {α : Type} {c : Prop} [Decidable c] {x : Exn} {p : Process α}
    (h : Calls (raiseIf c x >>= fun _ => p) es op) : Calls p es op := by
  rcases calls_bind.mp h with here | ⟨_, _, es₁, rfl, ran, h₁⟩
  · exact absurd here calls_raiseIf
  · obtain ⟨rfl, -⟩ := returns_raiseIf_ok.mp ran
    exact h₁

theorem calls_rethrow {α : Type} {p : Process α} {f : Exn → Exn}
    (h : Calls (tryCatch p fun x => throw (f x)) es op) : Calls p es op := by
  rcases calls_tryCatch.mp h with here | ⟨_, _, _, _, _, later⟩
  · exact here
  · exact absurd later calls_throw

theorem confirm_calls (h : Calls (confirm request subject) es op) :
    ∃ token, Api.token request = some token ∧ es = [] ∧
      op = .store (consume request subject token) := by
  unfold confirm at h
  split at h
  · rename_i token present
    obtain ⟨rfl, rfl⟩ := calls_callStore.mp h
    exact ⟨token, present, rfl, rfl⟩
  · exact absurd h calls_pure

theorem confirm_returns {valid : Bool} (h : Returns (confirm request subject) es (.ok valid)) :
    Confirmed request subject es valid := by
  unfold confirm at h
  split at h
  · rename_i token present
    obtain ⟨c, rfl, answered⟩ := returns_callStore_ok.mp h
    exact .asked c token valid present answered
  · rename_i absent
    obtain ⟨rfl, same⟩ := returns_pure.mp h
    cases same
    exact .none absent

theorem submit_calls (h : Calls (submit rt request subject) es op) :
    ExecuteSite rt request subject es op := by
  rcases calls_bind.mp h with here | ⟨action, _, es₁, rfl, ran, h₁⟩
  · exact absurd here calls_validateRequest
  obtain ⟨rfl, valid⟩ := returns_validateRequest_ok.mp ran
  simp only [List.nil_append]
  rcases calls_bind.mp h₁ with here | ⟨confirmed, before, es₂, rfl, ran, h₂⟩
  · obtain ⟨token, present, rfl, rfl⟩ := confirm_calls here
    exact .consume token present
  have confirmed := confirm_returns ran
  rcases calls_store_then h₂ with ⟨rfl, rfl⟩ | ⟨w, writable, es₃, rfl, probe, h₃⟩
  · exact .audit _ _ (by simpa using confirmed)
  rcases calls_bind.mp h₃ with here | ⟨decision, _, es₄, rfl, ran, h₄⟩
  · obtain ⟨rfl, rfl⟩ := calls_decidePolicy.mp here
    exact .decide _ _
  obtain ⟨d, rfl, answered⟩ := returns_decidePolicy_ok.mp ran
  have decided : Decided rt request subject (before ++ [w, d]) action _ writable decision :=
    ⟨valid, before, w, d, rfl, confirmed, probe, answered⟩
  split at h₄
  · rename_i allowed
    rcases calls_bind.mp h₄ with here | ⟨_, _, es₅, rfl, ran, h₅⟩
    · exact absurd here calls_raiseIf
    obtain ⟨rfl, real⟩ := returns_raiseIf_ok.mp ran
    obtain ⟨rfl, rfl⟩ := calls_callStore.mp h₅
    exact .create _ action _ writable decision (by simpa using decided) allowed
      (by simpa using real)
  · rename_i denied
    rcases calls_store_then h₄ with ⟨rfl, rfl⟩ | ⟨_, _, _, _, _, last⟩
    · exact .deny _ action _ writable decision (by simpa using decided) (by simpa using denied)
    · exact absurd last calls_throw

theorem execute_calls {actionId : String} (h : Calls (execute rt actionId request subject) es op) :
    ExecuteSite rt request subject es op :=
  submit_calls (calls_rethrow (calls_raiseIf_then (calls_raiseIf_then h)))

theorem execute_named {actionId : String}
    (h : Calls (execute rt actionId request subject) es op) : actionId = request.actionId := by
  rcases calls_bind.mp (calls_raiseIf_then h) with here | ⟨_, _, es₁, rfl, ran, -⟩
  · exact absurd here calls_raiseIf
  · exact not_not.mp (returns_raiseIf_ok.mp ran).2

theorem execute_read {actionId : String}
    (h : Calls (execute rt actionId request subject) es op) : request.writable = true := by
  rcases calls_bind.mp h with here | ⟨_, _, es₁, rfl, ran, -⟩
  · exact absurd here calls_raiseIf
  · exact Bool.eq_true_of_not_eq_false (returns_raiseIf_ok.mp ran).2

theorem confirm_raises {x : Exn} (h : Returns (confirm request subject) es (.error x)) :
    ∃ c token y, es = [c] ∧ x = .store y ∧ Api.token request = some token ∧
      c.Answered (.store (consume request subject token)) (.error y) := by
  unfold confirm at h
  split at h
  · rename_i token present
    obtain ⟨c, y, rfl, answered, rfl⟩ := returns_callStore_error.mp h
    exact ⟨c, token, y, rfl, rfl, present, answered⟩
  · cases (returns_pure.mp h).2

theorem submit_returns {r : Except Exn JobView} (h : Returns (submit rt request subject) es r) :
    ExecuteEnding rt request subject es (r.mapError executeFailure) := by
  rcases returns_bind.mp h with ⟨x, ran, rfl⟩ | ⟨action, _, es₁, rfl, ran, h₁⟩
  · obtain ⟨rfl, same⟩ := returns_lift.mp ran
    obtain ⟨y, invalid, rfl⟩ := mapError_error.mp same.symm
    exact .invalid y invalid
  obtain ⟨rfl, validated⟩ := returns_validateRequest_ok.mp ran
  simp only [List.nil_append]
  rcases returns_bind.mp h₁ with ⟨x, ran, rfl⟩ | ⟨valid, before, es₂, rfl, ran, h₂⟩
  · obtain ⟨c, token, y, rfl, rfl, present, answered⟩ := confirm_raises ran
    exact .unconfirmed c token y present answered
  have confirmed := confirm_returns ran
  rcases returns_store_then h₂ with
    ⟨w, x, rfl, probe, rfl⟩ | ⟨w, writable, es₃, rfl, probe, h₃⟩
  · exact .unprobed before w x probe
  rcases returns_bind.mp h₃ with ⟨x, ran, rfl⟩ | ⟨decision, _, es₄, rfl, ran, h₄⟩
  · obtain ⟨d, r, rfl, answered, same⟩ := returns_invoke.mp ran
    obtain ⟨y, rfl, rfl⟩ := mapError_error.mp same.symm
    rw [List.append_cons]
    exact .undecided (before ++ [w]) d _ y answered
  obtain ⟨d, rfl, answered⟩ := returns_decidePolicy_ok.mp ran
  have decided : Decided rt request subject (before ++ [w, d]) action valid writable decision :=
    ⟨validated, before, w, d, rfl, confirmed, probe, answered⟩
  have whole : before ++ w :: ([d] ++ es₄) = before ++ [w, d] ++ es₄ := by simp
  rw [whole]
  split at h₄
  · rename_i allowed
    rcases returns_bind.mp h₄ with ⟨x, ran, rfl⟩ | ⟨_, _, es₅, rfl, ran, h₅⟩
    · obtain ⟨rfl, dry, rfl⟩ := returns_raiseIf_error.mp ran
      exact .dryRun _ _ dry
    obtain ⟨rfl, real⟩ := returns_raiseIf_ok.mp ran
    obtain ⟨c, a, rfl, created, rfl⟩ := returns_invoke.mp h₅
    have ended := ExecuteEnding.submitted _ c action valid writable decision a decided allowed
      (by simpa using real) created
    cases a <;> exact ended
  · rename_i denied
    have denied : decision.allow = false := by simpa using denied
    rcases returns_store_then h₄ with
      ⟨n, x, rfl, recorded, rfl⟩ | ⟨n, _, es₅, rfl, recorded, h₅⟩
    · exact .denied _ n action valid writable decision _ decided denied recorded.op_eq
    · obtain ⟨rfl, rfl⟩ := returns_throw.mp h₅
      exact .denied _ n action valid writable decision _ decided denied recorded.op_eq

theorem execute_returns {r : Except Exn JobView}
    (h : Returns (execute rt request.actionId request subject) es r) :
    ExecuteEnding rt request subject es r := by
  rcases returns_bind.mp h with ⟨x, ran, rfl⟩ | ⟨_, _, es₀, rfl, ran, rest⟩
  · obtain ⟨rfl, unread, -⟩ := returns_raiseIf_error.mp ran
    exact .unread x unread
  obtain ⟨rfl, -⟩ := returns_raiseIf_ok.mp ran
  rcases returns_bind.mp rest with ⟨x, ran, rfl⟩ | ⟨_, _, es₁, rfl, ran, h₁⟩
  · exact absurd rfl (returns_raiseIf_error.mp ran).2.1
  obtain ⟨rfl, -⟩ := returns_raiseIf_ok.mp ran
  rcases returns_tryCatch.mp h₁ with ⟨v, ran, rfl⟩ | ⟨x, first, rest, rfl, ran, later⟩
  · exact submit_returns ran
  · obtain ⟨rfl, rfl⟩ := returns_throw.mp later
    simpa [Except.mapError] using submit_returns ran

theorem plan_calls {actionId : String} (h : Calls (plan rt actionId request subject) es op) :
    PlanSite rt request subject op := by
  rcases calls_bind.mp (calls_raiseIf_then (calls_raiseIf_then h)) with
    here | ⟨⟨action, adapterPlan, decision⟩, _, es₁, _, _, h₁⟩
  · rcases calls_bind.mp (calls_rethrow here) with here | ⟨action, _, es₁, _, _, h₁⟩
    · exact absurd here calls_validateRequest
    rcases calls_bind.mp h₁ with here | ⟨_, _, es₂, _, _, h₂⟩
    · exact absurd here calls_getAdapter
    rcases calls_adapter_then h₂ with ⟨_, rfl⟩ | ⟨_, _, es₃, _, _, h₃⟩
    · exact .plan action
    rcases calls_store_then h₃ with ⟨_, rfl⟩ | ⟨_, _, es₄, _, _, h₄⟩
    · exact .audit
    rcases calls_bind.mp h₄ with here | ⟨decision, _, es₅, _, _, h₅⟩
    · exact (calls_decidePolicy.mp here).2 ▸ .decide _
    split at h₅
    · rcases calls_store_then h₅ with ⟨_, rfl⟩ | ⟨_, _, _, _, _, last⟩
      · exact .deny _
      · exact absurd last calls_pure
    · exact absurd h₅ (by simp)
  · rcases calls_bind.mp h₁ with here | ⟨_, _, _, _, _, last⟩
    · unfold challenge at here
      split at here
      · exact (calls_callStore.mp (calls_map.mp here)).2 ▸ .create action decision
      · exact absurd here calls_pure
    · exact absurd last calls_pure

theorem cancelConfirmation_calls {confirmationId : String}
    (h : Calls (cancelConfirmation confirmationId subject) es op) :
    op = .store (.cancelConfirmation confirmationId subject) := by
  rcases calls_store_then h with ⟨_, rfl⟩ | ⟨_, _, es₁, _, _, h₁⟩
  · rfl
  rcases calls_bind.mp h₁ with here | ⟨_, _, _, _, _, last⟩
  · exact absurd here calls_raiseIf
  · exact absurd last calls_pure

end Calls

end Api
end Deckhand
