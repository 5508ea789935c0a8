import Deckhand.Broker

namespace Deckhand
open Lib Lib.Prog

namespace Canceller

/-- What a canceller works with once it asks the adapter. -/
structure Brief where
  job : JobView
  request : ActionRequest
  action : ActionDefinition
  execution : Option AdapterExecution

def alreadyTerminal (state : JobState) : Exn := 
  .cancellation (pyStr ("job is already " ++ state.value))

def outcomeUnknown (cancellation : AdapterCancellation) : JobError where
  code := "cancellation_unknown"
  message := "adapter could not determine the cancellation outcome"
  retry := .reconcileFirst
  reconciliationRequired := true
  details := cancellation.details
  codeMatches := by decide
  messageNonempty := by decide
  messageBounded := by decide

/-- `(job.result or {}).get("execution")`, validated where it is a dict. -/
def execution (job : JobView) : Except DataExn (Option AdapterExecution) :=
  storedExecution (job.result.getD [])

abbrev dequeue (job : JobView) : StoreOp :=
  .transitionJob job.id .cancelled job.result job.error none (some .queued)

namespace Brief
variable (b : Brief)

abbrev cancel : AdapterOp := .cancel b.action b.request b.execution

abbrev succeed (cancellation : AdapterCancellation) : StoreOp :=
  .transitionJob b.job.id .cancelled
    (some (Dict.set (b.job.result.getD []) "cancellation" cancellation.modelDump)) none none none

abbrev unknown (cancellation : AdapterCancellation) : StoreOp :=
  .transitionJob b.job.id .unknownOutcome b.job.result (some (outcomeUnknown cancellation)) none
    none

abbrev giveUp (jobError : JobError) : StoreOp :=
  .transitionJob b.job.id .unknownOutcome b.job.result (some jobError) none none

end Brief

def apply (b : Brief) (result : AdapterCancellation) : Process JobView :=
  match result.disposition with
  | .cancelled => do
    requireDump result.details
    callStore (b.succeed result)
  | .unknown =>
    if b.job.state = .unknownOutcome then return b.job else callStore (b.unknown result)
  | disposition =>
    throw (.cancellation (pyStr ("adapter reported cancellation " ++ disposition.value)))

/-- The adapter is asked, and what it says is applied; an error of its own is written down
only where the outcome is in doubt. -/
def ask (b : Brief) : Process JobView :=
  .call (.adapter b.action.adapter b.cancel) fun
    | .ok result => apply b result
    | .error (.adapterError error) =>
      if error.reconciliationRequired = true ∧ b.job.state ≠ .unknownOutcome then do
        let jobError ← asJobError error
        callStore (b.giveUp jobError)
      else throw (.cancellation error.message)
    | .error x => throw (.adapter x)

def cancelClaimed (rt : Runtime) (job : JobView) (request : ActionRequest) : Process JobView := do
  let action ← rt.validateRequest request
  rt.getAdapter action.adapter
  let execution ← lift ((execution job).mapError .data)
  ask ⟨job, request, action, execution⟩

/-- The job as it is now, where the compare-and-set found it no longer queued. -/
def refresh (jobId : String) : Process JobView := do
  let refreshed ← callStore (.getJob jobId)
  let job ← require refreshed (.cancellation "job not found")
  raiseIf (job.state ∈ terminalJobStates) (alreadyTerminal job.state)
  return job

def cancel (rt : Runtime) (jobId : String) (subject : Subject) : Process JobView := do
  let found ← callStore (.getJob jobId)
  let job ← require found (.cancellation "job not found")
  let (request, owner) ← callStore (.getJobContext jobId)
  raiseIf (¬ (owner.name = subject.name ∧ owner.device = subject.device))
    (.cancellation "job belongs to another subject or device")
  raiseIf (job.state ∈ terminalJobStates) (alreadyTerminal job.state)
  if job.state = .queued then
    .call (.store (dequeue job)) fun
      | .ok view => return view
      | .error (.staleLease _) => do
        let job ← refresh jobId
        cancelClaimed rt job request
      | .error x => throw (.store x)
  else cancelClaimed rt job request

section Site
variable {σ : Type} (rt : Runtime) (jobId : String) (subject : Subject)

/-! What a canceller has seen when it makes a call. -/

structure Owned (g c : Event σ Op.Note Op.Ret) (job : JobView) (request : ActionRequest) :
    Prop where
  found : g.Answered (.store (.getJob jobId)) (.ok (some job))
  context : ∃ owner, c.Answered (.store (.getJobContext jobId)) (.ok (request, owner)) ∧
    owner.name = subject.name ∧ owner.device = subject.device
  live : job.state ∉ terminalJobStates

/-- The job it goes on with: as first read, or as read again after a lost compare-and-set. -/
inductive Viewed : List (Event σ Op.Note Op.Ret) → JobView → ActionRequest → Prop where
  | first (g c : Event σ Op.Note Op.Ret) (job : JobView) (request : ActionRequest) :
      Owned jobId subject g c job request → job.state ≠ .queued → Viewed [g, c] job request
  | again (g c t g' : Event σ Op.Note Op.Ret) (queued job : JobView) (request : ActionRequest)
      (message : String) : Owned jobId subject g c queued request → queued.state = .queued →
      t.Answered (.store (dequeue queued)) (.error (.staleLease message)) →
      g'.Answered (.store (.getJob jobId)) (.ok (some job)) → job.state ∉ terminalJobStates →
      Viewed [g, c, t, g'] job request

structure Briefed (es : List (Event σ Op.Note Op.Ret)) (b : Brief) : Prop where
  viewed : Viewed jobId subject es b.job b.request
  valid : rt.catalog.validateRequest b.request = .ok b.action
  execution : execution b.job = .ok b.execution

def Asked (es : List (Event σ Op.Note Op.Ret)) (b : Brief)
    (r : Except AdapterExn AdapterCancellation) : Prop :=
  ∃ before e, es = before ++ [e] ∧ Briefed rt jobId subject before b ∧
    e.Answered (.adapter b.action.adapter b.cancel) r

inductive Site : List (Event σ Op.Note Op.Ret) → Op → Prop where
  | get : Site [] (.store (.getJob jobId))
  | context (g : Event σ Op.Note Op.Ret) (job : JobView) :
      g.Answered (.store (.getJob jobId)) (.ok (some job)) →
      Site [g] (.store (.getJobContext jobId))
  | dequeue (g c : Event σ Op.Note Op.Ret) (job : JobView) (request : ActionRequest) :
      Owned jobId subject g c job request → job.state = .queued →
      Site [g, c] (.store (dequeue job))
  | refresh (g c t : Event σ Op.Note Op.Ret) : Site [g, c, t] (.store (.getJob jobId))
  | cancel (es : List (Event σ Op.Note Op.Ret)) (b : Brief) : Briefed rt jobId subject es b →
      Site es (.adapter b.action.adapter b.cancel)
  | succeed (es : List (Event σ Op.Note Op.Ret)) (b : Brief) (result : AdapterCancellation) :
      Asked rt jobId subject es b (.ok result) → result.disposition = .cancelled →
      Site es (.store (b.succeed result))
  | unknown (es : List (Event σ Op.Note Op.Ret)) (b : Brief) (result : AdapterCancellation) :
      Asked rt jobId subject es b (.ok result) → result.disposition = .unknown →
      b.job.state ≠ .unknownOutcome → Site es (.store (b.unknown result))
  | giveUp (es : List (Event σ Op.Note Op.Ret)) (b : Brief) (error : AdapterError)
      (jobError : JobError) : Asked rt jobId subject es b (.error (.adapterError error)) →
      error.reconciliationRequired = true → b.job.state ≠ .unknownOutcome →
      error.asJobError = .ok jobError → Site es (.store (b.giveUp jobError))

end Site

theorem Viewed.context {σ : Type} {jobId : String} {subject : Subject}
    {es : List (Event σ Op.Note Op.Ret)} {job : JobView} {request : ActionRequest}
    (h : Viewed jobId subject es job request) :
    ∃ c ∈ es, ∃ owner, c.Answered (.store (.getJobContext jobId)) (.ok (request, owner)) := by
  cases h with
  | first g c _ _ owned =>
    obtain ⟨owner, context, -⟩ := owned.context
    exact ⟨c, by simp, owner, context⟩
  | again g c t g' queued _ _ message owned =>
    obtain ⟨owner, context, -⟩ := owned.context
    exact ⟨c, by simp, owner, context⟩

theorem Viewed.read {σ : Type} {jobId : String} {subject : Subject}
    {es : List (Event σ Op.Note Op.Ret)} {job : JobView} {request : ActionRequest}
    (h : Viewed jobId subject es job request) :
    ∃ g ∈ es, g.Answered (.store (.getJob jobId)) (.ok (some job)) := by
  cases h with
  | first g c _ _ owned => exact ⟨g, by simp, owned.found⟩
  | again g c t g' queued _ _ message owned _ _ again => exact ⟨g', by simp, again⟩

section Calls
variable {σ : Type} {rt : Runtime} {jobId : String} {subject : Subject}
  {before es : List (Event σ Op.Note Op.Ret)} {b : Brief} {op : Op}

theorem apply_calls {result : AdapterCancellation}
    (asked : Asked rt jobId subject before b (.ok result)) (h : Calls (apply b result) es op) :
    es = [] ∧ Site rt jobId subject before op := by
  unfold apply at h
  split at h
  · rename_i cancelled
    obtain ⟨rfl, rfl⟩ := calls_callStore.mp (calls_requireDump_then h).2
    exact ⟨rfl, .succeed _ b result asked cancelled⟩
  · rename_i unknown
    split at h
    · exact absurd h calls_pure
    · rename_i known
      obtain ⟨rfl, rfl⟩ := calls_callStore.mp h
      exact ⟨rfl, .unknown _ b result asked unknown known⟩
  · exact absurd h calls_throw

theorem ask_calls (briefed : Briefed rt jobId subject before b) (h : Calls (ask b) es op) :
    Site rt jobId subject (before ++ es) op := by
  rcases calls_call.mp h with ⟨rfl, rfl⟩ | ⟨e, rest, r, rfl, answered, h⟩
  · exact .cancel _ b (by simpa using briefed)
  have asked : Asked rt jobId subject (before ++ [e]) b r := ⟨before, e, rfl, briefed, answered⟩
  rw [List.append_cons]
  split at h
  · rename_i result
    obtain ⟨rfl, site⟩ := apply_calls asked h
    simpa using site
  · rename_i error
    split at h
    · rename_i doubt
      rcases calls_bind.mp h with here | ⟨jobError, _, es₁, rfl, ran, h₁⟩
      · exact absurd here calls_asJobError
      obtain ⟨rfl, dumped⟩ := returns_asJobError_ok.mp ran
      obtain ⟨rfl, rfl⟩ := calls_callStore.mp h₁
      simpa using Site.giveUp _ b error jobError asked doubt.1 doubt.2 dumped
    · exact absurd h calls_throw
  · exact absurd h calls_throw

theorem cancelClaimed_calls {job : JobView} {request : ActionRequest}
    (viewed : Viewed jobId subject before job request)
    (h : Calls (cancelClaimed rt job request) es op) :
    Site rt jobId subject (before ++ es) op := by
  rcases calls_bind.mp h with here | ⟨action, _, es₁, rfl, ran, h₁⟩
  · exact absurd here calls_validateRequest
  obtain ⟨rfl, valid⟩ := returns_validateRequest_ok.mp ran
  rcases calls_bind.mp h₁ with here | ⟨_, _, es₂, rfl, ran, h₂⟩
  · exact absurd here calls_getAdapter
  obtain ⟨rfl, -⟩ := returns_getAdapter_ok.mp ran
  rcases calls_bind.mp h₂ with here | ⟨x, _, es₃, rfl, ran, h₃⟩
  · exact absurd here calls_lift
  obtain ⟨rfl, stored⟩ := returns_raised_ok.mp ran
  exact ask_calls (b := ⟨job, request, action, x⟩) ⟨viewed, valid, stored⟩ h₃

theorem refresh_returns {job : JobView} (h : Returns (refresh jobId) es (.ok job)) :
    ∃ g : Event σ Op.Note Op.Ret, es = [g] ∧
      g.Answered (.store (.getJob jobId)) (.ok (some job)) ∧ job.state ∉ terminalJobStates := by
  rcases returns_store_then h with ⟨_, _, _, _, same⟩ | ⟨g, found, es₁, rfl, answered, h₁⟩
  · cases same
  rcases returns_bind.mp h₁ with ⟨_, _, same⟩ | ⟨job', _, es₂, rfl, ran, h₂⟩
  · cases same
  obtain ⟨rfl, rfl⟩ := returns_require_ok.mp ran
  rcases returns_bind.mp h₂ with ⟨_, _, same⟩ | ⟨_, _, es₃, rfl, ran, h₃⟩
  · cases same
  obtain ⟨rfl, live⟩ := returns_raiseIf_ok.mp ran
  obtain ⟨rfl, same⟩ := returns_pure.mp h₃
  cases same
  exact ⟨g, rfl, answered, live⟩

theorem refresh_calls (h : Calls (refresh jobId) es op) :
    es = [] ∧ op = .store (.getJob jobId) := by
  rcases calls_store_then h with here | ⟨g, found, es₁, rfl, answered, h₁⟩
  · exact here
  rcases calls_bind.mp h₁ with here | ⟨_, _, es₂, rfl, ran, h₂⟩
  · exact absurd here calls_require
  rcases calls_bind.mp h₂ with here | ⟨_, _, es₃, rfl, ran, h₃⟩
  · exact absurd here calls_raiseIf
  · exact absurd h₃ calls_pure

theorem cancel_calls (h : Calls (cancel rt jobId subject) es op) :
    Site rt jobId subject es op := by
  rcases calls_store_then h with ⟨rfl, rfl⟩ | ⟨g, found, es₁, rfl, answered, h₁⟩
  · exact .get
  rcases calls_bind.mp h₁ with here | ⟨job, _, es₂, rfl, ran, h₂⟩
  · exact absurd here calls_require
  obtain ⟨rfl, rfl⟩ := returns_require_ok.mp ran
  rcases calls_store_then h₂ with ⟨rfl, rfl⟩ | ⟨c, ⟨request, owner⟩, es₃, rfl, context, h₃⟩
  · exact .context g job answered
  rcases calls_bind.mp h₃ with here | ⟨_, _, es₄, rfl, ran, h₄⟩
  · exact absurd here calls_raiseIf
  obtain ⟨rfl, own⟩ := returns_raiseIf_ok.mp ran
  rcases calls_bind.mp h₄ with here | ⟨_, _, es₅, rfl, ran, h₅⟩
  · exact absurd here calls_raiseIf
  obtain ⟨rfl, live⟩ := returns_raiseIf_ok.mp ran
  have owned : Owned jobId subject g c job request :=
    ⟨answered, ⟨owner, context, not_not.mp own⟩, live⟩
  simp only [List.nil_append]
  split at h₅
  · rename_i queued
    rcases calls_call.mp h₅ with ⟨rfl, rfl⟩ | ⟨t, rest, r, rfl, lost, h₆⟩
    · exact .dequeue g c job request owned queued
    split at h₆
    · exact absurd h₆ calls_pure
    · rename_i message
      rcases calls_bind.mp h₆ with here | ⟨job', _, es₇, rfl, ran, h₇⟩
      · obtain ⟨rfl, rfl⟩ := refresh_calls here
        exact .refresh g c t
      obtain ⟨g', rfl, again, live'⟩ := refresh_returns ran
      exact cancelClaimed_calls (.again g c t g' job job' request message owned queued lost again
        live') h₇
    · exact absurd h₆ calls_throw
  · rename_i claimed
    exact cancelClaimed_calls (.first g c job request owned claimed) h₅

end Calls

end Canceller
end Deckhand
