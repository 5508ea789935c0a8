import Deckhand.Broker

namespace Deckhand
open Lib Lib.Prog

namespace Reconciler

/-- What a reconciler works with for one candidate. -/
structure Brief where
  job : JobView
  request : ActionRequest
  action : ActionDefinition
  execution : AdapterExecution

def notSatisfied (verification : AdapterVerification) : JobError where
  code := AdapterErrorKind.conflict.value
  message := "adapter postcondition is not yet satisfied"
  retry := .reconcileFirst
  reconciliationRequired := true
  details := verification.details
  codeMatches := by decide
  messageNonempty := by decide
  messageBounded := by decide

/-- `job.result or {}` -/
def partialResult (job : JobView) : Dict := job.result.getD []

/-- The stored execution, or one made of whatever is stored. -/
def execution (result : Dict) : Except DataExn AdapterExecution :=
  (storedExecution result).map fun stored =>
    stored.getD ⟨none, .ofDict result, AdapterExecution.unreferenced⟩

abbrev candidates (maxAttempts : Nat) : StoreOp := .claimReconcileCandidates maxAttempts 100

namespace Brief
variable (b : Brief)

abbrev enter : StoreOp :=
  .transitionJob b.job.id .verifying (some (partialResult b.job)) b.job.error none none

abbrev observe : AdapterOp := .observe b.action b.request

abbrev verify (observation : AdapterObservation) : AdapterOp :=
  .verify b.action b.request b.execution observation

abbrev succeed (observation : AdapterObservation) (verification : AdapterVerification) : StoreOp :=
  .transitionJob b.job.id .succeeded
    (some (verifiedResult (partialResult b.job) observation verification)) none none none

abbrev unsettled (verification : AdapterVerification) : StoreOp :=
  .transitionJob b.job.id .unknownOutcome (some (partialResult b.job))
    (some (notSatisfied verification)) none none

abbrev giveUp (error : AdapterError) (jobError : JobError) : StoreOp :=
  .transitionJob b.job.id (if error.retry ≠ .never then .unknownOutcome else .failed)
    (some (partialResult b.job)) (some jobError) none none

end Brief

def settle (b : Brief) : Process JobView := do
  let observation ← callAdapter b.action.adapter b.observe
  let verification ← callAdapter b.action.adapter (b.verify observation)
  if verification.satisfied then do
    requireDump observation.details
    requireDump verification.details
    callStore (b.succeed observation verification)
  else callStore (b.unsettled verification)

def handle (b : Brief) : Exn → Process JobView
  | .adapter (.adapterError error) => do
    let jobError ← asJobError error
    callStore (b.giveUp error jobError)
  | x => throw x

def reconcile (rt : Runtime) (job : JobView) : Process JobView := do
  let (request, _) ← callStore (.getJobContext job.id)
  let action ← rt.validateRequest request
  rt.getAdapter action.adapter
  let execution ← lift ((execution (partialResult job)).mapError .data)
  let b : Brief := ⟨job, request, action, execution⟩
  let _ ← callStore b.enter
  tryCatch (settle b) (handle b)

def runOnce (rt : Runtime) (maxAttempts : Nat) : Process (List JobView) := do
  let _ ← callStore .expireLeases
  let jobs ← callStore (candidates maxAttempts)
  jobs.mapM (reconcile rt)

section Site
variable {σ : Type} (rt : Runtime) (maxAttempts : Nat)

/-! What a reconciler has seen when it makes a call; other candidates' calls may be among it. -/

def Selected (es : List (Event σ Op.Note Op.Ret)) (job : JobView) : Prop :=
  ∃ x c rest n jobs, es = x :: c :: rest ∧ x.Answered (.store .expireLeases) (.ok n) ∧
    c.Answered (.store (candidates maxAttempts)) (.ok jobs) ∧ job ∈ jobs

structure Briefed (es : List (Event σ Op.Note Op.Ret)) (b : Brief) : Prop where
  seen : ∃ before g owner, es = before ++ [g] ∧ Selected maxAttempts before b.job ∧
    g.Answered (.store (.getJobContext b.job.id)) (.ok (b.request, owner))
  valid : rt.catalog.validateRequest b.request = .ok b.action
  execution : execution (partialResult b.job) = .ok b.execution

def Entered (es : List (Event σ Op.Note Op.Ret)) (b : Brief) : Prop :=
  ∃ before e v, es = before ++ [e] ∧ Briefed rt maxAttempts before b ∧
    e.Answered (.store b.enter) (.ok v)

def Observed (es : List (Event σ Op.Note Op.Ret)) (b : Brief) (o : AdapterObservation) : Prop :=
  ∃ before e, es = before ++ [e] ∧ Entered rt maxAttempts before b ∧
    e.Answered (.adapter b.action.adapter b.observe) (.ok o)

def Verified (es : List (Event σ Op.Note Op.Ret)) (b : Brief) (o : AdapterObservation)
    (v : AdapterVerification) : Prop :=
  ∃ before e, es = before ++ [e] ∧ Observed rt maxAttempts before b o ∧
    e.Answered (.adapter b.action.adapter (b.verify o)) (.ok v)

inductive Failed : List (Event σ Op.Note Op.Ret) → Brief → AdapterError → Prop where
  | observe (es : List (Event σ Op.Note Op.Ret)) (e : Event σ Op.Note Op.Ret) (b : Brief)
      (error : AdapterError) : Entered rt maxAttempts es b →
      e.Answered (.adapter b.action.adapter b.observe) (.error (.adapterError error)) →
      Failed (es ++ [e]) b error
  | verify (es : List (Event σ Op.Note Op.Ret)) (e : Event σ Op.Note Op.Ret) (b : Brief)
      (o : AdapterObservation) (error : AdapterError) : Observed rt maxAttempts es b o →
      e.Answered (.adapter b.action.adapter (b.verify o)) (.error (.adapterError error)) →
      Failed (es ++ [e]) b error

inductive Site : List (Event σ Op.Note Op.Ret) → Op → Prop where
  | expire : Site [] (.store .expireLeases)
  | candidates (x : Event σ Op.Note Op.Ret) (n : Nat) :
      x.Answered (.store .expireLeases) (.ok n) →
      Site [x] (.store (Reconciler.candidates maxAttempts))
  | context (es : List (Event σ Op.Note Op.Ret)) (job : JobView) : Selected maxAttempts es job →
      Site es (.store (.getJobContext job.id))
  | enter (es : List (Event σ Op.Note Op.Ret)) (b : Brief) : Briefed rt maxAttempts es b →
      Site es (.store b.enter)
  | observe (es : List (Event σ Op.Note Op.Ret)) (b : Brief) : Entered rt maxAttempts es b →
      Site es (.adapter b.action.adapter b.observe)
  | verify (es : List (Event σ Op.Note Op.Ret)) (b : Brief) (o : AdapterObservation) :
      Observed rt maxAttempts es b o → Site es (.adapter b.action.adapter (b.verify o))
  | succeed (es : List (Event σ Op.Note Op.Ret)) (b : Brief) (o : AdapterObservation)
      (v : AdapterVerification) : Verified rt maxAttempts es b o v → v.satisfied = true →
      Site es (.store (b.succeed o v))
  | unsettled (es : List (Event σ Op.Note Op.Ret)) (b : Brief) (o : AdapterObservation)
      (v : AdapterVerification) : Verified rt maxAttempts es b o v → v.satisfied = false →
      Site es (.store (b.unsettled v))
  | giveUp (es : List (Event σ Op.Note Op.Ret)) (b : Brief) (error : AdapterError)
      (jobError : JobError) : Failed rt maxAttempts es b error →
      error.asJobError = .ok jobError → Site es (.store (b.giveUp error jobError))

end Site

section Briefed
variable {σ : Type} {rt : Runtime} {maxAttempts : Nat} {es : List (Event σ Op.Note Op.Ret)}
  {b : Brief}

theorem Briefed.context (h : Briefed rt maxAttempts es b) : ∃ g ∈ es, ∃ owner,
    g.Answered (.store (.getJobContext b.job.id)) (.ok (b.request, owner)) := by
  obtain ⟨before, g, owner, rfl, -, context⟩ := h.seen
  exact ⟨g, by simp, owner, context⟩

theorem Entered.briefed (h : Entered rt maxAttempts es b) :
    ∃ before, before <+: es ∧ Briefed rt maxAttempts before b := by
  obtain ⟨before, e, v, rfl, briefed, -⟩ := h
  exact ⟨before, List.prefix_append .., briefed⟩

theorem Observed.briefed {o : AdapterObservation} (h : Observed rt maxAttempts es b o) :
    ∃ before, before <+: es ∧ Briefed rt maxAttempts before b := by
  obtain ⟨_, e, rfl, entered, -⟩ := h
  obtain ⟨before, part, briefed⟩ := entered.briefed
  exact ⟨before, part.trans (List.prefix_append ..), briefed⟩

theorem Verified.briefed {o : AdapterObservation} {v : AdapterVerification}
    (h : Verified rt maxAttempts es b o v) :
    ∃ before, before <+: es ∧ Briefed rt maxAttempts before b := by
  obtain ⟨_, e, rfl, observed, -⟩ := h
  obtain ⟨before, part, briefed⟩ := observed.briefed
  exact ⟨before, part.trans (List.prefix_append ..), briefed⟩

theorem Failed.briefed {error : AdapterError} (h : Failed rt maxAttempts es b error) :
    ∃ before, before <+: es ∧ Briefed rt maxAttempts before b := by
  cases h with
  | observe es e _ _ entered =>
    obtain ⟨before, part, briefed⟩ := entered.briefed
    exact ⟨before, part.trans (List.prefix_append ..), briefed⟩
  | verify es e _ o _ observed =>
    obtain ⟨before, part, briefed⟩ := observed.briefed
    exact ⟨before, part.trans (List.prefix_append ..), briefed⟩

end Briefed

theorem Verified.seen {σ : Type} {rt : Runtime} {maxAttempts : Nat}
    {es : List (Event σ Op.Note Op.Ret)} {b : Brief} {o : AdapterObservation}
    {v : AdapterVerification} (h : Verified rt maxAttempts es b o v) :
    ∃ x c rest g n p q jobs owner, es = x :: c :: rest ++ [g, n, p, q] ∧
      c.Answered (.store (candidates maxAttempts)) (.ok jobs) ∧ b.job ∈ jobs ∧
      g.Answered (.store (.getJobContext b.job.id)) (.ok (b.request, owner)) ∧
      p.Answered (.adapter b.action.adapter b.observe) (.ok o) ∧
      q.Answered (.adapter b.action.adapter (b.verify o)) (.ok v) := by
  obtain ⟨_, q, rfl, ⟨_, p, rfl, ⟨_, n, _, rfl, briefed, _⟩, observed⟩, verified⟩ := h
  obtain ⟨_, g, owner, rfl, ⟨x, c, rest, _, jobs, rfl, _, chosen, member⟩, context⟩ := briefed.seen
  exact ⟨x, c, rest, g, n, p, q, jobs, owner, by simp, chosen, member, context, observed,
    verified⟩

section Calls
variable {σ : Type} {rt : Runtime} {maxAttempts : Nat} {before es : List (Event σ Op.Note Op.Ret)}
  {b : Brief} {op : Op}

theorem settle_calls (entered : Entered rt maxAttempts before b) (h : Calls (settle b) es op) :
    Site rt maxAttempts (before ++ es) op := by
  rcases calls_adapter_then h with ⟨rfl, rfl⟩ | ⟨e₁, o, es₁, rfl, answered, h₁⟩
  · exact .observe _ b (by simpa using entered)
  have observed : Observed rt maxAttempts (before ++ [e₁]) b o :=
    ⟨before, e₁, rfl, entered, answered⟩
  rw [List.append_cons]
  rcases calls_adapter_then h₁ with ⟨rfl, rfl⟩ | ⟨e₂, v, es₂, rfl, answered, h₂⟩
  · exact .verify _ b o (by simpa using observed)
  have verified : Verified rt maxAttempts (_ ++ [e₂]) b o v := ⟨_, e₂, rfl, observed, answered⟩
  rw [List.append_cons]
  split at h₂
  · rename_i satisfied
    obtain ⟨rfl, rfl⟩ := calls_callStore.mp
      (calls_requireDump_then (calls_requireDump_then h₂).2).2
    exact .succeed _ b o v (by simpa using verified) satisfied
  · rename_i unsatisfied
    obtain ⟨rfl, rfl⟩ := calls_callStore.mp h₂
    exact .unsettled _ b o v (by simpa using verified) (by simpa using unsatisfied)

theorem settle_raises {error : AdapterError} (entered : Entered rt maxAttempts before b)
    (h : Returns (settle b) es (.error (.adapter (.adapterError error)))) :
    Failed rt maxAttempts (before ++ es) b error := by
  rcases returns_adapter_then h with ⟨e₁, _, rfl, answered, same⟩ | ⟨e₁, o, es₁, rfl, answered, h₁⟩
  · cases same
    exact .observe _ e₁ b error entered answered
  have observed : Observed rt maxAttempts (before ++ [e₁]) b o :=
    ⟨before, e₁, rfl, entered, answered⟩
  rw [List.append_cons]
  rcases returns_adapter_then h₁ with ⟨e₂, _, rfl, answered, same⟩ |
    ⟨e₂, v, es₂, rfl, answered, h₂⟩
  · cases same
    exact .verify _ e₂ b o error observed answered
  · split at h₂
    · rcases returns_requireDump_then h₂ with ⟨-, -, same⟩ | ⟨-, h₂⟩
      · cases same
      rcases returns_requireDump_then h₂ with ⟨-, -, same⟩ | ⟨-, h₂⟩
      · cases same
      obtain ⟨_, _, _, _, same⟩ := returns_callStore_error.mp h₂
      cases same
    · obtain ⟨_, _, _, _, same⟩ := returns_callStore_error.mp h₂
      cases same

theorem handle_calls {x : Exn} (h : Calls (handle b x) es op) : ∃ error jobError,
    x = .adapter (.adapterError error) ∧ error.asJobError = .ok jobError ∧ es = [] ∧
      op = .store (b.giveUp error jobError) := by
  unfold handle at h
  split at h
  · rename_i error
    rcases calls_bind.mp h with here | ⟨jobError, _, es₁, rfl, ran, h₁⟩
    · exact absurd here calls_asJobError
    obtain ⟨rfl, dumped⟩ := returns_asJobError_ok.mp ran
    obtain ⟨rfl, rfl⟩ := calls_callStore.mp h₁
    exact ⟨error, jobError, rfl, dumped, rfl, rfl⟩
  · exact absurd h calls_throw

theorem reconcile_calls {job : JobView} (selected : Selected maxAttempts before job)
    (h : Calls (reconcile rt job) es op) : Site rt maxAttempts (before ++ es) op := by
  rcases calls_store_then h with ⟨rfl, rfl⟩ | ⟨g, ⟨request, owner⟩, es₁, rfl, context, h₁⟩
  · exact .context _ job (by simpa using selected)
  rcases calls_bind.mp h₁ with here | ⟨action, _, es₂, rfl, ran, h₂⟩
  · exact absurd here calls_validateRequest
  obtain ⟨rfl, valid⟩ := returns_validateRequest_ok.mp ran
  rcases calls_bind.mp h₂ with here | ⟨_, _, es₃, rfl, ran, h₃⟩
  · exact absurd here calls_getAdapter
  obtain ⟨rfl, -⟩ := returns_getAdapter_ok.mp ran
  rcases calls_bind.mp h₃ with here | ⟨x, _, es₄, rfl, ran, h₄⟩
  · exact absurd here calls_lift
  obtain ⟨rfl, stored⟩ := returns_raised_ok.mp ran
  have briefed : Briefed rt maxAttempts (before ++ [g]) ⟨job, request, action, x⟩ :=
    ⟨⟨before, g, owner, rfl, selected, context⟩, valid, stored⟩
  simp only [List.nil_append]
  rw [List.append_cons]
  rcases calls_store_then h₄ with ⟨rfl, rfl⟩ | ⟨e₅, v, es₅, rfl, answered, h₅⟩
  · exact .enter _ _ (by simpa using briefed)
  have entered : Entered rt maxAttempts (_ ++ [e₅]) _ := ⟨_, e₅, v, rfl, briefed, answered⟩
  rw [List.append_cons]
  rcases calls_tryCatch.mp h₅ with here | ⟨x, seen, es₆, rfl, ended, h₆⟩
  · exact settle_calls entered here
  · obtain ⟨error, jobError, rfl, dumped, rfl, rfl⟩ := handle_calls h₆
    simpa using Site.giveUp _ _ error jobError (settle_raises entered ended) dumped

theorem runOnce_calls (h : Calls (runOnce rt maxAttempts) es op) : Site rt maxAttempts es op := by
  rcases calls_store_then h with ⟨rfl, rfl⟩ | ⟨x, n, es₁, rfl, expire, h₁⟩
  · exact .expire
  rcases calls_store_then h₁ with ⟨rfl, rfl⟩ | ⟨c, jobs, es₂, rfl, chosen, h₂⟩
  · exact .candidates x n expire
  obtain ⟨job, member, first, rest, rfl, later⟩ := calls_mapM h₂
  have selected : Selected maxAttempts (x :: c :: first) job :=
    ⟨x, c, first, n, jobs, rfl, expire, chosen, member⟩
  simpa using reconcile_calls selected later

end Calls

end Reconciler
end Deckhand
