import Deckhand.Broker

namespace Deckhand
open Lib Lib.Prog

namespace Worker

/-- Headroom over the action's own timeout; a default where the action is unknown. -/
def leaseFor (catalog : Catalog) (request : ActionRequest) : Int :=
  match catalog.validateRequest request with
  | .ok action => action.timeoutSeconds + 15
  | .error _ => 30

/-- What a worker works with once it has its job. -/
structure Brief where
  job : JobView
  fence : String
  request : ActionRequest
  action : ActionDefinition

def notSatisfied (verification : AdapterVerification) : AdapterError where
  message := "adapter postcondition is not yet satisfied"
  kind := .member .conflict
  retry := .reconcileFirst
  reconciliationRequired := true
  details := verification.details

def partialResult (execution : AdapterExecution) : Dict := [("execution", execution.modelDump)]

abbrev claim (rt : Runtime) (workerId : String) : StoreOp :=
  .claimNextJob workerId 30 (some (leaseFor rt.catalog))

namespace Brief
variable (b : Brief)

abbrev execute : AdapterOp := .execute b.action b.request

abbrev record (execution : AdapterExecution) : StoreOp :=
  .transitionJob b.job.id .verifying (some (partialResult execution)) none (some b.fence) none

abbrev renew (rt : Runtime) : StoreOp :=
  .renewLease b.job.id b.fence (leaseFor rt.catalog b.request)

abbrev observe : AdapterOp := .observe b.action b.request

abbrev verify (execution : AdapterExecution) (observation : AdapterObservation) : AdapterOp :=
  .verify b.action b.request execution observation

abbrev succeed (execution : AdapterExecution) (observation : AdapterObservation)
    (verification : AdapterVerification) : StoreOp :=
  .transitionJob b.job.id .succeeded
    (some (verifiedResult (partialResult execution) observation verification)) none
    (some b.fence) none

abbrev giveUp (error : AdapterError) (jobError : JobError) : StoreOp :=
  .transitionJob b.job.id (if error.reconciliationRequired then .unknownOutcome else .failed)
    none (some jobError) (some b.fence) none

end Brief

def work (rt : Runtime) (b : Brief) : Process (Option JobView) := do
  let execution ← callAdapter b.action.adapter b.execute
  requireDump execution.details
  let _ ← callStore (b.record execution)
  -- a slow observation must not let the lease lapse
  let _ ← callStore (b.renew rt)
  let observation ← callAdapter b.action.adapter b.observe
  let verification ← callAdapter b.action.adapter (b.verify execution observation)
  raiseIf (verification.satisfied = false) (.adapter (.adapterError (notSatisfied verification)))
  requireDump observation.details
  requireDump verification.details
  let view ← callStore (b.succeed execution observation verification)
  return some view

/-- A lost lease abandons the job; it is the reconciler's. -/
def abandon : Exn → Process (Option JobView)
  | .store (.staleLease _) => return none
  | x => throw x

def handle (b : Brief) : Exn → Process (Option JobView)
  | .store (.staleLease _) => return none
  | .adapter (.adapterError error) =>
    tryCatch (do
      let jobError ← asJobError error
      let view ← callStore (b.giveUp error jobError)
      return some view) abandon
  | x => throw x

def runOnce (rt : Runtime) (workerId : String) : Process (Option JobView) := do
  match ← callStore (claim rt workerId) with
  | none => return none
  | some claimed =>
    let (request, _) ← callStore (.getJobContext claimed.job.id)
    let action ← rt.validateRequest request
    rt.getAdapter action.adapter
    let b : Brief := ⟨claimed.job, claimed.leaseToken, request, action⟩
    tryCatch (work rt b) (handle b)

section Site
variable {σ : Type} (rt : Runtime) (workerId : String)

/-! What a worker has seen when it makes a call. -/

structure Briefed (es : List (Event σ Op.Note Op.Ret)) (b : Brief) : Prop where
  seen : ∃ c g owner, es = [c, g] ∧
    c.Answered (.store (claim rt workerId)) (.ok (some ⟨b.job, b.fence⟩)) ∧
    g.Answered (.store (.getJobContext b.job.id)) (.ok (b.request, owner))
  valid : rt.catalog.validateRequest b.request = .ok b.action

def Executed (es : List (Event σ Op.Note Op.Ret)) (b : Brief) (x : AdapterExecution) : Prop :=
  ∃ before e, es = before ++ [e] ∧ Briefed rt workerId before b ∧
    e.Answered (.adapter b.action.adapter b.execute) (.ok x)

def Recorded (es : List (Event σ Op.Note Op.Ret)) (b : Brief) (x : AdapterExecution) : Prop :=
  ∃ before e v, es = before ++ [e] ∧ Executed rt workerId before b x ∧
    e.Answered (.store (b.record x)) (.ok v)

def Renewed (es : List (Event σ Op.Note Op.Ret)) (b : Brief) (x : AdapterExecution) : Prop :=
  ∃ before e v, es = before ++ [e] ∧ Recorded rt workerId before b x ∧
    e.Answered (.store (b.renew rt)) (.ok v)

def Observed (es : List (Event σ Op.Note Op.Ret)) (b : Brief) (x : AdapterExecution)
    (o : AdapterObservation) : Prop :=
  ∃ before e, es = before ++ [e] ∧ Renewed rt workerId before b x ∧
    e.Answered (.adapter b.action.adapter b.observe) (.ok o)

def Verified (es : List (Event σ Op.Note Op.Ret)) (b : Brief) (x : AdapterExecution)
    (o : AdapterObservation) (v : AdapterVerification) : Prop :=
  ∃ before e, es = before ++ [e] ∧ Observed rt workerId before b x o ∧
    e.Answered (.adapter b.action.adapter (b.verify x o)) (.ok v)

inductive Failed : List (Event σ Op.Note Op.Ret) → Brief → AdapterError → Prop where
  | execute (es : List (Event σ Op.Note Op.Ret)) (e : Event σ Op.Note Op.Ret) (b : Brief)
      (error : AdapterError) : Briefed rt workerId es b →
      e.Answered (.adapter b.action.adapter b.execute) (.error (.adapterError error)) →
      Failed (es ++ [e]) b error
  | observe (es : List (Event σ Op.Note Op.Ret)) (e : Event σ Op.Note Op.Ret) (b : Brief)
      (x : AdapterExecution) (error : AdapterError) : Renewed rt workerId es b x →
      e.Answered (.adapter b.action.adapter b.observe) (.error (.adapterError error)) →
      Failed (es ++ [e]) b error
  | verify (es : List (Event σ Op.Note Op.Ret)) (e : Event σ Op.Note Op.Ret) (b : Brief)
      (x : AdapterExecution) (o : AdapterObservation) (error : AdapterError) :
      Observed rt workerId es b x o →
      e.Answered (.adapter b.action.adapter (b.verify x o)) (.error (.adapterError error)) →
      Failed (es ++ [e]) b error
  | unsatisfied (es : List (Event σ Op.Note Op.Ret)) (b : Brief) (x : AdapterExecution)
      (o : AdapterObservation) (v : AdapterVerification) : Verified rt workerId es b x o v →
      v.satisfied = false → Failed es b (notSatisfied v)

inductive Site : List (Event σ Op.Note Op.Ret) → Op → Prop where
  | claim : Site [] (.store (claim rt workerId))
  | context (c : Event σ Op.Note Op.Ret) (claimed : ClaimedJob) :
      c.Answered (.store (Worker.claim rt workerId)) (.ok (some claimed)) →
      Site [c] (.store (.getJobContext claimed.job.id))
  | execute (es : List (Event σ Op.Note Op.Ret)) (b : Brief) : Briefed rt workerId es b →
      Site es (.adapter b.action.adapter b.execute)
  | record (es : List (Event σ Op.Note Op.Ret)) (b : Brief) (x : AdapterExecution) :
      Executed rt workerId es b x → Site es (.store (b.record x))
  | renew (es : List (Event σ Op.Note Op.Ret)) (b : Brief) (x : AdapterExecution) :
      Recorded rt workerId es b x → Site es (.store (b.renew rt))
  | observe (es : List (Event σ Op.Note Op.Ret)) (b : Brief) (x : AdapterExecution) :
      Renewed rt workerId es b x → Site es (.adapter b.action.adapter b.observe)
  | verify (es : List (Event σ Op.Note Op.Ret)) (b : Brief) (x : AdapterExecution)
      (o : AdapterObservation) : Observed rt workerId es b x o →
      Site es (.adapter b.action.adapter (b.verify x o))
  | succeed (es : List (Event σ Op.Note Op.Ret)) (b : Brief) (x : AdapterExecution)
      (o : AdapterObservation) (v : AdapterVerification) : Verified rt workerId es b x o v →
      v.satisfied = true → Site es (.store (b.succeed x o v))
  | giveUp (es : List (Event σ Op.Note Op.Ret)) (b : Brief) (error : AdapterError)
      (jobError : JobError) : Failed rt workerId es b error →
      error.asJobError = .ok jobError → Site es (.store (b.giveUp error jobError))

end Site

section Recorded
variable {σ : Type} {rt : Runtime} {workerId : String} {es : List (Event σ Op.Note Op.Ret)}
  {b : Brief} {x : AdapterExecution}

theorem Renewed.recorded (h : Renewed rt workerId es b x) :
    ∃ before, before <+: es ∧ Recorded rt workerId before b x := by
  obtain ⟨before, e, v, rfl, recorded, -⟩ := h
  exact ⟨before, List.prefix_append .., recorded⟩

theorem Observed.recorded {o : AdapterObservation} (h : Observed rt workerId es b x o) :
    ∃ before, before <+: es ∧ Recorded rt workerId before b x := by
  obtain ⟨_, e, rfl, renewed, -⟩ := h
  obtain ⟨before, part, recorded⟩ := renewed.recorded
  exact ⟨before, part.trans (List.prefix_append ..), recorded⟩

theorem Verified.recorded {o : AdapterObservation} {v : AdapterVerification}
    (h : Verified rt workerId es b x o v) :
    ∃ before, before <+: es ∧ Recorded rt workerId before b x := by
  obtain ⟨_, e, rfl, observed, -⟩ := h
  obtain ⟨before, part, recorded⟩ := observed.recorded
  exact ⟨before, part.trans (List.prefix_append ..), recorded⟩

theorem Recorded.context (h : Recorded rt workerId es b x) : ∃ g ∈ es, ∃ owner,
    g.Answered (.store (.getJobContext b.job.id)) (.ok (b.request, owner)) := by
  obtain ⟨_, r, v, rfl, ⟨_, e, rfl, briefed, -⟩, -⟩ := h
  obtain ⟨c, g, owner, rfl, -, context⟩ := briefed.seen
  exact ⟨g, by simp, owner, context⟩

end Recorded

section Knows
variable {σ : Type} {rt : Runtime} {workerId : String} {es : List (Event σ Op.Note Op.Ret)}
  {b : Brief} {x : AdapterExecution}

/-- The worker has claimed its job and knows its request and its action. -/
def Knows (rt : Runtime) (workerId : String) (es : List (Event σ Op.Note Op.Ret)) (b : Brief) :
    Prop :=
  ∃ c rest, es = c :: rest ∧
    c.Answered (.store (claim rt workerId)) (.ok (some ⟨b.job, b.fence⟩)) ∧
    rt.catalog.validateRequest b.request = .ok b.action ∧ ∃ g ∈ rest, ∃ owner,
      g.Answered (.store (.getJobContext b.job.id)) (.ok (b.request, owner))

theorem Knows.snoc {e : Event σ Op.Note Op.Ret} (h : Knows rt workerId es b) :
    Knows rt workerId (es ++ [e]) b := by
  obtain ⟨c, rest, rfl, claim, valid, g, member, context⟩ := h
  exact ⟨c, rest ++ [e], rfl, claim, valid, g, List.mem_append_left _ member, context⟩

theorem Briefed.knows (h : Briefed rt workerId es b) : Knows rt workerId es b := by
  obtain ⟨⟨c, g, owner, rfl, claim, context⟩, valid⟩ := h
  exact ⟨c, [g], rfl, claim, valid, g, by simp, owner, context⟩

theorem Executed.knows (h : Executed rt workerId es b x) : Knows rt workerId es b := by
  obtain ⟨before, e, rfl, briefed, -⟩ := h
  exact briefed.knows.snoc

theorem Recorded.knows (h : Recorded rt workerId es b x) : Knows rt workerId es b := by
  obtain ⟨before, e, v, rfl, executed, -⟩ := h
  exact executed.knows.snoc

theorem Renewed.knows (h : Renewed rt workerId es b x) : Knows rt workerId es b := by
  obtain ⟨before, e, v, rfl, recorded, -⟩ := h
  exact recorded.knows.snoc

theorem Observed.knows {o : AdapterObservation} (h : Observed rt workerId es b x o) :
    Knows rt workerId es b := by
  obtain ⟨before, e, rfl, renewed, -⟩ := h
  exact renewed.knows.snoc

theorem Verified.knows {o : AdapterObservation} {v : AdapterVerification}
    (h : Verified rt workerId es b x o v) : Knows rt workerId es b := by
  obtain ⟨before, e, rfl, observed, -⟩ := h
  exact observed.knows.snoc

theorem Failed.knows {error : AdapterError} (h : Failed rt workerId es b error) :
    Knows rt workerId es b := by
  cases h with
  | execute es e _ _ briefed => exact briefed.knows.snoc
  | observe es e _ x _ renewed => exact renewed.knows.snoc
  | verify es e _ x o _ observed => exact observed.knows.snoc
  | unsatisfied _ _ x o v verified => exact verified.knows

end Knows

theorem Verified.seen {σ : Type} {rt : Runtime} {workerId : String}
    {es : List (Event σ Op.Note Op.Ret)} {b : Brief} {x : AdapterExecution}
    {o : AdapterObservation} {v : AdapterVerification} (h : Verified rt workerId es b x o v) :
    ∃ c g e r n p q owner, es = [c, g, e, r, n, p, q] ∧
      c.Answered (.store (claim rt workerId)) (.ok (some ⟨b.job, b.fence⟩)) ∧
      g.Answered (.store (.getJobContext b.job.id)) (.ok (b.request, owner)) ∧
      p.Answered (.adapter b.action.adapter b.observe) (.ok o) ∧
      q.Answered (.adapter b.action.adapter (b.verify x o)) (.ok v) := by
  obtain ⟨_, q, rfl, ⟨_, p, rfl, ⟨_, n, _, rfl, ⟨_, r, _, rfl, ⟨_, e, rfl, briefed, _⟩, _⟩, _⟩,
    observed⟩, verified⟩ := h
  obtain ⟨c, g, owner, rfl, claim, context⟩ := briefed.seen
  exact ⟨c, g, e, r, n, p, q, owner, rfl, claim, context, observed, verified⟩

section Calls
variable {σ : Type} {rt : Runtime} {workerId : String} {before es : List (Event σ Op.Note Op.Ret)}
  {b : Brief} {op : Op}

theorem work_calls (briefed : Briefed rt workerId before b) (h : Calls (work rt b) es op) :
    Site rt workerId (before ++ es) op := by
  rcases calls_adapter_then h with ⟨rfl, rfl⟩ | ⟨e₁, x, es₁, rfl, answered, h₁⟩
  · exact .execute _ b (by simpa using briefed)
  have executed : Executed rt workerId (before ++ [e₁]) b x :=
    ⟨before, e₁, rfl, briefed, answered⟩
  rw [List.append_cons]
  rcases calls_store_then (calls_requireDump_then h₁).2 with ⟨rfl, rfl⟩ |
    ⟨e₂, v, es₂, rfl, answered, h₂⟩
  · exact .record _ b x (by simpa using executed)
  have recorded : Recorded rt workerId (_ ++ [e₂]) b x := ⟨_, e₂, v, rfl, executed, answered⟩
  rw [List.append_cons]
  rcases calls_store_then h₂ with ⟨rfl, rfl⟩ | ⟨e₃, v, es₃, rfl, answered, h₃⟩
  · exact .renew _ b x (by simpa using recorded)
  have renewed : Renewed rt workerId (_ ++ [e₃]) b x := ⟨_, e₃, v, rfl, recorded, answered⟩
  rw [List.append_cons]
  rcases calls_adapter_then h₃ with ⟨rfl, rfl⟩ | ⟨e₄, o, es₄, rfl, answered, h₄⟩
  · exact .observe _ b x (by simpa using renewed)
  have observed : Observed rt workerId (_ ++ [e₄]) b x o := ⟨_, e₄, rfl, renewed, answered⟩
  rw [List.append_cons]
  rcases calls_adapter_then h₄ with ⟨rfl, rfl⟩ | ⟨e₅, v, es₅, rfl, answered, h₅⟩
  · exact .verify _ b x o (by simpa using observed)
  have verified : Verified rt workerId (_ ++ [e₅]) b x o v := ⟨_, e₅, rfl, observed, answered⟩
  rw [List.append_cons]
  rcases calls_bind.mp h₅ with here | ⟨_, _, es₆, rfl, ran, h₆⟩
  · exact absurd here calls_raiseIf
  obtain ⟨rfl, satisfied⟩ := returns_raiseIf_ok.mp ran
  have h₆ := (calls_requireDump_then (calls_requireDump_then h₆).2).2
  rcases calls_store_then h₆ with ⟨rfl, rfl⟩ | ⟨_, _, _, _, _, last⟩
  · exact .succeed _ b x o v (by simpa using verified) (by simpa using satisfied)
  · exact absurd last calls_pure

theorem work_raises {error : AdapterError} (briefed : Briefed rt workerId before b)
    (h : Returns (work rt b) es (.error (.adapter (.adapterError error)))) :
    Failed rt workerId (before ++ es) b error := by
  rcases returns_adapter_then h with ⟨e₁, _, rfl, answered, same⟩ | ⟨e₁, x, es₁, rfl, answered, h₁⟩
  · cases same
    exact .execute _ e₁ b error briefed answered
  have executed : Executed rt workerId (before ++ [e₁]) b x :=
    ⟨before, e₁, rfl, briefed, answered⟩
  rw [List.append_cons]
  rcases returns_requireDump_then h₁ with ⟨-, -, same⟩ | ⟨-, h₁⟩
  · cases same
  rcases returns_store_then h₁ with ⟨e₂, _, rfl, answered, same⟩ | ⟨e₂, v, es₂, rfl, answered, h₂⟩
  · cases same
  have recorded : Recorded rt workerId (_ ++ [e₂]) b x := ⟨_, e₂, v, rfl, executed, answered⟩
  rw [List.append_cons]
  rcases returns_store_then h₂ with ⟨e₃, _, rfl, answered, same⟩ | ⟨e₃, v, es₃, rfl, answered, h₃⟩
  · cases same
  have renewed : Renewed rt workerId (_ ++ [e₃]) b x := ⟨_, e₃, v, rfl, recorded, answered⟩
  rw [List.append_cons]
  rcases returns_adapter_then h₃ with ⟨e₄, _, rfl, answered, same⟩ |
    ⟨e₄, o, es₄, rfl, answered, h₄⟩
  · cases same
    exact .observe _ e₄ b x error renewed answered
  have observed : Observed rt workerId (_ ++ [e₄]) b x o := ⟨_, e₄, rfl, renewed, answered⟩
  rw [List.append_cons]
  rcases returns_adapter_then h₄ with ⟨e₅, _, rfl, answered, same⟩ |
    ⟨e₅, v, es₅, rfl, answered, h₅⟩
  · cases same
    exact .verify _ e₅ b x o error observed answered
  have verified : Verified rt workerId (_ ++ [e₅]) b x o v := ⟨_, e₅, rfl, observed, answered⟩
  rw [List.append_cons]
  rcases returns_bind.mp h₅ with ⟨_, ran, same⟩ | ⟨_, _, es₆, rfl, ran, h₆⟩
  · cases same
    obtain ⟨rfl, unsatisfied, same⟩ := returns_raiseIf_error.mp ran
    cases same
    exact .unsatisfied _ b x o v (by simpa using verified) unsatisfied
  rcases returns_requireDump_then h₆ with ⟨-, -, same⟩ | ⟨-, h₆⟩
  · cases same
  rcases returns_requireDump_then h₆ with ⟨-, -, same⟩ | ⟨-, h₆⟩
  · cases same
  rcases returns_store_then h₆ with ⟨e₆, _, _, _, same⟩ | ⟨_, _, _, _, _, last⟩
  · cases same
  · cases (returns_pure.mp last).2

theorem abandon_silent {x : Exn} : ¬ Calls (abandon x) es op := by
  unfold abandon
  split
  · exact calls_pure
  · exact calls_throw

/-- An adapter error is written down with the fence; nothing else is done about any other. -/
theorem handle_calls {x : Exn} (h : Calls (handle b x) es op) : ∃ error jobError,
    x = .adapter (.adapterError error) ∧ error.asJobError = .ok jobError ∧ es = [] ∧
      op = .store (b.giveUp error jobError) := by
  unfold handle at h
  split at h
  · exact absurd h calls_pure
  · rename_i error
    rcases calls_tryCatch.mp h with here | ⟨x, _, rest, _, _, later⟩
    · rcases calls_bind.mp here with here | ⟨jobError, _, es₁, rfl, ran, h₁⟩
      · exact absurd here calls_asJobError
      obtain ⟨rfl, dumped⟩ := returns_asJobError_ok.mp ran
      rcases calls_store_then h₁ with ⟨rfl, rfl⟩ | ⟨_, _, _, _, _, last⟩
      · exact ⟨error, jobError, rfl, dumped, rfl, rfl⟩
      · exact absurd last calls_pure
    · exact absurd later abandon_silent
  · exact absurd h calls_throw

theorem runOnce_calls (h : Calls (runOnce rt workerId) es op) : Site rt workerId es op := by
  rcases calls_store_then h with ⟨rfl, rfl⟩ | ⟨c, claimed, es₁, rfl, claim, h₁⟩
  · exact .claim
  cases claimed with
  | none => exact absurd h₁ calls_pure
  | some claimed =>
    rcases calls_store_then h₁ with ⟨rfl, rfl⟩ | ⟨g, ⟨request, owner⟩, es₂, rfl, context, h₂⟩
    · exact .context c claimed claim
    rcases calls_bind.mp h₂ with here | ⟨action, _, es₃, rfl, ran, h₃⟩
    · exact absurd here calls_validateRequest
    obtain ⟨rfl, valid⟩ := returns_validateRequest_ok.mp ran
    rcases calls_bind.mp h₃ with here | ⟨_, _, es₄, rfl, ran, h₄⟩
    · exact absurd here calls_getAdapter
    obtain ⟨rfl, -⟩ := returns_getAdapter_ok.mp ran
    have briefed : Briefed rt workerId [c, g] ⟨claimed.job, claimed.leaseToken, request, action⟩ :=
      ⟨⟨c, g, owner, rfl, claim, context⟩, valid⟩
    rcases calls_tryCatch.mp h₄ with here | ⟨x, before, es₅, rfl, ended, h₅⟩
    · exact work_calls briefed here
    · obtain ⟨error, jobError, rfl, dumped, rfl, rfl⟩ := handle_calls h₅
      simpa using Site.giveUp _ _ error jobError (work_raises briefed ended) dumped

end Calls

end Worker
end Deckhand
