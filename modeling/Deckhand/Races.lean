import Deckhand.Evidence
import Deckhand.Store.History
import Deckhand.Store.Progress

/-! Cancellation under races: how a canceller can end, and when it ends with the job as it is
committed or with a refusal that has changed nothing. -/
namespace Deckhand
open Lib Lib.Prog

/-- The error can be recorded: it is a job error, and that can be written. -/
def AdapterError.writable (e : AdapterError) : Bool :=
  match e.asJobError with
  | .ok jobError => jobError.writable
  | .error _ => false

/-- Details can be recorded in a result. -/
def Details.recordable (d : Details) : Bool := d.dumps && (Json.obj d.jsonMode).writable

/-- What comes of a reconciler's verification can be recorded. -/
def Reconciler.recordable (observation : AdapterObservation) (verification : AdapterVerification) :
    Bool :=
  if verification.satisfied then
    observation.details.recordable && verification.details.recordable
  else (notSatisfied verification).writable

theorem AdapterError.writable_ok {e : AdapterError} {jobError : JobError}
    (dumped : e.asJobError = .ok jobError) : e.writable = jobError.writable := by
  rw [AdapterError.writable, dumped]

theorem AdapterError.writable_error {e : AdapterError} {x : DataExn}
    (undumped : e.asJobError = .error x) : e.writable = false := by
  rw [AdapterError.writable, undumped]

namespace Canceller

/-- Where the canceller is to write down what the adapter said, it can. -/
def Brief.recordable (b : Brief) : Except AdapterExn AdapterCancellation → Bool
  | .ok result =>
    match result.disposition with
    | .cancelled => result.details.recordable
    | .unknown => b.job.state = .unknownOutcome || (outcomeUnknown result).writable
    | _ => true
  | .error (.adapterError error) =>
    !(error.reconciliationRequired && b.job.state ≠ .unknownOutcome) || error.writable
  | .error _ => true

/-- The canceller writes this down, the adapter having said that. -/
inductive Brief.Writes (b : Brief) : Except AdapterExn AdapterCancellation → JobState →
    Option Dict → Option JobError → Prop where
  | succeed (result : AdapterCancellation) : result.disposition = .cancelled →
      Writes b (.ok result) .cancelled
        (some (Dict.set (b.job.result.getD []) "cancellation" result.modelDump)) none
  | unknown (result : AdapterCancellation) : result.disposition = .unknown →
      b.job.state ≠ .unknownOutcome →
      Writes b (.ok result) .unknownOutcome b.job.result (some (outcomeUnknown result))
  | giveUp (error : AdapterError) (jobError : JobError) : error.reconciliationRequired = true →
      b.job.state ≠ .unknownOutcome → error.asJobError = .ok jobError →
      Writes b (.error (.adapterError error)) .unknownOutcome b.job.result (some jobError)

section Ending
variable {σ : Type} (rt : Runtime) (jobId : String) (subject : Subject)

/-- A call of a canceller that changes nothing: a read, or a lost compare-and-set. -/
def Still (e : Event σ Op.Note Op.Ret) : Prop :=
  (∃ r, e.Answered (.store (.getJob jobId)) r) ∨
  (∃ r, e.Answered (.store (.getJobContext jobId)) r) ∨
  ∃ job x, e.Answered (.store (dequeue job)) (.error x)

/-- How a canceller can end, and what it has seen by then. -/
inductive Ending : List (Event σ Op.Note Op.Ret) → Except Exn JobView → Prop where
  | unread (es : List (Event σ Op.Note Op.Ret)) (e : Event σ Op.Note Op.Ret) (x : StoreExn) :
      e ∈ es → e.Answered (.store (.getJob jobId)) (.error x) → Ending es (.error (.store x))
  | contextless (g c : Event σ Op.Note Op.Ret) (job : JobView) (x : StoreExn) :
      g.Answered (.store (.getJob jobId)) (.ok (some job)) →
      c.Answered (.store (.getJobContext jobId)) (.error x) →
      Ending [g, c] (.error (.store x))
  | refused (es : List (Event σ Op.Note Op.Ret)) (message : PyStr) :
      (∀ e ∈ es, Still jobId e) → Ending es (.error (.cancellation message))
  | dequeued (g c t : Event σ Op.Note Op.Ret) (job view : JobView) (request : ActionRequest) :
      Owned jobId subject g c job request → job.state = .queued →
      t.Answered (.store (dequeue job)) (.ok view) → Ending [g, c, t] (.ok view)
  | undequeued (g c t : Event σ Op.Note Op.Ret) (job : JobView) (request : ActionRequest)
      (x : StoreExn) : Owned jobId subject g c job request → job.state = .queued →
      t.Answered (.store (dequeue job)) (.error x) → (∀ message, x ≠ .staleLease message) →
      Ending [g, c, t] (.error (.store x))
  | unserved (es : List (Event σ Op.Note Op.Ret)) (job : JobView) (request : ActionRequest)
      (x : Exn) : Viewed jobId subject es job request →
      (∀ action, rt.catalog.validateRequest request = .ok action →
        action.adapter ∉ rt.adapters.names) → Ending es (.error x)
  | unreadable (es : List (Event σ Op.Note Op.Ret)) (job : JobView) (request : ActionRequest)
      (x : DataExn) : Viewed jobId subject es job request → execution job = .error x →
      Ending es (.error (.data x))
  | declined (es : List (Event σ Op.Note Op.Ret)) (b : Brief)
      (r : Except AdapterExn AdapterCancellation) (message : PyStr) :
      Asked rt jobId subject es b r → Ending es (.error (.cancellation message))
  | kept (es : List (Event σ Op.Note Op.Ret)) (b : Brief) (result : AdapterCancellation) :
      Asked rt jobId subject es b (.ok result) → result.disposition = .unknown →
      b.job.state = .unknownOutcome → Ending es (.ok b.job)
  | written (es : List (Event σ Op.Note Op.Ret)) (w : Event σ Op.Note Op.Ret) (b : Brief)
      (r : Except AdapterExn AdapterCancellation) (target : JobState) (result : Option Dict)
      (error : Option JobError) (a : Except StoreExn JobView) : Asked rt jobId subject es b r →
      b.Writes r target result error →
      w.Answered (.store (.transitionJob b.job.id target result error none none)) a →
      Ending (es ++ [w]) (a.mapError .store)
  | unwritable (es : List (Event σ Op.Note Op.Ret)) (b : Brief)
      (r : Except AdapterExn AdapterCancellation) (x : DataExn) : Asked rt jobId subject es b r →
      b.recordable r = false → Ending es (.error (.data x))
  | raised (es : List (Event σ Op.Note Op.Ret)) (b : Brief) (x : AdapterExn) :
      Asked rt jobId subject es b (.error x) → (∀ error, x ≠ .adapterError error) →
      Ending es (.error (.adapter x))

end Ending

section Returns
variable {σ : Type} {rt : Runtime} {jobId : String} {subject : Subject}
  {before es : List (Event σ Op.Note Op.Ret)} {b : Brief} {s : Except Exn JobView}

theorem returns_write {target : JobState} {result : Option Dict} {error : Option JobError}
    {r : Except AdapterExn AdapterCancellation} (asked : Asked rt jobId subject before b r)
    (writes : b.Writes r target result error)
    (h : Returns (callStore (.transitionJob b.job.id target result error none none)) es s) :
    Ending rt jobId subject (before ++ es) s := by
  obtain ⟨w, a, rfl, answered, rfl⟩ := returns_invoke.mp h
  exact .written before w b r target result error a asked writes answered

theorem apply_returns {result : AdapterCancellation}
    (asked : Asked rt jobId subject before b (.ok result)) (h : Returns (apply b result) es s) :
    Ending rt jobId subject (before ++ es) s := by
  unfold apply at h
  split at h
  · rename_i cancelled
    rcases returns_requireDump_then h with ⟨rfl, undumped, rfl⟩ | ⟨-, ran⟩
    · have lost : b.recordable (.ok result) = false := by
        simp [Brief.recordable, cancelled, Details.recordable, undumped]
      simpa using Ending.unwritable before b _ .serializationError asked lost
    · exact returns_write asked (.succeed result cancelled) ran
  · rename_i unknown
    split at h
    · rename_i known
      obtain ⟨rfl, rfl⟩ := returns_pure.mp h
      simpa using Ending.kept before b result asked unknown known
    · rename_i other
      exact returns_write asked (.unknown result unknown other) h
  · obtain ⟨rfl, rfl⟩ := returns_throw.mp h
    simpa using Ending.declined before b _ _ asked

theorem ask_returns (briefed : Briefed rt jobId subject before b) (h : Returns (ask b) es s) :
    Ending rt jobId subject (before ++ es) s := by
  obtain ⟨e, rest, r, rfl, answered, h⟩ := returns_call.mp h
  have asked : Asked rt jobId subject (before ++ [e]) b r := ⟨before, e, rfl, briefed, answered⟩
  rw [List.append_cons]
  split at h
  · exact apply_returns asked h
  · rename_i error
    split at h
    · rename_i doubt
      rcases returns_bind.mp h with ⟨x, ran, rfl⟩ | ⟨jobError, _, es₁, rfl, ran, h₁⟩
      · obtain ⟨rfl, same⟩ := returns_lift.mp ran
        obtain ⟨y, undumped, rfl⟩ := mapError_error.mp same.symm
        have lost : b.recordable (.error (.adapterError error)) = false := by
          simp [Brief.recordable, doubt, AdapterError.writable_error undumped]
        simpa using Ending.unwritable _ b _ y asked lost
      · obtain ⟨rfl, dumped⟩ := returns_asJobError_ok.mp ran
        exact returns_write asked (.giveUp error jobError doubt.1 doubt.2 dumped) h₁
    · obtain ⟨rfl, rfl⟩ := returns_throw.mp h
      simpa using Ending.declined _ b _ _ asked
  · rename_i x other
    obtain ⟨rfl, rfl⟩ := returns_throw.mp h
    simpa using Ending.raised _ b x asked other

theorem cancelClaimed_returns {job : JobView} {request : ActionRequest}
    (viewed : Viewed jobId subject before job request)
    (h : Returns (cancelClaimed rt job request) es s) :
    Ending rt jobId subject (before ++ es) s := by
  rcases returns_bind.mp h with ⟨x, ran, rfl⟩ | ⟨action, _, es₁, rfl, ran, h₁⟩
  · obtain ⟨rfl, same⟩ := returns_lift.mp ran
    obtain ⟨y, invalid, rfl⟩ := mapError_error.mp same.symm
    rw [List.append_nil]
    refine .unserved before job request _ viewed fun action valid => ?_
    cases invalid.symm.trans valid
  obtain ⟨rfl, valid⟩ := returns_validateRequest_ok.mp ran
  rcases returns_bind.mp h₁ with ⟨x, ran, rfl⟩ | ⟨_, _, es₂, rfl, ran, h₂⟩
  · obtain ⟨rfl, same⟩ := returns_lift.mp ran
    obtain ⟨y, missing, rfl⟩ := mapError_error.mp same.symm
    rw [List.nil_append, List.append_nil]
    refine .unserved before job request _ viewed fun action' valid' registered => ?_
    obtain rfl : action = action' := Except.ok.inj (valid.symm.trans valid')
    rw [AdapterRegistry.get, if_pos registered] at missing
    cases missing
  obtain ⟨rfl, -⟩ := returns_getAdapter_ok.mp ran
  rcases returns_bind.mp h₂ with ⟨x, ran, rfl⟩ | ⟨x, _, es₃, rfl, ran, h₃⟩
  · obtain ⟨rfl, same⟩ := returns_lift.mp ran
    obtain ⟨y, unread, rfl⟩ := mapError_error.mp same.symm
    simpa using Ending.unreadable before job request y viewed unread
  obtain ⟨rfl, stored⟩ := returns_raised_ok.mp ran
  exact ask_returns (b := ⟨job, request, action, x⟩) ⟨viewed, valid, stored⟩ h₃

theorem refresh_raises {x : Exn} (h : Returns (refresh jobId) es (.error x)) :
    ∃ g : Event σ Op.Note Op.Ret, es = [g] ∧
      ((∃ y, g.Answered (.store (.getJob jobId)) (.error y) ∧ x = .store y) ∨
        ∃ found message, g.Answered (.store (.getJob jobId)) (.ok found) ∧
          x = .cancellation message) := by
  rcases returns_store_then h with ⟨g, y, rfl, answered, same⟩ | ⟨g, found, es₁, rfl, answered, h₁⟩
  · exact ⟨g, rfl, .inl ⟨y, answered, Except.error.inj same⟩⟩
  suffices rejected : es₁ = [] ∧ ∃ message, x = .cancellation message by
    obtain ⟨rfl, message, rfl⟩ := rejected
    exact ⟨g, rfl, .inr ⟨found, message, answered, rfl⟩⟩
  rcases returns_bind.mp h₁ with ⟨y, ran, same⟩ | ⟨job, _, es₂, rfl, ran, h₂⟩
  · cases found with
    | none =>
      obtain ⟨rfl, missing⟩ := returns_ret.mp ran
      exact ⟨rfl, _, (Except.error.inj same).trans (Except.error.inj missing)⟩
    | some job => cases (returns_ret.mp ran).2
  obtain ⟨rfl, rfl⟩ := returns_require_ok.mp ran
  rcases returns_bind.mp h₂ with ⟨y, ran, same⟩ | ⟨_, _, es₃, rfl, ran, h₃⟩
  · obtain ⟨rfl, -, raised⟩ := returns_raiseIf_error.mp ran
    exact ⟨rfl, _, (Except.error.inj same).trans raised⟩
  · cases (returns_pure.mp h₃).2

theorem cancel_returns (h : Returns (cancel rt jobId subject) es s) :
    Ending rt jobId subject es s := by
  rcases returns_store_then h with ⟨g, x, rfl, answered, rfl⟩ | ⟨g, found, es₁, rfl, answered, h₁⟩
  · exact .unread _ g x (by simp) answered
  have still_g : Still jobId g := .inl ⟨_, answered⟩
  rcases returns_bind.mp h₁ with ⟨x, ran, rfl⟩ | ⟨job, _, es₂, rfl, ran, h₂⟩
  · cases found with
    | none =>
      obtain ⟨rfl, missing⟩ := returns_ret.mp ran
      cases missing
      exact .refused _ _ (by simpa using still_g)
    | some job => cases (returns_ret.mp ran).2
  obtain ⟨rfl, rfl⟩ := returns_require_ok.mp ran
  rcases returns_store_then h₂ with ⟨c, x, rfl, context, rfl⟩ |
    ⟨c, ⟨request, owner⟩, es₃, rfl, context, h₃⟩
  · exact .contextless g c job x answered context
  have still_c : Still jobId c := .inr (.inl ⟨_, context⟩)
  have rejected : ∀ message, Ending rt jobId subject [g, c] (.error (.cancellation message)) :=
    fun message => .refused _ _ (by simp [still_g, still_c])
  rcases returns_bind.mp h₃ with ⟨x, ran, rfl⟩ | ⟨_, _, es₄, rfl, ran, h₄⟩
  · obtain ⟨rfl, -, rfl⟩ := returns_raiseIf_error.mp ran
    exact rejected _
  obtain ⟨rfl, own⟩ := returns_raiseIf_ok.mp ran
  rcases returns_bind.mp h₄ with ⟨x, ran, rfl⟩ | ⟨_, _, es₅, rfl, ran, h₅⟩
  · obtain ⟨rfl, -, rfl⟩ := returns_raiseIf_error.mp ran
    exact rejected _
  obtain ⟨rfl, live⟩ := returns_raiseIf_ok.mp ran
  have owned : Owned jobId subject g c job request :=
    ⟨answered, ⟨owner, context, not_not.mp own⟩, live⟩
  simp only [List.nil_append]
  split at h₅
  · rename_i queued
    obtain ⟨t, rest, r, rfl, guarded, h₆⟩ := returns_call.mp h₅
    split at h₆
    · obtain ⟨rfl, rfl⟩ := returns_pure.mp h₆
      exact .dequeued g c t job _ request owned queued guarded
    · rename_i message
      have still_t : Still jobId t := .inr (.inr ⟨job, _, guarded⟩)
      rcases returns_bind.mp h₆ with ⟨x, ran, rfl⟩ | ⟨job', _, es₇, rfl, ran, h₇⟩
      · obtain ⟨g', rfl, ⟨y, unread, rfl⟩ | ⟨found, message, again, rfl⟩⟩ := refresh_raises ran
        · exact .unread _ g' y (by simp) unread
        · have still_g' : Still jobId g' := .inl ⟨_, again⟩
          exact .refused _ _ (by simp [still_g, still_c, still_t, still_g'])
      obtain ⟨g', rfl, again, live'⟩ := refresh_returns ran
      exact cancelClaimed_returns (.again g c t g' job job' request message owned queued guarded
        again live') h₇
    · rename_i x other
      obtain ⟨rfl, rfl⟩ := returns_throw.mp h₆
      exact .undequeued g c t job request x owned queued guarded other
  · rename_i claimed
    exact cancelClaimed_returns (.first g c job request owned claimed) h₅

end Returns

section Steps
variable (rt : Runtime) (jobId : String) (subject : Subject)

/-- What goes wrong for a canceller: the catalog or the registry no longer serves the job; the
row has left the state that its unguarded write needs; the view that it is about to return is
old; what the adapter said cannot be recorded. -/
inductive Trips (es : BrokerLog) : Prop where
  | unserved (before : BrokerLog) (job : JobView) (request : ActionRequest) : before <+: es →
      Viewed jobId subject before job request →
      (∀ action, rt.catalog.validateRequest request = .ok action →
        action.adapter ∉ rt.adapters.names) → Trips es
  | overtaken (e : BrokerEvent) (j : String) (target : JobState) (result : Option Dict)
      (error : Option JobError) (row : JobRow) : e ∈ es →
      e.op = .store (.transitionJob j target result error none none) →
      e.pre.job? j = some row → target ∉ allowedTransitions row.state → Trips es
  | outdated (before : BrokerLog) (e : BrokerEvent) (b : Brief) (result : AdapterCancellation)
      (row : JobRow) : before ++ [e] <+: es →
      Asked rt jobId subject (before ++ [e]) b (.ok result) → result.disposition = .unknown →
      b.job.state = .unknownOutcome → e.post.job? jobId = some row → row.view ≠ b.job → Trips es
  | unwritable (before : BrokerLog) (b : Brief) (r : Except AdapterExn AdapterCancellation) :
      before <+: es → Asked rt jobId subject before b r → b.recordable r = false → Trips es

/-- It ended with the job as it was committed when it ended, or with a refusal that has changed
nothing. -/
def Closed (es : BrokerLog) (r : Except Exn Answer) : Prop :=
  (∃ before e view row, es = before ++ [e] ∧ r = .ok (.job view) ∧
    e.post.job? jobId = some row ∧ row.view = view) ∨
  (∃ message, r = .error (.cancellation message)) ∧ ∀ e ∈ es, e.post = e.pre

end Steps

end Canceller

/-- The database does not fail the call: no statement of it raises, and the next event of the
audit log can be appended. -/
def Unstruck (s : Store) (e : BrokerEvent) : Prop :=
  ∀ op (r : Except StoreExn op.Value), e.Answered (.store op) r → ∃ o : Oracle,
    op.run s o e.pre = (r, e.post) ∧ o.fault = none ∧ AuditReady s o e.pre.auditEvents

/-- What is stored in the row's two columns can be written again. -/
def JobRow.Rewritable (row : JobRow) : Prop :=
  JobRow.transitionWritable row.result row.error = true

def DB.Rewritable (db : DB) : Prop := ∀ j row, db.job? j = some row → row.Rewritable

section Rewritable

theorem modelDumpJson_writable {e : JobError} (writable : e.writable = true) :
    e.modelDumpJson.writable = true := by
  simp only [JobError.writable, Bool.and_eq_true] at writable
  obtain ⟨⟨-, texts⟩, digits⟩ := writable
  have texts' := textsEncodable_jsonMode texts
  have digits' := writable_jsonMode digits
  rw [Json.jsonMode] at texts' digits'
  simp only [JobError.writable, JobError.modelDumpJson, ofDict_dumps, ofDict_jsonMode,
    Bool.and_eq_true, true_and]
  exact ⟨texts', digits'⟩

theorem transition_rewritable {o : Oracle} {target : JobState} {result : Option Dict}
    {error : Option JobError} {row : JobRow}
    (writes : JobRow.transitionWritable result error = true) :
    (row.transition o target result error).Rewritable := by
  simp only [JobRow.Rewritable, JobRow.transitionWritable, Bool.and_eq_true] at writes ⊢
  obtain ⟨results, errors⟩ := writes
  constructor
  · cases result with
    | none => rfl
    | some d => exact writable_joined (j := .obj d) results
  · cases error with
    | none => rfl
    | some e => exact modelDumpJson_writable errors

theorem set_writable {d : Dict} {k : PyStr} {v : Json} (members : (Json.obj d).writable = true)
    (value : v.writable = true) : (Json.obj (d.set k v)).writable = true := by
  refine every_obj.mpr fun m member => ?_
  rcases mem_put member with old | rfl
  · exact every_obj.mp members m old
  · exact ⟨rfl, value⟩

theorem result_writable {result : Option Dict} {error : Option JobError}
    (kept : JobRow.transitionWritable result error = true) :
    (Json.obj (result.getD [])).writable = true := by
  cases result with
  | none => rfl
  | some d => exact (Bool.and_eq_true .. |>.mp kept).1

theorem Canceller.Brief.Writes.writable {b : Canceller.Brief}
    {r : Except AdapterExn AdapterCancellation} {target : JobState} {result : Option Dict}
    {error : Option JobError} (writes : b.Writes r target result error)
    (recordable : b.recordable r = true)
    (kept : JobRow.transitionWritable b.job.result b.job.error = true) :
    JobRow.transitionWritable result error = true := by
  have held : b.job.result.all (fun d => (Json.obj d).writable) = true :=
    (Bool.and_eq_true .. |>.mp kept).1
  cases writes with
  | succeed result cancelled =>
    simp only [Brief.recordable, cancelled, Details.recordable, Bool.and_eq_true] at recordable
    have details : result.modelDump.writable = true := by
      simpa [AdapterCancellation.modelDump, Json.writable, Json.every, everyMember, Json.leafDigits]
        using recordable.2
    exact Bool.and_eq_true .. |>.mpr ⟨set_writable (result_writable kept) details, rfl⟩
  | unknown result unknown other =>
    have written : (Canceller.outcomeUnknown result).writable = true := by
      simpa [Brief.recordable, unknown, other] using recordable
    exact Bool.and_eq_true .. |>.mpr ⟨held, written⟩
  | giveUp error jobError doubt other dumped =>
    have written : jobError.writable = true := by
      simpa [Brief.recordable, doubt, other, AdapterError.writable_ok dumped] using recordable
    exact Bool.and_eq_true .. |>.mpr ⟨held, written⟩

theorem RowStep.rewritable {s : Store} {o : Oracle} {j : String} {op : StoreOp}
    {r : Except StoreExn op.Value} {l l' : Life} (step : RowStep s o j op r l l')
    (before : ∀ row, l.row = some row → row.Rewritable) :
    ∀ row, l'.row = some row → row.Rewritable := by
  cases step with
  | same => exact before
  | created =>
    rintro _ ⟨⟩
    rfl
  | claimed _ _ _ _ row =>
    rintro _ ⟨⟩
    exact before row rfl
  | renewed _ _ row =>
    rintro _ ⟨⟩
    exact before row rfl
  | transitioned target result error fence expectedState row events _ _ _ _ writes =>
    rintro _ ⟨⟩
    exact transition_rewritable writes
  | lapsed _ row =>
    rintro _ ⟨⟩
    have kept := before row rfl
    simp only [JobRow.Rewritable, JobRow.transitionWritable, Bool.and_eq_true] at kept ⊢
    exact ⟨kept.1, rfl⟩
  | expired _ _ row =>
    rintro _ ⟨⟩
    exact before row rfl
  | attempted _ _ _ row =>
    rintro _ ⟨⟩
    exact before row rfl

end Rewritable

section Event
variable {rt : Runtime} {env : Environment} {e : BrokerEvent} {j : String}

theorem Unstruck.getJob {r : Except StoreExn (Option JobView)} (unstruck : Unstruck rt.store e)
    (answered : e.Answered (.store (.getJob j)) r) : ∃ found, r = .ok found := by
  obtain ⟨o, ran, unfailing, -⟩ := unstruck (.getJob j) r answered
  exact ⟨_, congrArg Prod.fst (ran.symm.trans (connect_ends unfailing (getJob_ends j)))⟩

theorem Unstruck.getJobContext {r : Except StoreExn (ActionRequest × Subject)} {row : JobRow}
    (unstruck : Unstruck rt.store e) (here : e.pre.job? j = some row)
    (answered : e.Answered (.store (.getJobContext j)) r) : ∃ context, r = .ok context := by
  obtain ⟨o, ran, unfailing, -⟩ := unstruck (.getJobContext j) r answered
  exact ⟨_, congrArg Prod.fst (ran.symm.trans (connect_ends unfailing (getJobContext_ends here)))⟩

/-- An unfenced transition out of a state that allows it is made, and answered with the row. -/
theorem Unstruck.transitionJob {target : JobState} {result : Option Dict}
    {error : Option JobError} {expectedState : Option JobState} {r : Except StoreExn JobView}
    {row : JobRow} (unstruck : Unstruck rt.store e) (here : e.pre.job? j = some row)
    (expected : ∀ state ∈ expectedState, row.state = state)
    (allowed : target ∈ allowedTransitions row.state)
    (writes : JobRow.transitionWritable result error = true)
    (answered : e.Answered (.store (.transitionJob j target result error none expectedState)) r) :
    ∃ row', r = .ok row'.view ∧ e.post.job? j = some row' := by
  obtain ⟨o, ran, unfailing, ready⟩ :=
    unstruck (.transitionJob j target result error none expectedState) r answered
  obtain ⟨v, db', ends⟩ := transitionJob_ends _ result error none expectedState here
    (by simp) expected allowed writes ready
  obtain ⟨rfl, rfl⟩ := Prod.mk.inj (ran.symm.trans (connect_ends unfailing ends))
  obtain ⟨row', found, -, -, -, -, rfl, life⟩ := transitionJob_spec ends
  exact ⟨_, rfl, (congrArg Life.row (life j)).trans (by rw [if_pos rfl])⟩

theorem Unstruck.compareAndSet {target expected : JobState} {result : Option Dict}
    {error : Option JobError} {r : Except StoreExn JobView} {row : JobRow}
    (unstruck : Unstruck rt.store e) (here : e.pre.job? j = some row)
    (allowed : target ∈ allowedTransitions expected)
    (writes : JobRow.transitionWritable result error = true)
    (answered : e.Answered (.store (.transitionJob j target result error none (some expected))) r) :
    (∃ row', r = .ok row'.view ∧ e.post.job? j = some row') ∨
      ∃ message, r = .error (.staleLease message) := by
  by_cases same : row.state = expected
  · exact .inl (unstruck.transitionJob here (by simp [same]) (same ▸ allowed) writes answered)
  · obtain ⟨o, ran, unfailing, -⟩ :=
      unstruck (.transitionJob j target result error none (some expected)) r answered
    obtain ⟨message, lost⟩ := transitionJob_differs (s := rt.store) (o := o) target result error
      here same
    have ended : connect o (rt.store.transitionJob o j target result error none (some expected))
        e.pre = (.error (.staleLease message), e.pre) := by
      rw [connect, unfailing, Txn.atomically_none, lost]
    exact .inr ⟨message, congrArg Prod.fst (ran.symm.trans ended)⟩

theorem Canceller.Still.unchanged (still : Canceller.Still j e) (valid : e.Valid (rt.sem env)) :
    e.post = e.pre := by
  rcases still with ⟨r, answered⟩ | ⟨r, answered⟩ | ⟨job, x, answered⟩
  · obtain ⟨o, ran⟩ := valid_store valid answered
    cases r with
    | error x => exact run_error ran
    | ok v => exact only_read (Txn.keeps_bind Txn.keeps_read fun _ => Txn.keeps_pure) ran
  · obtain ⟨o, ran⟩ := valid_store valid answered
    cases r with
    | error x => exact run_error ran
    | ok v =>
      exact only_read (Txn.keeps_bind Txn.keeps_read fun _ =>
        Txn.keeps_bind Txn.keeps_require fun _ => Txn.keeps_pure) ran
  · obtain ⟨o, ran⟩ := valid_store valid answered
    exact run_error ran

theorem Canceller.Viewed.still {subject : Subject} {es : BrokerLog} {job : JobView}
    {request : ActionRequest} (viewed : Canceller.Viewed j subject es job request) :
    ∀ f ∈ es, Canceller.Still j f := by
  have owned : ∀ {g c : BrokerEvent} {job : JobView}, Canceller.Owned j subject g c job request →
      Canceller.Still j g ∧ Canceller.Still j c := by
    intro g c job owned
    obtain ⟨owner, context, -⟩ := owned.context
    exact ⟨.inl ⟨_, owned.found⟩, .inr (.inl ⟨_, context⟩)⟩
  cases viewed with
  | first g c _ _ own _ =>
    obtain ⟨still, still'⟩ := owned own
    simp [still, still']
  | again g c t g' queued _ _ message own _ lost again =>
    obtain ⟨still, still'⟩ := owned own
    have still_t : Canceller.Still j t := .inr (.inr ⟨queued, _, lost⟩)
    have still_g' : Canceller.Still j g' := .inl ⟨_, again⟩
    simp [still, still', still_t, still_g']

theorem Canceller.Asked.unchanged {subject : Subject} {es : BrokerLog} {b : Canceller.Brief}
    {r : Except AdapterExn AdapterCancellation} (asked : Canceller.Asked rt j subject es b r)
    (valid : e.Valid (rt.sem env)) (member : e ∈ es) : e.post = e.pre := by
  obtain ⟨before, f, rfl, briefed, answered⟩ := asked
  rcases List.mem_append.mp member with earlier | last
  · exact (briefed.viewed.still e earlier).unchanged valid
  · obtain rfl := List.mem_singleton.mp last
    obtain ⟨behind, -, same⟩ := valid.answered answered
    exact same

theorem Canceller.Asked.read {subject : Subject} {es : BrokerLog} {b : Canceller.Brief}
    {r : Except AdapterExn AdapterCancellation} (asked : Canceller.Asked rt j subject es b r) :
    ∃ g ∈ es, g.Answered (.store (.getJob j)) (.ok (some b.job)) := by
  obtain ⟨before, f, rfl, briefed, -⟩ := asked
  obtain ⟨g, hg, read⟩ := briefed.viewed.read
  exact ⟨g, by simp [hg], read⟩

end Event

section Run
variable {rt : Runtime} {env : Environment} {started : Nat → Option Client} {log : BrokerLog}
  {db : DB}

theorem run_rewritable (run : rt.Run env started log db) :
    (∀ e ∈ log, e.pre.Rewritable) ∧ db.Rewritable := by
  refine run_induction (P := fun log db => (∀ e ∈ log, e.pre.Rewritable) ∧ db.Rewritable)
    ⟨by simp, fun _ _ here => by cases here⟩ ?_ run
  intro log e client _ valid _ _ held
  obtain ⟨past, now⟩ := held
  refine ⟨?_, fun j row here => ?_⟩
  · intro f member
    rcases List.mem_append.mp member with old | new
    · exact past f old
    · obtain rfl := List.mem_singleton.mp new
      exact now
  · rcases valid_cases valid with ⟨op, r, answered⟩ | ⟨-, same⟩
    · obtain ⟨o, ran⟩ := valid_store valid answered
      exact ((run_step ran).rows j).rewritable (now j) row here
    · exact now j row (same ▸ here)

theorem read_rewritable (run : rt.Run env started log db) {g : BrokerEvent} (member : g ∈ log)
    {j : String} {job : JobView} (read : g.Answered (.store (.getJob j)) (.ok (some job))) :
    JobRow.transitionWritable job.result job.error = true := by
  obtain ⟨row, here, rfl⟩ := answered_getJob (run.trace.valid member) read
  exact (run_rewritable run).1 g member j row here

/-- A job that was there at a call of a process is there whenever the process calls again. -/
theorem found_persists {i : Nat} {j : String} {ys : BrokerLog} {g e : BrokerEvent}
    {row : JobRow} (xs : BrokerLog) (run : rt.Run env started log db)
    (mine : localOf i log = xs ++ e :: ys)
    (member : g ∈ xs) (found : g.pre.job? j = some row) : ∃ row', e.pre.job? j = some row' := by
  obtain ⟨a, b, rfl, rfl⟩ := localOf_split mine
  obtain ⟨row', now, -⟩ := seen_persists run.until.trace (mem_of_localOf member).1 found
  exact ⟨row', now⟩

theorem read_persists {i : Nat} {j : String} {ys : BrokerLog} {g e : BrokerEvent}
    {job : JobView} (xs : BrokerLog) (run : rt.Run env started log db)
    (mine : localOf i log = xs ++ e :: ys)
    (member : g ∈ xs) (read : g.Answered (.store (.getJob j)) (.ok (some job))) :
    ∃ row, e.pre.job? j = some row := by
  have among : g ∈ localOf i log := mine ▸ List.mem_append_left _ member
  obtain ⟨row, found, -⟩ := answered_getJob (run.trace.valid (mem_of_localOf among).1) read
  exact found_persists xs run mine member found

end Run

section Played
variable {rt : Runtime} {env : Environment} {started : Nat → Option Client} {log : BrokerLog}
  {db : DB}

theorem run_linked (run : rt.Run env started log db) : Linked rt.store db.auditEvents.rows := by
  refine run.trace.stable (P := fun db => Linked rt.store db.auditEvents.rows) ?_ (.nil _)
  intro e _ valid before
  rcases valid_cases valid with ⟨op, r, answered⟩ | ⟨-, same⟩
  · obtain ⟨o, ran⟩ := valid_store valid answered
    exact (run_step ran).linked before
  · rw [same]
    exact before

def Runtime.serves (rt : Runtime) (request : ActionRequest) : Bool :=
  match rt.catalog.validateRequest request with
  | .ok action => decide (action.adapter ∈ rt.adapters.names)
  | .error _ => false

/-- The job is served, the transition is allowed, the adapter raised nothing and what it said can be
recorded: a test for runs that were played out. -/
def Runtime.clear (rt : Runtime) : BrokerEvent → Bool
  | ⟨_, .store (.getJobContext _), _, _, .ok (request, _), _⟩ => rt.serves request
  | ⟨_, .store (.transitionJob j target _ _ none none), pre, _, _, _⟩ =>
    (pre.job? j).all fun row => decide (target ∈ allowedTransitions row.state)
  | ⟨_, .adapter .., _, _, .error _, _⟩ => false
  | ⟨_, .adapter _ (.cancel ..), _, _, .ok result, _⟩ => result.details.recordable
  | ⟨_, .adapter _ (.verify _ _ _ o), _, _, .ok v, _⟩ => Reconciler.recordable o v
  | _ => true

section Clear
variable {e : BrokerEvent}

theorem unserved_unclear {j : String} {request : ActionRequest} {owner : Subject}
    (answered : e.Answered (.store (.getJobContext j)) (.ok (request, owner)))
    (unserved : ∀ action, rt.catalog.validateRequest request = .ok action →
      action.adapter ∉ rt.adapters.names) : rt.clear e = false := by
  cases answered
  cases valid : rt.catalog.validateRequest request with
  | ok action => simpa [Runtime.clear, Runtime.serves, valid] using unserved action valid
  | error x => simp [Runtime.clear, Runtime.serves, valid]

theorem overtaken_unclear {j : String} {target : JobState} {result : Option Dict}
    {error : Option JobError} {row : JobRow}
    (op : e.op = .store (.transitionJob j target result error none none))
    (here : e.pre.job? j = some row) (forbidden : target ∉ allowedTransitions row.state) :
    rt.clear e = false := by
  obtain ⟨caller, op', pre, note, r, post⟩ := e
  cases op
  simpa [Runtime.clear, here] using forbidden

theorem raised_unclear {name : String} {op : AdapterOp} {x : AdapterExn}
    (answered : e.Answered (.adapter name op) (.error x)) : rt.clear e = false := by
  cases answered
  rfl

theorem unverified_unclear {name : String} {action : ActionDefinition} {request : ActionRequest}
    {x : AdapterExecution} {o : AdapterObservation} {v : AdapterVerification}
    (answered : e.Answered (.adapter name (.verify action request x o)) (.ok v))
    (lost : Reconciler.recordable o v = false) : rt.clear e = false := by
  cases answered
  exact lost

end Clear

/-- What an adapter says about a cancellation is not that it does not know. -/
def BrokerEvent.decided : BrokerEvent → Bool
  | ⟨_, .adapter _ (.cancel ..), _, _, .ok result, _⟩ => decide (result.disposition ≠ .unknown)
  | _ => true

theorem unrecordable_unclear {e : BrokerEvent} {b : Canceller.Brief} {name : String}
    {r : Except AdapterExn AdapterCancellation} (answered : e.Answered (.adapter name b.cancel) r)
    (lost : b.recordable r = false) : rt.clear e = false ∨ BrokerEvent.decided e = false := by
  cases r with
  | error x => exact .inl (raised_unclear answered)
  | ok result =>
    cases answered
    cases disposition : result.disposition with
    | cancelled =>
      have details : result.details.recordable = false := by
        simpa [Canceller.Brief.recordable, disposition] using lost
      exact .inl details
    | unknown => exact .inr (by simp [BrokerEvent.decided, disposition])
    | notSupported => simp [Canceller.Brief.recordable, disposition] at lost
    | alreadyTerminal => simp [Canceller.Brief.recordable, disposition] at lost

theorem Canceller.Trips.unclear {jobId : String} {subject : Subject} {es : BrokerLog}
    (trips : Canceller.Trips rt jobId subject es) :
    ∃ e ∈ es, rt.clear e = false ∨ BrokerEvent.decided e = false := by
  cases trips with
  | unserved before job request part viewed unserved =>
    obtain ⟨c, member, owner, context⟩ := viewed.context
    exact ⟨c, part.subset member, .inl (unserved_unclear context unserved)⟩
  | overtaken e j target result error row member op here forbidden =>
    exact ⟨e, member, .inl (overtaken_unclear op here forbidden)⟩
  | outdated before e b result row part asked unknown =>
    obtain ⟨before', e', whole, -, answered⟩ := asked
    obtain ⟨rfl, last⟩ := List.append_inj' whole rfl
    obtain rfl := List.head_eq_of_cons_eq last
    refine ⟨e, part.subset (by simp), .inr ?_⟩
    cases answered
    simp [BrokerEvent.decided, unknown]
  | unwritable before b r part asked lost =>
    obtain ⟨before', e, rfl, -, answered⟩ := asked
    exact ⟨e, part.subset (by simp), unrecordable_unclear answered lost⟩

def Client.asCanceller : Client → Option (String × Subject)
  | .canceller jobId subject => some (jobId, subject)
  | _ => none

theorem Client.asCanceller_some {client : Client} {jobId : String} {subject : Subject}
    (h : client.asCanceller = some (jobId, subject)) : client = .canceller jobId subject := by
  cases client with
  | canceller => cases h; rfl
  | _ => cases h

def BrokerEvent.unfailing : BrokerEvent → Bool
  | ⟨_, .store _, _, o, _, _⟩ => o.fault.isNone
  | _ => true

end Played

namespace Sample
variable {m : ConfirmationMode} {env : Environment} {started : Nat → Option Client}
  {log : BrokerLog} {db : DB} {e : BrokerEvent}

theorem unstruck (run : (runtime m).Run env started log db) (member : e ∈ log)
    (unfailing : BrokerEvent.unfailing e = true) : Unstruck store e := by
  obtain ⟨a, b, rfl⟩ := List.append_of_mem member
  intro op r answered
  have ready := linked_ready (run_linked run.until)
  have valid := run.valid
  cases answered
  rename_i o
  exact ⟨o, valid, Option.isNone_iff_eq_none.mp unfailing, ready o⟩

def asked : List Turn :=
  [.start (.createJob (request keyA) subject), .store 0 (oracle 1 "a"),
    .start (.worker "w"), .store 1 (oracle 2 "b"), .store 1 (oracle 3 "c"),
    .start (.canceller "job_a" subject), .store 2 (oracle 4 "d"), .store 2 (oracle 5 "e"),
    .adapter 2 fun op => ([], healthy op)]

/-- The canceller writes that down before the worker does anything more. -/
def cancelled : List Turn := asked ++ [.store 2 (oracle 6 "f")]

/-- The worker finishes first. -/
def overtaken : List Turn :=
  asked ++ [.adapter 1 fun op => ([], healthy op), .store 1 (oracle 6 "f"),
    .store 1 (oracle 7 "g"), .adapter 1 fun op => ([], healthy op),
    .adapter 1 fun op => ([], healthy op), .store 1 (oracle 8 "h"), .store 2 (oracle 9 "i")]

def forbidden : Except Exn Answer → Option String
  | .error (.store (.invalidTransition message)) => some message
  | _ => none

theorem forbidden_some {r : Except Exn Answer} {message : String}
    (h : forbidden r = some message) : r = .error (.store (.invalidTransition message)) := by
  unfold forbidden at h
  split at h
  · cases h
    rfl
  · cases h

end Sample

end Deckhand
