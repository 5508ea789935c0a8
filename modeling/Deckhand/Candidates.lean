import Deckhand.Races

namespace Deckhand
open Lib Lib.Prog

namespace Reconciler

theorem recordable_satisfied {o : AdapterObservation} {v : AdapterVerification}
    (recorded : recordable o v = true) (satisfied : v.satisfied = true) {result : Dict}
    (members : (Json.obj result).writable = true) : o.details.dumps = true ∧
      v.details.dumps = true ∧ (Json.obj (verifiedResult result o v)).writable = true := by
  simp only [recordable, satisfied, if_true, Details.recordable, Bool.and_eq_true] at recorded
  obtain ⟨⟨seen, observed⟩, dumped, verified⟩ := recorded
  refine ⟨seen, dumped, set_writable (set_writable members ?_) ?_⟩
  · simpa [AdapterObservation.modelDump, Json.writable, Json.every, everyMember, Json.leafDigits]
      using observed
  · simpa [AdapterVerification.modelDump, Json.writable, Json.every, everyMember, Json.leafDigits]
      using verified

section Returns
variable {σ : Type}

/-- A call that cuts the round of the candidate short, and with it the whole run. -/
inductive Spoils (rt : Runtime) (job : JobView) : Event σ Op.Note Op.Ret → Prop where
  | unread (e : Event σ Op.Note Op.Ret) (x : StoreExn) :
      e.Answered (.store (.getJobContext job.id)) (.error x) → Spoils rt job e
  | unserved (e : Event σ Op.Note Op.Ret) (request : ActionRequest) (owner : Subject) :
      e.Answered (.store (.getJobContext job.id)) (.ok (request, owner)) →
      (∀ action, rt.catalog.validateRequest request = .ok action →
        action.adapter ∉ rt.adapters.names) → Spoils rt job e
  | unwritten (e : Event σ Op.Note Op.Ret) (target : JobState) (result : Option Dict)
      (error : Option JobError) (x : StoreExn) :
      e.Answered (.store (.transitionJob job.id target result error none none)) (.error x) →
      (JobRow.transitionWritable job.result job.error = true →
        JobRow.transitionWritable result error = true) → Spoils rt job e
  | raised (e : Event σ Op.Note Op.Ret) (name : String) (op : AdapterOp) (x : AdapterExn) :
      e.Answered (.adapter name op) (.error x) → (∀ error, x ≠ .adapterError error) →
      Spoils rt job e
  | unrecordable (e : Event σ Op.Note Op.Ret) (name : String) (op : AdapterOp)
      (error : AdapterError) : e.Answered (.adapter name op) (.error (.adapterError error)) →
      error.writable = false → Spoils rt job e
  | unverified (e : Event σ Op.Note Op.Ret) (name : String) (action : ActionDefinition)
      (request : ActionRequest) (x : AdapterExecution) (o : AdapterObservation)
      (v : AdapterVerification) : e.Answered (.adapter name (.verify action request x o)) (.ok v) →
      recordable o v = false → Spoils rt job e

variable {rt : Runtime} {es : List (Event σ Op.Note Op.Ret)} {b : Brief} {job : JobView}

theorem returns_write {target : JobState} {result : Option Dict} {error : Option JobError}
    {s : Except Exn JobView}
    (writes : JobRow.transitionWritable job.result job.error = true →
      JobRow.transitionWritable result error = true)
    (h : Returns (callStore (.transitionJob job.id target result error none none)) es s) :
    (∃ view, s = .ok view) ∨ ∃ e ∈ es, Spoils rt job e := by
  obtain ⟨w, a, rfl, answered, rfl⟩ := returns_invoke.mp h
  cases a with
  | ok view => exact .inl ⟨view, rfl⟩
  | error x => exact .inr ⟨w, by simp, .unwritten w target result error x answered writes⟩

theorem partial_writable {error : JobError} (written : error.writable = true)
    (kept : JobRow.transitionWritable job.result job.error = true) :
    JobRow.transitionWritable (some (partialResult job)) (some error) = true :=
  Bool.and_eq_true .. |>.mpr ⟨result_writable kept, written⟩

theorem handle_returns {x : AdapterExn} {name : String} {op : AdapterOp} {s : Except Exn JobView}
    {e : Event σ Op.Note Op.Ret} (answered : e.Answered (.adapter name op) (.error x))
    (h : Returns (handle b (.adapter x)) es s) :
    (∃ f ∈ e :: es, Spoils rt b.job f) ∨ ∃ view, s = .ok view := by
  unfold handle at h
  split at h
  · rename_i error same
    obtain rfl := Exn.adapter.inj same
    rcases returns_bind.mp h with ⟨y, ran, rfl⟩ | ⟨jobError, _, es₁, rfl, ran, h₁⟩
    · obtain ⟨rfl, same⟩ := returns_lift.mp ran
      obtain ⟨z, undumped, rfl⟩ := mapError_error.mp same.symm
      exact .inl ⟨e, by simp, .unrecordable e name op error answered
        (AdapterError.writable_error undumped)⟩
    · obtain ⟨rfl, dumped⟩ := returns_asJobError_ok.mp ran
      cases recorded : error.writable with
      | false => exact .inl ⟨e, by simp, .unrecordable e name op error answered recorded⟩
      | true =>
        rw [AdapterError.writable_ok dumped] at recorded
        rcases returns_write (partial_writable recorded) h₁ with written | ⟨f, member, spoils⟩
        · exact .inr written
        · exact .inl ⟨f, by simp [member], spoils⟩
  · rename_i other
    exact .inl ⟨e, by simp, .raised e name op x answered fun error same =>
      other error (by rw [same])⟩

variable (rt) in
/-- Settling begins with the observation. It ends with the job, or with what the adapter raised
last, or with what spoils the round. -/
theorem settle_ends {s : Except Exn JobView} (h : Returns (settle b) es s) :
    (∃ p rest, es = p :: rest ∧ p.op = .adapter b.action.adapter b.observe) ∧
      ((∃ view, s = .ok view) ∨
        (∃ e ∈ es, ∃ name op x, e.Answered (.adapter name op) (.error x) ∧
          s = .error (.adapter x)) ∨
        ∃ e ∈ es, Spoils rt b.job e) := by
  rcases returns_adapter_then h with ⟨p, x, rfl, answered, rfl⟩ | ⟨p, o, es₁, rfl, answered, h₁⟩
  · exact ⟨⟨p, [], rfl, answered.op_eq⟩, .inr (.inl ⟨p, by simp, _, _, x, answered, rfl⟩)⟩
  refine ⟨⟨p, es₁, rfl, answered.op_eq⟩, ?_⟩
  rcases returns_adapter_then h₁ with ⟨q, x, rfl, answered, rfl⟩ | ⟨q, v, es₂, rfl, verified, h₂⟩
  · exact .inr (.inl ⟨q, by simp, _, _, x, answered, rfl⟩)
  cases recorded : recordable o v with
  | false =>
    exact .inr (.inr ⟨q, by simp,
      .unverified q _ b.action b.request b.execution o v verified recorded⟩)
  | true =>
    have write : ∀ {target : JobState} {result : Option Dict} {error : Option JobError},
        (JobRow.transitionWritable b.job.result b.job.error = true →
          JobRow.transitionWritable result error = true) →
        Returns (callStore (.transitionJob b.job.id target result error none none)) es₂ s →
        (∃ view, s = .ok view) ∨ ∃ e ∈ p :: q :: es₂, Spoils rt b.job e := by
      intro target result error writes ran
      rcases returns_write writes ran with written | ⟨e, member, spoils⟩
      · exact .inl written
      · exact .inr ⟨e, by simp [member], spoils⟩
    have ended : (∃ view, s = .ok view) ∨ ∃ e ∈ p :: q :: es₂, Spoils rt b.job e := by
      split at h₂
      · rename_i satisfied
        have empty : (Json.obj []).writable = true := rfl
        obtain ⟨seen, dumped, -⟩ := recordable_satisfied recorded satisfied empty
        rcases returns_requireDump_then h₂ with ⟨-, undumped, -⟩ | ⟨-, h₃⟩
        · rw [seen] at undumped
          cases undumped
        rcases returns_requireDump_then h₃ with ⟨-, undumped, -⟩ | ⟨-, h₄⟩
        · rw [dumped] at undumped
          cases undumped
        refine write (fun kept => ?_) h₄
        obtain ⟨-, -, written⟩ :=
          recordable_satisfied recorded satisfied (result_writable kept)
        exact Bool.and_eq_true .. |>.mpr ⟨written, rfl⟩
      · rename_i unsatisfied
        have written : (notSatisfied v).writable = true := by
          simpa [recordable, unsatisfied] using recorded
        exact write (partial_writable written) h₂
    exact ended.imp_right .inr

theorem settled_returns {s : Except Exn JobView}
    (h : Returns (tryCatch (settle b) (handle b)) es s) :
    (∃ p rest, es = p :: rest ∧ p.op = .adapter b.action.adapter b.observe) ∧
      ((∃ e ∈ es, Spoils rt b.job e) ∨ ∃ view, s = .ok view) := by
  rcases returns_tryCatch.mp h with ⟨view, ran, rfl⟩ | ⟨x, first, rest, rfl, ran, later⟩
  · exact ⟨(settle_ends rt ran).1, .inr ⟨view, rfl⟩⟩
  obtain ⟨⟨p, seen, rfl, observe⟩, ended⟩ := settle_ends rt ran
  refine ⟨⟨p, seen ++ rest, rfl, observe⟩, ?_⟩
  rcases ended with ⟨view, same⟩ | ⟨e, member, name, op, y, answered, same⟩ |
    ⟨e, member, spoils⟩
  · cases same
  · cases same
    rcases handle_returns answered later with ⟨f, among, spoils⟩ | written
    · refine .inl ⟨f, ?_, spoils⟩
      rcases List.mem_cons.mp among with rfl | among
      · exact List.mem_append_left _ member
      · exact List.mem_append_right _ among
    · exact .inr written
  · exact .inl ⟨e, List.mem_append_left _ member, spoils⟩

/-- A candidate's round: it reads the context, enters VERIFYING and observes, if nothing spoils
it, and then ends with the job. -/
theorem reconcile_returns {s : Except Exn JobView}
    (readable : ∃ x, execution (partialResult job) = .ok x)
    (h : Returns (reconcile rt job) es s) :
    (∃ e ∈ es, Spoils rt job e) ∨ (∃ view, s = .ok view) ∧
      ∃ g n p rest request owner name action, es = g :: n :: p :: rest ∧
        g.Answered (.store (.getJobContext job.id)) (.ok (request, owner)) ∧
        p.op = .adapter name (.observe action request) := by
  rcases returns_store_then h with ⟨g, x, rfl, answered, rfl⟩ |
    ⟨g, ⟨request, owner⟩, es₁, rfl, context, h₁⟩
  · exact .inl ⟨g, by simp, .unread g x answered⟩
  rcases returns_bind.mp h₁ with ⟨x, ran, rfl⟩ | ⟨action, _, es₂, rfl, ran, h₂⟩
  · obtain ⟨rfl, same⟩ := returns_lift.mp ran
    obtain ⟨y, invalid, rfl⟩ := mapError_error.mp same.symm
    refine .inl ⟨g, by simp, .unserved g request owner context fun action valid => ?_⟩
    cases invalid.symm.trans valid
  obtain ⟨rfl, valid⟩ := returns_validateRequest_ok.mp ran
  rcases returns_bind.mp h₂ with ⟨x, ran, rfl⟩ | ⟨_, _, es₃, rfl, ran, h₃⟩
  · obtain ⟨rfl, same⟩ := returns_lift.mp ran
    obtain ⟨y, missing, rfl⟩ := mapError_error.mp same.symm
    refine .inl ⟨g, by simp, .unserved g request owner context fun action' valid' registered => ?_⟩
    obtain rfl : action = action' := Except.ok.inj (valid.symm.trans valid')
    rw [AdapterRegistry.get, if_pos registered] at missing
    cases missing
  obtain ⟨rfl, -⟩ := returns_getAdapter_ok.mp ran
  rcases returns_bind.mp h₃ with ⟨x, ran, rfl⟩ | ⟨x, _, es₄, rfl, ran, h₄⟩
  · obtain ⟨rfl, same⟩ := returns_lift.mp ran
    obtain ⟨y, unread, rfl⟩ := mapError_error.mp same.symm
    obtain ⟨x, stored⟩ := readable
    cases unread.symm.trans stored
  obtain ⟨rfl, -⟩ := returns_raised_ok.mp ran
  simp only [List.nil_append]
  rcases returns_store_then h₄ with ⟨n, y, rfl, refused, rfl⟩ | ⟨n, v, es₅, rfl, _, h₅⟩
  · exact .inl ⟨n, by simp, .unwritten n _ _ _ y refused fun kept =>
      Bool.and_eq_true .. |>.mpr ⟨result_writable kept, (Bool.and_eq_true .. |>.mp kept).2⟩⟩
  obtain ⟨⟨p, rest, rfl, observe⟩, ended⟩ := settled_returns h₅
  rcases ended with ⟨e, member, spoils⟩ | written
  · exact .inl ⟨e, List.mem_cons_of_mem _ (List.mem_cons_of_mem _ member), spoils⟩
  · exact .inr ⟨written, g, n, p, rest, request, owner, _, action, rfl, context, observe⟩

end Returns

end Reconciler

/-- What a reconciler does not provide for: the catalog or the registry no longer serves the job,
the row has left the state that the write needs, the adapter raised something else than an adapter
error, or what it raised or verified cannot be recorded. -/
inductive Obstructs (rt : Runtime) (e : BrokerEvent) : Prop where
  | unserved (j : String) (request : ActionRequest) (owner : Subject) :
      e.Answered (.store (.getJobContext j)) (.ok (request, owner)) →
      (∀ action, rt.catalog.validateRequest request = .ok action →
        action.adapter ∉ rt.adapters.names) → Obstructs rt e
  | overtaken (j : String) (target : JobState) (result : Option Dict) (error : Option JobError)
      (row : JobRow) : e.op = .store (.transitionJob j target result error none none) →
      e.pre.job? j = some row → target ∉ allowedTransitions row.state → Obstructs rt e
  | raised (name : String) (op : AdapterOp) (x : AdapterExn) :
      e.Answered (.adapter name op) (.error x) → (∀ error, x ≠ .adapterError error) →
      Obstructs rt e
  | unrecordable (name : String) (op : AdapterOp) (error : AdapterError) :
      e.Answered (.adapter name op) (.error (.adapterError error)) →
      error.writable = false → Obstructs rt e
  | unverified (name : String) (action : ActionDefinition) (request : ActionRequest)
      (x : AdapterExecution) (o : AdapterObservation) (v : AdapterVerification) :
      e.Answered (.adapter name (.verify action request x o)) (.ok v) →
      Reconciler.recordable o v = false → Obstructs rt e

/-- Job `j` is among those the call charged an attempt. -/
def charges (j : String) : BrokerEvent → Bool
  | ⟨_, .store (.claimReconcileCandidates ..), _, _, .ok jobs, _⟩ =>
    decide (j ∈ jobs.map JobView.id)
  | _ => false

/-- The call asks an adapter to observe the request of job `j`. -/
def Observes (j : String) (e : BrokerEvent) : Prop :=
  ∃ name action row, e.pre.job? j = some row ∧ e.op = .adapter name (.observe action row.request)

/-- The process ended, the database failed none of its calls and nothing obstructed it. -/
def Undisturbed (rt : Runtime) (c : BrokerConfig) (i : Nat) : Prop :=
  (∃ r, c.Ended i r) ∧ ∀ e ∈ localOf i c.log, Unstruck rt.store e ∧ ¬ Obstructs rt e

section Run
variable {rt : Runtime} {env : Environment} {started : Nat → Option Client} {log : BrokerLog}
  {db : DB} {j : String}

theorem charges_answered {e : BrokerEvent} (charged : charges j e = true) :
    ∃ maxAttempts limit jobs, j ∈ jobs.map JobView.id ∧
      e.Answered (.store (.claimReconcileCandidates maxAttempts limit)) (.ok jobs) := by
  unfold charges at charged
  split at charged
  · exact ⟨_, _, _, by simpa using charged, .mk ..⟩
  · cases charged

theorem site_candidates {client : Client} {es : BrokerLog} {maxAttempts limit : Nat}
    (h : rt.Site client es (.store (.claimReconcileCandidates maxAttempts limit))) :
    client = .reconciler maxAttempts ∧ limit = 100 ∧ ∃ x, es = [x] ∧
    x.op = .store .expireLeases := by
  cases client with
  | reconciler maxAttempts' =>
    cases h with
    | candidates x n expired => exact ⟨rfl, rfl, x, rfl, expired.op_eq⟩
  | claimNextJob => cases h.2
  | _ => cases h

theorem chargers_nodup (run : rt.Run env started log db) :
    ((log.filter (charges j)).map Event.caller).Nodup := by
  refine run_induction (P := fun log _ => ((log.filter (charges j)).map Event.caller).Nodup)
    .nil ?_ run
  intro log e client before valid origin site held
  rw [List.filter_append, List.map_append, List.nodup_append]
  refine ⟨held, ?_, ?_⟩
  · cases h : charges j e <;> simp [h]
  · rintro i earlier i' now rfl
    obtain ⟨f, member, caller⟩ := List.mem_map.mp earlier
    obtain ⟨f', member', caller'⟩ := List.mem_map.mp now
    obtain ⟨here, charged⟩ := List.mem_filter.mp member
    obtain ⟨here', charged'⟩ := List.mem_filter.mp member'
    obtain rfl := List.mem_singleton.mp here'
    obtain ⟨_, _, _, -, answered⟩ := charges_answered charged
    obtain ⟨_, _, _, -, answered'⟩ := charges_answered charged'
    obtain ⟨-, -, x, first, expired⟩ := site_candidates (answered'.op_eq ▸ site)
    have mine : f ∈ localOf f'.caller log := by
      simp [localOf, here, caller, caller']
    rw [first] at mine
    obtain rfl := List.mem_singleton.mp mine
    cases expired.symm.trans answered.op_eq

def DB.attempts (db : DB) (j : String) : Nat := (db.job? j).elim 0 JobRow.reconcileAttempts

theorem Move.attempts {s : Store} {e : BrokerEvent} {l l' : Life} (move : Move s j e l l')
    (other : ∀ maxAttempts limit, e.op ≠ .store (.claimReconcileCandidates maxAttempts limit)) :
    l'.row.elim 0 JobRow.reconcileAttempts = l.row.elim 0 JobRow.reconcileAttempts := by
  cases move with
  | attempted maxAttempts limit row events op => exact absurd op (other maxAttempts limit)
  | _ => rfl

theorem attempts_charged {e : BrokerEvent} (valid : e.Valid (rt.sem env)) :
    e.post.attempts j = e.pre.attempts j + (charges j e).toNat := by
  by_cases selects : ∃ maxAttempts limit,
    e.op = .store (.claimReconcileCandidates maxAttempts limit)
  · obtain ⟨caller, op, pre, o, r, post⟩ := e
    obtain ⟨maxAttempts, limit, rfl⟩ := selects
    cases r with
    | error x =>
      rw [show post = pre from run_error valid]
      rfl
    | ok jobs =>
      obtain ⟨rows, chosen, rfl, life⟩ := claimReconcileCandidates_spec (Txn.atomically_ok valid)
      have row : post.job? j = _ := congrArg Life.row (life j)
      have ids : (rows.map JobRow.view).map JobView.id = rows.map JobRow.id := by
        rw [List.map_map]
        rfl
      simp only [DB.attempts, row, charges, ids]
      by_cases member : j ∈ rows.map JobRow.id
      · obtain ⟨r, among, rfl⟩ := List.mem_map.mp member
        simp [member, (chosen r among).1, JobRow.attempt]
      · simp [member, DB.life]
  · have other : ∀ maxAttempts limit,
        e.op ≠ .store (.claimReconcileCandidates maxAttempts limit) :=
      fun maxAttempts limit op => selects ⟨maxAttempts, limit, op⟩
    have none : charges j e = false := by
      cases h : charges j e with
      | false => rfl
      | true =>
        obtain ⟨_, _, _, -, answered⟩ := charges_answered h
        exact absurd answered.op_eq (other _ _)
    rw [none]
    exact (moved valid j).attempts other

theorem attempts_counted (run : rt.Run env started log db) :
    db.attempts j = (log.filter (charges j)).length := by
  refine run_induction (P := fun log db => db.attempts j = (log.filter (charges j)).length)
    rfl ?_ run
  intro log e client _ valid _ _ held
  rw [attempts_charged valid, held, List.filter_append, List.length_append]
  cases h : charges j e <;> simp [h]

theorem unspoiled {e : BrokerEvent} {job : JobView} {row : JobRow} (unstruck : Unstruck rt.store e)
    (clear : ¬ Obstructs rt e) (here : e.pre.job? job.id = some row)
    (kept : JobRow.transitionWritable job.result job.error = true) :
    ¬ Reconciler.Spoils rt job e := by
  intro spoils
  cases spoils with
  | unread x answered =>
    obtain ⟨context, same⟩ := unstruck.getJobContext here answered
    cases same
  | unserved request owner answered unserved =>
    exact clear (.unserved job.id request owner answered unserved)
  | unwritten target result error x answered writes =>
    by_cases allowed : target ∈ allowedTransitions row.state
    · obtain ⟨row', same, -⟩ := unstruck.transitionJob here (by simp) allowed (writes kept) answered
      cases same
    · exact clear (.overtaken job.id target result error row answered.op_eq here allowed)
  | raised name op x answered other => exact clear (.raised name op x answered other)
  | unrecordable name op error answered lost =>
    exact clear (.unrecordable name op error answered lost)
  | unverified name action request x o v answered lost =>
    exact clear (.unverified name action request x o v answered lost)

end Run

/-- One candidate's round in a run: it ends with a value, and the job was observed in it. -/
theorem round_observed {rt : Runtime} {env : Environment} {started : Nat → Option Client}
    {log : BrokerLog} {db : DB} {i : Nat} (run : rt.Run env started log db) {x e : BrokerEvent}
    {first seen rest : BrokerLog} (mine : localOf i log = x :: e :: (first ++ seen ++ rest))
    (calm : ∀ f ∈ localOf i log, Unstruck rt.store f ∧ ¬ Obstructs rt f) {job : JobView}
    {row : JobRow} (found : e.pre.job? job.id = some row) (view : row.view = job)
    {r : Except Exn JobView} (returned : Returns (Reconciler.reconcile rt job) seen r) :
    (∃ view, r = .ok view) ∧ ∃ f ∈ seen, Observes job.id f := by
  have here : ∀ s f t, seen = s ++ f :: t → ∃ row', f.pre.job? job.id = some row' := by
    rintro s f t rfl
    have split : localOf i log = x :: e :: (first ++ s) ++ f :: (t ++ rest) := by
      rw [mine]
      simp
    exact found_persists (x :: e :: (first ++ s)) run split (by simp) found
  have member : e ∈ localOf i log := by simp [mine]
  have kept : JobRow.transitionWritable job.result job.error = true := by
    subst view
    exact (run_rewritable run).1 e (mem_of_localOf member).1 row.id row found
  have readable : ∃ y, Reconciler.execution (Reconciler.partialResult job) = .ok y := by
    obtain ⟨y, stored⟩ := view_readable ((run_dumped run).1 e (mem_of_localOf member).1) found
    rw [view] at stored
    exact ⟨_, by rw [Reconciler.execution, Reconciler.partialResult, stored]; rfl⟩
  rcases Reconciler.reconcile_returns readable returned with
    ⟨f, member, spoils⟩ | ⟨written, g, n, p, tail, request, owner, name, action, rfl, context, op⟩
  · obtain ⟨s, t, split⟩ := List.append_of_mem member
    obtain ⟨row', now⟩ := here s f t split
    obtain ⟨unstruck, clear⟩ := calm f (by simp [mine, member])
    exact absurd spoils (unspoiled unstruck clear now kept)
  · obtain ⟨row', now⟩ := here [g, n] p tail rfl
    have place : localOf i log = (x :: e :: (first ++ [g, n])) ++ p :: (tail ++ rest) := by
      rw [mine]
      simp
    obtain ⟨a, b, rfl, before⟩ := localOf_split place
    have read : g ∈ a := (mem_of_localOf (i := i) (before ▸ by simp)).1
    have same : row'.request = request := context_request run.until.trace read context now
    exact ⟨written, p, by simp, name, action, row', now, same ▸ op⟩

theorem charged_observed {rt : Runtime} {env : Environment} {c : BrokerConfig}
    (h : rt.Reachable env c) {e : BrokerEvent} (member : e ∈ c.log)
    (undisturbed : Undisturbed rt c e.caller) {maxAttempts limit : Nat} {jobs : List JobView}
    (answered : e.Answered (.store (.claimReconcileCandidates maxAttempts limit)) (.ok jobs))
    {job : JobView} (among : job ∈ jobs) :
    ∃ f ∈ c.log, f.caller = e.caller ∧ Observes job.id f := by
  have run := reachable_run h
  obtain ⟨⟨r, ended⟩, calm⟩ := undisturbed
  obtain ⟨a, b, whole⟩ := List.append_of_mem member
  obtain ⟨client, origin, site⟩ := run_site (whole ▸ run)
  obtain ⟨rfl, rfl, x, first, expired⟩ := site_candidates (answered.op_eq ▸ site)
  have mine : localOf e.caller c.log = x :: e :: localOf e.caller b := by
    have split : a ++ e :: b = a ++ [e] ++ b := by simp
    rw [whole, split, localOf_append, localOf_snoc_self, first]
    rfl
  obtain ⟨s, returned, -⟩ := returns_map (reachable_returns h origin ended)
  rw [mine] at returned
  rcases returns_store_then returned with ⟨_, _, alone, -⟩ | ⟨x', n, es₁, same, -, h₁⟩
  · cases alone
  obtain ⟨rfl, rfl⟩ := List.cons.inj same
  rcases returns_store_then h₁ with ⟨e', _, same, refused, -⟩ | ⟨e', jobs', es₂, same, chosen, h₂⟩
  · obtain ⟨rfl, -⟩ := List.cons.inj same
    cases refused.unique answered
  obtain ⟨rfl, rfl⟩ := List.cons.inj same
  obtain rfl := Except.ok.inj (chosen.unique answered)
  have rounds := returns_mapM (P := fun job seen => ∃ f ∈ seen, Observes job.id f) h₂ ?_
  · obtain ⟨first, seen, rest, split, f, within, observes⟩ := rounds job among
    have there : f ∈ localOf e.caller c.log := by simp [mine, split, within]
    exact ⟨f, (mem_of_localOf there).1, (mem_of_localOf there).2, observes⟩
  · intro y candidate first seen rest r split returned
    obtain ⟨row, found, -, view⟩ := answered_candidates (run.trace.valid member) answered candidate
    exact round_observed run (split ▸ mine) calm found view returned

theorem Obstructs.unclear {rt : Runtime} {e : BrokerEvent} (obstructs : Obstructs rt e) :
    rt.clear e = false := by
  cases obstructs with
  | unserved j request owner answered unserved => exact unserved_unclear answered unserved
  | overtaken j target result error row op here forbidden =>
    exact overtaken_unclear op here forbidden
  | raised name op x answered => exact raised_unclear answered
  | unrecordable name op error answered => exact raised_unclear answered
  | unverified name action request x o v answered lost => exact unverified_unclear answered lost

def Op.isObserve : Op → Bool
  | .adapter _ (.observe ..) => true
  | _ => false

namespace Sample

/-- A worker leaves a job in doubt, and a reconciler settles it. -/
def settled : List Turn :=
  [.start (.createJob (request keyA) subject), .store 0 (oracle 1 "a"),
    .start (.worker "w"), .store 1 (oracle 2 "b"), .store 1 (oracle 3 "c"),
    .adapter 1 fun op => ([], doubtful op), .store 1 (oracle 4 "d"),
    .start (.reconciler 5), .store 2 (oracle 5 "e"), .store 2 (oracle 6 "f"),
    .store 2 (oracle 7 "g"), .store 2 (oracle 8 "h"), .adapter 2 fun op => ([], healthy op),
    .adapter 2 fun op => ([], healthy op), .store 2 (oracle 9 "i")]

/-- Two workers leave their jobs behind, the first one's action not in the catalog; a reconciler
is given both. -/
def retired : List Turn :=
  [.start (.createJob { request keyA with actionId := "test.retired" } subject),
    .store 0 (oracle 1 "a"), .start (.createJob (request keyB) subject), .store 1 (oracle 2 "b"),
    .start (.worker "w"), .store 2 (oracle 3 "c"), .store 2 (oracle 4 "d"),
    .start (.worker "w"), .store 3 (oracle 5 "e"), .crash 3,
    .start (.reconciler 1), .store 4 (oracle 1000 "f"), .store 4 (oracle 1001 "g"),
    .store 4 (oracle 1002 "h")]

end Sample

end Deckhand
