import Deckhand.Gate
import Deckhand.Races

/-! Submitting again: what the copies of one execute request are answered with, and what they
leave in the store. -/
namespace Deckhand
open Lib Lib.Txn Lib.Prog

/-- The engine answers, and always with the decision of one policy; adapters do anything. -/
def Environment.steady (policy : PolicyInput → PolicyDecision) : Environment where
  adapts _ _ _ _ := True
  decides input _ r := r = .ok (policy input)

def refusalTypes : List String := ["confirmation.rejected", "policy.denied"]

def DB.refusals (db : DB) : List AuditRow :=
  db.auditEvents.rows.filter fun r => r.eventType ∈ refusalTypes

section Store
variable {s : Store} {o : Oracle} {db db' : DB}

theorem Appended.refusals {eventType : String} {payload : Dict}
    (h : Appended s eventType payload db db') (other : eventType ∉ refusalTypes) :
    db'.refusals = db.refusals := by
  obtain ⟨r, rows, rfl, -⟩ := h.row
  simp [DB.refusals, rows, other]

theorem createJob_refusals {request : ActionRequest} {subject : Subject} {v : JobView}
    (h : (s.createJob o request subject).run db = .ok (v, db')) : db'.refusals = db.refusals := by
  have insert : ∀ row, Keeps (fun t => t.refusals = db.refusals) (StoreTxn.insertJob row) := by
    intro row t n t' before inserted
    obtain ⟨jobs, -, rfl⟩ := run_insertJob inserted
    exact before
  have append : ∀ payload,
      Keeps (fun t => t.refusals = db.refusals) (s.appendAudit o "job.queued" payload) := by
    intro payload t u t' before appended
    exact ((run_appendAudit appended).refusals (by decide)).trans before
  have keeps : Keeps (fun t => t.refusals = db.refusals) (s.createJob o request subject) := by
    refine keeps_bind keeps_raiseIf fun _ => keeps_bind keeps_read fun _ => ?_
    split
    · exact keeps_bind keeps_raiseIf fun _ => keeps_pure
    · exact keeps_bind keeps_raiseIf fun _ => keeps_bind (insert _) fun _ =>
        keeps_bind (append _) fun _ =>
        keeps_bind keeps_read fun _ => keeps_bind keeps_require fun _ => keeps_pure
  exact keeps db v db' rfl h

end Store

section Event
variable {rt : Runtime} {env : Environment} {e : BrokerEvent}

theorem unfailing_store (op : StoreOp) {r : Except StoreExn op.Value}
    (valid : e.Valid (rt.sem env)) (unfailing : BrokerEvent.unfailing e = true)
    (answered : e.Answered (.store op) r) :
    ∃ o : Oracle, op.run rt.store o e.pre = (r, e.post) ∧ o.fault = none := by
  cases answered with
  | mk caller op pre o r post => exact ⟨o, valid, Option.isNone_iff_eq_none.mp unfailing⟩

theorem unfailing_probe {r : Except StoreExn Bool} (valid : e.Valid (rt.sem env))
    (unfailing : BrokerEvent.unfailing e = true) (linked : Linked rt.store e.pre.auditEvents.rows)
    (answered : e.Answered (.store .auditIsWritable) r) : r = .ok true := by
  obtain ⟨o, ran, healthy⟩ := unfailing_store .auditIsWritable valid unfailing answered
  exact congrArg Prod.fst (ran.symm.trans (auditIsWritable_ends healthy linked))

theorem unfailing_again {request : ActionRequest} {subject : Subject} {row : JobRow}
    {r : Except StoreExn JobView} (valid : e.Valid (rt.sem env))
    (unfailing : BrokerEvent.unfailing e = true) (member : row ∈ e.pre.jobs.rows)
    (key : row.idempotencyKey = request.idempotencyKey)
    (digest : row.requestDigest = requestDigest rt.store.hashlib request)
    (storable : request.storable = true)
    (answered : e.Answered (.store (.createJob request subject)) r) : r = .ok row.view := by
  obtain ⟨o, ran, healthy⟩ :=
    unfailing_store (.createJob request subject) valid unfailing answered
  have again := connect_ends healthy
    (createJob_again (o := o) subject member key digest storable)
  exact congrArg Prod.fst (ran.symm.trans again)

end Event

/-- On what terms the policy lets a request without a token submit its job. -/
structure Submittable (rt : Runtime) (policy : PolicyInput → PolicyDecision)
    (request : ActionRequest) (subject : Subject) (action : ActionDefinition) : Prop where
  validated : rt.catalog.validateRequest request = .ok action
  allowed : (policy (Api.policyInput rt action request subject true "execute" false)).allow = true
  real : request.dryRun = false

section Run
variable {rt : Runtime} {policy : PolicyInput → PolicyDecision} {started : Nat → Option Client}
  {log a b : BrokerLog} {db : DB} {e : BrokerEvent} {i : Nat} {actionId : String}
  {request : ActionRequest} {subject : Subject} {action : ActionDefinition} {view : JobView}

theorem run_recorded {env : Environment} (run : rt.Run env started log db) (j : String) :
    (db.life j).Recorded := by
  refine run.trace.stable (P := fun db => (db.life j).Recorded) ?_ .empty
  intro e _ valid before
  rcases valid_cases valid with ⟨op, r, answered⟩ | ⟨-, same⟩
  · obtain ⟨o, ran⟩ := valid_store valid answered
    exact ((run_step ran).rows j).recorded before
  · rw [same]
    exact before

theorem bare_decided {valid writable : Bool} {decision : PolicyDecision} {es : BrokerLog}
    (run : rt.Run (.steady policy) started log db) (bare : Api.token request = none)
    (mine : ∀ f ∈ es, f ∈ log) (unfailing : ∀ f ∈ es, BrokerEvent.unfailing f = true)
    (decided : Api.Decided rt request subject es action valid writable decision) :
    decision = policy (Api.policyInput rt action request subject true "execute" false) := by
  obtain ⟨before, w, d, rfl, confirmed, probed, answered⟩ := decided.seen
  cases confirmed with
  | asked _ token _ present => cases bare.symm.trans present
  | none =>
    obtain ⟨x, y, rfl⟩ := List.append_of_mem (mine w (by simp))
    obtain rfl : writable = true := Except.ok.inj
      (unfailing_probe run.valid (unfailing w (by simp)) (run_linked run.until) probed)
    have decides := run.trace.valid (mine d (by simp))
    cases answered with
    | mk => exact Except.ok.inj decides.1

theorem accepted_submittable (run : rt.Run (.steady policy) started (a ++ e :: b) db)
    (bare : Api.token request = none)
    (copy : started e.caller = some (.execute actionId request subject))
    (created : e.Answered (.store (.createJob request subject)) (.ok view))
    (unfailing : ∀ f ∈ localOf e.caller a, BrokerEvent.unfailing f = true) :
    ∃ action, Submittable rt policy request subject action := by
  obtain ⟨client, origin, site⟩ := run_site run
  obtain rfl := Option.some.inj (origin.symm.trans copy)
  rw [created.op_eq] at site
  generalize seen : localOf e.caller a = es at site unfailing
  cases site with
  | create _ action valid writable decision decided allowed real =>
    refine ⟨action, decided.validated, ?_, real⟩
    have earlier : ∀ f ∈ es, f ∈ a := fun f member => (mem_of_localOf (seen ▸ member)).1
    rw [← bare_decided run.until bare earlier unfailing decided]
    exact allowed

theorem submittable_allowed {valid writable : Bool} {decision : PolicyDecision} {es : BrokerLog}
    (run : rt.Run (.steady policy) started log db) (bare : Api.token request = none)
    (submittable : Submittable rt policy request subject action) (mine : ∀ f ∈ es, f ∈ log)
    (unfailing : ∀ f ∈ es, BrokerEvent.unfailing f = true) {action' : ActionDefinition}
    (decided : Api.Decided rt request subject es action' valid writable decision) :
    decision.allow = true := by
  obtain rfl : action' = action :=
    Except.ok.inj (decided.validated.symm.trans submittable.validated)
  rw [bare_decided run bare mine unfailing decided]
  exact submittable.allowed

theorem copy_unrefused (run : rt.Run (.steady policy) started (a ++ e :: b) db)
    (bare : Api.token request = none)
    (copy : started e.caller = some (.execute actionId request subject))
    (submittable : Submittable rt policy request subject action)
    (unfailing : ∀ f ∈ localOf e.caller a, BrokerEvent.unfailing f = true) :
    e.post.refusals = e.pre.refusals := by
  obtain ⟨client, origin, site⟩ := run_site run
  obtain rfl := Option.some.inj (origin.symm.trans copy)
  have valid := run.valid
  have earlier : ∀ f ∈ localOf e.caller a, f ∈ a := fun f member => (mem_of_localOf member).1
  obtain ⟨caller, op, pre, note, r, post⟩ := e
  generalize localOf caller a = es at site unfailing earlier
  cases site with
  | consume token present => cases bare.symm.trans present
  | audit =>
    rw [← show (Store.auditIsWritable note pre).2 = post from congrArg Prod.snd valid,
      auditIsWritable_frame]
  | decide => rw [show post = pre from valid.2]
  | deny _ action' _ _ decision decided denied =>
    have allowed := submittable_allowed run.until bare submittable earlier unfailing decided
    cases denied.symm.trans allowed
  | create =>
    cases r with
    | error x => rw [show post = pre from run_error valid]
    | ok v => exact createJob_refusals (atomically_ok valid)

end Run

section Answered
variable {rt : Runtime} {policy : PolicyInput → PolicyDecision} {started : Nat → Option Client}
  {log a b : BrokerLog} {db : DB} {e : BrokerEvent} {i : Nat}
  {request : ActionRequest} {subject : Subject} {action : ActionDefinition} {view : JobView}

/-- The request of an accepted copy can be stored, and its job is there ever after, under its key
and its digest. -/
theorem accepted_persists {env : Environment} (run : rt.Run env started (a ++ e :: b) db)
    (created : e.Answered (.store (.createJob request subject)) (.ok view)) :
    request.storable = true ∧
      ∃ row, db.job? view.id = some row ∧ row.idempotencyKey = request.idempotencyKey ∧
        row.requestDigest = requestDigest rt.store.hashlib request := by
  obtain ⟨o, ran⟩ := valid_store run.valid created
  have stored := atomically_ok ran
  obtain ⟨row, here, key, digest⟩ := createJob_row stored
  obtain ⟨row', now, same⟩ := row_persists run.trace.split.2.2 here
  simp only [JobRow.identity, Prod.mk.injEq] at same
  obtain ⟨-, key', -, digest', -⟩ := same
  exact ⟨createJob_storable stored, row', now, key'.trans key, digest'.trans digest⟩

theorem submission_repeated {c : BrokerEvent} {m : BrokerLog} {r : Except StoreExn JobView}
    {env : Environment} (run : rt.Run env started (a ++ e :: (m ++ c :: b)) db)
    (created : e.Answered (.store (.createJob request subject)) (.ok view))
    (unfailing : BrokerEvent.unfailing c = true)
    (answered : c.Answered (.store (.createJob request subject)) r) :
    ∃ again, r = .ok again ∧ again.id = view.id := by
  have whole : a ++ e :: (m ++ c :: b) = (a ++ e :: m) ++ c :: b := by simp
  rw [whole] at run
  obtain ⟨storable, row, here, key, digest⟩ := accepted_persists run.until created
  have repeated :=
    unfailing_again run.valid unfailing (job?_mem.mp here).1 key digest storable answered
  exact ⟨row.view, repeated, (job?_mem.mp here).2⟩

theorem copy_answered {r : Except Exn JobView}
    (run : rt.Run (.steady policy) started (a ++ e :: b) db)
    (bare : Api.token request = none) (read : request.writable = true)
    (submittable : Submittable rt policy request subject action)
    (created : e.Answered (.store (.createJob request subject)) (.ok view))
    (unfailing : ∀ f ∈ localOf i (a ++ e :: b), BrokerEvent.unfailing f = true)
    (waiting : ∀ f ∈ localOf i a, f.op ≠ .store (.createJob request subject))
    (ended : Api.ExecuteEnding rt request subject (localOf i (a ++ e :: b)) r) :
    ∃ again, r = .ok again ∧ again.id = view.id := by
  have whole : ∀ f ∈ localOf i (a ++ e :: b), f ∈ a ++ e :: b :=
    fun f member => (mem_of_localOf member).1
  generalize mine : localOf i (a ++ e :: b) = es at unfailing ended whole
  cases ended with
  | unread x unread => cases unread.symm.trans read
  | invalid x invalid => cases invalid.symm.trans submittable.validated
  | unconfirmed c token x present => cases bare.symm.trans present
  | unprobed es w x probed =>
    obtain ⟨y, z, split⟩ := List.append_of_mem (whole w (by simp))
    rw [split] at run
    cases unfailing_probe run.valid (unfailing w (by simp)) (run_linked run.until) probed
  | undecided es d input x answered =>
    have decides := run.trace.valid (whole d (by simp))
    cases answered with
    | mk => cases decides.1
  | denied es n action' valid writable decision x decided denied =>
    have allowed := submittable_allowed run bare submittable
      (fun f member => whole f (by simp [member])) (fun f member => unfailing f (by simp [member]))
      decided
    cases denied.symm.trans allowed
  | dryRun es x dry => cases dry.symm.trans submittable.real
  | submitted es c action' valid writable decision r decided allowed real answered =>
    suffices repeated : ∃ again, r = .ok again ∧ again.id = view.id by
      obtain ⟨again, rfl, same⟩ := repeated
      exact ⟨again, rfl, same⟩
    obtain ⟨x, y, split, seen⟩ := localOf_split mine
    rcases places split with ⟨m, rfl, rfl⟩ | ⟨m, rfl, rfl⟩ | ⟨-, rfl, -⟩
    · exact submission_repeated run created (unfailing c (by simp)) answered
    · have own : c.caller = i := (mem_of_localOf (mine ▸ List.mem_append_right es (by simp))).2
      have among : c ∈ localOf i (x ++ c :: m) := by simp [localOf, own]
      exact absurd answered.op_eq (waiting c among)
    · exact ⟨view, answered.unique created, rfl⟩

end Answered

/-- Submitting again: once a copy of an execute request without a token was accepted, every copy
that has yet to ask for its job is answered with the same job, there is one row and one
`job.queued` event, and no copy is recorded as refused. -/
theorem resubmission_idempotent (rt : Runtime) (policy : PolicyInput → PolicyDecision)
    (c : BrokerConfig) (h : rt.Reachable (.steady policy) c) (actionId : String)
    (request : ActionRequest) (subject : Subject) (a b : BrokerLog) (e : BrokerEvent)
    (view : JobView) (whole : c.log = a ++ e :: b)
    (copy : c.started e.caller = some (.execute actionId request subject))
    (created : e.Answered (.store (.createJob request subject)) (.ok view))
    (bare : Api.token request = none)
    (unfailing : ∀ f ∈ c.log, c.started f.caller = some (.execute actionId request subject) →
      BrokerEvent.unfailing f = true) :
    (∀ i r, c.started i = some (.execute actionId request subject) → c.Ended i r →
      (∀ f ∈ localOf i a, f.op ≠ .store (.createJob request subject)) →
      ∃ again, r = .ok (.job again) ∧ again.id = view.id) ∧
    (c.state.jobs.rows.filter fun row =>
      row.idempotencyKey = request.idempotencyKey).map JobRow.id = [view.id] ∧
    (c.state.jobEvents view.id).count .queued = 1 ∧
    ∀ f ∈ c.log, c.started f.caller = some (.execute actionId request subject) →
      f.post.refusals = f.pre.refusals := by
  have run := reachable_run h
  have calm : ∀ i, c.started i = some (.execute actionId request subject) →
      ∀ f ∈ localOf i c.log, BrokerEvent.unfailing f = true := by
    intro i origin f member
    obtain ⟨among, rfl⟩ := mem_of_localOf member
    exact unfailing f among origin
  have before : ∀ x y f, c.log = x ++ f :: y →
      c.started f.caller = some (.execute actionId request subject) →
      ∀ g ∈ localOf f.caller x, BrokerEvent.unfailing g = true := by
    intro x y f split origin g member
    refine calm f.caller origin g ?_
    rw [split, localOf_append]
    exact List.mem_append_left _ member
  have run' := whole ▸ run
  obtain ⟨action, submittable⟩ :=
    accepted_submittable run' bare copy created (before a b e whole copy)
  obtain ⟨client, origin, calls⟩ := run'.calls
  obtain rfl := Option.some.inj (origin.symm.trans copy)
  have executes := calls_map.mp calls
  obtain rfl : actionId = request.actionId := Api.execute_named executes
  have read := Api.execute_read executes
  obtain ⟨-, row, here, key, -⟩ := accepted_persists run' created
  obtain ⟨member, same⟩ := job?_mem.mp here
  refine ⟨fun i r started ended waiting => ?_, ?_, ?_, fun f among started => ?_⟩
  · obtain ⟨s, returned, rfl⟩ := returns_map (reachable_returns h started ended)
    obtain ⟨again, rfl, same⟩ := copy_answered run' bare read submittable created
      (fun f hf => calm i started f (whole ▸ hf)) waiting (whole ▸ Api.execute_returns returned)
    exact ⟨again, rfl, same⟩
  · rw [← key, Jobs.keyed_once member, List.map_singleton, same]
  · exact (run_recorded run view.id).queued_once here
  · obtain ⟨x, y, split⟩ := List.append_of_mem among
    exact copy_unrefused (split ▸ run) bare started submittable (before x y f split started)

def BrokerEvent.submission : BrokerEvent → Option JobView
  | ⟨_, .store (.createJob ..), _, _, .ok view, _⟩ => some view
  | _ => none

theorem submission_some {e : BrokerEvent} {view : JobView}
    (h : BrokerEvent.submission e = some view) : ∃ request subject,
      e.Answered (.store (.createJob request subject)) (.ok view) := by
  unfold BrokerEvent.submission at h
  split at h
  · cases h
    exact ⟨_, _, .mk ..⟩
  · cases h

theorem submission_copy {rt : Runtime} {env : Environment} {started : Nat → Option Client}
    {db : DB} {a b : BrokerLog} {e : BrokerEvent} {view : JobView} {actionId : String}
    {request : ActionRequest} {subject : Subject}
    (run : rt.Run env started (a ++ e :: b) db)
    (copy : started e.caller = some (.execute actionId request subject))
    (submitted : BrokerEvent.submission e = some view) :
    e.Answered (.store (.createJob request subject)) (.ok view) := by
  obtain ⟨request', subject', created⟩ := submission_some submitted
  obtain ⟨client, origin, site⟩ := run_site run
  obtain rfl := Option.some.inj (origin.symm.trans copy)
  rw [created.op_eq] at site
  generalize localOf e.caller a = es at site
  cases site with
  | create => exact created

namespace Sample

/-- A request without a token, sent twice. -/
def repeated : List Turn :=
  [.start (.execute "test.resource.ensure_active" (request keyA) subject),
    .store 0 (oracle 1 "a"), .policy 0 inventory, .store 0 (oracle 2 "b"),
    .start (.execute "test.resource.ensure_active" (request keyA) subject),
    .store 1 (oracle 3 "c"), .policy 1 inventory, .store 1 (oracle 4 "d")]

/-- The answer to a confirmed request is lost, and the request is sent again. -/
def resent : List Turn :=
  approved ++ [.start (.execute "test.resource.ensure_active" confirmed subject),
    .store 2 (oracle 9 "f"), .store 2 (oracle 10 "g"), .policy 2 inventory,
    .store 2 (oracle 11 "h")]

theorem allowed_steady {turns : List Turn}
    (same : ∀ caller asked, .policy caller asked ∈ turns → asked = inventory) :
    ∀ turn ∈ turns, turn.Allowed (.steady (Rego.decision inventory)) := by
  intro turn member
  cases turn with
  | policy caller asked =>
    intro input
    rw [same caller asked member]
    rfl
  | adapter caller reply => exact fun _ _ => trivial
  | _ => trivial

theorem allowed_repeated :
    ∀ turn ∈ repeated, turn.Allowed (.steady (Rego.decision inventory)) := by
  apply allowed_steady
  intro caller asked member
  simp only [repeated, List.mem_cons, List.not_mem_nil, reduceCtorEq, Turn.policy.injEq,
    false_or, or_false] at member
  rcases member with ⟨-, same⟩ | ⟨-, same⟩ <;> exact same

theorem allowed_resent : ∀ turn ∈ resent, turn.Allowed (.steady (Rego.decision inventory)) := by
  apply allowed_steady
  intro caller asked member
  simp only [resent, approved, List.mem_append, List.mem_cons, List.not_mem_nil, reduceCtorEq,
    Turn.policy.injEq, false_or, or_false] at member
  rcases member with (⟨-, same⟩ | ⟨-, same⟩) | ⟨-, same⟩ <;> exact same

def deniedWith : Except Exn Answer → Option (Nat × PyStr)
  | .error (.http status (.str detail)) => some (status, detail)
  | _ => none

theorem deniedWith_some {r : Except Exn Answer} {status : Nat} {detail : PyStr}
    (h : deniedWith r = some (status, detail)) : r = .error (.http status (.str detail)) := by
  unfold deniedWith at h
  split at h
  · cases h
    rfl
  · cases h

end Sample

/-- Who made event `n`, if that is a submission, and the id of the job. -/
def Config.submissionAt (c : BrokerConfig) (n : Nat) : Option (Nat × String) :=
  c.log[n]?.bind fun e => (BrokerEvent.submission e).map fun view => (e.caller, view.id)

/-- The submission that is event `n` of a run, and the run around it. -/
theorem submission_at {rt : Runtime} {env : Environment} {c : BrokerConfig} {n i : Nat}
    {j actionId : String} {request : ActionRequest} {subject : Subject}
    (reached : rt.Reachable env c)
    (copy : c.started i = some (.execute actionId request subject))
    (h : Config.submissionAt c n = some (i, j)) :
    ∃ e view, c.log = c.log.take n ++ e :: c.log.drop (n + 1) ∧ e.caller = i ∧ view.id = j ∧
      e.Answered (.store (.createJob request subject)) (.ok view) := by
  obtain ⟨e, here, found⟩ := Option.bind_eq_some_iff.mp h
  obtain ⟨view, submitted, same⟩ := Option.map_eq_some_iff.mp found
  obtain ⟨rfl, rfl⟩ := Prod.mk.inj same
  obtain ⟨bound, rfl⟩ := List.getElem?_eq_some_iff.mp here
  have whole : c.log = c.log.take n ++ c.log[n] :: c.log.drop (n + 1) := by
    rw [List.cons_getElem_drop_succ, List.take_append_drop]
  have run := reachable_run reached
  rw [whole] at run
  exact ⟨c.log[n], view, whole, rfl, rfl, submission_copy run copy submitted⟩

open Sample in
theorem resubmission_idempotent_repeated : ∃ c r, (runtime .none).played repeated = some c ∧
    c.Ended 1 r ∧ (∃ again, r = .ok (.job again) ∧ again.id = "job_b") ∧
    (c.state.jobEvents "job_b").count .queued = 1 := by
  have outcome : ((runtime .none).played repeated).map (fun c =>
      (Config.submissionAt c 2, (c.log.take 2).all fun e => e.caller != 1,
        c.log.all BrokerEvent.unfailing, (Config.endOf c 1).isSome)) =
      some (some (0, "job_b"), true, true, true) := by decide +kernel
  obtain ⟨c, played, same⟩ := Option.map_eq_some_iff.mp outcome
  simp only [Prod.mk.injEq, List.all_eq_true, bne_iff_ne] at same
  obtain ⟨submitted, others, unfailing, ended⟩ := same
  obtain ⟨r, ended⟩ := Option.isSome_iff_exists.mp ended
  have reached := played_reachable allowed_repeated played
  have first : c.started 0 = some (.execute "test.resource.ensure_active" (request keyA) subject) :=
    played_started played 0
  have second := played_started played 1
  obtain ⟨e, view, whole, own, same, created⟩ := submission_at reached first submitted
  obtain ⟨again, -, one, -⟩ := resubmission_idempotent (runtime .none) _ c reached _
    (request keyA) subject _ _ e view whole (own ▸ first) created rfl fun f member _ =>
      unfailing f member
  refine ⟨c, r, played, endOf_ended ended, same ▸ again 1 r second (endOf_ended ended) ?_,
    same ▸ one⟩
  intro f mine
  exact absurd (mem_of_localOf mine).2 (others f (mem_of_localOf mine).1)

open Sample in
/-- The token was used up for the answer that was lost, so the second copy is refused. -/
theorem resent_copy_refused : ∃ c a b e view,
    (runtime .confirm).Reachable (.steady (Rego.decision inventory)) c ∧ c.log = a ++ e :: b ∧
    c.started e.caller = some (.execute "test.resource.ensure_active" confirmed subject) ∧
    e.Answered (.store (.createJob confirmed subject)) (.ok view) ∧
    (∀ f ∈ c.log, BrokerEvent.unfailing f = true) ∧
    c.started 2 = some (.execute "test.resource.ensure_active" confirmed subject) ∧
    localOf 2 a = [] ∧ c.Ended 2 (.error (.http 403 (.str "request denied by policy"))) ∧
    c.state.refusals.map AuditRow.eventType = ["confirmation.rejected", "policy.denied"] := by
  have outcome : ((runtime .confirm).played resent).map (fun c =>
      (Config.submissionAt c 7,
        ((c.log.take 7).all fun e => e.caller != 2) && c.log.all BrokerEvent.unfailing,
        decide ((Config.endOf c 2).bind deniedWith =
          some (403, ("request denied by policy" : PyStr))),
        c.state.refusals.map AuditRow.eventType)) =
      some (some (1, "job_e"), true, true,
        ["confirmation.rejected", "policy.denied"]) := by decide +kernel
  obtain ⟨c, played, same⟩ := Option.map_eq_some_iff.mp outcome
  simp only [Prod.mk.injEq, Bool.and_eq_true, List.all_eq_true, bne_iff_ne,
    decide_eq_true_eq] at same
  obtain ⟨submitted, ⟨others, unfailing⟩, ended, refusals⟩ := same
  obtain ⟨r, ended, denied⟩ := Option.bind_eq_some_iff.mp ended
  obtain rfl := deniedWith_some denied
  have reached := played_reachable allowed_resent played
  have first := played_started played 1
  have second := played_started played 2
  obtain ⟨e, view, whole, own, -, created⟩ := submission_at reached first submitted
  refine ⟨c, _, _, e, view, reached, whole, own ▸ first, created, unfailing, second, ?_,
    endOf_ended ended, refusals⟩
  refine List.filter_eq_nil_iff.mpr fun f member => ?_
  simpa using others f member

end Deckhand
