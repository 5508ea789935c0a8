import Deckhand.Scenario

/-! The mutation gate: what an execute request has been through when it inserts a job, over
any run and whatever other requests do in between. -/
namespace Deckhand
open Lib

/-- The engine answers, if at all, with the decision of the policy; adapters do anything. -/
def Environment.governed : Environment where
  adapts _ _ _ _ := True
  decides input inventory r := ∀ decision, r = .ok decision →
    decision = Rego.decision inventory input

/-- The call gives job `j` its row. -/
def Inserts (j : String) (e : BrokerEvent) : Prop :=
  e.pre.job? j = none ∧ (e.post.job? j).isSome = true

/-- The engine decided on `input`, having `inventory`. -/
inductive Decides (input : PolicyInput) (inventory : Inventory) (decision : PolicyDecision) :
    BrokerEvent → Prop where
  | mk (caller : Nat) (pre post : DB) :
      Decides input inventory decision ⟨caller, .decide input, pre, inventory, .ok decision, post⟩

/-- The call consumed confirmation `c`: an unused one for the digest and the subject of the
request, proved by its token, its control and its typed answer, and not yet expired. -/
inductive Consumes (s : Store) (request : ActionRequest) (subject : Subject) (c : String) :
    BrokerEvent → Prop where
  | mk (caller : Nat) (token : String) (row : ConfirmationRow) (pre post : DB) (o : Oracle) :
      request.confirmationToken = some token → pre.confirmation? c = some row →
      row.Awaits s request subject →
      row.Proved s o request token request.confirmationResponse →
      post.confirmation? c = some (row.use o.now) →
      (∀ other, other ≠ c → post.confirmation? other = pre.confirmation? other) →
      Consumes s request subject c
        ⟨caller, .store (.consumeConfirmation request subject token request.confirmationResponse),
          pre, o, .ok true, post⟩

/-- What the calls `es` of an execute request established. -/
structure Cleared (rt : Runtime) (action : ActionDefinition) (request : ActionRequest)
    (subject : Subject) (es : BrokerLog) : Prop where
  enabled : rt.allowMutations = true
  writable : ∃ w ∈ es, w.Answered (.store .auditIsWritable) (.ok true)
  decided : ∃ d ∈ es, ∃ valid inventory decision, decision.allow = true ∧
    Decides (Api.policyInput rt action request subject true "execute" valid) inventory decision d ∧
      subject.name ∈ inventory.operators.map pyStr ∧
      subject.device ∈ inventory.managedDevices.map pyStr ∧
      request.target.id ∈ inventory.targetsOf action.id
  unprotected : rt.isProtected request.target = false
  confirmed : action.confirmation ≠ .none → ∃ k ∈ es, ∃ c, Consumes rt.store request subject c k

/-- Confirmation `c` was consumed by the call that went on to insert job `j`. -/
def Backs (rt : Runtime) (log : BrokerLog) (c j : String) : Prop :=
  ∃ a e b k request subject, log = a ++ e :: b ∧ Inserts j e ∧ k ∈ localOf e.caller a ∧
    Consumes rt.store request subject c k

section Event
variable {rt : Runtime} {env : Environment} {e k : BrokerEvent} {j c c' : String}

theorem inserts_create (valid : e.Valid (rt.sem env)) (inserts : Inserts j e) :
    ∃ o request subject, e.Answered (.store (.createJob request subject))
      (.ok (JobRow.queue rt.store o request subject).view) ∧
        j = (JobRow.queue rt.store o request subject).id := by
  obtain ⟨absent, present⟩ := inserts
  obtain ⟨_, _, move⟩ := moved_row valid j
  rw [absent] at move
  generalize e.post.job? j = r at move present
  cases move with
  | same => cases present
  | created o request subject events answered here => exact ⟨o, request, subject, answered, here⟩

theorem Inserts.only (valid : e.Valid (rt.sem env)) (first : Inserts j e) (second : Inserts j' e) :
    j = j' := by
  obtain ⟨o, request, subject, answered, here⟩ := inserts_create valid first
  obtain ⟨o', request', subject', answered', here'⟩ := inserts_create valid second
  cases answered.op_eq.symm.trans answered'.op_eq
  have views := congrArg JobView.id (Except.ok.inj (answered.unique answered'))
  exact here.trans (views.trans here'.symm)

theorem answered_decision {input : PolicyInput} {decision : PolicyDecision}
    (valid : e.Valid (rt.sem .governed)) (answered : e.Answered (.decide input) (.ok decision)) :
    ∃ inventory, Decides input inventory decision e ∧ decision = Rego.decision inventory input := by
  cases answered with
  | mk caller _ pre inventory _ post => exact ⟨inventory, .mk .., valid.1 decision rfl⟩

theorem answered_consumed {request : ActionRequest} {subject : Subject} {token : String}
    (valid : k.Valid (rt.sem env)) (present : request.confirmationToken = some token)
    (answered : k.Answered (.store (Api.consume request subject token)) (.ok true)) :
    ∃ c, Consumes rt.store request subject c k := by
  cases answered with
  | mk caller op pre o r post =>
    rcases consumeConfirmation_spec (Txn.atomically_ok valid) with
      ⟨refused, -⟩ | ⟨row, picked, accepted, -, usage⟩
    · cases refused
    · obtain ⟨current, awaits⟩ := pendingConfirmation_some picked
      refine ⟨row.id, .mk caller token row pre post o present current awaits
        (rejectReason_proved accepted) ?_ fun other differs => ?_⟩
      · exact (congrArg Usage.row (usage row.id)).trans (by rw [if_pos rfl])
      · exact (congrArg Usage.row (usage other)).trans (by rw [if_neg differs]; rfl)

theorem Consumes.op {s : Store} {request : ActionRequest} {subject : Subject}
    (h : Consumes s request subject c k) : ∃ token,
      k.op = .store (.consumeConfirmation request subject token request.confirmationResponse) := by
  cases h
  exact ⟨_, rfl⟩

theorem Consumes.before {s : Store} {request : ActionRequest} {subject : Subject}
    (h : Consumes s request subject c k) :
    ∃ row, k.pre.confirmation? c = some row ∧ row.usedAt = none := by
  cases h with
  | mk _ _ row _ _ _ _ current awaits => exact ⟨row, current, awaits.2.2.2⟩

theorem Consumes.after {s : Store} {request : ActionRequest} {subject : Subject}
    (h : Consumes s request subject c k) :
    ∃ row, k.post.confirmation? c = some row ∧ row.usedAt.isSome = true := by
  cases h with
  | mk _ _ row _ _ _ _ _ _ _ used => exact ⟨_, used, rfl⟩

theorem Consumes.only {s s' : Store} {request request' : ActionRequest}
    {subject subject' : Subject} (h : Consumes s request subject c k)
    (h' : Consumes s' request' subject' c' k) : c = c' := by
  by_contra other
  obtain ⟨row, unused, free⟩ := h'.before
  obtain ⟨row', used, marked⟩ := h'.after
  cases h with
  | mk _ _ _ _ _ _ _ _ _ _ _ elsewhere =>
    have kept := elsewhere c' fun same => other same.symm
    obtain rfl : row' = row := Option.some.inj (used.symm.trans (kept.trans unused))
    simp [free] at marked

theorem used_stays (valid : e.Valid (rt.sem env))
    (used : ∃ row, e.pre.confirmation? c = some row ∧ row.usedAt.isSome = true) :
    ∃ row, e.post.confirmation? c = some row ∧ row.usedAt.isSome = true := by
  rcases valid_cases valid with ⟨op, r, answered⟩ | ⟨-, same⟩
  · obtain ⟨o, run⟩ := valid_store valid answered
    obtain ⟨row, here, marked⟩ := used
    have step := (run_step run).uses c
    rw [DB.usage, here] at step
    generalize after : e.post.usage c = u at step
    have found : e.post.confirmation? c = u.row := congrArg Usage.row after
    rw [found]
    cases step with
    | same => exact ⟨row, rfl, marked⟩
    | consumed => exact ⟨_, rfl, rfl⟩
    | cancelled => exact ⟨_, rfl, rfl⟩
  · rwa [same]

end Event

section Run
variable {rt : Runtime} {env : Environment} {started : Nat → Option Client} {db : DB}
  {a m b : BrokerLog} {e e' k k' : BrokerEvent} {j j' c : String}
  {request request' : ActionRequest} {subject subject' : Subject} {action : ActionDefinition}

theorem consumed_once (run : rt.Run env started (a ++ k :: (m ++ k' :: b)) db)
    (first : Consumes rt.store request subject c k) :
    ¬ Consumes rt.store request' subject' c k' := by
  intro second
  obtain ⟨row, marked, free⟩ := second.before
  obtain ⟨row', found, used⟩ := run.trace.split.2.2.split.1.stable
    (P := fun db => ∃ row, db.confirmation? c = some row ∧ row.usedAt.isSome = true)
    (fun _ _ valid => used_stays valid) first.after
  obtain rfl : row' = row := Option.some.inj (found.symm.trans marked)
  simp [free] at used

theorem inserted_once (run : rt.Run env started (a ++ e :: (m ++ e' :: b)) db)
    (first : Inserts j e) : ¬ Inserts j e' := by
  intro second
  obtain ⟨row, here⟩ := Option.isSome_iff_exists.mp first.2
  obtain ⟨row', now, -⟩ := row_persists run.trace.split.2.2.split.1 here
  rw [second.1] at now
  cases now

theorem insertion_decided {actionId : String} (run : rt.Run env started (a ++ e :: b) db)
    (origin : started e.caller = some (.execute actionId request subject))
    (inserts : Inserts j e) : ∃ action valid writable decision,
      Api.Decided rt request subject (localOf e.caller a) action valid writable decision ∧
        decision.allow = true := by
  obtain ⟨client, started', site⟩ := run_site run
  obtain rfl : client = .execute actionId request subject :=
    Option.some.inj (started'.symm.trans origin)
  obtain ⟨o, request', subject', answered, -⟩ := inserts_create run.valid inserts
  rw [answered.op_eq] at site
  generalize localOf e.caller a = es at site ⊢
  cases site with
  | create _ action valid writable decision decided allowed => exact ⟨action, valid, writable,
      decision, decided, allowed⟩

/-- Only an execute request consumes a confirmation, and it does so before anything else. -/
theorem consume_site (run : rt.Run env started (a ++ k :: b) db)
    (consumes : Consumes rt.store request subject c k) :
    localOf k.caller a = [] ∧ ∃ actionId,
    started k.caller = some (.execute actionId request subject) := by
  obtain ⟨client, origin, site⟩ := run_site run
  obtain ⟨token, op⟩ := consumes.op
  rw [op] at site
  generalize localOf k.caller a = es at site ⊢
  cases client with
  | execute actionId request subject =>
    cases site with
    | consume token present => exact ⟨rfl, actionId, origin⟩
  | worker => cases site
  | reconciler => cases site
  | canceller => cases site
  | plan => cases site
  | cancelConfirmation => cases site
  | createJob => cases site
  | claimNextJob => cases site.2
  | expireLeases => cases site
  | expireStaleQueued => cases site

end Run

section Cleared
variable {rt : Runtime} {started : Nat → Option Client} {db : DB} {a b : BrokerLog}
  {e k : BrokerEvent} {j c : String} {actionId : String} {request : ActionRequest}
  {subject : Subject} {action : ActionDefinition}

theorem insertion_cleared (run : rt.Run .governed started (a ++ e :: b) db)
    (origin : started e.caller = some (.execute actionId request subject))
    (inserts : Inserts j e) (known : rt.catalog.validateRequest request = .ok action)
    (mutation : action.mutation = true) :
    Cleared rt action request subject (localOf e.caller a) := by
  obtain ⟨action', valid, writable, decision, decided, allowed⟩ :=
    insertion_decided run origin inserts
  obtain rfl : action' = action := Except.ok.inj (decided.validated.symm.trans known)
  obtain ⟨before, w, d, seen, confirmed, probed, answered⟩ := decided.seen
  have event : ∀ f ∈ localOf e.caller a, f.Valid (rt.sem .governed) := fun f member =>
    run.until.trace.valid (mem_of_localOf member).1
  rw [seen] at event ⊢
  obtain ⟨inventory, decides, rfl⟩ := answered_decision (event d (by simp)) answered
  obtain ⟨mutable, satisfied⟩ :=
    (Rego.allow_execute_mutation inventory _ mutation rfl).mp allowed
  obtain rfl : writable = true := mutable.audited
  refine ⟨mutable.enabled, ⟨w, by simp, probed⟩, ⟨d, by simp, valid, inventory, _, allowed,
    decides, mutable.operator, mutable.managed, mutable.target⟩, mutable.unprotected, ?_⟩
  intro needed
  obtain rfl : valid = true := (Rego.confirmation_required satisfied needed).1
  cases confirmed with
  | asked k token _ present answered =>
    obtain ⟨c, consumes⟩ := answered_consumed (event k (by simp))
      (Option.filter_eq_some_iff.mp present).1 answered
    exact ⟨k, by simp, c, consumes⟩

end Cleared

section Backs
variable {rt : Runtime} {env : Environment} {started : Nat → Option Client} {db : DB}
  {a b a' b' log : BrokerLog} {e k e' : BrokerEvent} {j j' c c' : String}
  {request : ActionRequest} {subject : Subject}

theorem backed_local (run : rt.Run env started (a ++ e :: b) db) (inserts : Inserts j e)
    (member : k ∈ localOf e.caller a) (consumes : Consumes rt.store request subject c k) :
    ∃ w d, localOf e.caller a = [k, w, d] := by
  obtain ⟨x, y, rfl⟩ := List.append_of_mem (mem_of_localOf member).1
  obtain ⟨-, actionId, origin⟩ := consume_site run.until consumes
  rw [(mem_of_localOf member).2] at origin
  obtain ⟨action, valid, writable, decision, decided, -⟩ := insertion_decided run origin inserts
  obtain ⟨before, w, d, seen, confirmed, probed, answered⟩ := decided.seen
  rw [seen] at member ⊢
  obtain ⟨token, op⟩ := consumes.op
  have notw : k ≠ w := by
    rintro rfl
    cases probed.op_eq.symm.trans op
  have notd : k ≠ d := by
    rintro rfl
    cases answered.op_eq.symm.trans op
  cases confirmed with
  | none => simp [notw, notd] at member
  | asked f =>
    obtain rfl : k = f := by simpa [notw, notd] using member
    exact ⟨w, d, rfl⟩

theorem backs_unique (run : rt.Run env started log db) (h : Backs rt log c j)
    (h' : Backs rt log c' j') : c = c' ↔ j = j' := by
  obtain ⟨a, e, b, k, request, subject, whole, inserts, member, consumes⟩ := h
  obtain ⟨a', e', b', k', request', subject', whole', inserts', member', consumes'⟩ := h'
  obtain ⟨w, d, seen⟩ := backed_local (whole ▸ run) inserts member consumes
  obtain ⟨w', d', seen'⟩ := backed_local (whole' ▸ run) inserts' member' consumes'
  constructor
  · rintro rfl
    obtain ⟨x, y, first⟩ := List.append_of_mem (mem_of_localOf member).1
    obtain ⟨x', y', second⟩ := List.append_of_mem (mem_of_localOf member').1
    have at_k : log = x ++ k :: (y ++ e :: b) := by simp [whole, first]
    have at_k' : log = x' ++ k' :: (y' ++ e' :: b') := by simp [whole', second]
    obtain ⟨-, rfl⟩ := same_place
      (P := fun k => ∃ request subject, Consumes rt.store request subject c k)
      (fun a m b k k' split ⟨_, _, one⟩ ⟨_, _, two⟩ => consumed_once (split ▸ run) one two)
      at_k at_k' ⟨_, _, consumes⟩ ⟨_, _, consumes'⟩
    have caller : e'.caller = e.caller :=
      (mem_of_localOf member').2.symm.trans (mem_of_localOf member).2
    have order : ∀ {a a' : BrokerLog} {e : BrokerEvent} {w d w' d' : BrokerEvent},
        localOf e.caller a = [k, w, d] → localOf e.caller a' = [k, w', d'] →
          ∀ m, a' ≠ a ++ e :: m := by
      rintro a _ e w d w' d' here there m rfl
      have length := congrArg List.length there
      rw [localOf_append, here] at length
      simp [localOf] at length
    rw [caller] at seen'
    rcases places (whole.symm.trans whole') with ⟨m, later, -⟩ | ⟨m, later, -⟩ | ⟨-, rfl, -⟩
    · exact absurd later (order seen seen' m)
    · exact absurd later (order (caller ▸ seen') (caller ▸ seen) m)
    · exact inserts.only (whole ▸ run).valid inserts'
  · rintro rfl
    obtain ⟨rfl, rfl⟩ := same_place (P := Inserts j)
      (fun a m b x x' split => inserted_once (split ▸ run)) whole whole' inserts inserts'
    obtain rfl : k = k' := (List.cons.inj (seen.symm.trans seen')).1
    exact consumes.only consumes'

end Backs

/-- The mutation gate: an execute request inserts the job of a mutation only when it has been
cleared, no confirmation is consumed twice, and a confirmation backs one job. -/
theorem mutation_gate (rt : Runtime) (c : BrokerConfig) (h : rt.Reachable .governed c) :
    (∀ a e b actionId request subject action j, c.log = a ++ e :: b →
      c.started e.caller = some (.execute actionId request subject) → Inserts j e →
      rt.catalog.validateRequest request = .ok action → action.mutation = true →
      Cleared rt action request subject (localOf e.caller a)) ∧
    (∀ a k b a' k' b' request subject request' subject' id, c.log = a ++ k :: b →
      c.log = a' ++ k' :: b' → Consumes rt.store request subject id k →
      Consumes rt.store request' subject' id k' → a = a') ∧
    ∀ id id' j j', Backs rt c.log id j → Backs rt c.log id' j' → (id = id' ↔ j = j') := by
  have run := reachable_run h
  refine ⟨?_, ?_, fun id id' j j' => backs_unique run⟩
  · intro a e b actionId request subject action j whole origin inserts known mutation
    rw [whole] at run
    exact insertion_cleared run origin inserts known mutation
  · intro a k b a' k' b' request subject request' subject' id whole whole' first second
    exact (same_place
      (P := fun k => ∃ request subject, Consumes rt.store request subject id k)
      (fun a m b k k' split ⟨_, _, one⟩ ⟨_, _, two⟩ => consumed_once (split ▸ run) one two)
      whole whole' ⟨_, _, first⟩ ⟨_, _, second⟩).1

namespace Sample

def confirmed : ActionRequest := { request keyA with confirmationToken := some (tokenAt 5) }

/-- A plan that hands out a challenge, and the request that answers it. -/
def approved : List Turn :=
  [.start (.plan "test.resource.ensure_active" (request keyA) subject),
    .adapter 0 fun op => ([], healthy op), .store 0 (oracle 3 "a"), .policy 0 inventory,
    .store 0 (oracle 5 "b"),
    .start (.execute "test.resource.ensure_active" confirmed subject),
    .store 1 (oracle 6 "c"), .store 1 (oracle 7 "d"), .policy 1 inventory, .store 1 (oracle 8 "e")]

theorem allowed_governed (turns : List Turn) : ∀ turn ∈ turns, turn.Allowed .governed := by
  intro turn _
  cases turn with
  | policy i inventory => exact fun input decision same => (Except.ok.inj same).symm
  | adapter => exact fun _ _ => trivial
  | _ => trivial

end Sample

open Sample in
theorem mutation_gate_approved : ∃ c, (runtime .confirm).played approved = some c ∧
    (c.state.job? "job_e").isSome = true ∧ c.state.uses "confirm_b" = 1 ∧
    ∀ a e b, c.log = a ++ e :: b →
      c.started e.caller = some (.execute "test.resource.ensure_active" confirmed subject) →
      Inserts "job_e" e →
      Cleared (runtime .confirm) (ensureActive .confirm) confirmed subject
        (localOf e.caller a) := by
  have outcome : ((runtime .confirm).played approved).map (fun c =>
      ((c.state.job? "job_e").isSome, c.state.uses "confirm_b")) = some (true, 1) := by
    decide +kernel
  obtain ⟨c, played, same⟩ := Option.map_eq_some_iff.mp outcome
  obtain ⟨inserted, used⟩ := Prod.mk.inj same
  have gate := mutation_gate (runtime .confirm) c
    (played_reachable (allowed_governed approved) played)
  exact ⟨c, played, inserted, used, fun a e b whole origin inserts =>
    gate.1 a e b _ confirmed subject (ensureActive .confirm) "job_e" whole origin inserts rfl rfl⟩

end Deckhand
