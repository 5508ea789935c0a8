import Deckhand.Gate
import Deckhand.Fencing

/-! Complete mediation: whatever an adapter is asked to do about a job, an execute request had
been allowed to ask for. -/
namespace Deckhand
open Lib

/-- Jobs come in through the API. -/
def Fronted (started : Nat → Option Client) : Prop :=
  ∀ i request subject, started i ≠ some (.createJob request subject)

/-- What is asked of an adapter about a job. A plan is about none. -/
def AdapterOp.work : AdapterOp → Option (ActionDefinition × ActionRequest)
  | .plan .. => none
  | .execute action request => some (action, request)
  | .observe action request => some (action, request)
  | .verify action request _ _ => some (action, request)
  | .cancel action request _ => some (action, request)

/-- What an execute request had seen when it inserted the job: the engine had allowed it, and
if it was for a mutation it was cleared. -/
structure Granted (rt : Runtime) (action : ActionDefinition) (request : ActionRequest)
    (subject : Subject) (es : BrokerLog) : Prop where
  decided : ∃ valid writable decision,
    Api.Decided rt request subject es action valid writable decision ∧ decision.allow = true
  cleared : action.mutation = true → Cleared rt action request subject es

section Site
variable {rt : Runtime} {client : Client} {es : BrokerLog} {action : ActionDefinition}
  {request : ActionRequest} {subject : Subject}

theorem site_work {name : String} {op : AdapterOp} (site : rt.Site client es (.adapter name op))
    (work : op.work = some (action, request)) :
    rt.catalog.validateRequest request = .ok action ∧ ∃ g ∈ es, ∃ j owner,
      g.Answered (.store (.getJobContext j)) (.ok (request, owner)) := by
  have worker : ∀ {workerId} {b : Worker.Brief}, Worker.Knows rt workerId es b →
      (b.action, b.request) = (action, request) →
      rt.catalog.validateRequest request = .ok action ∧ ∃ g ∈ es, ∃ j owner,
        g.Answered (.store (.getJobContext j)) (.ok (request, owner)) := by
    intro workerId b knows same
    cases same
    obtain ⟨c, rest, rfl, -, valid, g, member, owner, context⟩ := knows
    exact ⟨valid, g, List.mem_cons_of_mem c member, b.job.id, owner, context⟩
  have reconciler : ∀ {maxAttempts before} {b : Reconciler.Brief},
      Reconciler.Briefed rt maxAttempts before b → before <+: es →
      (b.action, b.request) = (action, request) →
      rt.catalog.validateRequest request = .ok action ∧ ∃ g ∈ es, ∃ j owner,
        g.Answered (.store (.getJobContext j)) (.ok (request, owner)) := by
    intro maxAttempts before b briefed part same
    cases same
    obtain ⟨g, member, owner, context⟩ := briefed.context
    exact ⟨briefed.valid, g, part.subset member, b.job.id, owner, context⟩
  cases client with
  | worker workerId =>
    cases site with
    | execute _ b briefed => exact worker briefed.knows (Option.some.inj work)
    | observe _ b x renewed => exact worker renewed.knows (Option.some.inj work)
    | verify _ b x o observed => exact worker observed.knows (Option.some.inj work)
  | reconciler maxAttempts =>
    cases site with
    | observe _ b entered =>
      obtain ⟨before, part, briefed⟩ := entered.briefed
      exact reconciler briefed part (Option.some.inj work)
    | verify _ b o observed =>
      obtain ⟨before, part, briefed⟩ := observed.briefed
      exact reconciler briefed part (Option.some.inj work)
  | canceller jobId owner =>
    cases site with
    | cancel _ b briefed =>
      cases work
      obtain ⟨g, member, owner, context⟩ := briefed.viewed.context
      exact ⟨briefed.valid, g, member, jobId, owner, context⟩
  | plan actionId request' subject =>
    cases site
    cases work
  | execute => cases site
  | cancelConfirmation => cases site
  | createJob => cases site
  | claimNextJob => cases site.2
  | expireLeases => cases site
  | expireStaleQueued => cases site

theorem site_create (site : rt.Site client es (.store (.createJob request subject))) :
    client = .createJob request subject ∨ ∃ actionId,
    client = .execute actionId request subject := by
  cases client with
  | createJob =>
    cases site
    exact .inl rfl
  | execute actionId =>
    cases site
    exact .inr ⟨actionId, rfl⟩
  | worker => cases site
  | reconciler => cases site
  | canceller => cases site
  | plan => cases site
  | cancelConfirmation => cases site
  | claimNextJob => cases site.2
  | expireLeases => cases site
  | expireStaleQueued => cases site

end Site

section Run
variable {rt : Runtime} {env : Environment} {started : Nat → Option Client} {log : BrokerLog}
  {db : DB} {j : String} {row : JobRow}

theorem row_inserted (run : rt.Run env started log db) (here : db.job? j = some row) :
    ∃ a i b o request subject, log = a ++ i :: b ∧ Inserts j i ∧
      i.Answered (.store (.createJob request subject))
        (.ok (JobRow.queue rt.store o request subject).view) ∧
      row.identity = (JobRow.queue rt.store o request subject).identity := by
  refine run_induction (P := fun log db => ∀ row, db.job? j = some row →
    ∃ a i b o request subject, log = a ++ i :: b ∧ Inserts j i ∧
      i.Answered (.store (.createJob request subject))
        (.ok (JobRow.queue rt.store o request subject).view) ∧
      row.identity = (JobRow.queue rt.store o request subject).identity)
    (fun row here => by cases here) ?_ run row here
  intro log e client before valid _ _ held row here
  cases old : e.pre.job? j with
  | some row₀ =>
    obtain ⟨row', now, same⟩ := (moved valid j).identity old
    obtain rfl : row' = row := Option.some.inj (now.symm.trans here)
    obtain ⟨a, i, b, o, request, subject, rfl, inserts, answered, identity⟩ := held row₀ old
    exact ⟨a, i, b ++ [e], o, request, subject, by simp, inserts, answered,
      same.trans identity⟩
  | none =>
    have inserts : Inserts j e := ⟨old, by rw [here]; rfl⟩
    obtain ⟨_, _, move⟩ := moved_row valid j
    rw [old, here] at move
    cases move with
    | created o request subject events answered =>
      exact ⟨log, e, [], o, request, subject, rfl, inserts, answered, rfl⟩

theorem insertion_granted {a b : BrokerLog} {i : BrokerEvent} {actionId : String}
    {request : ActionRequest} {subject : Subject} {action : ActionDefinition}
    (run : rt.Run .governed started (a ++ i :: b) db)
    (origin : started i.caller = some (.execute actionId request subject)) (inserts : Inserts j i)
    (known : rt.catalog.get request.actionId request.actionVersion = .ok action) :
    Granted rt action request subject (localOf i.caller a) := by
  obtain ⟨action', valid, writable, decision, decided, allowed⟩ :=
    insertion_decided run origin inserts
  obtain rfl : action' = action :=
    Except.ok.inj ((Catalog.validateRequest_get decided.validated).symm.trans known)
  exact ⟨⟨valid, writable, decision, decided, allowed⟩,
    fun mutation => insertion_cleared run origin inserts decided.validated mutation⟩

/-- What an adapter is asked to do about a job goes back to the execute request that inserted it. -/
theorem work_inserted {a b : BrokerLog} {e : BrokerEvent} {name : String} {op : AdapterOp}
    {action : ActionDefinition} {request : ActionRequest}
    (run : rt.Run env started (a ++ e :: b) db) (fronted : Fronted started)
    (asks : e.op = .adapter name op) (work : op.work = some (action, request)) :
    ∃ x i y j actionId submitted subject, a = x ++ i :: y ∧
      started i.caller = some (.execute actionId submitted subject) ∧ Inserts j i ∧
      request = submitted.modelDumpJson ∧
      rt.catalog.get submitted.actionId submitted.actionVersion = .ok action := by
  obtain ⟨client, -, site⟩ := run_site run
  obtain ⟨valid, g, member, j, owner, context⟩ := site_work (asks ▸ site) work
  have trace := run.until.trace
  obtain ⟨row, found, rfl, -⟩ := answered_context
    (trace.valid (mem_of_localOf member).1) context
  obtain ⟨row', now, same⟩ := seen_persists trace (mem_of_localOf member).1 found
  obtain ⟨x, i, y, o, submitted, subject, rfl, inserts, answered, identity⟩ :=
    row_inserted run.until now
  have kept : row.request = submitted.modelDumpJson :=
    (same_identity (same.symm.trans identity)).2.2
  have known := Catalog.validateRequest_get valid
  rw [kept] at known
  obtain ⟨client', origin, site'⟩ := run_site run.until
  rcases site_create (answered.op_eq ▸ site') with rfl | ⟨actionId, rfl⟩
  · exact absurd origin (fronted _ _ _)
  · exact ⟨x, i, y, j, actionId, submitted, subject, rfl, origin, inserts, kept, known⟩

theorem work_granted {a b : BrokerLog} {e : BrokerEvent} {name : String} {op : AdapterOp}
    {action : ActionDefinition} {request : ActionRequest}
    (run : rt.Run .governed started (a ++ e :: b) db) (fronted : Fronted started)
    (asks : e.op = .adapter name op) (work : op.work = some (action, request)) :
    ∃ x i y j actionId submitted subject, a = x ++ i :: y ∧
      started i.caller = some (.execute actionId submitted subject) ∧ Inserts j i ∧
      request = submitted.modelDumpJson ∧
      Granted rt action submitted subject (localOf i.caller x) := by
  obtain ⟨x, i, y, j, actionId, submitted, subject, rfl, origin, inserts, same, known⟩ :=
    work_inserted run fronted asks work
  exact ⟨x, i, y, j, actionId, submitted, subject, rfl, origin, inserts, same,
    insertion_granted run.until origin inserts known⟩

end Run

namespace Sample

/-- The approved request, and the worker that executes its job. -/
def mediated : List Turn :=
  approved ++ [.start (.worker "w"), .store 2 (oracle 9 "f"), .store 2 (oracle 10 "g"),
    .adapter 2 fun op => ([], healthy op)]

theorem mediated_fronted {rt : Runtime} {c : BrokerConfig} (h : rt.played mediated = some c) :
    Fronted c.started := by
  intro i request subject origin
  rw [played_started h] at origin
  have member := List.mem_of_getElem? origin
  simp [mediated, approved, Turn.client] at member

end Sample

end Deckhand
