import Deckhand.Fencing

namespace Deckhand
open Lib

/-- The execution that the row of job `j` holds. -/
def DB.evidence (db : DB) (j : String) : Option Json :=
  Deckhand.evidence ((db.job? j).bind JobRow.result)

/-- The call gives execution `x` to the adapter, to verify or cancel job `j`. -/
def Presents (j : String) (e : BrokerEvent) (x : Option AdapterExecution) : Prop :=
  ∃ name action row, e.pre.job? j = some row ∧
    (e.op = .adapter name (.cancel action row.request x) ∨
      ∃ y observation, x = some y ∧ e.op = .adapter name (.verify action row.request y observation))

/-- A claimed job's adapter is asked to cancel it, or what it said is written. -/
def Withdraws (e : BrokerEvent) : Prop :=
  (∃ name action request x, e.op = .adapter name (.cancel action request x)) ∨
  ∃ j target result error view,
    e.Answered (.store (.transitionJob j target result error none none)) (.ok view)

/-- A worker's transition records execution `x`, which the adapter returned to it. -/
def Records (rt : Runtime) (started : Nat → Option Client) (a : BrokerLog) (e : BrokerEvent)
    (x : AdapterExecution) : Prop :=
  ∃ workerId b, started e.caller = some (.worker workerId) ∧
    Worker.Recorded rt workerId (localOf e.caller a ++ [e]) b x

/-- The calls that lose a recorded execution: a worker records details that JSON does not keep, or
gives up a job that is being verified, or a canceller acts on a view that does not hold the
execution the row holds. -/
inductive Careless (rt : Runtime) (started : Nat → Option Client) (a : BrokerLog)
    (e : BrokerEvent) : Prop where
  | inexact (x : AdapterExecution) : Records rt started a e x → ¬ x.details.Exact →
      Careless rt started a e
  | wipes (workerId j : String) (target : JobState) (error : JobError) (fence : String)
      (row : JobRow) (view : JobView) : started e.caller = some (.worker workerId) →
      e.Answered (.store (.transitionJob j target none (some error) (some fence) none))
        (.ok view) →
      e.pre.job? j = some row → row.state = .verifying → Careless rt started a e
  | stale (jobId : String) (subject : Subject) (es : BrokerLog) (job : JobView)
      (request : ActionRequest) (row : JobRow) :
      started e.caller = some (.canceller jobId subject) → es <+: localOf e.caller a →
      Canceller.Viewed jobId subject es job request → Withdraws e →
      e.pre.job? jobId = some row → evidence job.result ≠ evidence row.result →
      Careless rt started a e

section Row
variable {db : DB} {j : String} {row : JobRow}

theorem evidence_row (here : db.job? j = some row) : db.evidence j = evidence row.result := by
  rw [DB.evidence, here]
  rfl

theorem evidence_absent (here : db.job? j = none) : db.evidence j = none := by
  rw [DB.evidence, here]
  rfl

theorem JobRow.Shaped.unrecorded (shaped : row.Shaped) (early : ¬ row.Stopped) :
    evidence row.result = none := by
  have none : row.result = none := by
    by_contra recorded
    refine early ⟨fun queued => ?_, fun running => ?_⟩
    · exact recorded (shaped.queued queued).2.2
    · exact recorded (shaped.running running).2.2
  rw [none]
  rfl

end Row

section Run
variable {rt : Runtime} {env : Environment} {started : Nat → Option Client} {log : BrokerLog}
  {db : DB} {j : String}

/-- What the row held once it had stopped running, it holds now. -/
def Kept (rt : Runtime) (env : Environment) (log : BrokerLog) (db : DB) (j : String) : Prop :=
  ∀ a b s row, log = a ++ b → Trace (rt.sem env) .empty a s → s.job? j = some row → row.Stopped →
    db.evidence j = s.evidence j

theorem recorded_kept {i : Nat} {workerId : String} {es : BrokerLog} {b : Worker.Brief}
    {x : AdapterExecution} (run : rt.Run env started log db)
    (recorded : Worker.Recorded rt workerId es b x) (part : es <+: localOf i log)
    (kept : Kept rt env log db b.job.id) :
    db.evidence b.job.id = some x.modelDump.joined := by
  obtain ⟨before, r, v, rfl, executed, answered⟩ := recorded
  have member : r ∈ log := (mem_of_localOf (i := i) (part.subset (by simp))).1
  obtain ⟨p, q, rfl⟩ := List.append_of_mem member
  obtain ⟨o, ran⟩ := valid_store run.valid answered
  obtain ⟨row, current, -, -, allowed, -, -, life⟩ := transitionJob_spec (Txn.atomically_ok ran)
  have here : r.post.job? b.job.id =
      some (row.transition o .verifying (some (Worker.partialResult x)) none) :=
    (congrArg Life.row (life b.job.id)).trans (by rw [if_pos rfl])
  rw [kept (p ++ [r]) q r.post _ (by simp) (.snoc p r run.until.trace run.valid) here
    (by simp [JobRow.Stopped, JobRow.transition]), evidence_row here]
  exact evidence_joined (some (Worker.partialResult x))

/-- Only a transition changes the recorded execution, and it sets what its result holds. -/
theorem evidence_moves {e : BrokerEvent} (valid : e.Valid (rt.sem env)) (j : String) :
    e.post.evidence j = e.pre.evidence j ∨ ∃ target result error fence expectedState view row,
      e.Answered (.store (.transitionJob j target result error fence expectedState)) (.ok view) ∧
      e.pre.job? j = some row ∧ (∀ token ∈ fence, row.leaseToken = some token) ∧
      (∀ state ∈ expectedState, row.state = state) ∧ target ∈ allowedTransitions row.state ∧
      e.post.evidence j = (evidence result).map Json.joined := by
  obtain ⟨_, _, move⟩ := moved_row valid j
  simp only [DB.evidence]
  generalize e.pre.job? j = r at move ⊢
  generalize e.post.job? j = r' at move ⊢
  cases move with
  | transitioned o target result error fence expectedState row events answered _ holds expected
      allowed =>
    exact .inr ⟨target, result, error, fence, expectedState, _, row, answered, rfl, holds, expected,
      allowed, evidence_joined result⟩
  | _ => exact .inl rfl

/-- What is recorded is what some execution with a property is stored as. -/
def DB.Holds (db : DB) (P : AdapterExecution → Prop) : Prop :=
  ∀ j d, db.evidence j = some d → ∃ x : AdapterExecution, P x ∧ d = x.modelDump.joined

theorem holds_view {P : AdapterExecution → Prop} {row : JobRow} (holds : db.Holds P)
    (here : db.job? j = some row) {d : Json} (held : evidence row.view.result = some d) :
    ∃ x, P x ∧ d = x.modelDump.joined :=
  holds j d ((evidence_row here).trans held)

theorem recorded_records {i : Nat} {workerId : String} {es : BrokerLog} {b : Worker.Brief}
    {x : AdapterExecution} (origin : started i = some (.worker workerId))
    (recorded : Worker.Recorded rt workerId es b x) (part : es <+: localOf i log) :
    ∃ p r q, log = p ++ r :: q ∧ Records rt started p r x := by
  obtain ⟨before, r, v, rfl, executed, answered⟩ := recorded
  obtain ⟨later, split⟩ := part
  have member : r ∈ localOf i log := by simp [← split]
  have own : r.caller = i := (mem_of_localOf member).2
  obtain ⟨p, q, rfl, here⟩ := localOf_split
    (show localOf i log = before ++ r :: later by rw [← split]; simp)
  refine ⟨p, r, q, rfl, workerId, b, own ▸ origin, before, r, v, ?_, executed, answered⟩
  rw [own, here]

theorem run_holds {P : AdapterExecution → Prop} (run : rt.Run env started log db)
    (recorded : ∀ a e b, log = a ++ e :: b → ∀ x, Records rt started a e x → P x) :
    (∀ g ∈ log, g.pre.Holds P) ∧ db.Holds P := by
  revert recorded
  refine run_induction (P := fun log db =>
    (∀ a e b, log = a ++ e :: b → ∀ x, Records rt started a e x → P x) →
      (∀ g ∈ log, g.pre.Holds P) ∧ db.Holds P)
    (fun _ => ⟨by simp, fun j d held => by cases held⟩) ?_ run
  intro log e client before valid origin site held recorded
  have earlier : ∀ a f b, log = a ++ f :: b → ∀ x, Records rt started a f x → P x :=
    fun a f b split => recorded a f (b ++ [e]) (by simp [split])
  obtain ⟨past, now⟩ := held earlier
  have seen : ∀ g ∈ log ++ [e], g.pre.Holds P := by
    intro g member
    rcases List.mem_append.mp member with old | new
    · exact past g old
    · obtain rfl := List.mem_singleton.mp new
      exact now
  refine ⟨seen, fun j d moved => ?_⟩
  rcases evidence_moves valid j with same | ⟨target, result, error, fence, expectedState, view,
    row, answered, here, holds, expected, allowed, after⟩
  · exact now j d (same.symm.trans moved)
  have writer := site_writer (answered.op_eq ▸ site)
  rw [after] at moved
  obtain ⟨d, given, rfl⟩ := Option.map_eq_some_iff.mp moved
  -- a result that was read of a row is already as it is stored
  have kept : (∃ x, P x ∧ d = x.modelDump.joined) → ∃ x, P x ∧ d.joined = x.modelDump.joined := by
    rintro ⟨x, held, rfl⟩
    exact ⟨x, held, joined_idem _⟩
  cases client with
  | worker workerId =>
    cases writer with
    | workerRecord _ b x executed =>
      obtain rfl := Option.some.inj given
      exact ⟨x, recorded log e [] rfl x ⟨workerId, b, origin, _, e, view, rfl, executed, answered⟩,
        rfl⟩
    | workerSucceed _ b x o v verified =>
      rw [evidence_verified] at given
      obtain rfl := Option.some.inj given
      obtain ⟨_, part, records⟩ := verified.recorded
      obtain ⟨p, r, q, split, was⟩ := recorded_records origin records part
      exact ⟨x, earlier p r q split x was, rfl⟩
    | workerGiveUp => cases given
  | reconciler maxAttempts =>
    obtain ⟨before', b, part, briefed, -, -, handed⟩ := reconciler_writer writer
    obtain ⟨p, c, q, row₀, rfl, found, -, view⟩ := candidate_view before briefed part
    rw [handed, ← view] at given
    exact kept (holds_view (past c (by simp)) found given)
  | canceller jobId subject =>
    rcases canceller_writer writer with ⟨g, member, job, read, -, rfl, -⟩ |
      ⟨seen, job, request, part, viewed, -, -, -, handed⟩
    · have among := (mem_of_localOf member).1
      obtain ⟨row₀, found, rfl⟩ := answered_getJob (before.trace.valid among) read
      exact kept (holds_view (past g among) found given)
    · obtain ⟨g, hg, read⟩ := viewed.read
      have among := (mem_of_localOf (part.subset hg)).1
      obtain ⟨row₀, found, rfl⟩ := answered_getJob (before.trace.valid among) read
      rw [handed] at given
      exact kept (holds_view (past g among) found given)
  | _ => cases writer

theorem run_dumped (run : rt.Run env started log db) :
    (∀ g ∈ log, g.pre.Holds fun _ => True) ∧ db.Holds fun _ => True :=
  run_holds run fun _ _ _ _ _ _ => trivial

theorem run_exact (run : rt.Run env started log db)
    (careful : ∀ a e b, log = a ++ e :: b → ¬ Careless rt started a e) :
    db.Holds fun x => x.details.Exact := by
  refine (run_holds run fun a e b split x records => ?_).2
  by_contra inexact
  exact careful a e b split (.inexact x records inexact)

theorem evidence_same (run : rt.Run env started log db) (j : String) :
    (db.evidence j).map Json.joined = db.evidence j := by
  cases held : db.evidence j with
  | none => rfl
  | some d =>
    obtain ⟨x, -, rfl⟩ := (run_dumped run).2 j d held
    rw [Option.map_some, joined_idem]

/-- The step: with no careless call the execution in a row that has stopped running stays. -/
theorem stopped_kept {e : BrokerEvent} {client : Client} {row : JobRow}
    (run : rt.Run env started log e.pre) (valid : e.Valid (rt.sem env))
    (origin : started e.caller = some client)
    (site : rt.Site client (localOf e.caller log) e.op)
    (careful : ¬ Careless rt started log e) (kept : ∀ j, Kept rt env log e.pre j)
    (here : e.pre.job? j = some row) (stopped : row.Stopped) :
    e.post.evidence j = e.pre.evidence j := by
  have shaped := run_shaped run j row here
  rcases evidence_moves valid j with same | ⟨target, result, error, fence, expectedState, view,
    row', answered, here', holds, expected, allowed, after⟩
  · exact same
  obtain rfl : row = row' := Option.some.inj (here.symm.trans here')
  have stored := evidence_same run j
  rw [evidence_row here] at stored ⊢
  rw [after]
  have held : ∀ token, fence = some token → row.state = .verifying := by
    rintro token rfl
    exact (shaped.leased (by simp [holds token rfl])).1.resolve_left stopped.2
  have writer := site_writer (answered.op_eq ▸ site)
  cases client with
  | worker workerId =>
    cases writer with
    | workerRecord _ b x =>
      have verifying := held b.fence rfl
      rw [verifying] at allowed
      exact absurd allowed (no_self_transition .verifying)
    | workerSucceed _ b x o v verified =>
      obtain ⟨before, part, recorded⟩ := verified.recorded
      have now := recorded_kept run recorded part (kept b.job.id)
      rw [evidence_row here] at now
      rw [now, evidence_verified]
      rfl
    | workerGiveUp _ b error jobError =>
      exact absurd (.wipes workerId _ _ _ _ row _ origin answered here (held b.fence rfl)) careful
  | reconciler maxAttempts =>
    obtain ⟨before, b, part, briefed, rfl, -, handed⟩ := reconciler_writer writer
    obtain ⟨p, c, q, row₀, rfl, found, unknown, view⟩ := candidate_view run briefed part
    have now := kept b.job.id p (c :: q) c.pre row₀ rfl run.until.trace found
      (by simp [JobRow.Stopped, unknown])
    rw [evidence_row here, evidence_row found] at now
    rw [handed, ← view, ← stored, now]
    rfl
  | canceller jobId subject =>
    rcases canceller_writer writer with
      ⟨_, _, _, _, _, _, queued⟩ | ⟨before, job, request, part, viewed, rfl, rfl, rfl, handed⟩
    · exact absurd (expected .queued queued) stopped.1
    · obtain ⟨g, hg, read⟩ := viewed.read
      have owner := view_id (run.trace.valid (mem_of_localOf (part.subset hg)).1) read
      rw [handed]
      by_contra differs
      refine careful (.stale jobId subject before job request row origin part viewed
        (.inr ⟨_, _, _, _, _, answered⟩) (owner ▸ here) fun same => ?_)
      rw [same] at differs
      exact differs stored
  | _ => cases writer

theorem run_kept (run : rt.Run env started log db)
    (careful : ∀ a e b, log = a ++ e :: b → ¬ Careless rt started a e) (j : String) :
    Kept rt env log db j := by
  revert careful j
  refine run_induction (P := fun log db => (∀ a e b, log = a ++ e :: b →
    ¬ Careless rt started a e) → ∀ j, Kept rt env log db j) ?_ ?_ run
  · intro _ j a b s row whole trace here
    obtain ⟨rfl, rfl⟩ := List.append_eq_nil_iff.mp whole.symm
    obtain rfl := trace.nil_inv
    cases here
  · intro log e client before valid origin site held careful j a b s row whole trace here stopped
    have earlier : ∀ a f b, log = a ++ f :: b → ¬ Careless rt started a f :=
      fun a f b split => careful a f (b ++ [e]) (by simp [split])
    have kept := held earlier
    rcases List.eq_nil_or_concat b with rfl | ⟨b', last, rfl⟩
    · obtain rfl : a = log ++ [e] := by simpa using whole.symm
      rw [trace.snoc_inv.2.2]
    · have whole : log ++ [e] = (a ++ b') ++ [last] := by simpa using whole
      obtain ⟨rfl, -⟩ := List.append_inj' whole rfl
      obtain ⟨row', now, stopped'⟩ := stopped_stays before trace here stopped
      rw [stopped_kept before valid origin site (careful _ e [] (by simp)) kept now stopped']
      exact kept j a b' s row rfl trace here stopped

theorem view_readable {db : DB} {j : String} {row : JobRow} {P : AdapterExecution → Prop}
    (holds : db.Holds P) (here : db.job? j = some row) :
    ∃ x, storedExecution (row.view.result.getD []) = .ok x := by
  cases held : evidence row.view.result with
  | none =>
    have absent : Dict.get? (row.view.result.getD []) "execution" = none := held
    exact ⟨none, by rw [storedExecution, absent]⟩
  | some d =>
    obtain ⟨x, -, rfl⟩ := holds_view holds here held
    obtain ⟨y, stored, -⟩ := storedExecution_recorded held
    exact ⟨some y, stored⟩

theorem evidence_stays {a b : BrokerLog} {s : DB} {d : Json}
    (run : rt.Run env started (a ++ b) db)
    (careful : ∀ x e y, a ++ b = x ++ e :: y → ¬ Careless rt started x e)
    (before : rt.Run env started a s) (held : s.evidence j = some d) :
    db.evidence j = some d := by
  cases here : s.job? j with
  | none =>
    rw [evidence_absent here] at held
    cases held
  | some row =>
    have stopped : row.Stopped := by
      by_contra early
      have none := (run_shaped before j row here).unrecorded early
      rw [evidence_row here, none] at held
      cases held
    rw [run_kept run careful j a b s row rfl before.trace here stopped, held]

theorem exact_injective {x y : AdapterExecution} (exact : x.details.Exact)
    (exact' : y.details.Exact) (same : x.modelDump.joined = y.modelDump.joined) : x = y := by
  let result : Dict := [("execution", x.modelDump.joined)]
  have first : Dict.get? result "execution" = some x.modelDump.joined := rfl
  have second : Dict.get? result "execution" = some y.modelDump.joined := congrArg some same
  obtain ⟨z, read, left⟩ := storedExecution_recorded first
  obtain ⟨w, read', right⟩ := storedExecution_recorded second
  rw [read] at read'
  rw [← left exact, ← right exact', Option.some.inj (Except.ok.inj read')]

theorem presents_recorded {a b : BrokerLog} {e : BrokerEvent} {x : AdapterExecution}
    {y : Option AdapterExecution} (run : rt.Run env started (a ++ e :: b) db)
    (careful : ∀ x f y, a ++ e :: b = x ++ f :: y → ¬ Careless rt started x f)
    (exact : x.details.Exact) (held : e.pre.evidence j = some x.modelDump.joined)
    (presents : Presents j e y) : y = some x := by
  have before := run.until
  have earlier : ∀ p f q, a = p ++ f :: q → ¬ Careless rt started p f :=
    fun p f q split => careful p f (q ++ e :: b) (by simp [split])
  have kept := run_kept before earlier
  obtain ⟨name, action, row, here, op⟩ := presents
  obtain ⟨client, origin, site⟩ := run_site run
  have among : ∀ {es : BrokerLog} {g : BrokerEvent}, es <+: localOf e.caller a → g ∈ es → g ∈ a :=
    fun part hg => (mem_of_localOf (part.subset hg)).1
  -- what is stored of an exact execution reads back as it
  have reads : ∀ {result : Dict}, Dict.get? result "execution" = some x.modelDump.joined →
      storedExecution result = .ok (some x) := by
    intro result stored
    obtain ⟨z, read, same⟩ := storedExecution_recorded stored
    rw [read, same exact]
  rcases op with op | ⟨z, observation, rfl, op⟩ <;> rw [op] at site
  · obtain ⟨jobId, subject, b', rfl, briefed, request, rfl⟩ := site_cancel site
    obtain ⟨c, hc, owner, context⟩ := briefed.viewed.context
    obtain rfl := job_of_context before (among List.prefix_rfl hc) context here request.symm
    have held : evidence b'.job.result = some x.modelDump.joined := by
      rw [← held, evidence_row here]
      by_contra differs
      exact careful a e b rfl (.stale _ subject _ b'.job b'.request row origin List.prefix_rfl
        briefed.viewed (.inl ⟨name, action, row.request, b'.execution, op⟩) here differs)
    exact Except.ok.inj (briefed.execution.symm.trans (reads held))
  · rcases site_verify site with ⟨workerId, b', rfl, observed, request⟩ |
      ⟨maxAttempts, b', rfl, observed, request, rfl⟩
    · obtain ⟨before', part, recorded⟩ := observed.recorded
      obtain ⟨g, hg, owner, context⟩ := recorded.context
      obtain rfl := job_of_context before (among part hg) context here request.symm
      obtain ⟨p, r, q, split, records⟩ := recorded_records origin recorded part
      have own : z.details.Exact := by
        by_contra inexact
        exact earlier p r q split (.inexact z records inexact)
      have same := (recorded_kept before recorded part (kept b'.job.id)).symm.trans held
      rw [exact_injective own exact (Option.some.inj same)]
    · obtain ⟨before', part, briefed⟩ := observed.briefed
      obtain ⟨g, hg, owner, context⟩ := briefed.context
      obtain rfl := job_of_context before (among part hg) context here request.symm
      obtain ⟨p, c, q, row₀, rfl, found, unknown, view⟩ := candidate_view before briefed part
      have now := kept b'.job.id p (c :: q) c.pre row₀ rfl before.until.trace found
        (by simp [JobRow.Stopped, unknown])
      rw [held, evidence_row found] at now
      have held : evidence b'.job.result = some x.modelDump.joined := view ▸ now.symm
      have read : Reconciler.execution (Reconciler.partialResult b'.job) = .ok x := by
        rw [Reconciler.execution, Reconciler.partialResult, reads held]
        rfl
      rw [Except.ok.inj (briefed.execution.symm.trans read)]

end Run

/-- In a run without careless calls a recorded execution is in every later row of its job, and
every later verification and cancellation of the job is given it. -/
theorem evidence_never_lost (rt : Runtime) (env : Environment) (c : BrokerConfig)
    (h : rt.Reachable env c)
    (careful : ∀ a e b, c.log = a ++ e :: b → ¬ Careless rt c.started a e) (j : String)
    (a : BrokerLog) (f : BrokerEvent) (b : BrokerLog) (d : Json) (whole : c.log = a ++ f :: b)
    (held : f.post.evidence j = some d) :
    ∃ x : AdapterExecution, x.details.Exact ∧ d = x.modelDump.joined ∧
      ∀ e ∈ b, e.post.evidence j = some d ∧ ∀ y, Presents j e y → y = some x := by
  have run := reachable_run h
  rw [whole] at run careful
  have start := run.through
  obtain ⟨x, exact, rfl⟩ := run_exact start (fun p e q split => careful p e (q ++ b) (by
    rw [← List.singleton_append, ← List.append_assoc, split]
    simp)) j d held
  refine ⟨x, exact, rfl, fun e member => ?_⟩
  obtain ⟨p, q, rfl⟩ := List.append_of_mem member
  have split : a ++ f :: (p ++ e :: q) = (a ++ [f] ++ p) ++ e :: q := by simp
  rw [split] at run careful
  have before : e.pre.evidence j = some x.modelDump.joined :=
    evidence_stays run.until (fun x g y here => careful x g (y ++ e :: q) (by simp [here]))
      start held
  have after : e.post.evidence j = some x.modelDump.joined := by
    have through : rt.Run env c.started ((a ++ [f]) ++ (p ++ [e])) e.post := by
      simpa using run.through
    refine evidence_stays through (fun x g y here => careful x g (y ++ q) ?_) start held
    rw [← List.cons_append, ← List.append_assoc x, ← here]
    simp
  exact ⟨after, fun y presents => presents_recorded run careful exact before presents⟩

namespace Sample

/-- A worker records its execution, then its observation fails. -/
def unobserved : List Turn :=
  [.start (.createJob (request keyA) subject), .store 0 (oracle 1 "a"),
    .start (.worker "w"), .store 1 (oracle 2 "b"), .store 1 (oracle 3 "c"),
    .adapter 1 fun op => ([], healthy op), .store 1 (oracle 4 "d"), .store 1 (oracle 5 "e"),
    .adapter 1 fun op => ([], doubtful op), .store 1 (oracle 6 "f")]

end Sample

theorem exact_nil : Details.Exact [] :=
  ⟨[], rfl, by decide, by decide, by decide, List.nodup_nil, trivial⟩

def plainExecution (e : BrokerEvent) : Bool :=
  match e with
  | ⟨_, .adapter _ (.execute ..), _, _, .ok x, _⟩ => x.details.isEmpty
  | _ => true

open Sample in
theorem evidence_never_lost_finished : ∃ c, (runtime .none).played finished = some c ∧
    c.log.map (fun e => (e.post.evidence "job_a").isSome) =
      [false, false, false, false, true, true, true, true, true] ∧
    ∀ a f b d, c.log = a ++ f :: b → f.post.evidence "job_a" = some d →
      ∀ e ∈ b, e.post.evidence "job_a" = some d := by
  have outcome : ((runtime .none).played finished).map (fun c =>
      (c.log.map (fun e => (e.post.evidence "job_a").isSome),
        c.log.all (fun e => !e.op.dropsResult && plainExecution e),
        c.procs.all fun p => !p.1.isCanceller)) =
      some ([false, false, false, false, true, true, true, true, true], true, true) := by
    decide +kernel
  obtain ⟨c, played, same⟩ := Option.map_eq_some_iff.mp outcome
  simp only [Prod.mk.injEq, List.all_eq_true, Bool.and_eq_true] at same
  obtain ⟨held, written, others⟩ := same
  have reachable := played_reachable (allowed_any finished) played
  have careful : ∀ p g q, c.log = p ++ g :: q →
      ¬ Careless (runtime .none) c.started p g := by
    intro p g q split careless
    cases careless with
    | inexact x records inexact =>
      obtain ⟨workerId, b, -, before, r, v, parts, ⟨_, e, rfl, -, answered⟩, -⟩ := records
      have among : e ∈ localOf g.caller (p ++ [g]) := by
        rw [localOf_snoc_self, parts]
        simp
      have member : e ∈ c.log := by
        rw [split, ← List.singleton_append, ← List.append_assoc]
        exact List.mem_append_left q (mem_of_localOf among).1
      have plain := (written e member).2
      cases answered
      have empty : x.details = [] := List.isEmpty_iff.mp plain
      exact inexact (empty ▸ exact_nil)
    | wipes workerId j target error fence row view origin answered =>
      have kept := (written g (by simp [split])).1
      rw [answered.op_eq] at kept
      cases kept
    | stale jobId subject es job request row origin =>
      obtain ⟨p, here, is⟩ := Option.map_eq_some_iff.mp origin
      have other := others p (List.mem_of_getElem? here)
      rw [is] at other
      cases other
  refine ⟨c, played, held, fun a f b d whole recorded e member => ?_⟩
  obtain ⟨x, -, -, lasting⟩ := evidence_never_lost (runtime .none) .any c reachable careful
    "job_a" a f b d whole recorded
  exact (lasting e member).1

open Sample in
/-- A worker whose observation fails wipes the execution it recorded. -/
theorem observation_wipes_evidence : ∃ c a f b d e, (runtime .none).Reachable .any c ∧
    c.log = a ++ f :: b ∧ f.post.evidence "job_a" = some d ∧ e ∈ b ∧
    e.post.evidence "job_a" = none := by
  have outcome : ((runtime .none).played unobserved).map (fun c =>
      c.log.map (fun e => (e.post.evidence "job_a").isSome)) =
        some ([false, false, false, false] ++ true :: [true, true, false]) := by decide +kernel
  obtain ⟨c, played, same⟩ := Option.map_eq_some_iff.mp outcome
  obtain ⟨a, rest, whole, -, tail⟩ := List.map_eq_append_iff.mp same
  obtain ⟨f, b, rfl, held, later⟩ := List.map_eq_cons_iff.mp tail
  obtain ⟨d, held⟩ := Option.isSome_iff_exists.mp held
  have lost : false ∈ b.map fun e => (e.post.evidence "job_a").isSome := later ▸ by simp
  obtain ⟨e, member, gone⟩ := List.mem_map.mp lost
  exact ⟨c, a, f, b, d, e, played_reachable (allowed_any unobserved) played, whole, held, member,
    by simpa using gone⟩

end Deckhand
