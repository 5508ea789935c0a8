import Deckhand.DigestFields
import Deckhand.Lib.JsonWeight
import Deckhand.Scenario
import Deckhand.Store.Tamper

namespace Deckhand
open Lib

/-- What is read back is what was submitted, as far as the two digests and the catalogue can
tell. -/
structure Approved (hashlib : Hashlib) (catalog : Catalog) (submitted returned : ActionRequest) :
    Prop where
  confirmation : confirmationDigest hashlib returned = confirmationDigest hashlib submitted
  replay : requestDigest hashlib returned = requestDigest hashlib submitted
  valid : ∀ action, catalog.validateRequest submitted = .ok action →
    ∃ action', catalog.validateRequest returned = .ok action'

section Context
variable {s : Store} {request : ActionRequest}

theorem modelDumpJson_standard (standard : (Json.obj request.parameters).standard = true)
    (distinct : (Json.obj request.parameters).Distinct) : request.modelDumpJson = request := by
  unfold ActionRequest.modelDumpJson
  rw [dict_jsonMode_of_standard standard distinct]

theorem approved_of_standard (hashlib : Hashlib) (catalog : Catalog)
    (standard : (Json.obj request.parameters).standard = true)
    (distinct : (Json.obj request.parameters).Distinct) :
    Approved hashlib catalog request request.modelDumpJson := by
  rw [modelDumpJson_standard standard distinct]
  exact ⟨rfl, rfl, fun action valid => ⟨action, valid⟩⟩

theorem standard_of_approved {hashlib : Hashlib} {catalog : Catalog}
    (collisionFree : Function.Injective hashlib.sha256)
    (distinct : (Json.obj request.parameters).Distinct)
    (approved : Approved hashlib catalog request request.modelDumpJson) :
    (Json.obj request.parameters).standard = true := by
  obtain ⟨-, alike⟩ := (confirmationDigest_eq_iff collisionFree).mp approved.confirmation
  exact (written_jsonMode_iff distinct).mp alike

theorem RowStep.identity {o : Oracle} {j : String} {op : StoreOp} {r : Except StoreExn op.Value}
    {l l' : Life} {row : JobRow} (step : RowStep s o j op r l l') (here : l.row = some row) :
    ∃ row', l'.row = some row' ∧ row'.identity = row.identity := by
  cases step with
  | same => exact ⟨row, here, rfl⟩
  | created => cases here
  | claimed =>
    cases here
    exact ⟨_, rfl, rfl⟩
  | renewed =>
    cases here
    exact ⟨_, rfl, rfl⟩
  | transitioned =>
    cases here
    exact ⟨_, rfl, rfl⟩
  | lapsed =>
    cases here
    exact ⟨_, rfl, rfl⟩
  | expired =>
    cases here
    exact ⟨_, rfl, rfl⟩
  | attempted =>
    cases here
    exact ⟨_, rfl, rfl⟩

theorem trace_identity {t u : DB} {log : List StoreEvent} (run : Trace s.sem t log u)
    {j : String} {row : JobRow} (here : t.job? j = some row) :
    ∃ row', u.job? j = some row' ∧ row'.identity = row.identity := by
  apply run.stable (P := fun db => ∃ row', db.job? j = some row' ∧ row'.identity = row.identity)
  · rintro e - valid ⟨row₁, now, same⟩
    obtain ⟨row₂, later, kept⟩ := ((run_step valid).rows j).identity now
    exact ⟨row₂, later, kept.trans same⟩
  · exact ⟨row, here, rfl⟩

/-- The call is a submission that made a new job, which the view shows. -/
def Makes (e : StoreEvent) (request : ActionRequest) (subject : Subject) (view : JobView) : Prop :=
  e.Answered (.createJob request subject) (.ok view) ∧
    ∀ row ∈ e.pre.jobs.rows, row.idempotencyKey ≠ request.idempotencyKey

theorem makes_row {e : StoreEvent} {subject : Subject} {view : JobView} (valid : e.Valid s.sem)
    (made : Makes e request subject view) :
    ∃ row, e.post.job? view.id = some row ∧ row.request = request.modelDumpJson := by
  obtain ⟨o, run⟩ := valid.answered made.1
  rcases createJob_spec (Txn.atomically_ok run) with ⟨row, member, key, -⟩ | ⟨-, -, rfl, life⟩
  · exact absurd key (made.2 row member)
  · refine ⟨JobRow.queue s o request subject, ?_, rfl⟩
    exact (congrArg Life.row (life (JobRow.queue s o request subject).id)).trans
      (by rw [if_pos rfl])

theorem context_row {g : StoreEvent} {jobId : String} {returned : ActionRequest} {owner : Subject}
    (valid : g.Valid s.sem) (answered : g.Answered (.getJobContext jobId) (.ok (returned, owner))) :
    ∃ row, g.pre.job? jobId = some row ∧ row.request = returned := by
  obtain ⟨o, run⟩ := valid.answered answered
  obtain ⟨_, _, ⟨rfl, rfl⟩, row, _, ⟨found, rfl⟩, same, -⟩ := by
    simpa only [Store.getJobContext, Txn.run_bind, Txn.run_read, Txn.run_require,
      Txn.run_pure] using Txn.atomically_ok run
  cases same
  exact ⟨row, found, rfl⟩

/-- Whatever happens to the store in between, the request read back of a job is the submitted
one as it is written and read. -/
theorem context_returned {start db : DB} {a b c : List StoreEvent} {e g : StoreEvent}
    {subject owner : Subject} {view : JobView} {returned : ActionRequest}
    (run : Trace s.sem start (a ++ e :: (b ++ g :: c)) db) (made : Makes e request subject view)
    (answered : g.Answered (.getJobContext view.id) (.ok (returned, owner))) :
    returned = request.modelDumpJson := by
  obtain ⟨-, submitted, after⟩ := run.split
  obtain ⟨between, asked, -⟩ := after.split
  obtain ⟨row, here, stored⟩ := makes_row submitted made
  obtain ⟨row₁, later, same⟩ := trace_identity between here
  obtain ⟨row₂, found, read⟩ := context_row asked answered
  obtain rfl : row₁ = row₂ := Option.some.inj (later.symm.trans found)
  simp only [JobRow.identity, Prod.mk.injEq] at same
  rw [← read, same.2.2.1, stored]

end Context

/-- The worker runs what was approved just if the JSON mode leaves its parameters alone: no float
in them is NaN or infinite, and UTF-8 can encode their keys. -/
theorem context_approved_iff (s : Store) (catalog : Catalog) (start db : DB)
    (a b c : List StoreEvent) (e g : StoreEvent) (request returned : ActionRequest)
    (subject owner : Subject) (view : JobView)
    (run : Trace s.sem start (a ++ e :: (b ++ g :: c)) db) (made : Makes e request subject view)
    (answered : g.Answered (.getJobContext view.id) (.ok (returned, owner)))
    (collisionFree : Function.Injective s.hashlib.sha256)
    (distinct : (Json.obj request.parameters).Distinct) :
    Approved s.hashlib catalog request returned ↔
      (Json.obj request.parameters).standard = true := by
  rw [context_returned run made answered]
  constructor
  · exact standard_of_approved collisionFree distinct
  · intro standard
    exact approved_of_standard s.hashlib catalog standard distinct

namespace Sample

def setLevel : ActionDefinition :=
  { ensureActive .none with
    parameterSchema := .obj [("properties", .obj [("level", .obj [("type", .str "number")])])] }

def levelErrors (parameters : Dict) : List String :=
  match parameters.get? "level" with
  | some .null => ["None is not of type 'number'"]
  | _ => []

def levelCatalog : Catalog where
  actions := [setLevel]
  iterErrors _ := levelErrors
  distinct := by simp

/-- A key that is a lone surrogate, beside the parameter that the schema knows. -/
def strayLevel : Dict := [("level", .int 7), ([0xd800], .null)]

def submitParameters (d : Dict) : StoreOp := .createJob (paramRequest d) subject

def contextCalls (d : Dict) : List ((_ : StoreOp) × Oracle) :=
  [⟨submitParameters d, oracle 1 "a"⟩, ⟨.getJobContext "job_a", oracle 2 "b"⟩]

def storeAfter (d : Dict) : DB := ((submitParameters d).run idealStore (oracle 1 "a") DB.empty).2

def submitEvent (d : Dict) : StoreEvent where
  caller := 0
  op := submitParameters d
  pre := DB.empty
  note := oracle 1 "a"
  ret := ((submitParameters d).run idealStore (oracle 1 "a") DB.empty).1
  post := storeAfter d

def contextEvent (d : Dict) : StoreEvent where
  caller := 0
  op := .getJobContext "job_a"
  pre := storeAfter d
  note := oracle 2 "b"
  ret := ((StoreOp.getJobContext "job_a").run idealStore (oracle 2 "b") (storeAfter d)).1
  post := ((StoreOp.getJobContext "job_a").run idealStore (oracle 2 "b") (storeAfter d)).2

theorem context_trace (d : Dict) : ∃ db, Trace idealStore.sem DB.empty
    ([] ++ submitEvent d :: ([] ++ contextEvent d :: [])) db :=
  ⟨_, replay_trace (fun op o db => op.run idealStore o db) DB.empty (contextCalls d)⟩

def madeJob : Except StoreExn JobView → Option String
  | .ok view => some view.id
  | .error _ => none

theorem submit_makes (d : Dict) (made : madeJob (submitEvent d).ret = some "job_a") :
    ∃ view, view.id = "job_a" ∧ Makes (submitEvent d) (paramRequest d) subject view := by
  cases answer : (submitEvent d).ret with
  | error x =>
    rw [answer] at made
    cases made
  | ok view =>
    rw [answer] at made
    refine ⟨view, Option.some.inj made, ?_, fun row member => absurd member List.not_mem_nil⟩
    exact answer ▸ (submitEvent d).answered_self

theorem context_read (d : Dict) (read : (contextEvent d).ret.isOk = true) :
    ∃ returned owner,
      (contextEvent d).Answered (.getJobContext "job_a") (.ok (returned, owner)) := by
  cases answer : (contextEvent d).ret with
  | error x =>
    rw [answer] at read
    cases read
  | ok context => exact ⟨context.1, context.2, answer ▸ (contextEvent d).answered_self⟩

/-- The job is made of the parameters, and the worker reads its request. -/
structure Context (d : Dict) (db : DB) (view : JobView) (returned : ActionRequest)
    (owner : Subject) : Prop where
  run : Trace idealStore.sem DB.empty ([] ++ submitEvent d :: ([] ++ contextEvent d :: [])) db
  made : Makes (submitEvent d) (paramRequest d) subject view
  answered : (contextEvent d).Answered (.getJobContext view.id) (.ok (returned, owner))

theorem context_there (d : Dict) (made : madeJob (submitEvent d).ret = some "job_a")
    (read : (contextEvent d).ret.isOk = true) :
    ∃ db view returned owner, Context d db view returned owner := by
  obtain ⟨db, run⟩ := context_trace d
  obtain ⟨view, named, created⟩ := submit_makes d made
  obtain ⟨returned, owner, answered⟩ := context_read d read
  exact ⟨db, view, returned, owner, run, created, named ▸ answered⟩

theorem strayLevel_distinct : (Json.obj strayLevel).Distinct := by
  unfold strayLevel
  simp [Json.Distinct, DistinctMembers]
  decide

end Sample

open Sample in
theorem context_approved_iff_level : ∃ db view returned owner,
    Context [("level", .int 7)] db view returned owner ∧
    (Approved idealHashlib levelCatalog (levelRequest (.int 7)) returned ↔
      (Json.obj (levelRequest (.int 7)).parameters).standard = true) := by
  obtain ⟨db, view, returned, owner, there⟩ :=
    context_there [("level", .int 7)] (by decide +kernel) (by decide +kernel)
  exact ⟨db, view, returned, owner, there,
    context_approved_iff idealStore levelCatalog DB.empty db [] [] [] _ _ _ returned subject owner
      view there.run there.made there.answered ideal_collisionFree (level_distinct trivial)⟩

open Sample in
theorem context_strays {d : Dict} {db : DB} {view : JobView} {returned : ActionRequest}
    {owner : Subject} (there : Context d db view returned owner)
    (distinct : (Json.obj d).Distinct) (stray : (Json.obj d).standard = false) :
    returned = (paramRequest d).modelDumpJson ∧
    confirmationDigest idealHashlib returned ≠ confirmationDigest idealHashlib
    (paramRequest d) := by
  obtain rfl := context_returned there.run there.made there.answered
  refine ⟨rfl, fun same => ?_⟩
  obtain ⟨-, alike⟩ := (confirmationDigest_eq_iff ideal_collisionFree).mp same
  have kept := (written_jsonMode_iff distinct).mp alike
  rw [stray] at kept
  cases kept

open Sample in
/-- A NaN is submitted for a number: the worker gets a null for it, another digest, and a
request that the catalogue refuses. A key that is a lone surrogate gets another digest too. -/
theorem context_loses_nan : Function.Injective idealHashlib.sha256 ∧
    (∃ db view returned owner, Context [("level", .float .nan)] db view returned owner ∧
      levelCatalog.validateRequest (levelRequest (.float .nan)) = .ok setLevel ∧
      levelCatalog.validateRequest returned =
        .error ⟨"invalid parameters: None is not of type 'number'"⟩ ∧
      confirmationDigest idealHashlib returned ≠
        confirmationDigest idealHashlib (levelRequest (.float .nan)) ∧
      ¬ Approved idealHashlib levelCatalog (levelRequest (.float .nan)) returned) ∧
    ∃ db view returned owner, Context strayLevel db view returned owner ∧
      returned.parameters =
        ([("level", .int 7), ([0xfffd, 0xfffd, 0xfffd], .null)] : Dict) ∧
      ¬ Approved idealHashlib levelCatalog (paramRequest strayLevel) returned := by
  refine ⟨ideal_collisionFree, ?_, ?_⟩
  · obtain ⟨db, view, returned, owner, there⟩ :=
      context_there [("level", .float .nan)] (by decide +kernel) (by decide +kernel)
    obtain ⟨rfl, apart⟩ := context_strays there (level_distinct trivial) rfl
    exact ⟨db, view, _, owner, there, rfl, rfl, apart, fun approved => apart approved.confirmation⟩
  · obtain ⟨db, view, returned, owner, there⟩ :=
      context_there strayLevel (by decide +kernel) (by decide +kernel)
    obtain ⟨rfl, apart⟩ := context_strays there strayLevel_distinct (by decide)
    exact ⟨db, view, _, owner, there, rfl, fun approved => apart approved.confirmation⟩

end Deckhand
