import Deckhand.Door

/-! The policy server: what the broker makes of its replies, and what a run can say about a server
that may reply anything, or fail. -/
namespace Deckhand
open Lib

/-- `failed` is any error of the transport, running out of time among them. -/
inductive HttpReply where
  | failed
  | answered (status : Nat) (content : List UInt8)
  deriving DecidableEq, Repr

inductive OpaExn where
  | policyUnavailable (message : String)
  | validationError
  | attributeError
  | recursionError
  deriving DecidableEq, Repr

def HttpReply.success (status : Nat) : Bool := 200 ≤ status && status < 300

def ConfirmationMode.all : List ConfirmationMode :=
  [.none, .confirm, .hold, .typed, .dualControl, .policy]

def ConfirmationMode.ofValue? (s : PyStr) : Option ConfirmationMode :=
  ConfirmationMode.all.find? fun mode => pyStr mode.value = s

namespace OpaPolicyEngine

def truthTexts : List String := ["1", "on", "t", "true", "y", "yes"]

def falsehoodTexts : List String := ["0", "off", "f", "false", "n", "no"]

def lowerAscii (s : PyStr) : PyStr :=
  s.map fun c => if 0x41 ≤ c.val && c.val ≤ 0x5a then c + 0x20 else c

/-- What pydantic takes for a bool. `floatBool` says which numerals are the floats 0 and 1. -/
def laxBool (floatBool : PyStr → Option Bool) : PyJson → Option Bool
  | .bool b => some b
  | .int 0 => some false
  | .int 1 => some true
  | .float literal => floatBool literal
  | .str s =>
    if truthTexts.any fun text => pyStr text = lowerAscii s then some true
    else if falsehoodTexts.any fun text => pyStr text = lowerAscii s then some false
    else none
  | _ => none

def memberOr {α : Type} (members : List (PyStr × PyJson)) (key : String) (default : α)
    (read : PyJson → Option α) : Option α :=
  (pyGet members key).elim (some default) read

def laxOptional : PyJson → Option (Option PyStr)
  | .null => some none
  | v => v.str?.map some

def decisionFields : List String := ["allow", "reason", "required_confirmation", "decision_id"]

/-- `PolicyDecision.model_validate(result)`, the identifier of the decision put in before. -/
def validateDecision (floatBool : PyStr → Option Bool) (result : List (PyStr × PyJson))
    (decisionId : PyJson) : Option PolicyDecision := do
  let allow ← (pyGet result "allow").bind (laxBool floatBool)
  let reason ← memberOr result "reason" [] PyJson.str?
  let requiredConfirmation ← memberOr result "required_confirmation" .none
    fun v => v.str?.bind ConfirmationMode.ofValue?
  let _ ← laxOptional decisionId
  if result.all fun member => decisionFields.any fun field => pyStr field = member.1 then
    some { allow, reason, requiredConfirmation }
  else none

/-- `json.loads` of the reply, in which objects and lists nest up to `depth` deep. -/
def decide (depth : Nat) (floatBool : PyStr → Option Bool) :
    HttpReply → Except OpaExn PolicyDecision
  | .failed => .error (.policyUnavailable "policy decision unavailable")
  | .answered status content => do
    let unavailable := OpaExn.policyUnavailable "policy decision unavailable"
    refuse (HttpReply.success status = false) unavailable
    let payload ← (PyJson.loadBytes depth content).mapError fun e =>
      if e.isValueError then unavailable else .recursionError
    let members ← demand payload.members? .attributeError
    let result ← demand ((pyGet members "result").bind PyJson.members?)
      (.policyUnavailable "policy returned no structured decision")
    demand (validateDecision floatBool result ((pyGet members "decision_id").getD .null))
      .validationError

end OpaPolicyEngine

/-- What a reply of the server amounts to for the process that asked: an exception of another
class ends it. -/
inductive Amounts : Except OpaExn PolicyDecision → Except PolicyExn PolicyDecision → Prop where
  | decided (decision : PolicyDecision) : Amounts (.ok decision) (.ok decision)
  | unavailable (message : String) :
      Amounts (.error (.policyUnavailable message)) (.error (.policyUnavailable message))
  | invalid (e : DataExn) : Amounts (.error .validationError) (.error (.validationError e))

/-- The engine is the client of a server, whose replies may depend on what data it has. -/
def Environment.served (depth : Nat) (floatBool : PyStr → Option Bool)
    (serves : PolicyInput → Inventory → HttpReply → Prop) : Environment where
  adapts _ _ _ _ := True
  decides input inventory r := ∃ reply, serves input inventory reply ∧
    Amounts (OpaPolicyEngine.decide depth floatBool reply) r

/-- The reply is a success, and the decision in it is to allow, in as many words. -/
def HttpReply.Allows (depth : Nat) (floatBool : PyStr → Option Bool) (reply : HttpReply) : Prop :=
  ∃ status content members result allow, reply = .answered status content ∧
    HttpReply.success status = true ∧ PyJson.loadBytes depth content = .ok (.obj members) ∧
    pyGet members "result" = some (.obj result) ∧ pyGet result "allow" = some allow ∧
    OpaPolicyEngine.laxBool floatBool allow = some true

/-- The reply is the decision as the policy's document has it. -/
structure Renders (decision : PolicyDecision) (members result : List (PyStr × PyJson)) : Prop where
  found : pyGet members "result" = some (.obj result)
  allow : pyGet result "allow" = some (.bool decision.allow)
  reason : pyGet result "reason" = some (.str decision.reason)
  requiredConfirmation : pyGet result "required_confirmation" =
    some (.str (pyStr decision.requiredConfirmation.value))

theorem mode_ofValue (mode : ConfirmationMode) :
    ConfirmationMode.ofValue? (pyStr mode.value) = some mode := by
  cases mode <;> decide

section Reply
open OpaPolicyEngine
variable {depth : Nat} {floatBool : PyStr → Option Bool} {reply : HttpReply}
  {decision d : PolicyDecision}
  {members result : List (PyStr × PyJson)}

theorem validateDecision_fields {decisionId : PyJson}
    (h : validateDecision floatBool result decisionId = some d) :
    (pyGet result "allow").bind (laxBool floatBool) = some d.allow ∧
      memberOr result "reason" [] PyJson.str? = some d.reason ∧
      memberOr result "required_confirmation" .none
        (fun v => v.str?.bind ConfirmationMode.ofValue?) = some d.requiredConfirmation := by
  simp only [validateDecision, Option.bind_eq_bind, Option.bind_eq_some_iff] at h
  obtain ⟨allow, ha, reason, hr, mode, hm, _, -, h⟩ := h
  split at h
  · cases h
    exact ⟨Option.bind_eq_some_iff.mpr ha, hr, hm⟩
  · cases h

theorem decide_ok (h : OpaPolicyEngine.decide depth floatBool reply = .ok d) :
    ∃ status content members result, reply = .answered status content ∧
      HttpReply.success status = true ∧ PyJson.loadBytes depth content = .ok (.obj members) ∧
      pyGet members "result" = some (.obj result) ∧
      validateDecision floatBool result ((pyGet members "decision_id").getD .null) = some d := by
  cases reply with
  | failed => cases h
  | answered status content =>
    simp only [OpaPolicyEngine.decide, bind_ok, refuse_ok, demand_ok, mapError_ok,
      Bool.not_eq_false] at h
    obtain ⟨_, success, payload, read, members, object, result, there, valid⟩ := h
    obtain ⟨value, found, object'⟩ := Option.bind_eq_some_iff.mp there
    have obj : ∀ {v : PyJson} {ms}, v.members? = some ms → v = .obj ms := by
      intro v ms h
      cases v <;> simp_all [PyJson.members?]
    rw [obj object] at read
    rw [obj object'] at found
    exact ⟨status, content, members, result, rfl, success, read, found, valid⟩

theorem decide_allows (h : OpaPolicyEngine.decide depth floatBool reply = .ok d)
    (allowed : d.allow = true) : reply.Allows depth floatBool := by
  obtain ⟨status, content, members, result, same, success, read, there, valid⟩ := decide_ok h
  obtain ⟨allow, found, truth⟩ := Option.bind_eq_some_iff.mp (validateDecision_fields valid).1
  exact ⟨status, content, members, result, allow, same, success, read, there, found,
    allowed ▸ truth⟩

theorem rendered_only {status : Nat} {content : List UInt8}
    (h : OpaPolicyEngine.decide depth floatBool (.answered status content) = .ok d)
    (read : PyJson.loadBytes depth content = .ok (.obj members))
    (renders : Renders decision members result) : d = decision := by
  obtain ⟨_, _, members', result', same, -, read', there, valid⟩ := decide_ok h
  cases same
  cases Except.ok.inj (read'.symm.trans read)
  cases Option.some.inj (there.symm.trans renders.found)
  obtain ⟨allow, reason, mode⟩ := validateDecision_fields valid
  have first : decision.allow = d.allow := by
    rw [renders.allow] at allow
    exact Option.some.inj allow
  have second : decision.reason = d.reason := by
    rw [memberOr, renders.reason] at reason
    exact Option.some.inj reason
  have third : decision.requiredConfirmation = d.requiredConfirmation := by
    rw [memberOr, renders.requiredConfirmation] at mode
    simp only [Option.elim, PyJson.str?, Option.bind_some, mode_ofValue] at mode
    exact Option.some.inj mode
  cases d
  cases decision
  simp only at first second third
  rw [first, second, third]

theorem rendered_read {status : Nat} {content : List UInt8}
    (success : HttpReply.success status = true)
    (read : PyJson.loadBytes depth content = .ok (.obj members))
    (renders : Renders decision members result)
    (named : (laxOptional ((pyGet members "decision_id").getD .null)).isSome = true)
    (only : ∀ member ∈ result, ∃ field ∈ decisionFields, pyStr field = member.1) :
    OpaPolicyEngine.decide depth floatBool (.answered status content) = .ok decision := by
  obtain ⟨id, named⟩ := Option.isSome_iff_exists.mp named
  have reason : memberOr result "reason" [] PyJson.str? = some decision.reason := by
    rw [memberOr, renders.reason]
    rfl
  have mode : memberOr result "required_confirmation" .none
      (fun v => v.str?.bind ConfirmationMode.ofValue?) = some decision.requiredConfirmation := by
    rw [memberOr, renders.requiredConfirmation]
    simp only [Option.elim, PyJson.str?, Option.bind_some, mode_ofValue]
  have fields : (result.all fun member =>
      decisionFields.any fun field => Decidable.decide (pyStr field = member.1)) = true := by
    rw [List.all_eq_true]
    intro member there
    obtain ⟨field, known, same⟩ := only member there
    exact List.any_eq_true.mpr ⟨field, known, decide_eq_true same⟩
  have valid : validateDecision floatBool result ((pyGet members "decision_id").getD .null) =
      some decision := by
    simp only [validateDecision, renders.allow, reason, mode, named, fields, laxBool,
      Option.bind_eq_bind, Option.bind_some, if_true]
  have there : (pyGet members "result").bind PyJson.members? = some result := by
    rw [renders.found]
    rfl
  simp only [OpaPolicyEngine.decide, bind_ok, refuse_ok, demand_ok, mapError_ok, Bool.not_eq_false]
  exact ⟨(), success, .obj members, read, members, rfl, result, there, valid⟩

end Reply

/-- The engine answered the call with the decision that the client made of a reply of the server,
and that reply says to allow. -/
inductive Permits (depth : Nat) (floatBool : PyStr → Option Bool)
    (serves : PolicyInput → Inventory → HttpReply → Prop) (input : PolicyInput) (d : BrokerEvent) :
    Prop where
  | mk (inventory : Inventory) (reply : HttpReply) (decision : PolicyDecision) :
      serves input inventory reply → OpaPolicyEngine.decide depth floatBool reply = .ok decision →
      Decides input inventory decision d → decision.allow = true → reply.Allows depth floatBool →
      Permits depth floatBool serves input d

/-- Where a success has a structured result, it is the decision of the policy. -/
def Scrupulous (depth : Nat) (serves : PolicyInput → Inventory → HttpReply → Prop) : Prop :=
  ∀ input inventory status content members result,
    serves input inventory (.answered status content) →
    PyJson.loadBytes depth content = .ok (.obj members) →
    pyGet members "result" = some (.obj result) →
    Renders (Rego.decision inventory input) members result

section Run
variable {rt : Runtime} {depth : Nat} {floatBool : PyStr → Option Bool}
  {serves : PolicyInput → Inventory → HttpReply → Prop} {started : Nat → Option Client} {db : DB}

theorem insertion_allowed {a b : BrokerLog} {i : BrokerEvent} {j actionId : String}
    {request : ActionRequest} {subject : Subject} {action : ActionDefinition}
    (run : rt.Run (.served depth floatBool serves) started (a ++ i :: b) db)
    (origin : started i.caller = some (.execute actionId request subject)) (inserts : Inserts j i)
    (known : rt.catalog.get request.actionId request.actionVersion = .ok action) :
    ∃ d ∈ localOf i.caller a, ∃ writable valid,
      Permits depth floatBool serves
        (Api.policyInput rt action request subject writable "execute" valid) d ∧
      (∃ w ∈ localOf i.caller a, w.Answered (.store .auditIsWritable) (.ok writable)) ∧
      (valid = true → ∃ k ∈ localOf i.caller a, ∃ c, Consumes rt.store request subject c k) := by
  obtain ⟨action', valid, writable, decision, decided, allowed⟩ :=
    insertion_decided run origin inserts
  obtain rfl : action = action' :=
    Except.ok.inj (known.symm.trans (Catalog.validateRequest_get decided.validated))
  obtain ⟨before, w, d, seen, confirmed, probed, answered⟩ := decided.seen
  have event : ∀ f ∈ localOf i.caller a, f.Valid (rt.sem (.served depth floatBool serves)) :=
    fun f member => run.until.trace.valid (mem_of_localOf member).1
  rw [seen] at event ⊢
  have permits : Permits depth floatBool serves
      (Api.policyInput rt action request subject writable "execute" valid) d := by
    have served := event d (by simp)
    cases answered with
    | mk caller _ pre inventory _ post =>
      obtain ⟨⟨reply, served, amounts⟩, -⟩ := served
      have decides : OpaPolicyEngine.decide depth floatBool reply = .ok decision := by
        generalize OpaPolicyEngine.decide depth floatBool reply = outcome at amounts
        cases amounts
        rfl
      exact .mk inventory reply decision served decides (.mk caller pre post) allowed
        (decide_allows decides allowed)
  refine ⟨d, by simp, writable, valid, permits, ⟨w, by simp, probed⟩, fun told => ?_⟩
  cases confirmed with
  | asked k token _ present answered =>
    subst told
    obtain ⟨c, consumes⟩ := answered_consumed (event k (by simp))
      (Option.filter_eq_some_iff.mp present).1 answered
    exact ⟨k, by simp, c, consumes⟩
  | none => cases told

end Run

/-- Whatever the policy server replies, or fails to reply: no adapter is asked to do anything about
a job unless a success of the server said in as many words to allow the request that inserted it;
and the server had been told the truth about the audit log and the confirmation. -/
theorem allowed_before_worked (depth : Nat) (floatBool : PyStr → Option Bool)
    (serves : PolicyInput → Inventory → HttpReply → Prop) (rt : Runtime) (c : BrokerConfig)
    (h : rt.Reachable (.served depth floatBool serves) c) (fronted : Fronted c.started) :
    ∀ a e b name op action request, c.log = a ++ e :: b → e.op = .adapter name op →
      op.work = some (action, request) →
      ∃ x i y j actionId submitted subject, a = x ++ i :: y ∧
        c.started i.caller = some (.execute actionId submitted subject) ∧ Inserts j i ∧
        request = submitted.modelDumpJson ∧
        ∃ d ∈ localOf i.caller x, ∃ writable valid,
          Permits depth floatBool serves
            (Api.policyInput rt action submitted subject writable "execute" valid) d ∧
          (∃ w ∈ localOf i.caller x, w.Answered (.store .auditIsWritable) (.ok writable)) ∧
          (valid = true →
            ∃ k ∈ localOf i.caller x, ∃ c, Consumes rt.store submitted subject c k) := by
  intro a e b name op action request whole asks work
  have run := reachable_run h
  rw [whole] at run
  obtain ⟨x, i, y, j, actionId, submitted, subject, rfl, origin, inserts, same, known⟩ :=
    work_inserted run fronted asks work
  exact ⟨x, i, y, j, actionId, submitted, subject, rfl, origin, inserts, same,
    insertion_allowed run.until origin inserts known⟩

theorem served_decides {depth : Nat} {floatBool : PyStr → Option Bool}
    {serves : PolicyInput → Inventory → HttpReply → Prop} (scrupulous : Scrupulous depth serves)
    {input : PolicyInput} {inventory : Inventory} {r : Except PolicyExn PolicyDecision}
    (h : (Environment.served depth floatBool serves).decides input inventory r) :
    Environment.governed.decides input inventory r := by
  obtain ⟨reply, served, amounts⟩ := h
  intro decision same
  subst same
  have decides : OpaPolicyEngine.decide depth floatBool reply = .ok decision := by
    generalize OpaPolicyEngine.decide depth floatBool reply = outcome at amounts
    cases amounts
    rfl
  obtain ⟨status, content, members, result, rfl, -, read, there, -⟩ := decide_ok decides
  exact rendered_only decides read
    (scrupulous input inventory status content members result served read there)

/-- The client is transparent: a broker whose engine is the client of a scrupulous server, over a
transport that may fail, does nothing that it would not do with the policy itself; and no rendered
decision is lost in between. -/
theorem served_governed (depth : Nat) (floatBool : PyStr → Option Bool)
    (serves : PolicyInput → Inventory → HttpReply → Prop) (scrupulous : Scrupulous depth serves)
    (rt : Runtime) :
    (∀ c, rt.Reachable (.served depth floatBool serves) c → rt.Reachable .governed c) ∧
    ∀ decision status content members result, HttpReply.success status = true →
      PyJson.loadBytes depth content = .ok (.obj members) → Renders decision members result →
      (OpaPolicyEngine.laxOptional ((pyGet members "decision_id").getD .null)).isSome = true →
      (∀ member ∈ result, ∃ field ∈ OpaPolicyEngine.decisionFields, pyStr field = member.1) →
      OpaPolicyEngine.decide depth floatBool (.answered status content) = .ok decision := by
  constructor
  · intro c h
    refine h.mono fun op s note r t answers => ?_
    cases op with
    | store op => exact answers
    | adapter name op => exact answers
    | decide input => exact ⟨served_decides scrupulous answers.1, answers.2⟩
  · intro decision status content members result success read renders named only
    exact rendered_read success read renders named only

namespace Sample

def decisionMembers (decision : PolicyDecision) : List (PyStr × PyJson) :=
  [(pyStr "allow", .bool decision.allow), (pyStr "reason", .str decision.reason),
    (pyStr "required_confirmation", .str (pyStr decision.requiredConfirmation.value))]

def documentMembers (decision : PolicyDecision) : List (PyStr × PyJson) :=
  [(pyStr "result", .obj (decisionMembers decision))]

def opa (input : PolicyInput) (inventory : Inventory) (reply : HttpReply) : Prop :=
  reply = .answered 200 (encodeUtf8
    ((PyJson.obj (documentMembers (Rego.decision inventory input))).write escapeControl))

theorem document_read (decision : PolicyDecision) :
    PyJson.loadBytes 1000 (encodeUtf8
      ((PyJson.obj (documentMembers decision)).write escapeControl)) =
        .ok (.obj (documentMembers decision)) := by
  refine loadBytes_write reads_control ?_ (by decide : 2 ≤ 1000)
  have names : ((decisionMembers decision).map Prod.fst).Nodup :=
    show [pyStr "allow", pyStr "reason", pyStr "required_confirmation"].Nodup by decide
  exact ⟨ofPairs_distinct (List.nodup_singleton _), trivial, ⟨ofPairs_distinct names, trivial,
    trivial, trivial, trivial, trivial, trivial, trivial⟩, trivial⟩

theorem document_renders (decision : PolicyDecision) :
    Renders decision (documentMembers decision) (decisionMembers decision) :=
  ⟨rfl, rfl, rfl, rfl⟩

theorem opa_scrupulous : Scrupulous 1000 opa := by
  intro input inventory status content members result served read there
  cases served
  rw [document_read] at read
  cases read
  cases there
  exact document_renders _

theorem opa_decides (floatBool : PyStr → Option Bool) (input : PolicyInput)
    (inventory : Inventory) :
    (Environment.served 1000 floatBool opa).decides input inventory
      (.ok (Rego.decision inventory input)) := by
  refine ⟨_, rfl, ?_⟩
  have success : HttpReply.success 200 = true := by decide
  have only : ∀ member ∈ decisionMembers (Rego.decision inventory input),
      ∃ field ∈ OpaPolicyEngine.decisionFields, pyStr field = member.1 := by
    intro member there
    simp only [decisionMembers, List.mem_cons, List.not_mem_nil, or_false] at there
    rcases there with rfl | rfl | rfl
    · exact ⟨"allow", by decide, rfl⟩
    · exact ⟨"reason", by decide, rfl⟩
    · exact ⟨"required_confirmation", by decide, rfl⟩
  rw [rendered_read success (document_read _) (document_renders _) rfl only]
  exact .decided _

theorem allowed_served (floatBool : PyStr → Option Bool) (turns : List Turn) :
    ∀ turn ∈ turns, turn.Allowed (.served 1000 floatBool opa) := by
  intro turn _
  cases turn with
  | policy i inventory => exact fun input => opa_decides floatBool input inventory
  | adapter => exact fun _ _ => trivial
  | _ => trivial

def noFloats (_ : PyStr) : Option Bool := none

def works (e : BrokerEvent) : Bool :=
  match e.op with
  | .adapter _ op => op.work.isSome
  | _ => false

end Sample

open Sample in
theorem allowed_before_worked_mediated : ∃ c, (runtime .confirm).played mediated = some c ∧
    c.log.length = 11 ∧ c.log.countP works = 1 ∧
    ∀ a e b name op action request, c.log = a ++ e :: b → e.op = .adapter name op →
      op.work = some (action, request) →
      ∃ x i y actionId submitted subject writable valid, a = x ++ i :: y ∧
        c.started i.caller = some (.execute actionId submitted subject) ∧
        ∃ d ∈ localOf i.caller x, Permits 1000 noFloats opa
          (Api.policyInput (runtime .confirm) action submitted subject writable "execute" valid)
          d := by
  have outcome : ((runtime .confirm).played mediated).map
      (fun c => (c.log.length, c.log.countP works)) = some (11, 1) := by
    decide +kernel
  obtain ⟨c, played, counts⟩ := Option.map_eq_some_iff.mp outcome
  obtain ⟨length, worked⟩ := Prod.mk.inj counts
  refine ⟨c, played, length, worked, fun a e b name op action request whole asks work => ?_⟩
  obtain ⟨x, i, y, _, actionId, submitted, subject, same, origin, -, -, d, member, writable, valid,
    permits, -⟩ :=
    allowed_before_worked 1000 noFloats opa (runtime .confirm) c
      (played_reachable (allowed_served noFloats mediated) played) (mediated_fronted played)
      a e b name op action request whole asks work
  exact ⟨x, i, y, actionId, submitted, subject, writable, valid, same, origin, d, member, permits⟩

open Sample in
theorem served_governed_mediated : ∃ c, (runtime .confirm).played mediated = some c ∧
    c.log.length = 11 ∧ (runtime .confirm).Reachable .governed c := by
  have outcome : ((runtime .confirm).played mediated).map (fun c => c.log.length) = some 11 := by
    decide +kernel
  obtain ⟨c, played, length⟩ := Option.map_eq_some_iff.mp outcome
  exact ⟨c, played, length,
      (served_governed 1000 noFloats opa opa_scrupulous (runtime .confirm)).1 c
    (played_reachable (allowed_served noFloats mediated) played)⟩

end Deckhand
