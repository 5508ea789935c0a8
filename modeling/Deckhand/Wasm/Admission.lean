import Deckhand.Plugins.Manifest
import Deckhand.Wasm.Payloads

/-! What the socket transport admits, piece by piece, and when it can send the pieces again
inside a payload. -/
namespace Deckhand
open Lib

structure HostHandshake where
  protocolVersion : Int
  pluginId : String
  artifactDigest : String
  manifest : PluginManifest
  actions : List ActionDefinition
  statusProviders : List String

section Handshake
variable (py : Builtins)

def validateActions (pluginId : String) (manifest : PluginManifest) :
    List ActionDefinition → Except HostProtocolError Unit
  | [] => .ok ()
  | action :: rest => do
    refuse (action.plugin ≠ pluginId ∨ action.adapter ∉ manifest.adapters)
      ⟨"host action ownership does not match the manifest"⟩
    validatePublicJson py 0 (Json.py action.parameterSchema)
    validateActions pluginId manifest rest

def validateHandshake (pluginId expectedDigest : String) (handshake : HostHandshake) :
    Except HostProtocolError Unit := do
  refuse (handshake.protocolVersion ≠ hostProtocolVersion)
    ⟨"host uses an unsupported protocol version"⟩
  refuse (handshake.pluginId ≠ pluginId ∨ handshake.manifest.id ≠ pluginId)
    ⟨"host handshake plugin ID does not match"⟩
  refuse (handshake.artifactDigest ≠ expectedDigest) ⟨"host is not running the locked artifact"⟩
  let actionIds := handshake.actions.map ActionDefinition.id
  refuse (¬ (actionIds.Nodup ∧ actionIds ⊆ handshake.manifest.actions ∧
    handshake.manifest.actions ⊆ actionIds)) ⟨"host actions do not match the manifest"⟩
  validateActions py pluginId handshake.manifest handshake.actions

end Handshake

/-- How pydantic reads a datetime, as the text it is dumped to: an ISO 8601 text is short. -/
structure Datetimes where
  parse : Json → Option String
  now : String
  parse_short : ∀ j t, parse j = some t → t.length ≤ 64
  now_short : now.length ≤ 64

def Datetimes.observedAt (dates : Datetimes) : Option Json → Except DataExn String
  | none => .ok dates.now
  | some j => demand (dates.parse j) (.validationError "datetime")

def boundedText (bound : Nat) (j : Option Json) :
    Except DataExn { s : String // 1 ≤ s.length ∧ s.length ≤ bound } :=
  match j with
  | some (.str s) =>
    match scalarText s with
    | some text =>
      if h : 1 ≤ text.length ∧ text.length ≤ bound then .ok ⟨text, h⟩
      else .error (.validationError "text")
    | none => .error (.validationError "text")
  | _ => .error (.validationError "text")

/-- `AdapterObservation.model_validate` of a dict; other keys are forbidden. -/
def AdapterObservation.modelValidate (dates : Datetimes) (d : Dict) :
    Except DataExn AdapterObservation := do
  refuse (d.any fun m => m.1 ≠ "state" ∧ m.1 ≠ "observed_at" ∧ m.1 ≠ "details")
    (.validationError "AdapterObservation")
  let state ← boundedText 128 (Dict.get? d "state")
  let observedAt ← dates.observedAt (Dict.get? d "observed_at")
  let details ← dictOrEmpty (Dict.get? d "details")
  return ⟨state.1, observedAt, .ofDict details, state.2.1, state.2.2⟩

def shortKeys (j : Json) : Bool := j.every (fun _ => true) fun k => k.length ≤ 128

section Shape
variable {py : Builtins}

theorem pyItems_map (items : List Json) : Json.pyItems items = items.map Json.py := by
  induction items with
  | nil => rfl
  | cons j rest ih => rw [List.map_cons, ← ih, Json.pyItems]

theorem admissible_obj {ms : List (PyStr × Json)} : Admissible py (Json.py (.obj ms)) ↔
    ms.length ≤ maxPublicItems ∧ ∀ m ∈ ms, (m.1.length ≤ 128 ∧ sensitiveKey py m.1 = false) ∧
      Admissible py (Json.py m.2) := by
  rw [Json.py, Admissible, pyMembers_map, List.length_map, admissibleMembers_iff,
    List.forall_mem_map]

theorem admissible_arr {items : List Json} : Admissible py (Json.py (.arr items)) ↔
    items.length ≤ maxPublicItems ∧ ∀ j ∈ items, Admissible py (Json.py j) := by
  rw [Json.py, Admissible, pyItems_map, List.length_map, admissibleItems_iff, List.forall_mem_map]

/-- What a dict of JSON mode has in it comes of what is in the dict, and is no more of it. -/
theorem admissible_mode {ms : List (PyStr × Json)} (raw : Admissible py (Json.py (.obj ms)))
    (each : ∀ m ∈ ms, shortKeys m.2.jsonMode = true → Admissible py (Json.py m.2.jsonMode))
    (short : shortKeys (Json.obj ms).jsonMode = true) :
    Admissible py (Json.py (Json.obj ms).jsonMode) := by
  rw [admissible_obj] at raw
  rw [jsonMode_obj] at short ⊢
  rw [admissible_obj]
  have fewer := (ofPairs_subperm (jsonModeMembers ms)).length_le
  rw [jsonModeMembers_map, List.length_map, ← jsonModeMembers_map] at fewer
  refine ⟨fewer.trans raw.1, fun m kept => ?_⟩
  obtain ⟨n, member, rfl⟩ := mem_jsonMode kept
  obtain ⟨name, value⟩ := every_obj.mp short _ kept
  exact ⟨⟨of_decide_eq_true name, sensitiveKey_lossy py (raw.2 n member).1.2⟩, each n member value⟩

mutual
/-- What is public stays so in JSON mode if its keys, in which a surrogate is now three
characters, are not too long. -/
theorem admissible_jsonMode : ∀ {j : Json}, Admissible py (Json.py j) →
    shortKeys j.jsonMode = true → Admissible py (Json.py j.jsonMode)
  | .null, _, _ => trivial
  | .bool _, _, _ => trivial
  | .int _, _, _ => trivial
  | .float .nan, _, _ => trivial
  | .float (.infinity _), _, _ => trivial
  | .float (.finite _ _), h, _ => h
  | .str _, h, _ => h
  | .arr items, h, short => by
    rw [admissible_arr] at h
    obtain ⟨width, each⟩ := h
    have inner := admissible_jsonModeItems items each (every_arr.mp short)
    rw [Json.jsonMode, admissible_arr, jsonModeItems_map, List.length_map, ← jsonModeItems_map]
    exact ⟨width, inner⟩
  | .obj ms, h, short =>
    admissible_mode h (admissible_jsonModeMembers ms fun m here =>
      ((admissible_obj.mp h).2 m here).2)
      short

theorem admissible_jsonModeItems : ∀ items : List Json,
    (∀ j ∈ items, Admissible py (Json.py j)) →
    (∀ j ∈ jsonModeItems items, shortKeys j = true) →
    ∀ j ∈ jsonModeItems items, Admissible py (Json.py j)
  | [], _, _ => List.forall_mem_nil _
  | _ :: rest, h, short => by
    obtain ⟨first, others⟩ := List.forall_mem_cons.mp h
    obtain ⟨one, more⟩ := List.forall_mem_cons.mp short
    exact List.forall_mem_cons.mpr
      ⟨admissible_jsonMode first one, admissible_jsonModeItems rest others more⟩

theorem admissible_jsonModeMembers : ∀ ms : List (PyStr × Json),
    (∀ m ∈ ms, Admissible py (Json.py m.2)) →
    ∀ m ∈ ms, shortKeys m.2.jsonMode = true → Admissible py (Json.py m.2.jsonMode)
  | [], _ => List.forall_mem_nil _
  | (_, _) :: rest, h => by
    obtain ⟨first, others⟩ := List.forall_mem_cons.mp h
    exact List.forall_mem_cons.mpr
      ⟨admissible_jsonMode first, admissible_jsonModeMembers rest others⟩
end

mutual
theorem admissible_shortKeys : ∀ {j : Json}, Admissible py (Json.py j) → shortKeys j = true
  | .null, _ => rfl
  | .bool _, _ => rfl
  | .int _, _ => rfl
  | .float _, _ => rfl
  | .str _, _ => rfl
  | .arr items, h => every_arr.mpr (admissibleItems_shortKeys items (admissible_arr.mp h).2)
  | .obj ms, h => every_obj.mpr fun m here =>
      ⟨decide_eq_true ((admissible_obj.mp h).2 m here).1.1, admissibleMembers_shortKeys ms
        (fun n there => ((admissible_obj.mp h).2 n there).2) m here⟩

theorem admissibleItems_shortKeys : ∀ items : List Json,
    (∀ j ∈ items, Admissible py (Json.py j)) → ∀ j ∈ items, shortKeys j = true
  | [], _ => List.forall_mem_nil _
  | _ :: rest, h => by
    obtain ⟨first, others⟩ := List.forall_mem_cons.mp h
    exact List.forall_mem_cons.mpr
      ⟨admissible_shortKeys first, admissibleItems_shortKeys rest others⟩

theorem admissibleMembers_shortKeys : ∀ ms : List (PyStr × Json),
    (∀ m ∈ ms, Admissible py (Json.py m.2)) → ∀ m ∈ ms, shortKeys m.2 = true
  | [], _ => List.forall_mem_nil _
  | (_, _) :: rest, h => by
    obtain ⟨first, others⟩ := List.forall_mem_cons.mp h
    exact List.forall_mem_cons.mpr
      ⟨admissible_shortKeys first, admissibleMembers_shortKeys rest others⟩
end

theorem jsonMode_admissible_iff {j : Json} (raw : Admissible py (Json.py j)) :
    Admissible py (Json.py j.jsonMode) ↔ shortKeys j.jsonMode = true :=
  ⟨admissible_shortKeys, admissible_jsonMode raw⟩

theorem heightMembers_append (ms ns : PyDict) :
    heightMembers (ms ++ ns) = max (heightMembers ms) (heightMembers ns) := by
  induction ms with
  | nil => simp [heightMembers]
  | cons m ms ih =>
    obtain ⟨k, v⟩ := m
    simp only [List.cons_append, heightMembers, ih]
    omega

theorem admissibleMembers_append (ms ns : PyDict) :
    AdmissibleMembers py (ms ++ ns) ↔ AdmissibleMembers py ms ∧ AdmissibleMembers py ns := by
  induction ms with
  | nil => simp [AdmissibleMembers]
  | cons m ms ih =>
    obtain ⟨k, v⟩ := m
    simp only [List.cons_append, AdmissibleMembers, ih, and_assoc]

theorem heightItems_strings (xs : List String) : heightItems (xs.map strJson) ≤ 1 := by
  induction xs with
  | nil => simp [heightItems]
  | cons x xs ih =>
    simp only [List.map_cons, heightItems, strJson, height]
    omega

theorem admissible_strJson (s : String) :
    Admissible py (strJson s) ↔ s.length ≤ maxPublicString := by
  rw [strJson, Admissible, pyStr_length]

theorem admissibleItems_strings (xs : List String) :
    AdmissibleItems py (xs.map strJson) ↔ ∀ x ∈ xs, x.length ≤ maxPublicString := by
  induction xs with
  | nil => simp [AdmissibleItems]
  | cons x xs ih =>
    simp only [List.map_cons, AdmissibleItems, admissible_strJson, ih, List.forall_mem_cons]

end Shape

def payloadKeys : List String :=
  ["adapter", "action", "request", "execution", "observation", "id", "version", "title",
    "description", "risk_class", "plugin", "target_types", "parameter_schema", "policy_action",
    "confirmation", "timeout_seconds", "idempotency", "mutation", "reference", "details", "state",
    "observed_at"]

theorem payloadKeys_plain (py : Builtins) : ∀ key ∈ payloadKeys,
    (pyStr key).length ≤ 128 ∧ sensitiveKey py (pyStr key) = false := by
  have short : ∀ key ∈ payloadKeys, (pyStr key).length ≤ 128 := by decide +kernel
  have ascii : (payloadKeys.all fun key => (pyStr key).all fun c => c.val < 0x80) = true := by
    decide +kernel
  have plain : ∀ key ∈ payloadKeys, ∀ part ∈ sensitiveKeyParts,
      ¬ part <:+: (pyStr key).map asciiLower := by decide +kernel
  intro key member
  have low : ∀ c ∈ pyStr key, c.val < 0x80 := by
    intro c among
    exact of_decide_eq_true (List.all_eq_true.mp (List.all_eq_true.mp ascii key member) c among)
  rw [sensitiveKey, py.lower_ascii _ low]
  refine ⟨short key member, List.any_eq_false.mpr fun part among => ?_⟩
  simpa using plain key member part among

def ActionDefinition.strings (a : ActionDefinition) : List String :=
  [a.id, a.title, a.description, a.plugin, a.adapter, a.policyAction, a.idempotency] ++
    a.targetTypes

section Pieces
variable {py : Builtins}

theorem members_height (a : ActionDefinition) : heightMembers a.members + 1 ≤ maxPublicDepth ↔
    height (Json.py a.parameterSchema.jsonMode) ≤ 6 := by
  have targets := heightItems_strings a.targetTypes
  simp only [ActionDefinition.members, heightMembers, strJson, height, maxPublicDepth]
  omega

theorem members_admissible {a : ActionDefinition}
    (schema : Admissible py (Json.py a.parameterSchema)) : AdmissibleMembers py a.members ↔
      shortKeys a.parameterSchema.jsonMode = true ∧ a.targetTypes.length ≤ maxPublicItems ∧
        ∀ s ∈ a.strings, s.length ≤ maxPublicString := by
  have keys := payloadKeys_plain py
  simp only [payloadKeys, List.forall_mem_cons] at keys
  have risk : a.riskClass.value.length ≤ maxPublicString := by cases a.riskClass <;> decide
  have mode : a.confirmation.value.length ≤ maxPublicString := by cases a.confirmation <;> decide
  have dumped := jsonMode_admissible_iff schema
  simp only [ActionDefinition.members, ActionDefinition.strings, AdmissibleMembers, keys,
    admissible_strJson, risk, mode, dumped, Admissible, List.length_map, admissibleItems_strings,
    List.forall_mem_append, List.forall_mem_cons, List.not_mem_nil, true_and, and_true]
  constructor
  · rintro ⟨i, t, d, p, a, ⟨width, targets⟩, short, policy, key⟩
    exact ⟨short, width, ⟨i, t, d, p, a, policy, key, fun _ none => none.elim⟩, targets⟩
  · rintro ⟨short, width, ⟨i, t, d, p, a, policy, key, -⟩, targets⟩
    exact ⟨i, t, d, p, a, ⟨width, targets⟩, short, policy, key⟩

def ActionRequest.publicMembers (r : ActionRequest) : PyDict :=
  r.members.filter fun m => m.1 ≠ pyStr "confirmation_token"

theorem publicMembers_eq (r : ActionRequest) : r.publicMembers =
    r.plainMembers ++ [(pyStr "confirmation_response", optionalStr r.confirmationResponse)] := by
  have other : ∀ name ∈ ["action_id", "action_version", "target", "parameters", "context",
      "idempotency_key", "dry_run", "confirmation_response"],
      decide (pyStr name ≠ pyStr "confirmation_token") = true := by decide +kernel
  simp only [List.forall_mem_cons] at other
  simp only [ActionRequest.publicMembers, ActionRequest.members, ActionRequest.plainMembers,
    List.cons_append, List.nil_append, List.filter_cons, other, if_true, ne_eq, not_true_eq_false,
    decide_false, Bool.false_eq_true, if_false, List.filter_nil]

theorem optionalStr_height (t : Option String) : height (optionalStr t) = 0 := by
  cases t <;> rfl

theorem textOrNull_height (t : Option String) : height (Json.py (textOrNull t)) = 0 := by
  cases t <;> rfl

theorem publicMembers_height (r : ActionRequest) :
    heightMembers r.publicMembers + 1 ≤ maxPublicDepth ↔
    heightMembers (Json.pyMembers r.parameters.jsonMode) ≤ 6 := by
  simp only [publicMembers_eq, ActionRequest.plainMembers, List.cons_append, List.nil_append,
    heightMembers, strJson, height, maxPublicDepth, Target.modelDump,
    RequestContext.modelDump, Json.py, Json.pyMembers, optionalStr_height, textOrNull_height]
  omega

theorem get?_admissible {d : Dict} {key : PyStr} {j : Json} (found : Dict.get? d key = some j)
    (all : Admissible py (Json.py (.obj d))) : Admissible py (Json.py j) := by
  obtain ⟨m, member, rfl⟩ := Option.map_eq_some_iff.mp found
  exact ((admissible_obj.mp all).2 m (List.mem_of_find?_eq_some member)).2

theorem dictOrEmpty_admissible {d details : Dict} {key : PyStr}
    (read : dictOrEmpty (Dict.get? d key) = .ok details)
    (all : Admissible py (Json.py (.obj d))) : Admissible py (Json.py (.obj details)) := by
  cases found : Dict.get? d key with
  | none =>
    rw [found] at read
    cases read
    exact ⟨Nat.zero_le _, trivial⟩
  | some j =>
    rw [found] at read
    have one := get?_admissible found all
    cases j <;> cases read
    exact one

theorem modelValidate_details {raw : Dict} {x : AdapterExecution}
    (read : AdapterExecution.modelValidate raw = .ok x) : ∃ details,
    dictOrEmpty (Dict.get? raw "details") = .ok details ∧ x.details = .ofDict details := by
  unfold AdapterExecution.modelValidate at read
  dsimp only at read
  split at read
  · cases read
  · obtain ⟨reference, -, read⟩ := bind_ok.mp read
    obtain ⟨details, kept, same⟩ := bind_ok.mp read
    cases pure_ok.mp same
    exact ⟨details, kept, rfl⟩

theorem modelValidate_observation {dates : Datetimes} {raw : Dict} {o : AdapterObservation}
    (read : AdapterObservation.modelValidate dates raw = .ok o) : (∃ details,
      dictOrEmpty (Dict.get? raw "details") = .ok details ∧ o.details = .ofDict details) ∧
        o.observedAt.length ≤ 64 := by
  unfold AdapterObservation.modelValidate at read
  obtain ⟨-, -, read⟩ := bind_ok.mp read
  obtain ⟨state, -, read⟩ := bind_ok.mp read
  obtain ⟨observedAt, time, read⟩ := bind_ok.mp read
  obtain ⟨details, kept, same⟩ := bind_ok.mp read
  cases pure_ok.mp same
  refine ⟨⟨details, kept, rfl⟩, ?_⟩
  cases given : Dict.get? raw "observed_at" with
  | none =>
    rw [given] at time
    cases time
    exact dates.now_short
  | some j =>
    rw [given] at time
    exact dates.parse_short _ _ (demand_ok.mp time)

/-- Details that were validated are dumped to something public if their keys stay short. -/
theorem details_admissible {raw details : Dict} {d : Details}
    (checked : validatePublicJson py 0 (Json.py (.obj raw)) = .ok ())
    (read : dictOrEmpty (Dict.get? raw "details") = .ok details) (same : d = .ofDict details) :
    Admissible py (Json.py (.obj d.jsonMode)) ↔ shortKeys (.obj d.jsonMode) = true := by
  subst same
  rw [ofDict_jsonMode]
  exact jsonMode_admissible_iff
    (dictOrEmpty_admissible read ((validatePublicJson_ok _).mp checked).2)

theorem execution_admissible {raw : Dict} {x : AdapterExecution}
    (checked : validatePublicJson py 0 (Json.py (.obj raw)) = .ok ())
    (read : AdapterExecution.modelValidate raw = .ok x) :
    Admissible py x.dumped ↔ shortKeys (.obj x.details.jsonMode) = true := by
  have keys := payloadKeys_plain py
  simp only [payloadKeys, List.forall_mem_cons] at keys
  obtain ⟨details, kept, same⟩ := modelValidate_details read
  rw [← details_admissible checked kept same]
  have reference : Admissible py (Json.py (textOrNull x.reference)) := by
    cases held : x.reference with
    | none => trivial
    | some r =>
      have bounded := x.referenceBounded r held
      exact (admissible_strJson r).mpr (by simp only [maxPublicString]; omega)
  have two : 2 ≤ maxPublicItems := by decide
  simp only [AdapterExecution.dumped, AdapterExecution.modelDump, Json.py, Json.pyMembers,
    Admissible, AdmissibleMembers, keys, reference, List.length_cons, List.length_nil, two,
    and_true, true_and]

theorem observation_admissible {dates : Datetimes} {raw : Dict} {o : AdapterObservation}
    (checked : validatePublicJson py 0 (Json.py (.obj raw)) = .ok ())
    (read : AdapterObservation.modelValidate dates raw = .ok o) :
    Admissible py o.dumped ↔ shortKeys (.obj o.details.jsonMode) = true := by
  have keys := payloadKeys_plain py
  simp only [payloadKeys, List.forall_mem_cons] at keys
  obtain ⟨⟨details, kept, same⟩, short⟩ := modelValidate_observation read
  rw [← details_admissible checked kept same]
  have state : (pyStr o.state).length ≤ maxPublicString :=
    (pyStr_length _).trans_le (o.stateBounded.trans (by decide))
  have observedAt : (pyStr o.observedAt).length ≤ maxPublicString :=
    (pyStr_length _).trans_le (short.trans (by decide))
  have three : 3 ≤ maxPublicItems := by decide
  simp only [AdapterObservation.dumped, AdapterObservation.modelDump, Json.py, Json.pyMembers,
    AdmissibleMembers, keys, Admissible, List.length_cons, List.length_nil, three, state,
    observedAt, and_true, true_and]

theorem execution_height (x : AdapterExecution) : height x.dumped + 1 ≤ maxPublicDepth ↔
    heightMembers (Json.pyMembers x.details.jsonMode) ≤ 6 := by
  simp only [AdapterExecution.dumped, AdapterExecution.modelDump, Json.py, Json.pyMembers, height,
    heightMembers, textOrNull_height, maxPublicDepth]
  omega

theorem observation_height (o : AdapterObservation) : height o.dumped + 1 ≤ maxPublicDepth ↔
    heightMembers (Json.pyMembers o.details.jsonMode) ≤ 6 := by
  simp only [AdapterObservation.dumped, AdapterObservation.modelDump, Json.py, Json.pyMembers,
    height, heightMembers, maxPublicDepth]
  omega

end Pieces

section Resend
variable (py : Builtins) (dates : Datetimes)

def ActionAdmitted (pluginId digest : String) (action : ActionDefinition) : Prop :=
  ∃ handshake, validateHandshake py pluginId digest handshake = .ok () ∧ action ∈ handshake.actions

def RequestAdmitted (request : ActionRequest) : Prop := ∃ v, requestDump py request = .ok v

/-- It came back through the check of a response. -/
def ExecutionAdmitted (x : AdapterExecution) : Prop :=
  ∃ raw, validatePublicJson py 0 (Json.py (.obj raw)) = .ok () ∧
    AdapterExecution.modelValidate raw = .ok x

def ObservationAdmitted (o : AdapterObservation) : Prop :=
  ∃ raw, validatePublicJson py 0 (Json.py (.obj raw)) = .ok () ∧
    AdapterObservation.modelValidate dates raw = .ok o

def PiecesAdmitted (pluginId digest : String) : Lifecycle → Prop
  | .health => True
  | .call (.plan action request) => ActionAdmitted py pluginId digest action ∧
    RequestAdmitted py request
  | .call (.execute action request) =>
    ActionAdmitted py pluginId digest action ∧ RequestAdmitted py request
  | .call (.observe action request) =>
    ActionAdmitted py pluginId digest action ∧ RequestAdmitted py request
  | .call (.verify action request execution observation) =>
    (ActionAdmitted py pluginId digest action ∧ RequestAdmitted py request) ∧
      ExecutionAdmitted py execution ∧ ObservationAdmitted py dates observation
  | .call (.cancel action request execution) =>
    (ActionAdmitted py pluginId digest action ∧ RequestAdmitted py request) ∧
      ∀ x ∈ execution, ExecutionAdmitted py x

/-- As they are dumped, the schema and the parameters leave room for the two levels around them,
and the keys of the schema are short. -/
def Fits (action : ActionDefinition) (request : ActionRequest) : Prop :=
  height (Json.py action.parameterSchema.jsonMode) ≤ 6 ∧
    (shortKeys action.parameterSchema.jsonMode = true ∧
      action.targetTypes.length ≤ maxPublicItems ∧
      ∀ s ∈ action.strings, s.length ≤ maxPublicString) ∧
    heightMembers (Json.pyMembers request.parameters.jsonMode) ≤ 6

/-- So do details, as they are dumped. -/
def DetailsFit (details : Details) : Prop :=
  heightMembers (Json.pyMembers details.jsonMode) ≤ 6 ∧ shortKeys (.obj details.jsonMode) = true

def Resendable (adapterId : String) : Lifecycle → Prop
  | .health => adapterId.length ≤ maxPublicString
  | .call (.plan action request) => adapterId.length ≤ maxPublicString ∧ Fits action request
  | .call (.execute action request) => adapterId.length ≤ maxPublicString ∧ Fits action request
  | .call (.observe action request) => adapterId.length ≤ maxPublicString ∧ Fits action request
  | .call (.verify action request execution observation) =>
    (adapterId.length ≤ maxPublicString ∧ Fits action request) ∧ DetailsFit execution.details ∧
      DetailsFit observation.details
  | .call (.cancel action request execution) =>
    (adapterId.length ≤ maxPublicString ∧ Fits action request) ∧
      ∀ x ∈ execution, DetailsFit x.details

end Resend

section Composed
variable {py : Builtins} {adapterId : String} {action : ActionDefinition} {request : ActionRequest}

theorem validateActions_schema {pluginId : String} {manifest : PluginManifest}
    {actions : List ActionDefinition}
    (valid : validateActions py pluginId manifest actions = .ok ()) (member : action ∈ actions) :
    Admissible py (Json.py action.parameterSchema) := by
  induction actions with
  | nil => cases member
  | cons first rest ih =>
    simp only [validateActions, check_bind] at valid
    rcases List.mem_cons.mp member with rfl | member
    · exact ((validatePublicJson_ok _).mp valid.2.1).2
    · exact ih valid.2.2 member

theorem schema_admissible {pluginId digest : String}
    (admitted : ActionAdmitted py pluginId digest action) :
    Admissible py (Json.py action.parameterSchema) := by
  obtain ⟨handshake, valid, member⟩ := admitted
  simp only [validateHandshake, refuse_bind] at valid
  exact validateActions_schema valid.2.2.2.2 member

theorem requestDump_ok (admitted : RequestAdmitted py request) :
    requestDump py request = .ok (.obj request.publicMembers) ∧
      Admissible py (.obj request.publicMembers) := by
  obtain ⟨v, dumped⟩ := admitted
  simp only [requestDump, check_bind, pure_ok] at dumped ⊢
  exact ⟨⟨dumped.1, rfl⟩, ((validatePublicJson_ok _).mp dumped.1).2⟩

/-- The three members that every payload about an action starts with, and what may follow. -/
theorem payload_ok (schema : Admissible py (Json.py action.parameterSchema))
    (dumped : RequestAdmitted py request) {more : PyDict} (few : more.length ≤ 2) :
    validatePublicJson py 0 (.obj ([(pyStr "adapter", strJson adapterId),
        (pyStr "action", .obj action.members), (pyStr "request", .obj request.publicMembers)] ++
          more)) = .ok () ↔
      (adapterId.length ≤ maxPublicString ∧ Fits action request) ∧
        heightMembers more ≤ maxPublicDepth ∧ AdmissibleMembers py more := by
  have keys := payloadKeys_plain py
  simp only [payloadKeys, List.forall_mem_cons] at keys
  have requestPublic := (requestDump_ok dumped).2
  have width : ∀ n, n ≤ 2 → 3 + n ≤ maxPublicItems := by
    intro n small
    simp only [maxPublicItems]
    omega
  have fourteen : action.members.length ≤ maxPublicItems := by
    simp only [ActionDefinition.members, List.length_cons, List.length_nil]
    decide
  have named : Admissible py (.str (pyStr adapterId)) ↔ adapterId.length ≤ maxPublicString :=
    admissible_strJson adapterId
  have described : Admissible py (.obj action.members) ↔
      shortKeys action.parameterSchema.jsonMode = true ∧
        action.targetTypes.length ≤ maxPublicItems ∧
        ∀ s ∈ action.strings, s.length ≤ maxPublicString := by
    rw [Admissible, members_admissible schema]
    simp only [fourteen, true_and]
  rw [validatePublicJson_ok, height, heightMembers_append, Admissible, admissibleMembers_append,
    Nat.zero_add, Nat.max_le]
  simp only [heightMembers, height, strJson, Nat.max_le, members_height, publicMembers_height,
    AdmissibleMembers, keys, named, described, requestPublic, List.length_append,
    List.length_cons, List.length_nil, width _ few, Fits, and_true, true_and]
  constructor
  · rintro ⟨⟨⟨-, schema, parameters, -⟩, below⟩, ⟨name, strings⟩, fields⟩
    exact ⟨⟨name, schema, strings, parameters⟩, below, fields⟩
  · rintro ⟨⟨name, schema, strings, parameters⟩, below, fields⟩
    exact ⟨⟨⟨by decide, schema, parameters, by decide⟩, below⟩, ⟨name, strings⟩, fields⟩

theorem sends_iff {l : Lifecycle} (more : PyDict)
    (payload : hostPayload py adapterId l =
      (actionPayload py adapterId action request).map (· ++ more))
    (schema : Admissible py (Json.py action.parameterSchema))
    (dumped : RequestAdmitted py request) (few : more.length ≤ 2) :
    (∃ p, hostSends py adapterId l = .ok p) ↔
      (adapterId.length ≤ maxPublicString ∧ Fits action request) ∧
        heightMembers more ≤ maxPublicDepth ∧ AdmissibleMembers py more := by
  have built : hostPayload py adapterId l = .ok ([(pyStr "adapter", strJson adapterId),
      (pyStr "action", .obj action.members), (pyStr "request", .obj request.publicMembers)] ++
        more) := by
    rw [payload, actionPayload, (requestDump_ok dumped).1]
    rfl
  rw [hostSends, built, ok_bind, ← payload_ok schema dumped few]
  simp only [check_bind, mapError_ok, pure_ok, exists_and_left, exists_eq', and_true]

theorem execution_dump {raw : Dict} {x : AdapterExecution}
    (read : AdapterExecution.modelValidate raw = .ok x) : x.dump = .ok x.dumped := by
  obtain ⟨details, -, same⟩ := modelValidate_details read
  exact refuse_bind.mpr ⟨by simp [same, ofDict_dumps], rfl⟩

theorem observation_dump {dates : Datetimes} {raw : Dict} {o : AdapterObservation}
    (read : AdapterObservation.modelValidate dates raw = .ok o) : o.dump = .ok o.dumped := by
  obtain ⟨⟨details, -, same⟩, -⟩ := modelValidate_observation read
  exact refuse_bind.mpr ⟨by simp [same, ofDict_dumps], rfl⟩

end Composed

/-- What was admitted piece by piece can be sent again exactly when it leaves room for the levels
and the strings around it. -/
theorem resend_iff (py : Builtins) (dates : Datetimes) (pluginId digest adapterId : String)
    (l : Lifecycle) (admitted : PiecesAdmitted py dates pluginId digest l) :
    (∃ payload, hostSends py adapterId l = .ok payload) ↔ Resendable adapterId l := by
  have keys := payloadKeys_plain py
  simp only [payloadKeys, List.forall_mem_cons] at keys
  have nothing : ∀ {action request}, ActionAdmitted py pluginId digest action →
      RequestAdmitted py request →
        hostPayload py adapterId l = actionPayload py adapterId action request →
      ((∃ payload, hostSends py adapterId l = .ok payload) ↔
        adapterId.length ≤ maxPublicString ∧ Fits action request) := by
    intro action request accepted dumped payload
    have more : hostPayload py adapterId l =
        (actionPayload py adapterId action request).map (· ++ []) := by
      rw [payload]
      cases actionPayload py adapterId action request with
      | error x => rfl
      | ok members => exact congrArg Except.ok (List.append_nil members).symm
    rw [sends_iff [] more (schema_admissible accepted) dumped (by decide)]
    exact and_iff_left ⟨Nat.zero_le _, trivial⟩
  cases l with
  | health =>
    have named : Admissible py (.str (pyStr adapterId)) ↔ adapterId.length ≤ maxPublicString :=
      admissible_strJson adapterId
    rw [Resendable, ← named]
    simp only [hostSends, hostPayload, ok_bind, check_bind, mapError_ok, pure_ok,
      validatePublicJson_ok, exists_eq_right', height, heightMembers, strJson, Admissible,
      AdmissibleMembers, keys, List.length_cons, List.length_nil, and_true, true_and]
    exact ⟨fun sent => sent.2.2, fun short => ⟨by decide, by decide, short⟩⟩
  | call op =>
    cases op with
    | plan action request => exact nothing admitted.1 admitted.2 rfl
    | execute action request => exact nothing admitted.1 admitted.2 rfl
    | observe action request => exact nothing admitted.1 admitted.2 rfl
    | verify action request execution observation =>
      obtain ⟨⟨accepted, dumped⟩, ⟨raw, checked, read⟩, raw', checked', read'⟩ := admitted
      have payload :
          hostPayload py adapterId (.call (.verify action request execution observation)) =
          (actionPayload py adapterId action request).map (· ++
            [(pyStr "execution", execution.dumped),
              (pyStr "observation", observation.dumped)]) := by
        rw [hostPayload, execution_dump read, observation_dump read']
        cases actionPayload py adapterId action request <;> rfl
      rw [sends_iff _ payload (schema_admissible accepted) dumped (by simp)]
      simp only [heightMembers, Nat.max_le, execution_height, observation_height, Nat.zero_le,
        AdmissibleMembers, keys, execution_admissible checked read,
        observation_admissible checked' read', and_true, true_and, Resendable, DetailsFit]
      refine and_congr_right fun _ => ?_
      rw [and_and_and_comm]
    | cancel action request execution =>
      obtain ⟨⟨accepted, dumped⟩, returned⟩ := admitted
      have payload : hostPayload py adapterId (.call (.cancel action request execution)) =
          (actionPayload py adapterId action request).map (· ++
            [(pyStr "execution", execution.elim .null AdapterExecution.dumped)]) := by
        have sent : executionDump execution =
            .ok (execution.elim .null AdapterExecution.dumped) := by
          cases execution with
          | none => rfl
          | some x =>
            obtain ⟨raw, -, read⟩ := returned x rfl
            exact execution_dump read
        rw [hostPayload, sent]
        cases actionPayload py adapterId action request <;> rfl
      rw [sends_iff _ payload (schema_admissible accepted) dumped (by simp)]
      cases execution with
      | none =>
        simp [heightMembers, height, AdmissibleMembers, Admissible, keys, Resendable,
          maxPublicDepth]
      | some x =>
        obtain ⟨raw, checked, read⟩ := returned x rfl
        simp only [Option.elim_some, heightMembers, Nat.max_le, execution_height, Nat.zero_le,
          AdmissibleMembers, keys, execution_admissible checked read, and_true, true_and,
          Resendable, Option.mem_some, forall_eq', DetailsFit]

def sampleManifest : PluginManifest where
  id := "dh-core"
  version := "1.0.0"
  apiVersion := 1
  adapters := ["dh-core.fake"]
  actions := ["test.resource.ensure_active"]
  permissions := ⟨true⟩
  configSchema := .obj []
  namespaced := by decide
  unique := by decide

def sampleHandshake : HostHandshake :=
  ⟨1, "dh-core", "sha256:00", sampleManifest, [Sample.ensureActive .confirm], []⟩

def sampleDates : Datetimes where
  parse _ := none
  now := "2026-08-14T00:00:00Z"
  parse_short := by simp
  now_short := by decide

def deepDetails : Dict := [("a", .arr [.arr [.arr [.arr [.arr [.arr [.null]]]]]])]

def deepExecution : AdapterExecution := ⟨none, .ofDict deepDetails, AdapterExecution.unreferenced⟩

def sampleObservation : AdapterObservation :=
  ⟨"healthy", "2026-08-14T00:00:00Z", [], Sample.healthy_nonempty, Sample.healthy_bounded⟩

def deepVerify : Lifecycle :=
  .call (.verify (Sample.ensureActive .confirm) (Sample.request Sample.keyA) deepExecution
      sampleObservation)

theorem deepVerify_admitted :
    PiecesAdmitted asciiOnly sampleDates "dh-core" "sha256:00" deepVerify := by
  have accepted : validateHandshake asciiOnly "dh-core" "sha256:00" sampleHandshake = .ok () := by
    decide +kernel
  have dumped : validatePublicJson asciiOnly 0 (.obj (Sample.request Sample.keyA).publicMembers) =
      .ok () := by decide +kernel
  have public₁ : validatePublicJson asciiOnly 0
      (.obj (Json.pyMembers [("details", .obj deepDetails)])) = .ok () := by decide +kernel
  have public₂ : validatePublicJson asciiOnly 0
      (.obj (Json.pyMembers [("state", .str "healthy")])) = .ok () := by decide +kernel
  refine ⟨⟨⟨sampleHandshake, accepted, List.mem_singleton.mpr rfl⟩, ?_⟩, ⟨_, public₁, rfl⟩,
    _, public₂, rfl⟩
  exact ⟨_, check_bind.mpr ⟨dumped, rfl⟩⟩

theorem resend_iff_deepVerify :
    (∃ payload, hostSends asciiOnly "dh-core.fake" deepVerify = .ok payload) ↔
      Resendable "dh-core.fake" deepVerify :=
  resend_iff asciiOnly sampleDates "dh-core" "sha256:00" "dh-core.fake" deepVerify
    deepVerify_admitted

/-- Everything was admitted, the action can be executed, and the execution cannot be verified. -/
theorem executed_unverifiable :
    PiecesAdmitted asciiOnly sampleDates "dh-core" "sha256:00" deepVerify ∧
      (∃ payload, hostSends asciiOnly "dh-core.fake" executed = .ok payload) ∧
      ¬ ∃ payload, hostSends asciiOnly "dh-core.fake" deepVerify = .ok payload := by
  have fits : (hostSends asciiOnly "dh-core.fake" executed).toBool = true := by decide +kernel
  have deep : (hostSends asciiOnly "dh-core.fake" deepVerify).toBool = false := by decide +kernel
  refine ⟨deepVerify_admitted, ?_, ?_⟩
  · cases sent : hostSends asciiOnly "dh-core.fake" executed with
    | ok payload => exact ⟨payload, rfl⟩
    | error x =>
      rw [sent] at fits
      cases fits
  · rintro ⟨payload, sent⟩
    rw [sent] at deep
    cases deep

end Deckhand
