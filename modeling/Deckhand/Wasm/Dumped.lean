import Deckhand.Wasm.Admission
import Deckhand.Wasm.Frames

/-! What is sent to a host is what models are dumped to: a dict of Python's, and the same again in
JSON mode. -/
namespace Deckhand
open Lib

/-- `action.model_dump(mode="json")`, as JSON. -/
def ActionDefinition.modelDump (a : ActionDefinition) : Dict :=
  [("id", .str a.id), ("version", .int a.version), ("title", .str a.title),
    ("description", .str a.description), ("risk_class", .str a.riskClass.value),
    ("plugin", .str a.plugin), ("adapter", .str a.adapter),
    ("target_types", .arr (a.targetTypes.map fun t : String => .str t)),
    ("parameter_schema", a.parameterSchema.jsonMode), ("policy_action", .str a.policyAction),
    ("confirmation", .str a.confirmation.value), ("timeout_seconds", .int a.timeoutSeconds),
    ("idempotency", .str a.idempotency), ("mutation", .bool a.mutation)]

/-- The action that pydantic reads back from what it dumped. -/
def ActionDefinition.modelDumpJson (a : ActionDefinition) : ActionDefinition :=
  { a with parameterSchema := a.parameterSchema.jsonMode }

def ActionRequest.publicDump (r : ActionRequest) : Dict :=
  [("action_id", .str r.actionId), ("action_version", .int r.actionVersion),
    ("target", r.target.modelDump), ("parameters", .obj r.parameters.jsonMode),
    ("context", r.context.modelDump), ("idempotency_key", .str r.idempotencyKey),
    ("dry_run", .bool r.dryRun), ("confirmation_response", textOrNull r.confirmationResponse)]

section Same
variable {d : Dict}

theorem jsonMode_named (names : List String) (distinct : names.Nodup)
    (same : d.map Prod.fst = names.map pyStr) :
    d.jsonMode = d.map fun m => (m.1, m.2.jsonMode) := by
  have plain : ∀ m ∈ d, lossy m.1 = m.1 := by
    intro m here
    have named := List.mem_map_of_mem here (f := Prod.fst)
    rw [same] at named
    obtain ⟨name, -, spelt⟩ := List.mem_map.mp named
    rw [← spelt, lossy_pyStr]
  have kept : (d.map fun m => (lossy m.1, m.2.jsonMode)) = d.map fun m => (m.1, m.2.jsonMode) :=
    List.map_congr_left fun m here => by rw [plain m here]
  rw [Dict.jsonMode, jsonModeMembers_map, kept]
  apply ofPairs_distinct
  rw [List.map_map]
  have keys : (d.map fun m => m.1) = names.map pyStr := same
  change (d.map fun m => m.1).Nodup
  rw [keys, List.nodup_map_iff pyStr_injective]
  exact distinct

theorem textOrNull_jsonMode (t : Option String) : (textOrNull t).jsonMode = textOrNull t := by
  cases t <;> rfl

theorem target_jsonMode (t : Target) : t.modelDump.jsonMode = t.modelDump := by
  rw [Target.modelDump, Lib.jsonMode_obj, jsonMode_named ["type", "id"] (by decide) rfl]
  rfl

theorem context_jsonMode (c : RequestContext) : c.modelDump.jsonMode = c.modelDump := by
  rw [RequestContext.modelDump, Lib.jsonMode_obj,
    jsonMode_named ["profile", "frontmost_app", "client", "control"] (by decide) rfl]
  simp only [List.map_cons, List.map_nil, textOrNull_jsonMode, Json.jsonMode]

theorem action_jsonMode (a : ActionDefinition) : a.modelDump.jsonMode = a.modelDump := by
  have targets : jsonModeItems (a.targetTypes.map fun t : String => .str t) =
      a.targetTypes.map fun t : String => .str t := by
    rw [jsonModeItems_map, List.map_map]
    rfl
  rw [jsonMode_named ["id", "version", "title", "description", "risk_class", "plugin", "adapter",
    "target_types", "parameter_schema", "policy_action", "confirmation", "timeout_seconds",
    "idempotency", "mutation"] (by decide) rfl]
  simp only [ActionDefinition.modelDump, List.map_cons, List.map_nil, jsonMode_jsonMode,
    Json.jsonMode, targets]

theorem request_jsonMode (r : ActionRequest) : r.publicDump.jsonMode = r.publicDump := by
  rw [jsonMode_named ["action_id", "action_version", "target", "parameters", "context",
    "idempotency_key", "dry_run", "confirmation_response"] (by decide) rfl]
  simp only [ActionRequest.publicDump, List.map_cons, List.map_nil, target_jsonMode,
    context_jsonMode, textOrNull_jsonMode, Lib.jsonMode_obj, dict_jsonMode_jsonMode]
  rfl

theorem details_jsonMode (x : Details) : x.jsonMode.jsonMode = x.jsonMode := by
  have made : ∀ m ∈ x.jsonMode, ∃ k : PyStr, ∃ j : Json, m = (lossy k, j.jsonMode) := by
    intro m kept
    obtain ⟨n, -, found⟩ := List.mem_filterMap.mp (mem_ofPairs kept)
    obtain ⟨value, dumped, rfl⟩ := Option.map_eq_some_iff.mp found
    cases detail : n.2 with
    | json j =>
      rw [detail] at dumped
      cases dumped
      exact ⟨n.1, j, rfl⟩
    | foreign other =>
      rw [detail] at dumped
      obtain ⟨j, -, rfl⟩ := Option.map_eq_some_iff.mp dumped
      exact ⟨n.1, j, rfl⟩
  apply dict_jsonMode_of_standard
  · refine every_obj.mpr fun m kept => ?_
    obtain ⟨k, j, rfl⟩ := made m kept
    exact ⟨lossy_encodable k, Lib.jsonMode_standard j⟩
  · refine ⟨ofPairs_nodup _, distinctMembers_iff.mpr fun m kept => ?_⟩
    obtain ⟨k, j, rfl⟩ := made m kept
    exact jsonMode_distinct j

theorem execution_jsonMode (x : AdapterExecution) : x.modelDump.jsonMode = x.modelDump := by
  rw [AdapterExecution.modelDump, Lib.jsonMode_obj,
    jsonMode_named ["reference", "details"] (by decide) rfl]
  simp only [List.map_cons, List.map_nil, textOrNull_jsonMode, Lib.jsonMode_obj, details_jsonMode]

theorem observation_jsonMode (o : AdapterObservation) : o.modelDump.jsonMode = o.modelDump := by
  rw [AdapterObservation.modelDump, Lib.jsonMode_obj,
    jsonMode_named ["state", "observed_at", "details"] (by decide) rfl]
  simp only [List.map_cons, List.map_nil, Lib.jsonMode_obj, details_jsonMode]
  rfl

end Same

section Python
variable {py : Builtins}

mutual
theorem py_proper : ∀ {j : Json}, j.Distinct →
    (Json.py j).Proper ⟨none, ofPairs⟩ fun _ => True
  | .null, _ => trivial
  | .bool _, _ => trivial
  | .int _, _ => fun _ set => nomatch set
  | .float f, _ => literal_text f
  | .str _, _ => trivial
  | .arr _, distinct => pyItems_proper distinct
  | .obj ms, distinct => by
    refine ⟨ofPairs_distinct ?_, pyMembers_proper distinct.2⟩
    rw [pyMembers_map, keys_map]
    exact distinct.1

theorem pyItems_proper : ∀ {items : List Json}, DistinctItems items →
    ProperItems ⟨none, ofPairs⟩ (fun _ => True) (Json.pyItems items)
  | [], _ => trivial
  | _ :: _, distinct => ⟨py_proper distinct.1, pyItems_proper distinct.2⟩

theorem pyMembers_proper : ∀ {ms : List (PyStr × Json)}, DistinctMembers ms →
    ProperMembers ⟨none, ofPairs⟩ (fun _ => True) (Json.pyMembers ms)
  | [], _ => trivial
  | (_, _) :: _, distinct => ⟨trivial, py_proper distinct.1, pyMembers_proper distinct.2⟩
end

mutual
/-- What is public and the same in JSON mode as JSON is the same as a value of Python's. -/
theorem py_standard : ∀ {j : Json}, j.standard = true → j.Distinct → Admissible py (Json.py j) →
    Standard py (Json.py j)
  | .null, _, _, _ => trivial
  | .bool _, _, _, _ => trivial
  | .int _, _, _, _ => trivial
  | .float _, _, _, finite => finite
  | .str _, _, _, _ => trivial
  | .arr items, standard, distinct, all =>
    pyItems_standard items (every_arr.mp standard) distinct all.2
  | .obj ms, standard, distinct, all => by
    refine ⟨?_, pyMembers_standard ms (every_obj.mp standard) distinct.2 all.2⟩
    rw [pyMembers_map, keys_map]
    exact distinct.1

theorem pyItems_standard : ∀ items : List Json, (∀ j ∈ items, j.standard = true) →
    DistinctItems items → AdmissibleItems py (Json.pyItems items) →
    StandardItems py (Json.pyItems items)
  | [], _, _, _ => trivial
  | _ :: rest, standard, distinct, all => by
    obtain ⟨first, others⟩ := List.forall_mem_cons.mp standard
    exact ⟨py_standard first distinct.1 all.1, pyItems_standard rest others distinct.2 all.2⟩

theorem pyMembers_standard : ∀ ms : List (PyStr × Json),
    (∀ m ∈ ms, encodable m.1 = true ∧ m.2.standard = true) → DistinctMembers ms →
    AdmissibleMembers py (Json.pyMembers ms) → StandardMembers py (Json.pyMembers ms)
  | [], _, _, _ => trivial
  | (_, _) :: rest, standard, distinct, all => by
    obtain ⟨⟨name, first⟩, others⟩ := List.forall_mem_cons.mp standard
    exact ⟨name, py_standard first distinct.1 all.2.1,
      pyMembers_standard rest others distinct.2 all.2.2⟩
end

theorem dumped_same {j : Json} (same : j.jsonMode = j) (all : Admissible py (Json.py j)) :
    jsonMode py (Json.py j) = Json.py j := by
  apply jsonMode_of_standard
  apply py_standard _ _ all
  · rw [← same]
    exact Lib.jsonMode_standard j
  · rw [← same]
    exact jsonMode_distinct j

end Python

section Sent
variable {py : Builtins} {adapterId : String} {l : Lifecycle} {payload : PyDict}

theorem members_json (a : ActionDefinition) : a.members = Json.pyMembers a.modelDump := by
  have targets : a.targetTypes.map strJson =
      Json.pyItems (a.targetTypes.map fun t : String => .str t) := by
    rw [pyItems_map, List.map_map]
    rfl
  rw [ActionDefinition.members, targets]
  rfl

theorem publicMembers_json (r : ActionRequest) :
    r.publicMembers = Json.pyMembers r.publicDump := by
  have response : optionalStr r.confirmationResponse =
      Json.py (textOrNull r.confirmationResponse) := by
    cases r.confirmationResponse <;> rfl
  rw [publicMembers_eq, response]
  rfl

def aboutDump (adapterId : String) (action : ActionDefinition) (request : ActionRequest) : Dict :=
  [("adapter", .str adapterId), ("action", .obj action.modelDump),
    ("request", .obj request.publicDump)]

theorem about_json {action : ActionDefinition} {request : ActionRequest}
    (made : actionPayload py adapterId action request = .ok payload) :
    payload = Json.pyMembers (aboutDump adapterId action request) := by
  simp only [actionPayload, requestDump, bind_ok, pure_ok, mapError_ok] at made
  obtain ⟨_, ⟨_, -, rfl⟩, rfl⟩ := made
  have dumped : PyJson.obj request.publicMembers = Json.py (.obj request.publicDump) :=
    congrArg PyJson.obj (publicMembers_json request)
  rw [ActionRequest.publicMembers] at dumped
  rw [dumped, members_json]
  rfl

theorem pyMembers_append (d e : Dict) :
    Json.pyMembers (d ++ e) = Json.pyMembers d ++ Json.pyMembers e := by
  rw [pyMembers_map, pyMembers_map, pyMembers_map, List.map_append]

theorem aboutDump_jsonMode {action : ActionDefinition} {request : ActionRequest} {more : Dict}
    (names : List String) (distinct : (["adapter", "action", "request"] ++ names).Nodup)
    (same : more.map Prod.fst = names.map pyStr) (kept : ∀ m ∈ more, m.2.jsonMode = m.2) :
    (aboutDump adapterId action request ++ more).jsonMode =
      aboutDump adapterId action request ++ more := by
  have keys : (aboutDump adapterId action request ++ more).map Prod.fst =
      (["adapter", "action", "request"] ++ names).map pyStr := by
    rw [List.map_append, List.map_append, same]
    rfl
  have first : (aboutDump adapterId action request).map (fun m => (m.1, m.2.jsonMode)) =
      aboutDump adapterId action request := by
    simp only [aboutDump, List.map_cons, List.map_nil, Lib.jsonMode_obj, action_jsonMode,
      request_jsonMode]
    rfl
  have others : more.map (fun m => (m.1, m.2.jsonMode)) = more := by
    conv_rhs => rw [← List.map_id more]
    exact List.map_congr_left fun m here => Prod.ext rfl (kept m here)
  rw [jsonMode_named _ distinct keys, List.map_append, first, others]

theorem sent_json (built : hostPayload py adapterId l = .ok payload) :
    ∃ d : Dict, payload = Json.pyMembers d ∧ d.jsonMode = d := by
  cases l with
  | health =>
    cases built
    exact ⟨[("adapter", .str adapterId)], rfl, jsonMode_named ["adapter"] (by decide) rfl⟩
  | call op =>
    have about : ∀ {action request}, actionPayload py adapterId action request = .ok payload →
        ∃ d : Dict, payload = Json.pyMembers d ∧ d.jsonMode = d := by
      intro action request made
      have same : (aboutDump adapterId action request ++ []).jsonMode =
          aboutDump adapterId action request ++ [] :=
        aboutDump_jsonMode [] (by decide) rfl (List.forall_mem_nil _)
      rw [List.append_nil] at same
      exact ⟨_, about_json made, same⟩
    cases op with
    | plan action request => exact about built
    | execute action request => exact about built
    | observe action request => exact about built
    | verify action request execution observation =>
      simp only [hostPayload, bind_ok, pure_ok, mapError_ok, AdapterExecution.dump,
        AdapterObservation.dump] at built
      obtain ⟨_, made, _, ⟨_, -, rfl⟩, _, ⟨_, -, rfl⟩, rfl⟩ := built
      let more : Dict := [("execution", execution.modelDump),
        ("observation", observation.modelDump)]
      have kept : ∀ m ∈ more, m.2.jsonMode = m.2 := List.forall_mem_cons.mpr
        ⟨execution_jsonMode execution,
          List.forall_mem_singleton.mpr (observation_jsonMode observation)⟩
      refine ⟨aboutDump adapterId action request ++ more, ?_,
        aboutDump_jsonMode ["execution", "observation"] (by decide) rfl kept⟩
      rw [about_json made, pyMembers_append]
      rfl
    | cancel action request execution =>
      simp only [hostPayload, bind_ok, pure_ok, mapError_ok] at built
      obtain ⟨_, made, dumped, ran, rfl⟩ := built
      obtain ⟨j, rfl, kept⟩ : ∃ j : Json, dumped = Json.py j ∧ j.jsonMode = j := by
        cases execution with
        | none =>
          cases ran
          exact ⟨.null, rfl, rfl⟩
        | some x =>
          simp only [executionDump, AdapterExecution.dump, bind_ok, pure_ok] at ran
          obtain ⟨_, -, rfl⟩ := ran
          exact ⟨x.modelDump, rfl, execution_jsonMode x⟩
      let more : Dict := [("execution", j)]
      refine ⟨aboutDump adapterId action request ++ more, ?_,
        aboutDump_jsonMode ["execution"] (by decide) rfl (List.forall_mem_singleton.mpr kept)⟩
      rw [about_json made, pyMembers_append]
      rfl

theorem sent_proper (sends : hostSends py adapterId l = .ok payload) : ProperDict payload := by
  simp only [hostSends, bind_ok, pure_ok] at sends
  obtain ⟨_, built, _, -, rfl⟩ := sends
  obtain ⟨d, rfl, same⟩ := sent_json built
  have distinct : (Json.obj d).Distinct := by
    rw [← same]
    exact jsonMode_distinct (.obj d)
  exact py_proper distinct

theorem sent_same (sends : hostSends py adapterId l = .ok payload) :
    jsonMembers py payload = payload := by
  simp only [hostSends, bind_ok, pure_ok, mapError_ok] at sends
  obtain ⟨_, built, _, valid, rfl⟩ := sends
  have all := ((validatePublicJson_ok _).mp valid).2
  obtain ⟨d, rfl, same⟩ := sent_json built
  have whole : (Json.obj d).jsonMode = .obj d := congrArg Json.obj same
  exact PyJson.obj.inj (dumped_same whole all)

end Sent

end Deckhand
