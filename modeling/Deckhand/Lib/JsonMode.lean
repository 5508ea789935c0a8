import Deckhand.Lib.Json

/-! What a value becomes when a model is dumped in JSON mode, and which values that and the
writers and readers of JSON leave as they are. -/
namespace Deckhand.Lib

mutual
/-- `leaf` holds of every value inside that is no list and no dict, and `key` of every key. -/
def Json.every (leaf : Json → Bool) (key : PyStr → Bool) : Json → Bool
  | .arr items => everyItem leaf key items
  | .obj members => everyMember leaf key members
  | j => leaf j

def everyItem (leaf : Json → Bool) (key : PyStr → Bool) : List Json → Bool
  | [] => true
  | j :: rest => j.every leaf key && everyItem leaf key rest

def everyMember (leaf : Json → Bool) (key : PyStr → Bool) : List (PyStr × Json) → Bool
  | [] => true
  | (k, j) :: rest => key k && j.every leaf key && everyMember leaf key rest
end

mutual
/-- No dict of the value has a key twice. -/
def Json.Distinct : Json → Prop
  | .arr items => DistinctItems items
  | .obj members => (members.map Prod.fst).Nodup ∧ DistinctMembers members
  | _ => True

def DistinctItems : List Json → Prop
  | [] => True
  | j :: rest => j.Distinct ∧ DistinctItems rest

def DistinctMembers : List (PyStr × Json) → Prop
  | [] => True
  | (_, j) :: rest => j.Distinct ∧ DistinctMembers rest
end

mutual
/-- `model_dump(mode="json")` of a value: a float that is not finite becomes null, and each
surrogate of a key three times U+FFFD. -/
def Json.jsonMode : Json → Json
  | .float .nan => .null
  | .float (.infinity _) => .null
  | .arr items => .arr (jsonModeItems items)
  | .obj members => .obj (ofPairs (jsonModeMembers members))
  | j => j

def jsonModeItems : List Json → List Json
  | [] => []
  | j :: rest => j.jsonMode :: jsonModeItems rest

def jsonModeMembers : List (PyStr × Json) → List (PyStr × Json)
  | [] => []
  | (k, j) :: rest => (lossy k, j.jsonMode) :: jsonModeMembers rest
end

def Dict.jsonMode (d : Dict) : Dict := ofPairs (jsonModeMembers d)

mutual
/-- The value with the surrogates joined in every string and key, as they are when it is
written and read back. -/
def Json.joined : Json → Json
  | .str s => .str (join s)
  | .arr items => .arr (joinedItems items)
  | .obj members => .obj (joinedMembers members)
  | j => j

def joinedItems : List Json → List Json
  | [] => []
  | j :: rest => j.joined :: joinedItems rest

def joinedMembers : List (PyStr × Json) → List (PyStr × Json)
  | [] => []
  | (k, j) :: rest => (join k, j.joined) :: joinedMembers rest
end

namespace Json

def leafDigits : Json → Bool
  | .int i => digitsFit i
  | _ => true

def leafFinite : Json → Bool
  | .float .nan => false
  | .float (.infinity _) => false
  | _ => true

def leafEncodable : Json → Bool
  | .str s => encodable s
  | _ => true

def leafJoined : Json → Bool
  | .str s => decide (Joined s)
  | _ => true

/-- `json.dumps` writes the value: no integer in it has too many digits. -/
def writable : Json → Bool := every leafDigits fun _ => true

/-- UTF-8 has bytes for the strings in the value, its keys apart. -/
def textsEncodable : Json → Bool := every leafEncodable fun _ => true

/-- The JSON mode keeps the value: its floats are finite, and UTF-8 has bytes for its keys. -/
def standard : Json → Bool := every leafFinite encodable

/-- Writing the value and reading it gives it back: no two surrogates in it are joined. -/
def lasting : Json → Bool := every leafJoined fun k => decide (Joined k)

end Json

section Every
variable {leaf : Json → Bool} {key : PyStr → Bool}

theorem everyItem_iff {items : List Json} :
    everyItem leaf key items = true ↔ ∀ j ∈ items, j.every leaf key = true := by
  induction items with
  | nil => simp [everyItem]
  | cons j rest ih => simp [everyItem, ih]

theorem everyMember_iff {members : List (PyStr × Json)} :
    everyMember leaf key members = true ↔
      ∀ m ∈ members, key m.1 = true ∧ m.2.every leaf key = true := by
  induction members with
  | nil => simp [everyMember]
  | cons m rest ih =>
    rw [everyMember, Bool.and_eq_true, Bool.and_eq_true, ih, List.forall_mem_cons]

theorem every_obj {members : List (PyStr × Json)} : (Json.obj members).every leaf key = true ↔
    ∀ m ∈ members, key m.1 = true ∧ m.2.every leaf key = true := by
  rw [Json.every, everyMember_iff]

theorem every_arr {items : List Json} : (Json.arr items).every leaf key = true ↔
    ∀ j ∈ items, j.every leaf key = true := by
  rw [Json.every, everyItem_iff]

end Every

theorem distinctMembers_iff {ms : List (PyStr × Json)} :
    DistinctMembers ms ↔ ∀ m ∈ ms, m.2.Distinct := by
  induction ms with
  | nil => simp [DistinctMembers]
  | cons m rest ih => rw [DistinctMembers, ih, List.forall_mem_cons]

section Mode

theorem jsonModeItems_map (items : List Json) : jsonModeItems items = items.map Json.jsonMode := by
  induction items with
  | nil => rfl
  | cons j rest ih => rw [List.map_cons, ← ih, jsonModeItems]

theorem jsonModeMembers_map (ms : List (PyStr × Json)) :
    jsonModeMembers ms = ms.map fun m => (lossy m.1, m.2.jsonMode) := by
  induction ms with
  | nil => rfl
  | cons m rest ih => rw [List.map_cons, ← ih, jsonModeMembers]

theorem mem_jsonMode {d : Dict} {m : PyStr × Json} (h : m ∈ d.jsonMode) :
    ∃ n ∈ d, (lossy n.1, n.2.jsonMode) = m := by
  have made := mem_ofPairs h
  rw [jsonModeMembers_map] at made
  exact List.mem_map.mp made

theorem jsonMode_obj (ms : List (PyStr × Json)) :
    (Json.obj ms).jsonMode = .obj (Dict.jsonMode ms) := rfl

mutual
theorem jsonMode_distinct : ∀ j : Json, j.jsonMode.Distinct
  | .null => trivial
  | .bool _ => trivial
  | .int _ => trivial
  | .float (.finite _ _) => trivial
  | .float .nan => trivial
  | .float (.infinity _) => trivial
  | .str _ => trivial
  | .arr items => jsonModeItems_distinct items
  | .obj ms => by
    refine ⟨ofPairs_nodup _, distinctMembers_iff.mpr fun m kept => ?_⟩
    exact jsonModeMembers_distinct ms m (mem_ofPairs kept)

theorem jsonModeItems_distinct : ∀ items : List Json, DistinctItems (jsonModeItems items)
  | [] => trivial
  | j :: rest => ⟨jsonMode_distinct j, jsonModeItems_distinct rest⟩

theorem jsonModeMembers_distinct : ∀ ms : List (PyStr × Json),
    ∀ m ∈ jsonModeMembers ms, m.2.Distinct
  | [] => List.forall_mem_nil _
  | (_, j) :: rest =>
    List.forall_mem_cons.mpr ⟨jsonMode_distinct j, jsonModeMembers_distinct rest⟩
end

mutual
theorem jsonMode_standard : ∀ j : Json, j.jsonMode.standard = true
  | .null => rfl
  | .bool _ => rfl
  | .int _ => rfl
  | .float (.finite _ _) => rfl
  | .float .nan => rfl
  | .float (.infinity _) => rfl
  | .str _ => rfl
  | .arr items => every_arr.mpr (jsonModeItems_standard items)
  | .obj ms => every_obj.mpr fun m kept => jsonModeMembers_standard ms m (mem_ofPairs kept)

theorem jsonModeItems_standard : ∀ items : List Json,
    ∀ j ∈ jsonModeItems items, j.standard = true
  | [] => List.forall_mem_nil _
  | j :: rest => List.forall_mem_cons.mpr ⟨jsonMode_standard j, jsonModeItems_standard rest⟩

theorem jsonModeMembers_standard : ∀ ms : List (PyStr × Json),
    ∀ m ∈ jsonModeMembers ms, encodable m.1 = true ∧ m.2.standard = true
  | [] => List.forall_mem_nil _
  | (k, j) :: rest => List.forall_mem_cons.mpr
      ⟨⟨lossy_encodable k, jsonMode_standard j⟩, jsonModeMembers_standard rest⟩
end

mutual
theorem jsonMode_of_standard : ∀ {j : Json}, j.standard = true → j.Distinct → j.jsonMode = j
  | .null, _, _ => rfl
  | .bool _, _, _ => rfl
  | .int _, _, _ => rfl
  | .float (.finite _ _), _, _ => rfl
  | .str _, _, _ => rfl
  | .arr _, standard, distinct =>
    congrArg Json.arr (jsonModeItems_of_standard (every_arr.mp standard) distinct)
  | .obj _, standard, distinct => by
    rw [Json.jsonMode, jsonModeMembers_of_standard (every_obj.mp standard) distinct.2,
      ofPairs_distinct distinct.1]

theorem jsonModeItems_of_standard : ∀ {items : List Json}, (∀ j ∈ items, j.standard = true) →
    DistinctItems items → jsonModeItems items = items
  | [], _, _ => rfl
  | j :: rest, standard, distinct => by
    obtain ⟨first, others⟩ := List.forall_mem_cons.mp standard
    rw [jsonModeItems, jsonMode_of_standard first distinct.1,
      jsonModeItems_of_standard others distinct.2]

theorem jsonModeMembers_of_standard : ∀ {ms : List (PyStr × Json)},
    (∀ m ∈ ms, encodable m.1 = true ∧ m.2.standard = true) → DistinctMembers ms →
    jsonModeMembers ms = ms
  | [], _, _ => rfl
  | (k, j) :: rest, standard, distinct => by
    obtain ⟨⟨name, first⟩, others⟩ := List.forall_mem_cons.mp standard
    rw [jsonModeMembers, lossy_of_encodable name, jsonMode_of_standard first distinct.1,
      jsonModeMembers_of_standard others distinct.2]
end

@[simp] theorem jsonMode_jsonMode (j : Json) : j.jsonMode.jsonMode = j.jsonMode :=
  jsonMode_of_standard (jsonMode_standard j) (jsonMode_distinct j)

theorem dict_jsonMode_of_standard {d : Dict} (standard : (Json.obj d).standard = true)
    (distinct : (Json.obj d).Distinct) : d.jsonMode = d :=
  Json.obj.inj (jsonMode_of_standard standard distinct)

@[simp] theorem dict_jsonMode_jsonMode (d : Dict) : d.jsonMode.jsonMode = d.jsonMode :=
  Json.obj.inj (jsonMode_jsonMode (.obj d))

mutual
/-- What holds of all values inside, and does not look at floats or keys, holds in JSON mode. -/
theorem every_jsonMode {leaf : Json → Bool} (null : leaf .null = true) :
    ∀ {j : Json}, j.every leaf (fun _ => true) = true →
      j.jsonMode.every leaf (fun _ => true) = true
  | .null, h => h
  | .bool _, h => h
  | .int _, h => h
  | .float (.finite _ _), h => h
  | .float .nan, _ => null
  | .float (.infinity _), _ => null
  | .str _, h => h
  | .arr _, h => every_arr.mpr (every_jsonModeItems null (every_arr.mp h))
  | .obj _, h => every_obj.mpr fun m kept =>
      ⟨rfl, every_jsonModeMembers null (fun n here => ((every_obj.mp h) n here).2) m
        (mem_ofPairs kept)⟩

theorem every_jsonModeItems {leaf : Json → Bool} (null : leaf .null = true) :
    ∀ {items : List Json}, (∀ j ∈ items, j.every leaf (fun _ => true) = true) →
      ∀ j ∈ jsonModeItems items, j.every leaf (fun _ => true) = true
  | [], _ => List.forall_mem_nil _
  | _ :: _, h => by
    obtain ⟨first, others⟩ := List.forall_mem_cons.mp h
    exact List.forall_mem_cons.mpr ⟨every_jsonMode null first, every_jsonModeItems null others⟩

theorem every_jsonModeMembers {leaf : Json → Bool} (null : leaf .null = true) :
    ∀ {ms : List (PyStr × Json)}, (∀ m ∈ ms, m.2.every leaf (fun _ => true) = true) →
      ∀ m ∈ jsonModeMembers ms, m.2.every leaf (fun _ => true) = true
  | [], _ => List.forall_mem_nil _
  | (_, _) :: _, h => by
    obtain ⟨first, others⟩ := List.forall_mem_cons.mp h
    exact List.forall_mem_cons.mpr ⟨every_jsonMode null first, every_jsonModeMembers null others⟩
end

theorem writable_jsonMode {j : Json} (writable : j.writable = true) :
    j.jsonMode.writable = true := every_jsonMode rfl writable

theorem textsEncodable_jsonMode {j : Json} (texts : j.textsEncodable = true) :
    j.jsonMode.textsEncodable = true := every_jsonMode rfl texts

end Mode

section Joined

mutual
theorem joined_lasting : ∀ j : Json, j.joined.lasting = true
  | .null => rfl
  | .bool _ => rfl
  | .int _ => rfl
  | .float _ => rfl
  | .str s => decide_eq_true (join_joined s)
  | .arr items => every_arr.mpr (joinedItems_lasting items)
  | .obj ms => every_obj.mpr (joinedMembers_lasting ms)

theorem joinedItems_lasting : ∀ items : List Json, ∀ j ∈ joinedItems items, j.lasting = true
  | [] => List.forall_mem_nil _
  | j :: rest => List.forall_mem_cons.mpr ⟨joined_lasting j, joinedItems_lasting rest⟩

theorem joinedMembers_lasting : ∀ ms : List (PyStr × Json),
    ∀ m ∈ joinedMembers ms, decide (Joined m.1) = true ∧ m.2.lasting = true
  | [] => List.forall_mem_nil _
  | (k, j) :: rest => List.forall_mem_cons.mpr
      ⟨⟨decide_eq_true (join_joined k), joined_lasting j⟩, joinedMembers_lasting rest⟩
end

mutual
theorem joined_of_lasting : ∀ {j : Json}, j.lasting = true → j.joined = j
  | .null, _ => rfl
  | .bool _, _ => rfl
  | .int _, _ => rfl
  | .float _, _ => rfl
  | .str _, lasting => congrArg Json.str (join_of_joined (of_decide_eq_true lasting))
  | .arr _, lasting => congrArg Json.arr (joinedItems_of_lasting (every_arr.mp lasting))
  | .obj _, lasting => congrArg Json.obj (joinedMembers_of_lasting (every_obj.mp lasting))

theorem joinedItems_of_lasting : ∀ {items : List Json}, (∀ j ∈ items, j.lasting = true) →
    joinedItems items = items
  | [], _ => rfl
  | j :: rest, lasting => by
    obtain ⟨first, others⟩ := List.forall_mem_cons.mp lasting
    rw [joinedItems, joined_of_lasting first, joinedItems_of_lasting others]

theorem joinedMembers_of_lasting : ∀ {ms : List (PyStr × Json)},
    (∀ m ∈ ms, decide (Joined m.1) = true ∧ m.2.lasting = true) → joinedMembers ms = ms
  | [], _ => rfl
  | (k, j) :: rest, lasting => by
    obtain ⟨⟨name, first⟩, others⟩ := List.forall_mem_cons.mp lasting
    rw [joinedMembers, join_of_joined (of_decide_eq_true name), joined_of_lasting first,
      joinedMembers_of_lasting others]
end

mutual
/-- Joining keeps what holds of all leaves, if it holds of a text whose surrogates are joined. -/
theorem every_joined {leaf : Json → Bool}
    (text : ∀ s, leaf (.str s) = true → leaf (.str (join s)) = true) :
    ∀ {j : Json}, j.every leaf (fun _ => true) = true → j.joined.every leaf (fun _ => true) = true
  | .null, h => h
  | .bool _, h => h
  | .int _, h => h
  | .float _, h => h
  | .str s, h => text s h
  | .arr _, h => every_arr.mpr (every_joinedItems text (every_arr.mp h))
  | .obj _, h => every_obj.mpr fun m kept =>
      ⟨rfl, every_joinedMembers text (fun n here => ((every_obj.mp h) n here).2) m kept⟩

theorem every_joinedItems {leaf : Json → Bool}
    (text : ∀ s, leaf (.str s) = true → leaf (.str (join s)) = true) : ∀ {items : List Json},
    (∀ j ∈ items, j.every leaf (fun _ => true) = true) →
      ∀ j ∈ joinedItems items, j.every leaf (fun _ => true) = true
  | [], _ => List.forall_mem_nil _
  | _ :: _, h => by
    obtain ⟨first, others⟩ := List.forall_mem_cons.mp h
    exact List.forall_mem_cons.mpr ⟨every_joined text first, every_joinedItems text others⟩

theorem every_joinedMembers {leaf : Json → Bool}
    (text : ∀ s, leaf (.str s) = true → leaf (.str (join s)) = true) :
    ∀ {ms : List (PyStr × Json)}, (∀ m ∈ ms, m.2.every leaf (fun _ => true) = true) →
      ∀ m ∈ joinedMembers ms, m.2.every leaf (fun _ => true) = true
  | [], _ => List.forall_mem_nil _
  | (_, _) :: _, h => by
    obtain ⟨first, others⟩ := List.forall_mem_cons.mp h
    exact List.forall_mem_cons.mpr ⟨every_joined text first, every_joinedMembers text others⟩
end

theorem writable_joined {j : Json} (writable : j.writable = true) : j.joined.writable = true :=
  every_joined (fun _ _ => rfl) writable

@[simp] theorem joined_idem (j : Json) : j.joined.joined = j.joined :=
  joined_of_lasting (joined_lasting j)

theorem joinedMembers_map (ms : List (PyStr × Json)) :
    joinedMembers ms = ms.map fun m => (join m.1, m.2.joined) := by
  induction ms with
  | nil => rfl
  | cons m rest ih => rw [List.map_cons, ← ih, joinedMembers]

theorem get?_joined (d : Dict) {k : String} (plain : (pyStr k).all (·.val < 0x10000) = true) :
    Dict.get? (joinedMembers d) k = (Dict.get? d k).map Json.joined := by
  induction d with
  | nil => rfl
  | cons m rest ih =>
    obtain ⟨name, value⟩ := m
    have same : join name = pyStr k ↔ name = pyStr k :=
      ⟨fun h => join_plain h (by simpa using plain), fun h => h ▸ join_pyStr k⟩
    simp only [joinedMembers, Dict.get?_cons, same, ih]
    split <;> rfl

end Joined
end Deckhand.Lib
