import Deckhand.Lib.PyLimits
import Deckhand.Lib.Stream
import Deckhand.Wasm.Payloads

namespace Deckhand
open Lib

/-- `max_frame_bytes`, with the bounds that its field has. -/
structure FrameLimit where
  bytes : Nat
  low : 4096 ≤ bytes
  high : bytes ≤ 4194304

inductive FrameExn where
  | protocol (error : HostProtocolError)
  | incompleteRead
  | load (error : LoadError)
  deriving DecidableEq

inductive WriteExn where
  | protocol (error : HostProtocolError)
  | serialization

/-- `struct.pack(">I", n)` -/
def packLength (n : Nat) : List UInt8 :=
  [.ofNat (n / 0x1000000), .ofNat (n / 0x10000 % 0x100), .ofNat (n / 0x100 % 0x100),
    .ofNat (n % 0x100)]

/-- `struct.unpack(">I", header)` -/
def unpackLength (header : List UInt8) : Nat := header.foldl (fun n b => 0x100 * n + b.toNat) 0

mutual
/-- UTF-8 has bytes for the strings in the value, its keys apart. -/
def textsEncodable : PyJson → Bool
  | .str s => encodable s
  | .arr items => encodableItems items
  | .obj members => encodableMembers members
  | _ => true

def encodableItems : List PyJson → Bool
  | [] => true
  | v :: rest => textsEncodable v && encodableItems rest

def encodableMembers : List (PyStr × PyJson) → Bool
  | [] => true
  | (_, v) :: rest => textsEncodable v && encodableMembers rest
end

variable (py : Builtins)

mutual
/-- What pydantic writes of a value in JSON mode: null for a float that is not finite, and three
times U+FFFD for each surrogate of a key. -/
def jsonText : PyJson → PyJson
  | .float literal => if py.isfinite literal then .float literal else .null
  | .arr items => .arr (jsonTexts items)
  | .obj members => .obj (jsonPairs members)
  | v => v

def jsonTexts : List PyJson → List PyJson
  | [] => []
  | v :: rest => jsonText v :: jsonTexts rest

def jsonPairs : List (PyStr × PyJson) → List (PyStr × PyJson)
  | [] => []
  | (k, v) :: rest => (lossy k, jsonText v) :: jsonPairs rest
end

/-- `model_dump(mode="json")` of a value: keys that become one are one. -/
def jsonMode (v : PyJson) : PyJson := (jsonText py v).hooked ofPairs

def jsonMembers (members : PyDict) : PyDict :=
  ofPairs (hookedMembers ofPairs (jsonPairs py members))

/-- `model_dump_json().encode("utf-8")` -/
def dumpJsonBytes (members : PyDict) : Except WriteExn (List UInt8) := do
  refuse (encodableMembers members = false) .serialization
  return encodeUtf8 ((PyJson.obj (jsonPairs py members)).write escapeControl)

def encodeFrame (limit : FrameLimit) (members : PyDict) : Except WriteExn (List UInt8) := do
  let payload ← dumpJsonBytes py members
  refuse (payload = [] ∨ limit.bytes < payload.length)
    (.protocol ⟨"host frame exceeds the configured size limit"⟩)
  return packLength payload.length ++ payload

def invalidSize : FrameExn := .protocol ⟨"host frame has an invalid size"⟩

def frameObject (payload : List UInt8) : Except FrameExn PyDict := do
  let value ← (PyJson.loadBytes py.depth payload).mapError .load
  demand value.members? (.protocol ⟨"host frame must contain a JSON object"⟩)

/-- `_read_frame`, on a stream that arrives in chunks. -/
def readFrame (limit : FrameLimit) (chunks : List (List UInt8)) : Except FrameExn PyDict := do
  let header ← demand (readexactly 4 [] chunks) .incompleteRead
  let size := unpackLength header.1
  refuse (size = 0 ∨ limit.bytes < size) invalidSize
  let payload ← demand (readexactly size header.2.buffer header.2.chunks) .incompleteRead
  frameObject py payload.1

def closedEarly : FrameExn := .protocol ⟨"host closed before completing a frame"⟩

/-- `_read_frame_sync` -/
def readFrameSync (limit : FrameLimit) (chunks : List (List UInt8)) : Except FrameExn PyDict := do
  let header ← demand (recvExact 4 chunks) closedEarly
  let size := unpackLength header.1
  refuse (size = 0 ∨ limit.bytes < size) invalidSize
  let payload ← demand (recvExact size header.2) closedEarly
  frameObject py payload.1

def parseFrame (limit : FrameLimit) (early : FrameExn) (bytes : List UInt8) :
    Except FrameExn PyDict := do
  let header ← demand (splitExact 4 bytes) early
  let size := unpackLength header.1
  refuse (size = 0 ∨ limit.bytes < size) invalidSize
  let payload ← demand (splitExact size header.2) early
  frameObject py payload.1

/-- A dict of Python's: its keys are distinct and its floats are written as floats. -/
def ProperDict (members : PyDict) : Prop :=
  (PyJson.obj members).Proper ⟨none, ofPairs⟩ fun _ => True

/-- The reader's limits admit what is written of the dict. -/
def Readable (members : PyDict) : Prop :=
  boundedMembers members = true ∧ (PyJson.obj members).depth ≤ py.depth

mutual
/-- The JSON mode keeps the value: its floats are finite, and UTF-8 has bytes for its keys, which
are distinct. -/
def Standard : PyJson → Prop
  | .float literal => py.isfinite literal = true
  | .arr items => StandardItems items
  | .obj members => (members.map Prod.fst).Nodup ∧ StandardMembers members
  | _ => True

def StandardItems : List PyJson → Prop
  | [] => True
  | v :: rest => Standard v ∧ StandardItems rest

def StandardMembers : List (PyStr × PyJson) → Prop
  | [] => True
  | (k, v) :: rest => encodable k = true ∧ Standard v ∧ StandardMembers rest
end

section Json
variable {py}

theorem jsonMode_obj (members : PyDict) :
    jsonMode py (.obj members) = .obj (jsonMembers py members) := rfl

theorem jsonItems_map (items : List PyJson) :
    hookedItems ofPairs (jsonTexts py items) = items.map (jsonMode py) := by
  induction items with
  | nil => rfl
  | cons v rest ih => rw [jsonTexts, hookedItems, ih, List.map_cons, jsonMode]

theorem jsonPairs_map (members : PyDict) : hookedMembers ofPairs (jsonPairs py members) =
    members.map fun m => (lossy m.1, jsonMode py m.2) := by
  induction members with
  | nil => rfl
  | cons m rest ih => rw [jsonPairs, hookedMembers, ih, List.map_cons, jsonMode]

theorem standardItems_iff {items : List PyJson} :
    StandardItems py items ↔ ∀ v ∈ items, Standard py v := by
  induction items with
  | nil => simp [StandardItems]
  | cons v rest ih => rw [StandardItems, ih, List.forall_mem_cons]

theorem standardMembers_iff {members : PyDict} :
    StandardMembers py members ↔ ∀ m ∈ members, encodable m.1 = true ∧ Standard py m.2 := by
  induction members with
  | nil => simp [StandardMembers]
  | cons m rest ih => simp only [StandardMembers, ih, List.forall_mem_cons, and_assoc]

mutual
theorem jsonMode_standard : ∀ v : PyJson, Standard py (jsonMode py v)
  | .float literal => by
    by_cases finite : py.isfinite literal = true <;>
      simp [jsonMode, jsonText, finite, PyJson.hooked, Standard]
  | .arr items => by
    change StandardItems py (hookedItems ofPairs (jsonTexts py items))
    rw [jsonItems_map, standardItems_iff, List.forall_mem_map]
    exact jsonItems_standard items
  | .obj members => by
    refine ⟨ofPairs_nodup _, standardMembers_iff.mpr fun m kept => ?_⟩
    have made := mem_ofPairs kept
    rw [jsonPairs_map] at made
    obtain ⟨n, here, rfl⟩ := List.mem_map.mp made
    exact ⟨lossy_encodable n.1, jsonMembers_standard members n here⟩
  | .null => trivial
  | .bool _ => trivial
  | .int _ => trivial
  | .str _ => trivial

theorem jsonItems_standard : ∀ items : List PyJson, ∀ v ∈ items, Standard py (jsonMode py v)
  | [] => List.forall_mem_nil _
  | v :: rest => List.forall_mem_cons.mpr ⟨jsonMode_standard v, jsonItems_standard rest⟩

theorem jsonMembers_standard : ∀ members : PyDict, ∀ m ∈ members, Standard py (jsonMode py m.2)
  | [] => List.forall_mem_nil _
  | (_, v) :: rest => List.forall_mem_cons.mpr ⟨jsonMode_standard v, jsonMembers_standard rest⟩
end

mutual
theorem jsonMode_of_standard : ∀ {v : PyJson}, Standard py v → jsonMode py v = v
  | .float literal, finite => by
    have kept : py.isfinite literal = true := finite
    rw [jsonMode, jsonText, if_pos kept]
    rfl
  | .arr _, standard => congrArg PyJson.arr (jsonItems_of_standard standard)
  | .obj members, standard => by
    rw [jsonMode_obj, jsonMembers, jsonPairs_of_standard standard.2, ofPairs_distinct standard.1]
  | .null, _ => rfl
  | .bool _, _ => rfl
  | .int _, _ => rfl
  | .str _, _ => rfl

theorem jsonItems_of_standard : ∀ {items : List PyJson}, StandardItems py items →
    hookedItems ofPairs (jsonTexts py items) = items
  | [], _ => rfl
  | v :: rest, standard => by
    rw [jsonTexts, hookedItems, jsonItems_of_standard standard.2]
    exact congrArg (· :: rest) (jsonMode_of_standard standard.1)

theorem jsonPairs_of_standard : ∀ {members : PyDict}, StandardMembers py members →
    hookedMembers ofPairs (jsonPairs py members) = members
  | [], _ => rfl
  | (k, v) :: rest, standard => by
    have value : (jsonText py v).hooked ofPairs = v := jsonMode_of_standard standard.2.1
    rw [jsonPairs, hookedMembers, jsonPairs_of_standard standard.2.2, value,
      lossy_of_encodable standard.1]
end

theorem jsonMode_idem (v : PyJson) : jsonMode py (jsonMode py v) = jsonMode py v :=
  jsonMode_of_standard (jsonMode_standard v)

theorem jsonMembers_idem (members : PyDict) :
    jsonMembers py (jsonMembers py members) = jsonMembers py members :=
  PyJson.obj.inj (jsonMode_idem (.obj members))

theorem jsonMembers_named {members : PyDict} (names : List String) (distinct : names.Nodup)
    (same : members.map Prod.fst = names.map pyStr) :
    jsonMembers py members = members.map fun m => (m.1, jsonMode py m.2) := by
  have plain : ∀ m ∈ members, lossy m.1 = m.1 := by
    intro m here
    have named := List.mem_map_of_mem here (f := Prod.fst)
    rw [same] at named
    obtain ⟨name, -, spelt⟩ := List.mem_map.mp named
    rw [← spelt, lossy_pyStr]
  have kept : (members.map fun m => (lossy m.1, jsonMode py m.2)) =
      members.map fun m => (m.1, jsonMode py m.2) :=
    List.map_congr_left fun m here => by rw [plain m here]
  rw [jsonMembers, jsonPairs_map, kept]
  apply ofPairs_distinct
  rw [List.map_map]
  have keys : (members.map fun m => m.1) = names.map pyStr := same
  change (members.map fun m => m.1).Nodup
  rw [keys, List.nodup_map_iff pyStr_injective]
  exact distinct

mutual
theorem jsonText_proper : ∀ {v : PyJson} {decoder : Decoder} {text : PyStr → Prop},
    v.Proper decoder text → decoder.maxStrDigits = none →
    (jsonText py v).Proper ⟨none, id⟩ fun _ => True
  | .float literal, _, _, proper, _ => by
    by_cases finite : py.isfinite literal = true
    · rw [jsonText, if_pos finite]
      exact proper
    · rw [jsonText, if_neg finite]
      trivial
  | .arr _, _, _, proper, free => jsonTexts_proper proper free
  | .obj _, _, _, proper, free => ⟨rfl, jsonPairs_proper proper.2 free⟩
  | .null, _, _, _, _ => trivial
  | .bool _, _, _, _, _ => trivial
  | .int _, _, _, _, _ => fun _ set => nomatch set
  | .str _, _, _, _, _ => trivial

theorem jsonTexts_proper : ∀ {items : List PyJson} {decoder : Decoder} {text : PyStr → Prop},
    ProperItems decoder text items → decoder.maxStrDigits = none →
    ProperItems ⟨none, id⟩ (fun _ => True) (jsonTexts py items)
  | [], _, _, _, _ => trivial
  | _ :: _, _, _, proper, free =>
    ⟨jsonText_proper proper.1 free, jsonTexts_proper proper.2 free⟩

theorem jsonPairs_proper : ∀ {members : PyDict} {decoder : Decoder} {text : PyStr → Prop},
    ProperMembers decoder text members → decoder.maxStrDigits = none →
    ProperMembers ⟨none, id⟩ (fun _ => True) (jsonPairs py members)
  | [], _, _, _, _ => trivial
  | (_, _) :: _, _, _, proper, free =>
    ⟨trivial, jsonText_proper proper.2.1 free, jsonPairs_proper proper.2.2 free⟩
end

mutual
theorem jsonText_bounded : ∀ v : PyJson, (jsonText py v).bounded = v.bounded
  | .float literal => by
    by_cases finite : py.isfinite literal = true <;> simp [jsonText, finite, PyJson.bounded]
  | .arr items => jsonTexts_bounded items
  | .obj members => jsonPairs_bounded members
  | .null => rfl
  | .bool _ => rfl
  | .int _ => rfl
  | .str _ => rfl

theorem jsonTexts_bounded : ∀ items : List PyJson,
    boundedItems (jsonTexts py items) = boundedItems items
  | [] => rfl
  | v :: rest => by
    rw [jsonTexts, boundedItems, boundedItems, jsonText_bounded v, jsonTexts_bounded rest]

theorem jsonPairs_bounded : ∀ members : PyDict,
    boundedMembers (jsonPairs py members) = boundedMembers members
  | [] => rfl
  | (_, v) :: rest => by
    rw [jsonPairs, boundedMembers, boundedMembers, jsonText_bounded v, jsonPairs_bounded rest]
end

mutual
theorem jsonText_depth : ∀ v : PyJson, (jsonText py v).depth = v.depth
  | .float literal => by
    by_cases finite : py.isfinite literal = true <;> simp [jsonText, finite, PyJson.depth]
  | .arr items => congrArg (· + 1) (jsonTexts_depth items)
  | .obj members => congrArg (· + 1) (jsonPairs_depth members)
  | .null => rfl
  | .bool _ => rfl
  | .int _ => rfl
  | .str _ => rfl

theorem jsonTexts_depth : ∀ items : List PyJson, depthItems (jsonTexts py items) = depthItems items
  | [] => rfl
  | v :: rest => by rw [jsonTexts, depthItems, depthItems, jsonText_depth v, jsonTexts_depth rest]

theorem jsonPairs_depth : ∀ members : PyDict,
    depthMembers (jsonPairs py members) = depthMembers members
  | [] => rfl
  | (_, v) :: rest => by
    rw [jsonPairs, depthMembers, depthMembers, jsonText_depth v, jsonPairs_depth rest]
end

mutual
theorem depth_height : ∀ v : PyJson, v.depth ≤ height v + 1
  | .float _ => Nat.zero_le _
  | .arr items => Nat.succ_le_succ (depthItems_height items)
  | .obj members => Nat.succ_le_succ (depthMembers_height members)
  | .null => Nat.zero_le _
  | .bool _ => Nat.zero_le _
  | .int _ => Nat.zero_le _
  | .str _ => Nat.zero_le _

theorem depthItems_height : ∀ items : List PyJson, depthItems items ≤ heightItems items
  | [] => Nat.le_refl 0
  | v :: rest => by
    have first := depth_height v
    have others := depthItems_height rest
    rw [depthItems, heightItems]
    omega

theorem depthMembers_height : ∀ members : PyDict, depthMembers members ≤ heightMembers members
  | [] => Nat.le_refl 0
  | (_, v) :: rest => by
    have first := depth_height v
    have others := depthMembers_height rest
    rw [depthMembers, heightMembers]
    omega
end

theorem public_depth {v : PyJson} (valid : validatePublicJson py 0 v = .ok ()) : v.depth ≤ 9 := by
  have shallow := ((validatePublicJson_ok v).mp valid).1
  have deep := depth_height v
  simp only [maxPublicDepth] at shallow
  omega

mutual
theorem jsonMode_proper : ∀ {v : PyJson} {text : PyStr → Prop}, v.Proper ⟨none, ofPairs⟩ text →
    (jsonMode py v).Proper ⟨none, ofPairs⟩ fun _ => True
  | .float literal, _, proper => by
    by_cases finite : py.isfinite literal = true
    · rw [jsonMode, jsonText, if_pos finite]
      exact proper
    · rw [jsonMode, jsonText, if_neg finite]
      trivial
  | .arr items, _, proper => by
    change ProperItems _ _ (hookedItems ofPairs (jsonTexts py items))
    rw [jsonItems_map]
    exact jsonItems_proper proper
  | .obj members, _, proper => by
    refine ⟨ofPairs_distinct (ofPairs_nodup _), properMembers_iff.mpr fun m kept => ?_⟩
    have made := mem_ofPairs kept
    rw [jsonPairs_map] at made
    obtain ⟨n, here, rfl⟩ := List.mem_map.mp made
    exact ⟨trivial, jsonMembers_proper proper.2 n here⟩
  | .null, _, _ => trivial
  | .bool _, _, _ => trivial
  | .int _, _, proper => proper
  | .str _, _, _ => trivial

theorem jsonItems_proper : ∀ {items : List PyJson} {text : PyStr → Prop},
    ProperItems ⟨none, ofPairs⟩ text items →
    ProperItems ⟨none, ofPairs⟩ (fun _ => True) (items.map (jsonMode py))
  | [], _, _ => trivial
  | _ :: _, _, proper => ⟨jsonMode_proper proper.1, jsonItems_proper proper.2⟩

theorem jsonMembers_proper : ∀ {members : PyDict} {text : PyStr → Prop},
    ProperMembers ⟨none, ofPairs⟩ text members →
    ∀ m ∈ members, (jsonMode py m.2).Proper ⟨none, ofPairs⟩ fun _ => True
  | [], _, _ => List.forall_mem_nil _
  | (_, _) :: _, _, proper =>
    List.forall_mem_cons.mpr ⟨jsonMode_proper proper.2.1, jsonMembers_proper proper.2.2⟩
end

theorem properDict_jsonMembers {members : PyDict} (proper : ProperDict members) :
    ProperDict (jsonMembers py members) := jsonMode_proper (v := .obj members) proper

end Json

section Reading
variable {py} {limit : FrameLimit}

theorem readFrame_parse (chunks : List (List UInt8)) :
    readFrame py limit chunks = parseFrame py limit .incompleteRead chunks.flatten := by
  have first := readexactly_split 4 [] chunks
  rw [List.nil_append] at first
  rw [readFrame, parseFrame, ← first]
  cases readexactly 4 [] chunks with
  | none => rfl
  | some header =>
    obtain ⟨bytes, reader⟩ := header
    have second := readexactly_split (unpackLength bytes) reader.buffer reader.chunks
    simp only [Option.map_some, demand, ok_bind, StreamReader.rest, ← second]
    cases readexactly (unpackLength bytes) reader.buffer reader.chunks <;> rfl

theorem readFrameSync_parse (chunks : List (List UInt8)) :
    readFrameSync py limit chunks = parseFrame py limit closedEarly chunks.flatten := by
  have first := recvExact_split 4 chunks
  rw [readFrameSync, parseFrame, ← first]
  cases recvExact 4 chunks with
  | none => rfl
  | some header =>
    obtain ⟨bytes, rest⟩ := header
    have second := recvExact_split (unpackLength bytes) rest
    simp only [Option.map_some, demand, ok_bind, ← second]
    cases recvExact (unpackLength bytes) rest <;> rfl

theorem parseFrame_early {early early' : FrameExn} {bytes : List UInt8} {d : PyDict}
    (parsed : parseFrame py limit early bytes = .ok d) :
    parseFrame py limit early' bytes = .ok d := by
  simp only [parseFrame, bind_ok, demand_ok] at parsed ⊢
  exact parsed

theorem unpack_pack {n : Nat} (small : n < 0x100000000) : unpackLength (packLength n) = n := by
  have byte : ∀ {m : Nat}, m < 0x100 → (UInt8.ofNat m).toNat = m := toNat_ofNat
  simp only [unpackLength, packLength, List.foldl_cons, List.foldl_nil, byte (m := n / 0x1000000)
    (by omega), byte (m := n / 0x10000 % 0x100) (by omega),
      byte (m := n / 0x100 % 0x100) (by omega),
    byte (m := n % 0x100) (by omega)]
  omega

theorem parseFrame_pack {early : FrameExn} {payload rest : List UInt8} (some_byte : payload ≠ [])
    (fits : payload.length ≤ limit.bytes) :
    parseFrame py limit early (packLength payload.length ++ payload ++ rest) =
      frameObject py payload := by
  have high := limit.high
  have size := unpack_pack (n := payload.length) (by omega)
  have header : splitExact 4 (packLength payload.length ++ payload ++ rest) =
      some (packLength payload.length, payload ++ rest) := by
    rw [List.append_assoc]
    exact splitExact_append (packLength payload.length) _
  have positive : payload.length ≠ 0 := fun empty => some_byte (List.length_eq_zero_iff.mp empty)
  have allowed : ¬ (payload.length = 0 ∨ limit.bytes < payload.length) := by omega
  simp only [parseFrame, header, demand, ok_bind, size, refuse, if_neg allowed, splitExact_append]

def framePayload (py : Builtins) (members : PyDict) : List UInt8 :=
  encodeUtf8 ((PyJson.obj (jsonPairs py members)).write escapeControl)

/-- What was written of a dict is read as it is in JSON mode, if the reader's limits admit it. -/
theorem frameObject_payload {members : PyDict} (proper : ProperDict members) :
    frameObject py (framePayload py members) = .ok (jsonMembers py members) ∧ Readable py members ∨
      (∃ e, frameObject py (framePayload py members) = .error (.load e)) ∧
        ¬ Readable py members := by
  have written : (PyJson.obj (jsonPairs py members)).Proper ⟨none, id⟩ fun _ => True :=
    jsonText_proper (v := .obj members) proper rfl
  have limits : Readable py members ↔ boundedMembers (jsonPairs py members) = true ∧
      (PyJson.obj (jsonPairs py members)).depth ≤ py.depth := by
    have deep : (PyJson.obj (jsonPairs py members)).depth = (PyJson.obj members).depth :=
      jsonText_depth (.obj members)
    rw [Readable, jsonPairs_bounded, deep]
  by_cases readable : Readable py members
  · left
    obtain ⟨bounded, shallow⟩ := limits.mp readable
    refine ⟨?_, readable⟩
    rw [frameObject, framePayload,
      loadBytes_hooked reads_control (bounded_proper written bounded) shallow]
    rfl
  · right
    refine ⟨?_, readable⟩
    have refused : ¬ ∃ v, PyJson.loadBytes py.depth (framePayload py members) = .ok v := by
      rw [framePayload, loadBytes_iff reads_control written, ← limits]
      exact readable
    cases loaded : PyJson.loadBytes py.depth (framePayload py members) with
    | error e => exact ⟨e, by rw [frameObject, loaded]; rfl⟩
    | ok v => exact absurd ⟨v, loaded⟩ refused

theorem framePayload_nonempty (members : PyDict) : framePayload py members ≠ [] := by
  have brace : encodeCodePoint (codePoint '\x7b') ≠ [] := by decide
  simp [framePayload, encodeUtf8, PyJson.write, brace]

theorem encodeFrame_iff {limit : FrameLimit} {members : PyDict} {frame : List UInt8} :
    encodeFrame py limit members = .ok frame ↔ encodableMembers members = true ∧
      (framePayload py members).length ≤ limit.bytes ∧
        frame = packLength (framePayload py members).length ++ framePayload py members := by
  have some_byte : framePayload py members ≠ [] := framePayload_nonempty members
  simp only [encodeFrame, dumpJsonBytes, bind_ok, refuse_ok, pure_ok, Bool.not_eq_false]
  constructor
  · rintro ⟨payload, ⟨_, encodes, rfl⟩, _, fits, rfl⟩
    exact ⟨encodes, Nat.le_of_not_lt fun long => fits (.inr long), rfl⟩
  · rintro ⟨encodes, fits, rfl⟩
    refine ⟨_, ⟨(), encodes, rfl⟩, (), ?_, rfl⟩
    rintro (empty | long)
    · exact some_byte empty
    · exact absurd fits (Nat.not_le_of_lt long)

/-- A frame that was sent is read as what was put into it, in JSON mode, if the reader's limits
admit that; else nothing but the reader says no. -/
theorem parseFrame_encoded {early : FrameExn} {members : PyDict} {frame rest : List UInt8}
    (proper : ProperDict members) (encoded : encodeFrame py limit members = .ok frame) :
    parseFrame py limit early (frame ++ rest) = .ok (jsonMembers py members) ∧
        Readable py members ∨
      (∃ e, parseFrame py limit early (frame ++ rest) = .error (.load e)) ∧
        ¬ Readable py members := by
  obtain ⟨-, fits, rfl⟩ := encodeFrame_iff.mp encoded
  rw [parseFrame_pack (framePayload_nonempty members) fits]
  exact frameObject_payload proper

end Reading

section Sizes
variable {py} {limit limit' : FrameLimit} {members : PyDict} {frame : List UInt8} {early : FrameExn}

theorem frame_length (payload : List UInt8) :
    (packLength payload.length ++ payload).length = payload.length + 4 := by
  rw [List.length_append, Nat.add_comm]
  rfl

theorem encodeFrame_other (encoded : encodeFrame py limit members = .ok frame)
    (fits : frame.length ≤ limit'.bytes + 4) : encodeFrame py limit' members = .ok frame := by
  rw [encodeFrame_iff] at encoded ⊢
  obtain ⟨encodes, -, rfl⟩ := encoded
  rw [frame_length] at fits
  exact ⟨encodes, by omega, rfl⟩

theorem parseFrame_long (encoded : encodeFrame py limit members = .ok frame)
    (long : limit'.bytes + 4 < frame.length) :
    parseFrame py limit' early frame = .error invalidSize := by
  obtain ⟨-, fits, rfl⟩ := encodeFrame_iff.mp encoded
  have high := limit.high
  have size := unpack_pack (n := (framePayload py members).length) (by omega)
  rw [frame_length] at long
  have header : splitExact 4 (packLength (framePayload py members).length ++
      framePayload py members) = some (packLength (framePayload py members).length,
        framePayload py members) := splitExact_append (packLength _) _
  have refused : (framePayload py members).length = 0 ∨
      limit'.bytes < (framePayload py members).length := by omega
  simp only [parseFrame, header, demand, ok_bind, size, refuse, if_pos refused]
  rfl

theorem parseFrame_short {payload bytes : List UInt8} (small : payload.length < 0x100000000)
    (cut : bytes <+: packLength payload.length ++ payload)
    (less : bytes.length < payload.length + 4) :
    parseFrame py limit early bytes = .error early ∨
      parseFrame py limit early bytes = .error invalidSize := by
  by_cases header : 4 ≤ bytes.length
  · obtain ⟨rest, rfl⟩ : ∃ rest, bytes = packLength payload.length ++ rest := by
      have front : packLength payload.length <+: bytes :=
        List.prefix_of_prefix_length_le (List.prefix_append _ _) cut header
      obtain ⟨rest, whole⟩ := front
      exact ⟨rest, whole.symm⟩
    have first : splitExact 4 (packLength payload.length ++ rest) =
        some (packLength payload.length, rest) := splitExact_append (packLength _) _
    have few : ¬ payload.length ≤ rest.length := by
      rw [List.length_append, show (packLength payload.length).length = 4 from rfl] at less
      omega
    simp only [parseFrame, first, demand, ok_bind, unpack_pack small]
    by_cases refused : payload.length = 0 ∨ limit.bytes < payload.length
    · right
      rw [refuse, if_pos refused]
      rfl
    · left
      rw [refuse, if_neg refused, splitExact, if_neg few]
      rfl
  · left
    rw [parseFrame, splitExact, if_neg header]
    rfl

theorem frameObject_cases (py : Builtins) (bytes : List UInt8) :
    (∃ d, frameObject py bytes = .ok d) ∨
    (∃ violation, frameObject py bytes = .error (.protocol violation)) ∨
      ∃ e, frameObject py bytes = .error (.load e) ∧
        PyJson.loadBytes py.depth bytes = .error e := by
  cases loaded : PyJson.loadBytes py.depth bytes with
  | error e =>
    right
    right
    exact ⟨e, by rw [frameObject, loaded]; rfl, rfl⟩
  | ok value =>
    have read : frameObject py bytes =
        demand value.members? (.protocol ⟨"host frame must contain a JSON object"⟩) := by
      rw [frameObject, loaded]
      rfl
    cases object : value.members? with
    | none =>
      right
      left
      exact ⟨_, by rw [read, object]; rfl⟩
    | some d =>
      left
      exact ⟨d, by rw [read, object]; rfl⟩

theorem pack_unpack {header : List UInt8} (four : header.length = 4) :
    packLength (unpackLength header) = header := by
  obtain ⟨a, b, c, d, rfl⟩ := List.length_eq_four.mp four
  have ha := a.toNat_lt
  have hb := b.toNat_lt
  have hc := c.toNat_lt
  have hd := d.toNat_lt
  simp only [unpackLength, packLength, List.foldl_cons, List.foldl_nil, List.cons.injEq, and_true]
  refine ⟨?_, ?_, ?_, ?_⟩ <;> apply UInt8.toNat_inj.mp <;> rw [toNat_ofNat (by omega)] <;> omega

theorem parseFrame_load {limit : FrameLimit} {bytes : List UInt8} :
    (∃ e, parseFrame py limit .incompleteRead bytes = .error (.load e)) ↔
      ∃ payload rest, bytes = packLength payload.length ++ payload ++ rest ∧ payload ≠ [] ∧
        payload.length ≤ limit.bytes ∧ ∀ v, PyJson.loadBytes py.depth payload ≠ .ok v := by
  constructor
  · rintro ⟨e, failed⟩
    unfold parseFrame at failed
    cases first : splitExact 4 bytes with
    | none =>
      rw [first] at failed
      cases failed
    | some header =>
      obtain ⟨rfl, four⟩ := splitExact_some first
      rw [first, demand, ok_bind] at failed
      dsimp only at failed
      by_cases refused : unpackLength header.1 = 0 ∨ limit.bytes < unpackLength header.1
      · rw [refuse, if_pos refused] at failed
        cases failed
      · rw [refuse, if_neg refused, ok_bind] at failed
        cases second : splitExact (unpackLength header.1) header.2 with
        | none =>
          rw [second] at failed
          cases failed
        | some payload =>
          obtain ⟨whole, size⟩ := splitExact_some second
          rw [second, demand, ok_bind] at failed
          refine ⟨payload.1, payload.2, ?_, ?_, by omega, ?_⟩
          · rw [size, pack_unpack four, whole, List.append_assoc]
          · rintro empty
            rw [empty, List.length_nil] at size
            omega
          · rintro v loaded
            rcases frameObject_cases py payload.1 with ⟨d, read⟩ | ⟨_, read⟩ | ⟨_, -, broken⟩
            · rw [read] at failed
              cases failed
            · rw [read] at failed
              cases failed
            · rw [broken] at loaded
              cases loaded
  · rintro ⟨payload, rest, rfl, some_byte, fits, broken⟩
    rw [parseFrame_pack some_byte fits]
    rcases frameObject_cases py payload with ⟨d, read⟩ | ⟨_, read⟩ | ⟨e, read, -⟩
    · cases loaded : PyJson.loadBytes py.depth payload with
      | error e => exact ⟨e, by rw [frameObject, loaded]; rfl⟩
      | ok v => exact absurd loaded (broken v)
    · cases loaded : PyJson.loadBytes py.depth payload with
      | error e => exact ⟨e, by rw [frameObject, loaded]; rfl⟩
      | ok v => exact absurd loaded (broken v)
    · exact ⟨e, read⟩

end Sizes

end Deckhand
