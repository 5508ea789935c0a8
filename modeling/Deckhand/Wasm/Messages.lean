import Deckhand.Wasm.Frames
import Mathlib.Tactic.Ring

/-! The host protocol's requests, responses and failures, and how pydantic dumps and validates
them. -/
namespace Deckhand
open Lib

abbrev Uuid := BitVec 128

def hexDigits : Nat → Nat → PyStr
  | 0, _ => []
  | width + 1, n => hexDigits width (n / 16) ++ [codePoint (hexDigit (n % 16))]

/-- `str(u)`: 8, 4, 4, 4 and 12 digits. -/
def Uuid.text (u : Uuid) : PyStr :=
  let dash := codePoint '-'
  hexDigits 8 (u.toNat / 16 ^ 24) ++ dash :: hexDigits 4 (u.toNat / 16 ^ 20) ++
    dash :: hexDigits 4 (u.toNat / 16 ^ 16) ++ dash :: hexDigits 4 (u.toNat / 16 ^ 12) ++
    dash :: hexDigits 12 u.toNat

/-- How pydantic reads an integer, a boolean and a UUID out of JSON, and the kind of an error: what
it was given in its own form it takes as it is, and what other forms it takes is not fixed here. -/
structure Pydantic where
  int : PyJson → Option Int
  bool : PyJson → Option Bool
  uuid : PyJson → Option Uuid
  kind : ErrorKind → Option AdapterErrorKind
  int_int : ∀ i, int (.int i) = some i
  bool_bool : ∀ b, bool (.bool b) = some b
  uuid_text : ∀ u, uuid (.str u.text) = some u
  kind_member : ∀ k, kind (.member k) = some k

def isLowerAlnum (c : CodePoint) : Bool := isDigitPoint c || (0x61 ≤ c.val && c.val ≤ 0x7a)

/-- `^dh-[a-z][a-z0-9]*(?:-[a-z0-9]+)*$` -/
def pluginIdPattern (s : PyStr) : Bool :=
  (pyStr "dh-").isPrefixOf s &&
    match (s.drop 3).splitOn (codePoint '-') with
    | [] => false
    | first :: more => first.head?.any (fun c => 0x61 ≤ c.val && c.val ≤ 0x7a) &&
      (first :: more).all fun part => part ≠ [] && part.all isLowerAlnum

structure HostRequest where
  protocolVersion : Int
  requestId : Uuid
  pluginId : PyStr
  operation : HostOperation
  payload : PyDict
  identified : pluginIdPattern pluginId = true

structure HostFailure where
  kind : AdapterErrorKind
  retry : RetryDisposition := .never
  reconciliationRequired : Bool := false
  deriving DecidableEq

structure HostResponse where
  protocolVersion : Int := hostProtocolVersion
  requestId : Uuid
  ok : Bool
  result : Option PyDict := none
  error : Option HostFailure := none

def HostRequest.modelDump (r : HostRequest) : PyDict :=
  [(pyStr "protocol_version", .int r.protocolVersion), (pyStr "request_id", .str r.requestId.text),
    (pyStr "plugin_id", .str r.pluginId), (pyStr "operation", strJson r.operation.value),
    (pyStr "payload", .obj r.payload)]

def HostFailure.modelDump (f : HostFailure) : PyDict :=
  [(pyStr "kind", strJson f.kind.value), (pyStr "retry", strJson f.retry.value),
    (pyStr "reconciliation_required", .bool f.reconciliationRequired)]

def HostResponse.modelDump (r : HostResponse) : PyDict :=
  [(pyStr "protocol_version", .int r.protocolVersion), (pyStr "request_id", .str r.requestId.text),
    (pyStr "ok", .bool r.ok), (pyStr "result", r.result.elim .null .obj),
    (pyStr "error", r.error.elim .null fun f => .obj f.modelDump)]

section Validation
variable (pydantic : Pydantic)

def withDefault {α : Type} (default : α) (read : PyJson → Option α) : Option PyJson → Option α
  | none => some default
  | some v => read v

def strValue (name : String) (v : PyJson) : Bool := v.str? = some (pyStr name)

def HostOperation.all : List HostOperation :=
  [.handshake, .health, .plan, .execute, .observe, .verify, .cancel, .statusObserve]

def AdapterErrorKind.all : List AdapterErrorKind :=
  [.configuration, .authentication, .authorization, .notFound, .conflict, .rateLimited,
    .unavailable, .timeout, .protocol, .unexpected]

def RetryDisposition.all : List RetryDisposition := [.never, .safe, .reconcileFirst]

def enumValue {α : Type} (all : List α) (value : α → String) (v : PyJson) : Option α :=
  all.find? fun a => strValue (value a) v

def onlyFields (fields : List String) (d : PyDict) : Option Unit :=
  if d.all fun m => (fields.map pyStr).contains m.1 then some () else none

/-- `null` or a value. -/
def optionally {α : Type} (read : PyJson → Option α) : PyJson → Option (Option α)
  | .null => some none
  | v => (read v).map some

def HostFailure.modelValidate (v : PyJson) : Option HostFailure := do
  let d ← v.members?
  onlyFields ["kind", "retry", "reconciliation_required"] d
  let kind ← (pyGet d "kind").bind (enumValue AdapterErrorKind.all AdapterErrorKind.value)
  let retry ← withDefault .never (enumValue RetryDisposition.all RetryDisposition.value)
    (pyGet d "retry")
  let reconciliationRequired ← withDefault false pydantic.bool (pyGet d "reconciliation_required")
  return { kind, retry, reconciliationRequired }

def HostResponse.modelValidate (d : PyDict) : Option HostResponse := do
  onlyFields ["protocol_version", "request_id", "ok", "result", "error"] d
  let protocolVersion ← withDefault hostProtocolVersion pydantic.int (pyGet d "protocol_version")
  let requestId ← (pyGet d "request_id").bind pydantic.uuid
  let ok ← (pyGet d "ok").bind pydantic.bool
  let result ← withDefault none (optionally PyJson.members?) (pyGet d "result")
  let error ← withDefault none (optionally (HostFailure.modelValidate pydantic)) (pyGet d "error")
  return { protocolVersion, requestId, ok, result, error }

/-- A plugin's identifier, checked against its pattern. -/
def pluginId? (v : PyJson) : Option { s : PyStr // pluginIdPattern s = true } :=
  v.str?.bind fun s => if h : pluginIdPattern s = true then some ⟨s, h⟩ else none

/-- `fresh` is what the default factory of the request id makes. -/
def HostRequest.modelValidate (fresh : Uuid) (d : PyDict) : Option HostRequest := do
  onlyFields ["protocol_version", "request_id", "plugin_id", "operation", "payload"] d
  let protocolVersion ← withDefault hostProtocolVersion pydantic.int (pyGet d "protocol_version")
  let requestId ← withDefault fresh pydantic.uuid (pyGet d "request_id")
  let pluginId ← (pyGet d "plugin_id").bind pluginId?
  let operation ← (pyGet d "operation").bind (enumValue HostOperation.all HostOperation.value)
  let payload ← withDefault [] PyJson.members? (pyGet d "payload")
  return ⟨protocolVersion, requestId, pluginId.1, operation, payload, pluginId.2⟩

end Validation

section Round
variable {pydantic : Pydantic}

theorem enumValue_dump {α : Type} {all : List α} {value : α → String}
    (injective : ∀ a ∈ all, ∀ b ∈ all, value a = value b → a = b) {a : α} (member : a ∈ all) :
    enumValue all value (strJson (value a)) = some a := by
  have self : strValue (value a) (strJson (value a)) = true := by
    simp [strValue, strJson, PyJson.str?]
  obtain ⟨b, found⟩ := Option.isSome_iff_exists.mp
    (List.find?_isSome (p := fun b => strValue (value b) (strJson (value a))).mpr ⟨a, member, self⟩)
  have same : value a = value b := by
    have spelt := List.find?_some found
    simp only [strValue, strJson, PyJson.str?, decide_eq_true_eq, Option.some.injEq] at spelt
    exact pyStr_injective spelt
  rw [enumValue, found, injective a member b (List.mem_of_find?_eq_some found) same]

theorem kind_dump (kind : AdapterErrorKind) :
    enumValue AdapterErrorKind.all AdapterErrorKind.value (strJson kind.value) = some kind := by
  apply enumValue_dump
  · decide
  · cases kind <;> decide

theorem retry_dump (retry : RetryDisposition) :
    enumValue RetryDisposition.all RetryDisposition.value (strJson retry.value) = some retry := by
  apply enumValue_dump
  · decide
  · cases retry <;> decide

theorem operation_dump (operation : HostOperation) :
    enumValue HostOperation.all HostOperation.value (strJson operation.value) = some operation := by
  apply enumValue_dump
  · decide
  · cases operation <;> decide

theorem failure_round (f : HostFailure) :
    HostFailure.modelValidate pydantic (.obj f.modelDump) = some f := by
  have fields : onlyFields ["kind", "retry", "reconciliation_required"] f.modelDump = some () := rfl
  have kind : pyGet f.modelDump "kind" = some (strJson f.kind.value) := rfl
  have retry : pyGet f.modelDump "retry" = some (strJson f.retry.value) := rfl
  have flag : pyGet f.modelDump "reconciliation_required" = some (.bool f.reconciliationRequired) :=
    rfl
  simp only [HostFailure.modelValidate, PyJson.members?, Option.bind_eq_bind, Option.bind_some,
    fields, kind, retry, flag, withDefault, kind_dump, retry_dump, pydantic.bool_bool,
    Option.pure_def]

theorem response_round (r : HostResponse) :
    HostResponse.modelValidate pydantic r.modelDump = some r := by
  have fields : onlyFields ["protocol_version", "request_id", "ok", "result", "error"]
      r.modelDump = some () := rfl
  have version : pyGet r.modelDump "protocol_version" = some (.int r.protocolVersion) := rfl
  have id : pyGet r.modelDump "request_id" = some (.str r.requestId.text) := rfl
  have ok : pyGet r.modelDump "ok" = some (.bool r.ok) := rfl
  have result : pyGet r.modelDump "result" = some (r.result.elim .null .obj) := rfl
  have error : pyGet r.modelDump "error" = some (r.error.elim .null fun f => .obj f.modelDump) :=
    rfl
  have result_read : optionally PyJson.members? (r.result.elim .null .obj) = some r.result := by
    cases r.result <;> rfl
  have error_read : optionally (HostFailure.modelValidate pydantic)
      (r.error.elim .null fun f => .obj f.modelDump) = some r.error := by
    cases r.error with
    | none => rfl
    | some f =>
      change (HostFailure.modelValidate pydantic (.obj f.modelDump)).map some = _
      rw [failure_round, Option.map_some]
  simp only [HostResponse.modelValidate, Option.bind_eq_bind, Option.bind_some, fields, version, id,
    ok, result, error, withDefault, pydantic.int_int, pydantic.uuid_text, pydantic.bool_bool,
    result_read, error_read, Option.pure_def]

theorem request_round (r : HostRequest) (fresh : Uuid) :
    HostRequest.modelValidate pydantic fresh r.modelDump = some r := by
  have fields : onlyFields ["protocol_version", "request_id", "plugin_id", "operation", "payload"]
      r.modelDump = some () := rfl
  have version : pyGet r.modelDump "protocol_version" = some (.int r.protocolVersion) := rfl
  have id : pyGet r.modelDump "request_id" = some (.str r.requestId.text) := rfl
  have plugin : pyGet r.modelDump "plugin_id" = some (.str r.pluginId) := rfl
  have operation : pyGet r.modelDump "operation" = some (strJson r.operation.value) := rfl
  have payload : pyGet r.modelDump "payload" = some (.obj r.payload) := rfl
  have identified : pluginId? (.str r.pluginId) = some ⟨r.pluginId, r.identified⟩ := by
    simp [pluginId?, PyJson.str?, r.identified]
  simp only [HostRequest.modelValidate, Option.bind_eq_bind, Option.bind_some, fields, version, id,
    plugin, operation, payload, withDefault, pydantic.int_int, pydantic.uuid_text, identified,
    operation_dump, PyJson.members?, Option.pure_def]

end Round

section Hex

def parseHex (digits : PyStr) : Nat := digits.foldl (fun n c => 16 * n + (hexValue c).getD 0) 0

/-- `UUID(text).int`, for texts with 32 digits. -/
def parseUuid (v : PyJson) : Option Uuid :=
  v.str?.bind fun s =>
    let digits := s.filter fun c => c ≠ codePoint '-'
    if digits.length = 32 then some (BitVec.ofNat 128 (parseHex digits)) else none

theorem hexDigits_length (width n : Nat) : (hexDigits width n).length = width := by
  induction width generalizing n with
  | zero => rfl
  | succ width ih => simp [hexDigits, ih]

theorem parseHex_snoc (digits : PyStr) (c : CodePoint) :
    parseHex (digits ++ [c]) = 16 * parseHex digits + (hexValue c).getD 0 := by
  simp [parseHex]

theorem parseHex_digits (width n : Nat) : parseHex (hexDigits width n) = n % 16 ^ width := by
  induction width generalizing n with
  | zero => simp [hexDigits, parseHex, Nat.mod_one]
  | succ width ih =>
    rw [hexDigits, parseHex_snoc, ih, hexValue_hexDigit, Option.getD_some, Nat.pow_succ,
      Nat.mul_comm (16 ^ width) 16, Nat.mod_mul]
    omega

theorem parseHex_append (front back : PyStr) :
    parseHex (front ++ back) = parseHex front * 16 ^ back.length + parseHex back := by
  induction back using List.reverseRecOn with
  | nil => simp [parseHex]
  | append_singleton back c ih =>
    rw [← List.append_assoc, parseHex_snoc, parseHex_snoc, ih, List.length_append,
      List.length_singleton, Nat.pow_succ]
    ring

theorem hexDigits_plain (width n : Nat) :
    (hexDigits width n).filter (fun c => c ≠ codePoint '-') = hexDigits width n := by
  have digit : ∀ d < 16, codePoint (hexDigit d) ≠ codePoint '-' := by decide
  rw [List.filter_eq_self]
  induction width generalizing n with
  | zero => simp [hexDigits]
  | succ width ih =>
    intro c member
    rw [hexDigits, List.mem_append, List.mem_singleton] at member
    rcases member with member | rfl
    · exact ih (n / 16) c member
    · simpa using digit (n % 16) (Nat.mod_lt _ (by decide))

theorem uuid_length (u : Uuid) : u.text.length = 36 := by
  simp only [Uuid.text, List.length_append, List.length_cons, hexDigits_length]

theorem uuid_plain (u : Uuid) : encodable u.text = true := by
  have digits : ∀ width n, ∀ c ∈ hexDigits width n, isSurrogate c = false := by
    intro width
    induction width with
    | zero => simp [hexDigits]
    | succ width ih =>
      intro n c member
      rcases List.mem_append.mp member with member | member
      · exact ih _ c member
      · rw [List.mem_singleton.mp member]
        exact codePoint_scalar _
  have dash := codePoint_scalar '-'
  simp only [encodable_iff, Uuid.text, List.append_assoc, List.cons_append]
  simp only [List.forall_mem_append, List.forall_mem_cons, dash, true_and]
  exact ⟨digits _ _, digits _ _, digits _ _, digits _ _, digits _ _⟩

theorem parseUuid_text (u : Uuid) : parseUuid (.str u.text) = some u := by
  have digits : u.text.filter (fun c => c ≠ codePoint '-') =
      hexDigits 8 (u.toNat / 16 ^ 24) ++ hexDigits 4 (u.toNat / 16 ^ 20) ++
        hexDigits 4 (u.toNat / 16 ^ 16) ++ hexDigits 4 (u.toNat / 16 ^ 12) ++
        hexDigits 12 u.toNat := by
    simp only [Uuid.text, List.filter_append, List.filter_cons, hexDigits_plain, ne_eq,
      not_true_eq_false, decide_false, Bool.false_eq_true, if_false, List.append_assoc,
      List.cons_append]
  have bound := u.isLt
  have value : parseHex (u.text.filter fun c => c ≠ codePoint '-') = u.toNat := by
    rw [digits]
    simp only [parseHex_append, parseHex_digits, hexDigits_length]
    omega
  have length : (u.text.filter fun c => c ≠ codePoint '-').length = 32 := by
    rw [digits]
    simp only [List.length_append, hexDigits_length]
  simp only [parseUuid, PyJson.str?, Option.bind_some, length, if_true, value, BitVec.ofNat_toNat,
    BitVec.setWidth_eq]

def plainPydantic : Pydantic where
  int
    | .int i => some i
    | _ => none
  bool
    | .bool b => some b
    | _ => none
  uuid := parseUuid
  kind
    | .member kind => some kind
    | .foreign _ _ => none
  int_int _ := rfl
  bool_bool _ := rfl
  uuid_text := parseUuid_text
  kind_member _ := rfl

end Hex

end Deckhand
