import Deckhand.Lib.Checks
import Deckhand.Lib.PyJson

/-! What may cross the boundary to a plugin's host: JSON of bounded depth, width and length,
with no key that names a secret. -/
namespace Deckhand
open Lib

def hostProtocolVersion : Int := 1

def maxPublicDepth : Nat := 8
def maxPublicItems : Nat := 256
def maxPublicString : Nat := 8192

def sensitiveKeyParts : List PyStr :=
  ["authorization", "cookie", "credential", "password", "passwd", "private_key", "secret",
    "token"].map pyStr

structure HostProtocolError where
  message : String
  deriving DecidableEq, Repr

def asciiLower (c : CodePoint) : CodePoint :=
  if 0x41 ≤ c.val ∧ c.val ≤ 0x5a then Fin.ofNat _ (c.val + 0x20) else c

/-- What Python knows of text and floats: `str.lower`, of which is fixed here what it makes of
ASCII and that surrogates have no case, `math.isfinite` of the float that a text stands for, and
how deep a JSON text may be nested before the interpreter's limit on recursion is reached. -/
structure Builtins where
  lower : PyStr → PyStr
  isfinite : PyStr → Bool
  depth : Nat
  lower_ascii : ∀ s : PyStr, (∀ c ∈ s, c.val < 0x80) → lower s = s.map asciiLower
  lower_lossy : ∀ s : PyStr, lower (lossy s) = lossy (lower s)
  room : 10 ≤ depth

theorem asciiLower_lossy (s : PyStr) :
    (lossy s).map asciiLower = lossy (s.map asciiLower) := by
  induction s with
  | nil => rfl
  | cons c rest ih =>
    have surrogate : isSurrogate (asciiLower c) = isSurrogate c ∧
        (isSurrogate c = true → asciiLower c = c) := by
      have bound := c.isLt
      unfold asciiLower
      split
      · rename_i upper
        have value : (Fin.ofNat 0x110000 (c.val + 0x20)).val = c.val + 0x20 :=
          Nat.mod_eq_of_lt (by omega)
        have plain : isSurrogate c = false := by
          simp only [isSurrogate, Bool.and_eq_false_iff, decide_eq_false_iff_not]
          omega
        refine ⟨?_, fun high => absurd high (by simp [plain])⟩
        rw [plain]
        simp only [isSurrogate, value, Bool.and_eq_false_iff, decide_eq_false_iff_not]
        omega
      · exact ⟨rfl, fun _ => rfl⟩
    have replaced : asciiLower 0xfffd = 0xfffd := by decide
    simp only [lossy, List.map_cons, List.flatMap_cons, List.map_append] at ih ⊢
    rw [ih, surrogate.1]
    by_cases high : isSurrogate c = true
    · simp [high, replaced]
    · simp [high]

variable (py : Builtins)

/-- `any(part in key.lower() for part in SENSITIVE_KEY_PARTS)` -/
def sensitiveKey (key : PyStr) : Bool :=
  sensitiveKeyParts.any fun part => part <:+: py.lower key

/-- No text without the replacement character occurs in what surrogates were replaced in unless
it did before. -/
theorem prefix_lossy {part s : PyStr} (plain : ∀ c ∈ part, c ≠ 0xfffd) (here : part <+: lossy s) :
    part <+: s := by
  induction s generalizing part with
  | nil => exact here
  | cons c rest ih =>
    cases part with
    | nil => exact List.nil_prefix
    | cons d part =>
      obtain ⟨first, others⟩ := List.forall_mem_cons.mp plain
      rw [lossy, List.flatMap_cons] at here
      by_cases surrogate : isSurrogate c = true
      · rw [if_pos surrogate] at here
        exact absurd (List.cons_prefix_cons.mp here).1 first
      · rw [if_neg surrogate, List.singleton_append, List.cons_prefix_cons] at here
        exact List.cons_prefix_cons.mpr ⟨here.1, ih others here.2⟩

theorem infix_lossy {part s : PyStr} (plain : ∀ c ∈ part, c ≠ 0xfffd) (here : part <:+: lossy s) :
    part <:+: s := by
  induction s with
  | nil => exact here
  | cons c rest ih =>
    rw [lossy, List.flatMap_cons] at here
    by_cases surrogate : isSurrogate c = true
    · rw [if_pos surrogate] at here
      have starts : ∀ {tail : PyStr}, part <+: 0xfffd :: tail → part = [] := by
        intro tail front
        cases part with
        | nil => rfl
        | cons d part =>
          exact absurd (List.cons_prefix_cons.mp front).1 (plain d List.mem_cons_self)
      simp only [List.replicate, List.cons_append, List.nil_append, List.infix_cons_iff] at here
      rcases here with front | front | front | later
      · exact starts front ▸ List.nil_infix
      · exact starts front ▸ List.nil_infix
      · exact starts front ▸ List.nil_infix
      · exact (ih later).trans (List.infix_cons (List.infix_refl rest))
    · have whole : (if isSurrogate c = true then List.replicate 3 0xfffd else [c]) ++
          rest.flatMap (fun c => if isSurrogate c = true then List.replicate 3 0xfffd else [c]) =
          lossy (c :: rest) := rfl
      rw [if_neg surrogate, List.singleton_append, List.infix_cons_iff] at here
      rcases here with front | later
      · have front : part <+: lossy (c :: rest) := by
          rw [← whole, if_neg surrogate]
          exact front
        exact (prefix_lossy plain front).isInfix
      · exact (ih later).trans (List.infix_cons (List.infix_refl rest))

theorem sensitiveKey_lossy {key : PyStr} (plain : sensitiveKey py key = false) :
    sensitiveKey py (lossy key) = false := by
  have ascii : (sensitiveKeyParts.all fun part => part.all fun c => c.val < 0x80) = true := by
    decide +kernel
  have parts : ∀ part ∈ sensitiveKeyParts, ∀ c ∈ part, c ≠ 0xfffd := by
    rintro part among c member rfl
    exact absurd (List.all_eq_true.mp (List.all_eq_true.mp ascii part among) _ member) (by decide)
  rw [sensitiveKey, List.any_eq_false] at plain ⊢
  intro part member here
  rw [decide_eq_true_eq, py.lower_lossy] at here
  apply plain part member
  simpa using infix_lossy (parts part member) here

mutual
def validatePublicJson (depth : Nat) (value : PyJson) : Except HostProtocolError Unit := do
  refuse (maxPublicDepth < depth) ⟨"host payload exceeds the maximum nesting depth"⟩
  match value with
  | .null => return
  | .bool _ => return
  | .int _ => return
  | .float literal =>
    refuse (py.isfinite literal = false) ⟨"host payload contains a non-finite number"⟩
  | .str s =>
    refuse (maxPublicString < s.length) ⟨"host payload contains an oversized string"⟩
  | .arr items =>
    refuse (maxPublicItems < items.length) ⟨"host payload contains too many list items"⟩
    validatePublicItems (depth + 1) items
  | .obj members =>
    refuse (maxPublicItems < members.length) ⟨"host payload contains too many object fields"⟩
    validatePublicMembers (depth + 1) members

def validatePublicItems (depth : Nat) : List PyJson → Except HostProtocolError Unit
  | [] => .ok ()
  | v :: rest => do
    validatePublicJson depth v
    validatePublicItems depth rest

def validatePublicMembers (depth : Nat) : List (PyStr × PyJson) → Except HostProtocolError Unit
  | [] => .ok ()
  | (k, v) :: rest => do
    refuse (128 < k.length) ⟨"host payload contains an invalid object key"⟩
    refuse (sensitiveKey py k) ⟨"host payload contains a prohibited sensitive field"⟩
    validatePublicJson depth v
    validatePublicMembers depth rest
end

mutual
/-- How deep the check goes below a value. -/
def height : PyJson → Nat
  | .arr items => heightItems items
  | .obj members => heightMembers members
  | _ => 0

def heightItems : List PyJson → Nat
  | [] => 0
  | v :: rest => max (height v + 1) (heightItems rest)

def heightMembers : List (PyStr × PyJson) → Nat
  | [] => 0
  | (_, v) :: rest => max (height v + 1) (heightMembers rest)
end

mutual
/-- What is asked of a value wherever it stands. -/
def Admissible : PyJson → Prop
  | .float literal => py.isfinite literal = true
  | .str s => s.length ≤ maxPublicString
  | .arr items => items.length ≤ maxPublicItems ∧ AdmissibleItems items
  | .obj members => members.length ≤ maxPublicItems ∧ AdmissibleMembers members
  | _ => True

def AdmissibleItems : List PyJson → Prop
  | [] => True
  | v :: rest => Admissible v ∧ AdmissibleItems rest

def AdmissibleMembers : List (PyStr × PyJson) → Prop
  | [] => True
  | (k, v) :: rest =>
    (k.length ≤ 128 ∧ sensitiveKey py k = false) ∧ Admissible v ∧ AdmissibleMembers rest
end

section
variable {py : Builtins}

mutual
/-- The check passes exactly when what is below stays within the depth and every part is
admissible where it stands. -/
theorem validatePublicJson_ok : ∀ (v : PyJson) {depth : Nat},
    validatePublicJson py depth v = .ok () ↔ depth + height v ≤ maxPublicDepth ∧ Admissible py v
  | .null, _ => by
    rw [validatePublicJson, refuse_bind, Nat.not_lt]
    simp [height, Admissible]
  | .bool _, _ => by
    rw [validatePublicJson, refuse_bind, Nat.not_lt]
    simp [height, Admissible]
  | .int _, _ => by
    rw [validatePublicJson, refuse_bind, Nat.not_lt]
    simp [height, Admissible]
  | .float _, _ => by
    rw [validatePublicJson, refuse_bind, Nat.not_lt]
    simp [height, Admissible]
  | .str _, _ => by
    rw [validatePublicJson, refuse_bind, Nat.not_lt]
    simp [height, Admissible]
  | .arr items, depth => by
    rw [validatePublicJson, refuse_bind, refuse_bind, Nat.not_lt, Nat.not_lt]
    simp only [height, Admissible]
    constructor
    · rintro ⟨shallow, short, valid⟩
      obtain ⟨deep, all⟩ := (validatePublicItems_ok items shallow).mp valid
      exact ⟨deep, short, all⟩
    · rintro ⟨deep, short, all⟩
      have shallow : depth ≤ maxPublicDepth := by omega
      exact ⟨shallow, short, (validatePublicItems_ok items shallow).mpr ⟨deep, all⟩⟩
  | .obj members, depth => by
    rw [validatePublicJson, refuse_bind, refuse_bind, Nat.not_lt, Nat.not_lt]
    simp only [height, Admissible]
    constructor
    · rintro ⟨shallow, short, valid⟩
      obtain ⟨deep, all⟩ := (validatePublicMembers_ok members shallow).mp valid
      exact ⟨deep, short, all⟩
    · rintro ⟨deep, short, all⟩
      have shallow : depth ≤ maxPublicDepth := by omega
      exact ⟨shallow, short, (validatePublicMembers_ok members shallow).mpr ⟨deep, all⟩⟩

theorem validatePublicItems_ok : ∀ (items : List PyJson) {depth : Nat}, depth ≤ maxPublicDepth →
    (validatePublicItems py (depth + 1) items = .ok () ↔
      depth + heightItems items ≤ maxPublicDepth ∧ AdmissibleItems py items)
  | [], depth, shallow => by simpa [validatePublicItems, heightItems, AdmissibleItems] using shallow
  | v :: rest, depth, shallow => by
    rw [validatePublicItems, check_bind, validatePublicJson_ok v,
      validatePublicItems_ok rest shallow, heightItems, AdmissibleItems]
    constructor
    · rintro ⟨⟨deep, one⟩, more, all⟩
      exact ⟨by omega, one, all⟩
    · rintro ⟨deep, one, all⟩
      exact ⟨⟨by omega, one⟩, by omega, all⟩

theorem validatePublicMembers_ok : ∀ (members : List (PyStr × PyJson)) {depth : Nat},
    depth ≤ maxPublicDepth →
    (validatePublicMembers py (depth + 1) members = .ok () ↔
      depth + heightMembers members ≤ maxPublicDepth ∧ AdmissibleMembers py members)
  | [], depth, shallow => by
    simpa [validatePublicMembers, heightMembers, AdmissibleMembers] using shallow
  | (k, v) :: rest, depth, shallow => by
    rw [validatePublicMembers, refuse_bind, refuse_bind, check_bind, validatePublicJson_ok v,
      validatePublicMembers_ok rest shallow, heightMembers, AdmissibleMembers, Nat.not_lt,
      Bool.not_eq_true]
    constructor
    · rintro ⟨short, plain, ⟨deep, one⟩, more, all⟩
      exact ⟨by omega, ⟨short, plain⟩, one, all⟩
    · rintro ⟨deep, ⟨short, plain⟩, one, all⟩
      exact ⟨short, plain, ⟨by omega, one⟩, by omega, all⟩
end

theorem admissibleMembers_iff {members : List (PyStr × PyJson)} :
    AdmissibleMembers py members ↔
      ∀ m ∈ members, (m.1.length ≤ 128 ∧ sensitiveKey py m.1 = false) ∧ Admissible py m.2 := by
  induction members with
  | nil => simp [AdmissibleMembers]
  | cons m rest ih =>
    obtain ⟨k, v⟩ := m
    simp only [AdmissibleMembers, ih, List.forall_mem_cons, and_assoc]

theorem admissibleItems_iff {items : List PyJson} :
    AdmissibleItems py items ↔ ∀ v ∈ items, Admissible py v := by
  induction items with
  | nil => simp [AdmissibleItems]
  | cons v rest ih => rw [AdmissibleItems, ih, List.forall_mem_cons]

end

end Deckhand
