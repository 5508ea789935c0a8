import Mathlib.Algebra.GroupWithZero.Nat
import Mathlib.Data.List.Chain
import Mathlib.Tactic.Common

/-! Python's text: strings of code points, surrogates among them, and how bytes are read as
text. -/
namespace Deckhand.Lib

abbrev CodePoint := Fin 0x110000

abbrev PyStr := List CodePoint

instance codePoints_neZero : NeZero 0x110000 := ⟨by decide⟩

instance : LawfulBEq PyStr := inferInstance

def codePoint (c : Char) : CodePoint := ⟨c.toNat, by
  rcases c.valid with h | ⟨_, h⟩
  · exact Nat.lt_trans h (by decide)
  · exact h⟩

/-- A text of Unicode scalar values. -/
def pyStr (s : String) : PyStr := s.toList.map codePoint

instance : Coe String PyStr := ⟨pyStr⟩

def isHigh (c : CodePoint) : Bool := 0xd800 ≤ c.val && c.val < 0xdc00

def isLow (c : CodePoint) : Bool := 0xdc00 ≤ c.val && c.val < 0xe000

def isSurrogate (c : CodePoint) : Bool := 0xd800 ≤ c.val && c.val < 0xe000

def pair (high low : CodePoint) : CodePoint :=
  Fin.ofNat 0x110000 (0x10000 + (high.val % 0x400) * 0x400 + low.val % 0x400)

/-- A string with each high surrogate and the low one after it made into one code point. -/
def join : PyStr → PyStr
  | [] => []
  | [c] => [c]
  | c :: d :: rest =>
    if isHigh c && isLow d then pair c d :: join rest else c :: join (d :: rest)

/-- UTF-8 has bytes for it: no character is a surrogate. -/
def encodable (s : PyStr) : Bool := s.all fun c => !isSurrogate c

/-- The text as a Lean string, where UTF-8 has bytes for it. -/
def scalarText (s : PyStr) : Option String :=
  if encodable s then some (String.ofList (s.map fun c => Char.ofNat c.val)) else none

/-- The bytes of a text with its surrogates let through, decoded with replacement: each of the
three bytes of a surrogate becomes U+FFFD. -/
def lossy (s : PyStr) : PyStr :=
  s.flatMap fun c => if isSurrogate c then List.replicate 3 0xfffd else [c]

/-- No high surrogate is directly followed by a low one. -/
def Joined (s : PyStr) : Prop := s.IsChain fun c d => ¬ (isHigh c = true ∧ isLow d = true)

instance (s : PyStr) : Decidable (Joined s) := inferInstanceAs (Decidable (List.IsChain _ s))

theorem codePoint_val (c : Char) : (codePoint c).val = c.toNat := rfl

theorem codePoint_injective : Function.Injective codePoint := by
  intro c d same
  have values : (codePoint c).val = (codePoint d).val := congrArg Fin.val same
  exact Char.toNat_inj.mp values

theorem pyStr_injective : Function.Injective pyStr := by
  intro s t same
  exact String.toList_injective ((List.map_injective_iff.mpr codePoint_injective) same)

@[simp] theorem pyStr_inj {s t : String} : pyStr s = pyStr t ↔ s = t := pyStr_injective.eq_iff

theorem pyStr_length (s : String) : (pyStr s).length = s.length := by
  simp [pyStr, String.length_toList]

theorem codePoint_scalar (c : Char) : isSurrogate (codePoint c) = false := by
  simp only [isSurrogate, Bool.and_eq_false_iff, decide_eq_false_iff_not]
  have valid : c.toNat < 0xd800 ∨ 0xdfff < c.toNat ∧ c.toNat < 0x110000 := c.valid
  have value := codePoint_val c
  omega

theorem pyStr_encodable (s : String) : encodable (pyStr s) = true := by
  simp [encodable, pyStr, codePoint_scalar]

theorem encodable_iff {s : PyStr} : encodable s = true ↔ ∀ c ∈ s, isSurrogate c = false := by
  simp [encodable]

theorem scalarText_ok {s : PyStr} {text : String} (h : scalarText s = some text) :
    pyStr text = s := by
  unfold scalarText at h
  split at h
  · rename_i scalar
    cases h
    rw [encodable_iff] at scalar
    simp only [pyStr, String.toList_ofList, List.map_map]
    refine (List.map_congr_left fun c member => ?_).trans (List.map_id s)
    have plain := scalar c member
    have valid : c.val.isValidChar := by
      have bound := c.isLt
      simp only [isSurrogate, Bool.and_eq_false_iff, decide_eq_false_iff_not] at plain
      unfold Nat.isValidChar
      omega
    apply Fin.ext
    change (Char.ofNat c.val).toNat = c.val
    rw [Char.ofNat, dif_pos valid]
    rfl
  · cases h

@[simp] theorem scalarText_pyStr (s : String) : scalarText (pyStr s) = some s := by
  have read : scalarText (pyStr s) =
      some (String.ofList ((pyStr s).map fun c => Char.ofNat c.val)) := if_pos (pyStr_encodable s)
  exact read.trans (congrArg some (pyStr_injective (scalarText_ok read)))

theorem lossy_encodable (s : PyStr) : encodable (lossy s) = true := by
  rw [encodable_iff]
  intro d member
  obtain ⟨c, -, inside⟩ := List.mem_flatMap.mp member
  split at inside
  · obtain rfl := List.eq_of_mem_replicate inside
    decide
  · rename_i plain
    obtain rfl := List.mem_singleton.mp inside
    exact Bool.eq_false_iff.mpr plain

theorem lossy_of_encodable {s : PyStr} (h : encodable s = true) : lossy s = s := by
  rw [encodable_iff] at h
  induction s with
  | nil => rfl
  | cons c rest ih =>
    rw [lossy, List.flatMap_cons, if_neg (by simp [h c])]
    exact congrArg (c :: ·) (ih fun d later => h d (List.mem_cons_of_mem _ later))

@[simp] theorem lossy_pyStr (s : String) : lossy (pyStr s) = pyStr s :=
  lossy_of_encodable (pyStr_encodable s)

theorem high_surrogate {c : CodePoint} (h : isHigh c = true) : isSurrogate c = true := by
  simp only [isHigh, isSurrogate, Bool.and_eq_true, decide_eq_true_eq] at h ⊢
  omega

theorem scalar_joined {s : PyStr} (scalar : encodable s = true) : Joined s := by
  rw [encodable_iff] at scalar
  induction s with
  | nil => exact .nil
  | cons c rest ih =>
    refine List.IsChain.cons (ih fun d hd => scalar d (by simp [hd])) ?_
    rintro d - ⟨high, -⟩
    have := scalar c (by simp)
    rw [high_surrogate high] at this
    cases this

theorem pyStr_joined (s : String) : Joined (pyStr s) := scalar_joined (pyStr_encodable s)

theorem pair_val (high low : CodePoint) : (pair high low).val =
    0x10000 + (high.val % 0x400) * 0x400 + low.val % 0x400 := by
  have bound : 0x10000 + (high.val % 0x400) * 0x400 + low.val % 0x400 < 0x110000 := by omega
  exact Nat.mod_eq_of_lt bound

theorem pair_plain (high low : CodePoint) :
    isHigh (pair high low) = false ∧ isLow (pair high low) = false := by
  simp only [isHigh, isLow, pair_val, Bool.and_eq_false_iff, decide_eq_false_iff_not]
  omega

theorem join_of_joined {s : PyStr} (joined : Joined s) : join s = s := by
  induction s with
  | nil => rfl
  | cons c rest ih =>
    cases rest with
    | nil => rfl
    | cons d rest =>
      obtain ⟨apart, later⟩ := List.isChain_cons_cons.mp joined
      rw [join, ih later, if_neg]
      simpa using apart

theorem join_head {s : PyStr} {c : CodePoint} (h : (join s).head? = some c) :
    s.head? = some c ∨ (isHigh c = false ∧ isLow c = false) := by
  match s with
  | [] => cases h
  | [d] => exact .inl h
  | d :: e :: rest =>
    rw [join] at h
    split at h
    · obtain rfl := Option.some.inj h
      exact .inr (pair_plain d e)
    · exact .inl h

theorem join_joined (s : PyStr) : Joined (join s) := by
  induction s using join.induct with
  | case1 => exact .nil
  | case2 c => exact .singleton c
  | case3 c d rest together ih =>
    rw [join, if_pos together]
    refine List.IsChain.cons ih ?_
    rintro e - ⟨high, -⟩
    rw [(pair_plain c d).1] at high
    cases high
  | case4 c d rest apart ih =>
    rw [join, if_neg apart]
    refine List.IsChain.cons ih ?_
    rintro e first ⟨high, low⟩
    rcases join_head first with h | ⟨-, h⟩
    · obtain rfl := Option.some.inj h
      exact apart (by simp [high, low])
    · rw [h] at low
      cases low

@[simp] theorem join_pyStr (s : String) : join (pyStr s) = pyStr s :=
  join_of_joined (pyStr_joined s)

@[simp] theorem join_join (s : PyStr) : join (join s) = join s := join_of_joined (join_joined s)

theorem join_plain {s k : PyStr} (joined : join s = k) (plain : ∀ c ∈ k, c.val < 0x10000) :
    s = k := by
  induction s using join.induct generalizing k with
  | case1 => exact joined
  | case2 c => exact joined
  | case3 c d rest together ih =>
    rw [join, if_pos together] at joined
    subst joined
    have bound := plain _ List.mem_cons_self
    rw [pair_val] at bound
    omega
  | case4 c d rest apart ih =>
    rw [join, if_neg apart] at joined
    subst joined
    rw [← ih rfl fun e member => plain e (List.mem_cons_of_mem c member)]

theorem join_eq_iff {s : PyStr} : join s = s ↔ Joined s := by
  constructor
  · intro same
    rw [← same]
    exact join_joined s
  · exact join_of_joined

end Deckhand.Lib
