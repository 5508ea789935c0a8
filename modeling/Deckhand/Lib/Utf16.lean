import Mathlib.Tactic.Common

/-! Text as UTF-16 code units, the way JavaScript keeps its strings. -/
namespace Deckhand.Lib

abbrev JsString := List UInt16

def utf16Char (c : Char) : JsString :=
  if c.toNat < 0x10000 then [.ofNat c.toNat]
  else [.ofNat (0xd800 + (c.toNat - 0x10000) / 0x400),
    .ofNat (0xdc00 + (c.toNat - 0x10000) % 0x400)]

def utf16 (text : List Char) : JsString := text.flatMap utf16Char

def js (text : String) : JsString := utf16 text.toList

def highUnit (u : UInt16) : Bool := 0xd800 ≤ u.toNat && u.toNat < 0xdc00

def lowUnit (u : UInt16) : Bool := 0xdc00 ≤ u.toNat && u.toNat < 0xe000

/-- The characters that some units stand for; a surrogate without the other stands for none. -/
def scalars : JsString → List (Option Char)
  | [] => []
  | [u] => [if highUnit u || lowUnit u then none else some (.ofNat u.toNat)]
  | u :: v :: rest =>
    if highUnit u && lowUnit v then
      some (.ofNat (0x10000 + (u.toNat - 0xd800) * 0x400 + (v.toNat - 0xdc00))) :: scalars rest
    else (if highUnit u || lowUnit u then none else some (.ofNat u.toNat)) :: scalars (v :: rest)

/-- The text that some units stand for, where each stands for something. -/
def ofUtf16 (units : JsString) : Option (List Char) := (scalars units).mapM id

section
variable {c : Char} {u : UInt16} {rest : JsString} {text more : List Char}

theorem toNat_unit {n : Nat} (h : n < 0x10000) : (UInt16.ofNat n).toNat = n := by
  rw [UInt16.toNat_ofNat']
  exact Nat.mod_eq_of_lt h

theorem utf16_append : utf16 (text ++ more) = utf16 text ++ utf16 more := List.flatMap_append

theorem utf16_cons : utf16 (c :: text) = utf16Char c ++ utf16 text := List.flatMap_cons

theorem scalars_plain (plain : (highUnit u || lowUnit u) = false) :
    scalars (u :: rest) = some (.ofNat u.toNat) :: scalars rest := by
  obtain ⟨high, low⟩ := Bool.or_eq_false_iff.mp plain
  cases rest with
  | nil => simp [scalars, high, low]
  | cons v rest => simp [scalars, high, low]

theorem scalars_alone {v : UInt16} (high : highUnit u = true) (other : lowUnit v = false) :
    scalars (u :: v :: rest) = none :: scalars (v :: rest) := by
  simp [scalars, high, other]

theorem scalars_char : scalars (utf16Char c ++ rest) = some c :: scalars rest := by
  have valid : c.toNat < 0xd800 ∨ 0xdfff < c.toNat ∧ c.toNat < 0x110000 := c.valid
  rw [utf16Char]
  split
  · rename_i small
    have value := toNat_unit small
    have plain : (highUnit (.ofNat c.toNat) || lowUnit (.ofNat c.toNat)) = false := by
      simp only [highUnit, lowUnit, value, Bool.or_eq_false_iff, Bool.and_eq_false_iff,
        decide_eq_false_iff_not]
      omega
    change scalars (.ofNat c.toNat :: rest) = _
    rw [scalars_plain plain, value, Char.ofNat_toNat]
  · rename_i large
    have first := toNat_unit (n := 0xd800 + (c.toNat - 0x10000) / 0x400) (by omega)
    have second := toNat_unit (n := 0xdc00 + (c.toNat - 0x10000) % 0x400) (by omega)
    have high : highUnit (.ofNat (0xd800 + (c.toNat - 0x10000) / 0x400)) = true := by
      simp only [highUnit, first, Bool.and_eq_true, decide_eq_true_eq]
      omega
    have low : lowUnit (.ofNat (0xdc00 + (c.toNat - 0x10000) % 0x400)) = true := by
      simp only [lowUnit, second, Bool.and_eq_true, decide_eq_true_eq]
      omega
    have joined : 0x10000 + (0xd800 + (c.toNat - 0x10000) / 0x400 - 0xd800) * 0x400 +
        (0xdc00 + (c.toNat - 0x10000) % 0x400 - 0xdc00) = c.toNat := by omega
    simp only [List.cons_append, List.nil_append, scalars, high, low, Bool.and_self, if_true,
      first, second, joined, Char.ofNat_toNat]

theorem scalars_utf16 : scalars (utf16 text ++ rest) = text.map some ++ scalars rest := by
  induction text with
  | nil => rfl
  | cons c text ih =>
    rw [utf16_cons, List.append_assoc, scalars_char, ih]
    rfl

theorem ofUtf16_append : ofUtf16 (utf16 text ++ rest) = (ofUtf16 rest).map (text ++ ·) := by
  rw [ofUtf16, scalars_utf16, ofUtf16]
  induction text with
  | nil => simp
  | cons c text ih =>
    rw [List.map_cons, List.cons_append, List.mapM_cons, ih]
    cases (scalars rest).mapM id <;> rfl

theorem ofUtf16_utf16 : ofUtf16 (utf16 text) = some text := by
  have whole : ofUtf16 (utf16 text ++ []) = _ := ofUtf16_append
  rw [List.append_nil] at whole
  rw [whole]
  change some (text ++ []) = some text
  rw [List.append_nil]

theorem ofUtf16_alone {v : UInt16} (high : highUnit u = true) (other : lowUnit v = false) :
    ofUtf16 (u :: v :: rest) = none := by
  rw [ofUtf16, scalars_alone high other]
  rfl

end
end Deckhand.Lib
