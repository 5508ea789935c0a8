import Mathlib.Data.List.DropRight
import Deckhand.Lib.Utf

/-! URL-safe base64 without padding, as Python's base64 module writes it and reads it: the
reader passes over every character that is not of the alphabet. -/
namespace Deckhand.Lib

def alphabet : List Char :=
  "ABCDEFGHIJKLMNOPQRSTUVWXYZabcdefghijklmnopqrstuvwxyz0123456789-_".toList

def base64Digit (n : Nat) : CodePoint := codePoint (alphabet.getD n 'A')

/-- The reader's table, which knows both spellings of the last two digits. -/
def base64Value (c : CodePoint) : Option Nat :=
  if 0x41 ≤ c.val ∧ c.val ≤ 0x5a then some (c.val - 0x41)
  else if 0x61 ≤ c.val ∧ c.val ≤ 0x7a then some (c.val - 0x61 + 26)
  else if 0x30 ≤ c.val ∧ c.val ≤ 0x39 then some (c.val - 0x30 + 52)
  else if c = codePoint '-' ∨ c = codePoint '+' then some 62
  else if c = codePoint '_' ∨ c = codePoint '/' then some 63
  else none

def padding : CodePoint := codePoint '='

/-- `base64.urlsafe_b64encode` -/
def urlsafeB64encode : List UInt8 → PyStr
  | [] => []
  | [a] => [base64Digit (a.toNat / 4), base64Digit (a.toNat % 4 * 16), padding, padding]
  | [a, b] =>
    [base64Digit (a.toNat / 4), base64Digit (a.toNat % 4 * 16 + b.toNat / 16),
      base64Digit (b.toNat % 16 * 4), padding]
  | a :: b :: c :: rest =>
    base64Digit (a.toNat / 4) :: base64Digit (a.toNat % 4 * 16 + b.toNat / 16) ::
      base64Digit (b.toNat % 16 * 4 + c.toNat / 64) :: base64Digit (c.toNat % 64) ::
      urlsafeB64encode rest

def b64uEncode (raw : List UInt8) : PyStr :=
  (urlsafeB64encode raw).rdropWhile fun c => c = padding

/-- `binascii.a2b_base64`: the place in the group of four, the bits left over and the padding
seen so far. -/
def a2bBase64 (quad left pads : Nat) : PyStr → Option (List UInt8)
  | [] => if quad = 0 then some [] else none
  | c :: rest =>
    if c = padding then
      if quad < 2 then a2bBase64 quad left pads rest
      else if 4 ≤ quad + (pads + 1) then some []
      else a2bBase64 quad left (pads + 1) rest
    else match base64Value c with
      | none => a2bBase64 quad left pads rest
      | some v =>
        if quad = 0 then a2bBase64 1 v 0 rest
        else if quad = 1 then (a2bBase64 2 (v % 16) 0 rest).map (.ofNat (left * 4 + v / 16) :: ·)
        else if quad = 2 then (a2bBase64 3 (v % 4) 0 rest).map (.ofNat (left * 16 + v / 4) :: ·)
        else (a2bBase64 0 0 0 rest).map (.ofNat (left * 64 + v) :: ·)

def b64uDecode (text : PyStr) : Option (List UInt8) :=
  let padded := text ++ List.replicate ((4 - text.length % 4) % 4) padding
  if padded.all fun c => c.val < 0x80 then a2bBase64 0 0 0 padded else none

/-- The digits of some bytes, without padding. -/
def base64Digits : List UInt8 → PyStr
  | [] => []
  | [a] => [base64Digit (a.toNat / 4), base64Digit (a.toNat % 4 * 16)]
  | [a, b] =>
    [base64Digit (a.toNat / 4), base64Digit (a.toNat % 4 * 16 + b.toNat / 16),
      base64Digit (b.toNat % 16 * 4)]
  | a :: b :: c :: rest =>
    base64Digit (a.toNat / 4) :: base64Digit (a.toNat % 4 * 16 + b.toNat / 16) ::
      base64Digit (b.toNat % 16 * 4 + c.toNat / 64) :: base64Digit (c.toNat % 64) ::
      base64Digits rest

theorem base64Digit_facts {n : Nat} (h : n < 64) : base64Value (base64Digit n) = some n ∧
    base64Digit n ≠ padding ∧ (base64Digit n).val < 0x80 := by
  have all : ∀ n < 64, base64Value (base64Digit n) = some n ∧ base64Digit n ≠ padding ∧
      (base64Digit n).val < 0x80 := by decide +kernel
  exact all n h

theorem digits_plain (raw : List UInt8) :
    ∀ c ∈ base64Digits raw, c ≠ padding ∧ c.val < 0x80 := by
  have bound : ∀ b : UInt8, b.toNat < 256 := fun b => b.toNat_lt
  have digit : ∀ {n : Nat}, n < 64 → base64Digit n ≠ padding ∧ (base64Digit n).val < 0x80 :=
    fun h => (base64Digit_facts h).2
  induction raw using base64Digits.induct with
  | case1 => simp [base64Digits]
  | case2 a =>
    have := bound a
    simp only [base64Digits, List.mem_cons, List.not_mem_nil, or_false, forall_eq_or_imp, forall_eq]
    exact ⟨digit (by omega), digit (by omega)⟩
  | case3 a b =>
    have := bound a
    have := bound b
    simp only [base64Digits, List.mem_cons, List.not_mem_nil, or_false, forall_eq_or_imp, forall_eq]
    exact ⟨digit (by omega), digit (by omega), digit (by omega)⟩
  | case4 a b c rest ih =>
    have := bound a
    have := bound b
    have := bound c
    simp only [base64Digits, List.mem_cons, forall_eq_or_imp]
    exact ⟨digit (by omega), digit (by omega), digit (by omega), digit (by omega), ih⟩

theorem digits_groups (a b c : UInt8) (rest : List UInt8) :
    (base64Digits (a :: b :: c :: rest)).length % 4 = (base64Digits rest).length % 4 := by
  simp only [base64Digits, List.length_cons]
  omega

theorem encode_digits (raw : List UInt8) : urlsafeB64encode raw =
    base64Digits raw ++ List.replicate ((4 - (base64Digits raw).length % 4) % 4) padding := by
  induction raw using base64Digits.induct with
  | case1 => rfl
  | case2 a => rfl
  | case3 a b => rfl
  | case4 a b c rest ih =>
    rw [digits_groups, urlsafeB64encode, ih, base64Digits]
    rfl

theorem b64uEncode_digits (raw : List UInt8) : b64uEncode raw = base64Digits raw := by
  have plain := digits_plain raw
  rw [b64uEncode, encode_digits, List.rdropWhile, List.reverse_append, List.reverse_replicate,
    List.dropWhile_append_of_pos]
  · cases whole : (base64Digits raw).reverse with
    | nil => simpa using whole.symm
    | cons c rest =>
      have member : c ∈ base64Digits raw := by
        rw [← List.mem_reverse, whole]
        simp
      rw [List.dropWhile_cons_of_neg (by simpa using (plain c member).1), ← whole,
        List.reverse_reverse]
  · intro c member
    simpa using List.eq_of_mem_replicate member

theorem b64uEncode_joined (raw : List UInt8) : Joined (b64uEncode raw) := by
  rw [b64uEncode_digits]
  apply scalar_joined
  rw [encodable_iff]
  intro c member
  have plain := (digits_plain raw c member).2
  simp only [isSurrogate, Bool.and_eq_false_iff, decide_eq_false_iff_not]
  omega

section
variable {n left : Nat} {rest : PyStr}

theorem a2b_first (h : n < 64) :
    a2bBase64 0 left 0 (base64Digit n :: rest) = a2bBase64 1 n 0 rest := by
  obtain ⟨value, plain, -⟩ := base64Digit_facts h
  rw [a2bBase64, if_neg plain, value]
  rfl

theorem a2b_second (h : n < 64) : a2bBase64 1 left 0 (base64Digit n :: rest) =
    (a2bBase64 2 (n % 16) 0 rest).map (.ofNat (left * 4 + n / 16) :: ·) := by
  obtain ⟨value, plain, -⟩ := base64Digit_facts h
  rw [a2bBase64, if_neg plain, value]
  rfl

theorem a2b_third (h : n < 64) : a2bBase64 2 left 0 (base64Digit n :: rest) =
    (a2bBase64 3 (n % 4) 0 rest).map (.ofNat (left * 16 + n / 4) :: ·) := by
  obtain ⟨value, plain, -⟩ := base64Digit_facts h
  rw [a2bBase64, if_neg plain, value]
  rfl

theorem a2b_fourth (h : n < 64) : a2bBase64 3 left 0 (base64Digit n :: rest) =
    (a2bBase64 0 0 0 rest).map (.ofNat (left * 64 + n) :: ·) := by
  obtain ⟨value, plain, -⟩ := base64Digit_facts h
  rw [a2bBase64, if_neg plain, value]
  rfl

end

theorem ofNat_byte {n : Nat} {b : UInt8} (h : n = b.toNat) : UInt8.ofNat n = b := by
  rw [h, UInt8.ofNat_toNat]

theorem a2b_digits (raw : List UInt8) : a2bBase64 0 0 0
    (base64Digits raw ++ List.replicate ((4 - (base64Digits raw).length % 4) % 4) padding) =
      some raw := by
  have bound : ∀ b : UInt8, b.toNat < 256 := fun b => b.toNat_lt
  induction raw using base64Digits.induct with
  | case1 => rfl
  | case2 a =>
    have := bound a
    simp only [base64Digits, List.cons_append, List.nil_append]
    rw [a2b_first (by omega), a2b_second (by omega), ofNat_byte (b := a) (by omega)]
    rfl
  | case3 a b =>
    have := bound a
    have := bound b
    simp only [base64Digits, List.cons_append, List.nil_append]
    rw [a2b_first (by omega), a2b_second (by omega), a2b_third (by omega),
      ofNat_byte (b := a) (by omega), ofNat_byte (b := b) (by omega)]
    rfl
  | case4 a b c rest ih =>
    have := bound a
    have := bound b
    have := bound c
    rw [digits_groups]
    simp only [base64Digits, List.cons_append]
    rw [a2b_first (by omega), a2b_second (by omega), a2b_third (by omega), a2b_fourth (by omega),
      ih, ofNat_byte (b := a) (by omega), ofNat_byte (b := b) (by omega),
      ofNat_byte (b := c) (by omega)]
    rfl

theorem b64u_round (raw : List UInt8) : b64uDecode (b64uEncode raw) = some raw := by
  rw [b64uEncode_digits, b64uDecode, a2b_digits, if_pos]
  rw [List.all_append, Bool.and_eq_true]
  constructor
  · rw [List.all_eq_true]
    intro c member
    simpa using (digits_plain raw c member).2
  · rw [List.all_eq_true]
    intro c member
    rw [List.eq_of_mem_replicate member]
    decide

end Deckhand.Lib
