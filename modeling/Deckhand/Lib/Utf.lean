import Deckhand.Lib.PyText

/-! Bytes read as text the way `json.loads` reads them: the encoding is guessed, and
surrogates are let through. -/
namespace Deckhand.Lib

/-- UTF-8 of a code point. -/
def encodeCodePoint (c : CodePoint) : List UInt8 :=
  if c.val < 0x80 then [.ofNat c.val]
  else if c.val < 0x800 then [.ofNat (0xc0 + c.val / 0x40), .ofNat (0x80 + c.val % 0x40)]
  else if c.val < 0x10000 then
    [.ofNat (0xe0 + c.val / 0x1000), .ofNat (0x80 + c.val / 0x40 % 0x40),
      .ofNat (0x80 + c.val % 0x40)]
  else
    [.ofNat (0xf0 + c.val / 0x40000), .ofNat (0x80 + c.val / 0x1000 % 0x40),
      .ofNat (0x80 + c.val / 0x40 % 0x40), .ofNat (0x80 + c.val % 0x40)]

def encodeUtf8 (s : PyStr) : List UInt8 := s.flatMap encodeCodePoint

def isTail (b : UInt8) : Bool := 0x80 ≤ b.toNat && b.toNat < 0xc0

/-- The decoder between two bytes: how many more the code point has, what they are added to,
and the least value that needs so many. -/
structure Utf8State where
  owed : Nat
  value : Nat
  least : Nat

def Utf8State.start : Utf8State := ⟨0, 0, 0⟩

def leadByte (b : UInt8) : Option Utf8State :=
  if b.toNat < 0xc2 then none
  else if b.toNat < 0xe0 then some ⟨1, b.toNat - 0xc0, 0x80⟩
  else if b.toNat < 0xf0 then some ⟨2, b.toNat - 0xe0, 0x800⟩
  else if b.toNat < 0xf5 then some ⟨3, b.toNat - 0xf0, 0x10000⟩
  else none

/-- `bytes.decode("utf-8", "surrogatepass")`, from the middle of a code point. -/
def decodeFrom : Utf8State → List UInt8 → Option PyStr
  | st, [] => if st.owed = 0 then some [] else none
  | st, b :: rest =>
    if st.owed = 0 then
      if b.toNat < 0x80 then (decodeFrom .start rest).map (Fin.ofNat _ b.toNat :: ·)
      else match leadByte b with
        | some st => decodeFrom st rest
        | none => none
    else if isTail b then
      let n := st.value * 0x40 + b.toNat % 0x40
      if st.owed = 1 then
        if st.least ≤ n ∧ n < 0x110000 then (decodeFrom .start rest).map (Fin.ofNat _ n :: ·)
        else none
      else decodeFrom ⟨st.owed - 1, n, st.least⟩ rest
    else none

def decodeUtf8 (bytes : List UInt8) : Option PyStr := decodeFrom .start bytes

def units (big : Bool) : List UInt8 → Option PyStr
  | [] => some []
  | [_] => none
  | a :: b :: rest =>
    let n := if big then a.toNat * 0x100 + b.toNat else b.toNat * 0x100 + a.toNat
    (units big rest).map (Fin.ofNat _ n :: ·)

def decodeUtf16 (big : Bool) (bytes : List UInt8) : Option PyStr := (units big bytes).map join

def decodeUtf32 (big : Bool) : List UInt8 → Option PyStr
  | [] => some []
  | a :: b :: c :: d :: rest =>
    let n := if big then ((a.toNat * 0x100 + b.toNat) * 0x100 + c.toNat) * 0x100 + d.toNat
      else ((d.toNat * 0x100 + c.toNat) * 0x100 + b.toNat) * 0x100 + a.toNat
    if n < 0x110000 then (decodeUtf32 big rest).map (Fin.ofNat _ n :: ·) else none
  | _ => none

/-- `json.detect_encoding` and the decoding it selects. -/
def decodeText (bytes : List UInt8) : Option PyStr :=
  if [0x00, 0x00, 0xfe, 0xff].isPrefixOf bytes then decodeUtf32 true (bytes.drop 4)
  else if [0xff, 0xfe, 0x00, 0x00].isPrefixOf bytes then decodeUtf32 false (bytes.drop 4)
  else if [0xfe, 0xff].isPrefixOf bytes then decodeUtf16 true (bytes.drop 2)
  else if [0xff, 0xfe].isPrefixOf bytes then decodeUtf16 false (bytes.drop 2)
  else if [0xef, 0xbb, 0xbf].isPrefixOf bytes then decodeUtf8 (bytes.drop 3)
  else match bytes with
  | a :: b :: c :: d :: _ =>
    if a = 0 then if b = 0 then decodeUtf32 true bytes else decodeUtf16 true bytes
    else if b = 0 then
      if c = 0 && d = 0 then decodeUtf32 false bytes else decodeUtf16 false bytes
    else decodeUtf8 bytes
  | [a, b] =>
    if a = 0 then decodeUtf16 true bytes
    else if b = 0 then decodeUtf16 false bytes
    else decodeUtf8 bytes
  | _ => decodeUtf8 bytes

theorem toNat_ofNat {n : Nat} (h : n < 0x100) : (UInt8.ofNat n).toNat = n := by
  rw [UInt8.toNat_ofNat']
  exact Nat.mod_eq_of_lt h

theorem fin_ofNat {n : Nat} {c : CodePoint} (h : n = c.val) : Fin.ofNat 0x110000 n = c := by
  apply Fin.ext
  rw [h]
  exact Nat.mod_eq_of_lt c.isLt

theorem tail_ofNat {n : Nat} : isTail (.ofNat (0x80 + n % 0x40)) = true := by
  simp only [isTail, Bool.and_eq_true, decide_eq_true_eq]
  rw [toNat_ofNat (by omega)]
  omega

section
variable {n : Nat} {rest : List UInt8} {st : Utf8State}

theorem decodeFrom_ascii (small : n < 0x80) :
    decodeFrom .start (.ofNat n :: rest) = (decodeFrom .start rest).map (Fin.ofNat _ n :: ·) := by
  have byte := toNat_ofNat (n := n) (by omega)
  have free : Utf8State.start.owed = 0 := rfl
  rw [decodeFrom, byte, if_pos free, if_pos small]

theorem decodeFrom_lead (high : 0x80 ≤ n) (byte : n < 0x100)
    (lead : leadByte (.ofNat n) = some st) :
    decodeFrom .start (.ofNat n :: rest) = decodeFrom st rest := by
  have value := toNat_ofNat byte
  have wide : ¬ n < 0x80 := by omega
  have free : Utf8State.start.owed = 0 := rfl
  rw [decodeFrom, value, if_pos free, if_neg wide, lead]

theorem decodeFrom_tail (owed : 2 ≤ st.owed) :
    decodeFrom st (.ofNat (0x80 + n % 0x40) :: rest) =
      decodeFrom ⟨st.owed - 1, st.value * 0x40 + n % 0x40, st.least⟩ rest := by
  have byte := toNat_ofNat (n := 0x80 + n % 0x40) (by omega)
  have more : ¬ st.owed = 0 := by omega
  have many : ¬ st.owed = 1 := by omega
  have low : (0x80 + n % 0x40) % 0x40 = n % 0x40 := by omega
  rw [decodeFrom, byte, if_neg more, if_pos tail_ofNat, if_neg many, low]

theorem decodeFrom_last (owed : st.owed = 1) (c : CodePoint)
    (value : st.value * 0x40 + n % 0x40 = c.val) (least : st.least ≤ c.val) :
    decodeFrom st (.ofNat (0x80 + n % 0x40) :: rest) =
      (decodeFrom .start rest).map (c :: ·) := by
  have byte := toNat_ofNat (n := 0x80 + n % 0x40) (by omega)
  have more : ¬ st.owed = 0 := by omega
  have low : (0x80 + n % 0x40) % 0x40 = n % 0x40 := by omega
  rw [decodeFrom, byte, if_neg more, if_pos tail_ofNat, if_pos owed, low, value,
    if_pos ⟨least, c.isLt⟩, fin_ofNat rfl]

end

theorem leadByte_two {n : Nat} (low : 0xc2 ≤ n) (high : n < 0xe0) :
    leadByte (.ofNat n) = some ⟨1, n - 0xc0, 0x80⟩ := by
  rw [leadByte, toNat_ofNat (by omega), if_neg (by omega), if_pos high]

theorem leadByte_three {n : Nat} (low : 0xe0 ≤ n) (high : n < 0xf0) :
    leadByte (.ofNat n) = some ⟨2, n - 0xe0, 0x800⟩ := by
  rw [leadByte, toNat_ofNat (by omega), if_neg (by omega), if_neg (by omega), if_pos high]

theorem leadByte_four {n : Nat} (low : 0xf0 ≤ n) (high : n < 0xf5) :
    leadByte (.ofNat n) = some ⟨3, n - 0xf0, 0x10000⟩ := by
  rw [leadByte, toNat_ofNat (by omega), if_neg (by omega), if_neg (by omega), if_neg (by omega),
    if_pos high]

theorem decode_encodeCodePoint (c : CodePoint) (rest : List UInt8) :
    decodeUtf8 (encodeCodePoint c ++ rest) = (decodeUtf8 rest).map (c :: ·) := by
  have bound := c.isLt
  unfold encodeCodePoint decodeUtf8
  split
  · rename_i one
    rw [List.singleton_append, decodeFrom_ascii one, fin_ofNat rfl]
  · split
    · rename_i one two
      rw [List.cons_append, List.singleton_append,
        decodeFrom_lead (by omega) (by omega) (leadByte_two (by omega) (by omega)),
        decodeFrom_last rfl c (by dsimp only; omega) (by dsimp only; omega)]
    · split
      · rename_i one two three
        rw [List.cons_append, List.cons_append, List.singleton_append,
          decodeFrom_lead (by omega) (by omega) (leadByte_three (by omega) (by omega)),
          decodeFrom_tail (by simp),
          decodeFrom_last rfl c (by dsimp only; omega) (by dsimp only; omega)]
      · rename_i one two three
        rw [List.cons_append, List.cons_append, List.cons_append, List.singleton_append,
          decodeFrom_lead (by omega) (by omega) (leadByte_four (by omega) (by omega)),
          decodeFrom_tail (by simp), decodeFrom_tail (by simp),
          decodeFrom_last rfl c (by dsimp only; omega) (by dsimp only; omega)]

theorem decode_encodeUtf8 (s : PyStr) : decodeUtf8 (encodeUtf8 s) = some s := by
  induction s with
  | nil => rfl
  | cons c rest ih =>
    rw [encodeUtf8, List.flatMap_cons, decode_encodeCodePoint]
    change Option.map _ (decodeUtf8 (encodeUtf8 rest)) = _
    rw [ih]
    rfl

theorem encodeUtf8_length (s : PyStr) : (encodeUtf8 s).length ≤ 4 * s.length := by
  induction s with
  | nil => simp [encodeUtf8]
  | cons c rest ih =>
    have one : (encodeCodePoint c).length ≤ 4 := by
      unfold encodeCodePoint
      split_ifs <;> simp
    simp only [encodeUtf8, List.flatMap_cons, List.length_append, List.length_cons] at ih ⊢
    omega

/-- A first byte that no encoding's mark starts with and that is not NUL, and a second one that
is not NUL. -/
theorem decodeText_utf8 {x y : UInt8} (rest : List UInt8) (x0 : x ≠ 0x00) (xff : x ≠ 0xff)
    (xfe : x ≠ 0xfe) (xef : x ≠ 0xef) (y0 : y ≠ 0x00) :
    decodeText (x :: y :: rest) = decodeUtf8 (x :: y :: rest) := by
  have unmarked : ∀ {m : UInt8} {mark : List UInt8}, x ≠ m →
      (m :: mark).isPrefixOf (x :: y :: rest) = false := by
    intro m mark other
    simp [List.isPrefixOf, other.symm]
  simp only [decodeText, unmarked x0, unmarked xff, unmarked xfe, unmarked xef, Bool.false_eq_true,
    if_false]
  rcases rest with _ | ⟨c, _ | ⟨d, rest⟩⟩
  · exact (if_neg x0).trans (if_neg y0)
  · rfl
  · exact (if_neg x0).trans (if_neg y0)

/-- The bytes of a text that starts with two ASCII characters, neither of them NUL, are taken
for UTF-8. -/
theorem decodeText_ascii (a b : CodePoint) (rest : PyStr) (ha : 0 < a.val ∧ a.val < 0x80)
    (hb : 0 < b.val ∧ b.val < 0x80) :
    decodeText (encodeUtf8 (a :: b :: rest)) = some (a :: b :: rest) := by
  have whole := decode_encodeUtf8 (a :: b :: rest)
  have first : encodeUtf8 (a :: b :: rest) =
      .ofNat a.val :: .ofNat b.val :: encodeUtf8 rest := by
    simp [encodeUtf8, encodeCodePoint, ha.2, hb.2]
  rw [first] at whole ⊢
  have byte : ∀ {n : Nat} {m : UInt8}, 0 < n ∧ n < 0x80 → (m.toNat = 0 ∨ 0x80 ≤ m.toNat) →
      UInt8.ofNat n ≠ m := by
    rintro n m ⟨positive, ascii⟩ other rfl
    rw [toNat_ofNat (by omega)] at other
    omega
  have a0 := byte (m := 0x00) ha (by decide)
  have b0 := byte (m := 0x00) hb (by decide)
  have afe := byte (m := 0xfe) ha (by decide)
  have aff := byte (m := 0xff) ha (by decide)
  have aef := byte (m := 0xef) ha (by decide)
  rw [decodeText_utf8 _ a0 aff afe aef b0]
  exact whole

end Deckhand.Lib
