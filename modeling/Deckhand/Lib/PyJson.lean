import Deckhand.Lib.Checks
import Deckhand.Lib.Utf
import Deckhand.Lib.Json

/-! What `json.loads` reads and `json.dumps` writes, over code points. -/
namespace Deckhand.Lib

/-- A float is carried as the text it is read from or written as. -/
inductive PyJson where
  | null
  | bool (b : Bool)
  | int (i : Int)
  | float (literal : PyStr)
  | str (s : PyStr)
  | arr (items : List PyJson)
  | obj (members : List (PyStr × PyJson))

namespace PyJson

def str? : PyJson → Option PyStr
  | .str s => some s
  | _ => none

def members? : PyJson → Option (List (PyStr × PyJson))
  | .obj members => some members
  | _ => none

end PyJson

/-- `d[key]` -/
def pyGet {α : Type} (members : List (PyStr × α)) (key : String) : Option α :=
  (members.find? fun m => m.1 = pyStr key).map Prod.snd

section Strings

/-- Where the reader stands in a string: between characters, after a backslash, or with some
digits of a `\u` escape still to come. -/
inductive StringState where
  | plain
  | escaped
  | hex (digits value : Nat)

def hexValue (c : CodePoint) : Option Nat :=
  if 0x30 ≤ c.val ∧ c.val ≤ 0x39 then some (c.val - 0x30)
  else if 0x61 ≤ c.val ∧ c.val ≤ 0x66 then some (c.val - 0x61 + 10)
  else if 0x41 ≤ c.val ∧ c.val ≤ 0x46 then some (c.val - 0x41 + 10)
  else none

def simpleEscapes : List (Char × Char) :=
  [('"', '"'), ('\\', '\\'), ('/', '/'), ('n', '\n'), ('r', '\r'), ('t', '\t'),
    ('b', '\x08'), ('f', '\x0c')]

def simpleEscape (c : CodePoint) : Option CodePoint :=
  (simpleEscapes.find? fun e => codePoint e.1 = c).map fun e => codePoint e.2

/-- The characters of a string up to its closing quote, each with whether it was written
as `\u` escape. -/
def readUnits : StringState → PyStr → Option (List (CodePoint × Bool) × PyStr)
  | _, [] => none
  | .plain, c :: rest =>
    if c = codePoint '"' then some ([], rest)
    else if c = codePoint '\\' then readUnits .escaped rest
    else if c.val < 0x20 then none
    else (readUnits .plain rest).map fun r => ((c, false) :: r.1, r.2)
  | .escaped, c :: rest =>
    if c = codePoint 'u' then readUnits (.hex 4 0) rest
    else match simpleEscape c with
      | some d => (readUnits .plain rest).map fun r => ((d, false) :: r.1, r.2)
      | none => none
  | .hex digits value, c :: rest =>
    match hexValue c with
    | some d =>
      if digits ≤ 1 then
        (readUnits .plain rest).map fun r => ((Fin.ofNat _ (value * 16 + d), true) :: r.1, r.2)
      else readUnits (.hex (digits - 1) (value * 16 + d)) rest
    | none => none

/-- Two surrogates are made into one code point where both were written as escapes. -/
def joinUnits : List (CodePoint × Bool) → PyStr
  | [] => []
  | [u] => [u.1]
  | u :: v :: rest =>
    if (u.2 && v.2) && (isHigh u.1 && isLow v.1) then pair u.1 v.1 :: joinUnits rest
    else u.1 :: joinUnits (v :: rest)

def readString (text : PyStr) : Option (PyStr × PyStr) :=
  (readUnits .plain text).map fun r => (joinUnits r.1, r.2)

end Strings

section Reader

/-- What reading ends with where it does not end with a value: `JSONDecodeError`, the
`ValueError` of an integer with too many digits, `RecursionError`. -/
inductive LoadError where
  | decode | digits | recursion
  deriving DecidableEq, Repr

/-- Everything but `RecursionError` is a `ValueError`. -/
def LoadError.isValueError : LoadError → Bool
  | .recursion => false
  | _ => true

/-- What a value is read with: how many digits an integer may have, and what is made of the
pairs of an object. -/
structure Decoder where
  maxStrDigits : Option Nat
  pairsHook : List (PyStr × PyJson) → List (PyStr × PyJson)

/-- `json.loads` as the interpreter comes. -/
def Decoder.default : Decoder := ⟨some Lib.maxStrDigits, ofPairs⟩

abbrev Scanner (α : Type) := PyStr → Except LoadError (α × PyStr)

variable (decoder : Decoder)

def isSpace (c : CodePoint) : Bool :=
  c = codePoint ' ' || c = codePoint '\t' || c = codePoint '\n' || c = codePoint '\r'

def skipSpace (text : PyStr) : PyStr := text.dropWhile isSpace

def isDigitPoint (c : CodePoint) : Bool := 0x30 ≤ c.val && c.val ≤ 0x39

def natOf (digits : PyStr) : Nat := digits.foldl (fun n c => 10 * n + (c.val - 0x30)) 0

/-- `-?` -/
def readMinus : PyStr → PyStr × PyStr
  | [] => ([], [])
  | c :: rest => if c = codePoint '-' then ([c], rest) else ([], c :: rest)

/-- `0|[1-9]\d*` -/
def readWhole : PyStr → Option (PyStr × PyStr)
  | [] => none
  | c :: rest =>
    if c = codePoint '0' then some ([c], rest)
    else if isDigitPoint c then some (c :: rest.takeWhile isDigitPoint, rest.dropWhile isDigitPoint)
    else none

/-- `(\.\d+)?` -/
def readFraction : PyStr → PyStr × PyStr
  | c :: d :: rest =>
    if c = codePoint '.' ∧ isDigitPoint d then
      (c :: d :: rest.takeWhile isDigitPoint, rest.dropWhile isDigitPoint)
    else ([], c :: d :: rest)
  | text => ([], text)

/-- `([eE][-+]?\d+)?` -/
def readExponent : PyStr → PyStr × PyStr
  | c :: d :: rest =>
    if c = codePoint 'e' ∨ c = codePoint 'E' then
      if isDigitPoint d then
        (c :: d :: rest.takeWhile isDigitPoint, rest.dropWhile isDigitPoint)
      else if (d = codePoint '-' ∨ d = codePoint '+') ∧ rest.takeWhile isDigitPoint ≠ [] then
        (c :: d :: rest.takeWhile isDigitPoint, rest.dropWhile isDigitPoint)
      else ([], c :: d :: rest)
    else ([], c :: d :: rest)
  | text => ([], text)

def readNumber : Scanner PyJson := fun text =>
  let minus := readMinus text
  match readWhole minus.2 with
  | none => .error .decode
  | some whole =>
    let fraction := readFraction whole.2
    let exponent := readExponent fraction.2
    if fraction.1 = [] ∧ exponent.1 = [] then
      if ∃ limit ∈ decoder.maxStrDigits, limit < whole.1.length then .error .digits
      else .ok (.int (if minus.1 = [] then natOf whole.1 else - natOf whole.1), exponent.2)
    else .ok (.float (minus.1 ++ whole.1 ++ fraction.1 ++ exponent.1), exponent.2)

def literals : List (PyStr × PyJson) :=
  [(pyStr "null", .null), (pyStr "true", .bool true), (pyStr "false", .bool false),
    (pyStr "NaN", .float (pyStr "NaN")), (pyStr "Infinity", .float (pyStr "Infinity")),
    (pyStr "-Infinity", .float (pyStr "-Infinity"))]

def readLiteral (text : PyStr) : Option (PyJson × PyStr) :=
  literals.findSome? fun l => (l.1.isPrefixOf? text).map fun rest => (l.2, rest)

/-- One or more items separated by commas, up to the closing character. Each takes a
character of the text at least. -/
def readSequence {α : Type} (close : CodePoint) (item : Scanner α) : Nat → Scanner (List α)
  | 0, _ => .error .decode
  | n + 1, text => do
    let (x, after) ← item text
    match skipSpace after with
    | [] => .error .decode
    | c :: rest =>
      if c = close then .ok ([x], rest)
      else if c = codePoint ',' then do
        let (xs, after) ← readSequence close item n (skipSpace rest)
        return (x :: xs, after)
      else .error .decode

def readBracket {α : Type} (close : CodePoint) (item : Scanner α) : Scanner (List α) :=
  fun text =>
    match skipSpace text with
    | [] => .error .decode
    | c :: rest =>
      if c = close then .ok ([], rest)
      else readSequence close item (rest.length + 1) (c :: rest)

def readMember {α : Type} (item : Scanner α) : Scanner (PyStr × α)
  | [] => .error .decode
  | c :: rest =>
    if c = codePoint '"' then do
      let (key, after) ← demand (readString rest) .decode
      match skipSpace after with
      | [] => .error .decode
      | d :: rest =>
        if d = codePoint ':' then do
          let (x, after) ← item (skipSpace rest)
          return ((key, x), after)
        else .error .decode
    else .error .decode

def readScalar : Scanner PyJson
  | [] => .error .decode
  | c :: rest =>
    if c = codePoint '"' then do
      let (s, after) ← demand (readString rest) .decode
      return (.str s, after)
    else match readLiteral (c :: rest) with
      | some r => .ok r
      | none => readNumber decoder (c :: rest)

/-- `scan_once`, where lists and objects may still be entered so often. -/
def scanOnce : Nat → Scanner PyJson
  | _, [] => .error .decode
  | 0, c :: rest =>
    if c = codePoint '[' ∨ c = codePoint '\x7b' then .error .recursion
    else readScalar decoder (c :: rest)
  | n + 1, c :: rest =>
    if c = codePoint '[' then do
      let (items, after) ← readBracket (codePoint ']') (scanOnce n) rest
      return (.arr items, after)
    else if c = codePoint '\x7b' then do
      let (pairs, after) ← readBracket (codePoint '\x7d') (readMember (scanOnce n)) rest
      return (.obj (decoder.pairsHook pairs), after)
    else readScalar decoder (c :: rest)

def Decoder.loads (depth : Nat) (text : PyStr) : Except LoadError PyJson := do
  let (v, rest) ← scanOnce decoder depth (skipSpace text)
  refuse (skipSpace rest ≠ []) .decode
  return v

/-- `json.loads` of a string; `depth` is how deep lists and objects may be nested before the
interpreter's limit on recursion is reached. -/
def PyJson.loads (depth : Nat) (text : PyStr) : Except LoadError PyJson :=
  Decoder.default.loads depth text

/-- `json.loads` of bytes. -/
def PyJson.loadBytes (depth : Nat) (bytes : List UInt8) : Except LoadError PyJson := do
  let text ← demand (decodeText bytes) .decode
  PyJson.loads depth text

end Reader

example : PyJson.loads 2 (pyStr "\x7b\"a\": [1, -2.5e3, \"\\ud83d\\ude00\"], \"a\": null\x7d") =
    .ok (.obj [(pyStr "a", .null)]) := by rfl

section Escapes

/-- `\uXXXX` -/
def unitEscape (n : Nat) : PyStr := (escapeUnit n).map codePoint

def specials : List (Char × Char) :=
  [('"', '"'), ('\\', '\\'), ('\n', 'n'), ('\r', 'r'), ('\t', 't'), ('\x08', 'b'), ('\x0c', 'f')]

def escapeSpecial (c : CodePoint) : Option PyStr :=
  (specials.find? fun e => codePoint e.1 = c).map fun e => [codePoint '\\', codePoint e.2]

def highOf (c : CodePoint) : Nat := 0xd800 + (c.val - 0x10000) / 0x400

def lowOf (c : CodePoint) : Nat := 0xdc00 + (c.val - 0x10000) % 0x400

/-- What `json.dumps` makes of a character: everything but printable ASCII is escaped. -/
def escapeAscii (c : CodePoint) : PyStr :=
  match escapeSpecial c with
  | some text => text
  | none =>
    if 0x20 ≤ c.val ∧ c.val ≤ 0x7e then [c]
    else if c.val < 0x10000 then unitEscape c.val
    else unitEscape (highOf c) ++ unitEscape (lowOf c)

/-- What a writer of UTF-8 makes of it: only control characters are escaped. -/
def escapeControl (c : CodePoint) : PyStr :=
  match escapeSpecial c with
  | some text => text
  | none => if c.val < 0x20 then unitEscape c.val else [c]

def asciiUnits (c : CodePoint) : List (CodePoint × Bool) :=
  match escapeSpecial c with
  | some _ => [(c, false)]
  | none =>
    if 0x20 ≤ c.val ∧ c.val ≤ 0x7e then [(c, false)]
    else if c.val < 0x10000 then [(c, true)]
    else [(Fin.ofNat _ (highOf c), true), (Fin.ofNat _ (lowOf c), true)]

variable {c : CodePoint} {text tail : PyStr} {n : Nat}

theorem hexValue_hexDigit (n : Nat) : hexValue (codePoint (hexDigit n)) = some (n % 16) := by
  have all : ∀ m < 16, hexValue (codePoint (Nat.digitChar m)) = some m := by decide
  exact all (n % 16) (Nat.mod_lt _ (by decide))

theorem readUnits_hex (digits value d : Nat) (more : 2 ≤ digits) (h : hexValue c = some d) :
    readUnits (.hex digits value) (c :: tail) =
      readUnits (.hex (digits - 1) (value * 16 + d)) tail := by
  have several : ¬ digits ≤ 1 := by omega
  rw [readUnits, h]
  exact if_neg several

theorem readUnits_last (value d : Nat) (h : hexValue c = some d) :
    readUnits (.hex 1 value) (c :: tail) = (readUnits .plain tail).map fun r =>
      ((Fin.ofNat _ (value * 16 + d), true) :: r.1, r.2) := by
  rw [readUnits, h]
  exact if_pos (by decide)

theorem readUnits_unitEscape (h : n = c.val) (small : n < 0x10000) :
    readUnits .plain (unitEscape n ++ tail) =
      (readUnits .plain tail).map fun r => ((c, true) :: r.1, r.2) := by
  have digit := hexValue_hexDigit
  have value : (((0 * 16 + n / 4096 % 16) * 16 + n / 256 % 16) * 16 + n / 16 % 16) * 16 + n % 16 =
      c.val := by
    omega
  have opened : readUnits .plain (unitEscape n ++ tail) = readUnits (.hex 4 0)
      (codePoint (hexDigit (n / 4096)) :: codePoint (hexDigit (n / 256)) ::
        codePoint (hexDigit (n / 16)) :: codePoint (hexDigit n) :: tail) := rfl
  rw [opened, readUnits_hex _ _ _ (by decide) (digit _), readUnits_hex _ _ _ (by decide) (digit _),
    readUnits_hex _ _ _ (by decide) (digit _), readUnits_last _ _ (digit _), fin_ofNat value]

theorem readUnits_special (h : escapeSpecial c = some text) :
    readUnits .plain (text ++ tail) =
      (readUnits .plain tail).map fun r => ((c, false) :: r.1, r.2) := by
  obtain ⟨e, found, rfl⟩ := Option.map_eq_some_iff.mp h
  have same : codePoint e.1 = c := by simpa using List.find?_some found
  have member := List.mem_of_find?_eq_some found
  subst same
  simp only [specials, List.mem_cons, List.not_mem_nil, or_false] at member
  rcases member with rfl | rfl | rfl | rfl | rfl | rfl | rfl <;> rfl

theorem escapeSpecial_none (h : escapeSpecial c = none) :
    c ≠ codePoint '"' ∧ c ≠ codePoint '\\' := by
  constructor <;> rintro rfl <;> exact absurd h (by decide)

theorem readUnits_raw (h : escapeSpecial c = none) (high : 0x20 ≤ c.val) :
    readUnits .plain (c :: tail) =
      (readUnits .plain tail).map fun r => ((c, false) :: r.1, r.2) := by
  obtain ⟨quote, backslash⟩ := escapeSpecial_none h
  have shown : ¬ c.val < 0x20 := by omega
  rw [readUnits, if_neg quote, if_neg backslash, if_neg shown]

theorem highOf_lt (c : CodePoint) : 0xd800 ≤ highOf c ∧ highOf c < 0xdc00 := by
  have bound := c.isLt
  unfold highOf
  omega

theorem lowOf_lt (c : CodePoint) : 0xdc00 ≤ lowOf c ∧ lowOf c < 0xe000 := by
  unfold lowOf
  omega

/-- A character as `json.dumps` writes it is read back, a high code point in two units. -/
theorem readUnits_escapeAscii (c : CodePoint) (tail : PyStr) :
    readUnits .plain (escapeAscii c ++ tail) =
      (readUnits .plain tail).map fun r => (asciiUnits c ++ r.1, r.2) := by
  unfold escapeAscii asciiUnits
  split
  · rename_i text special
    exact readUnits_special special
  · rename_i ordinary
    split
    · rename_i shown
      exact readUnits_raw ordinary shown.1
    · split
      · rename_i small
        exact readUnits_unitEscape rfl small
      · obtain ⟨high, low⟩ := And.intro (highOf_lt c) (lowOf_lt c)
        have highValue : highOf c = (Fin.ofNat 0x110000 (highOf c)).val :=
          (Nat.mod_eq_of_lt (by omega)).symm
        have lowValue : lowOf c = (Fin.ofNat 0x110000 (lowOf c)).val :=
          (Nat.mod_eq_of_lt (by omega)).symm
        rw [List.append_assoc, readUnits_unitEscape highValue (by omega),
          readUnits_unitEscape lowValue (by omega), Option.map_map]
        rfl

theorem readUnits_escapeControl (c : CodePoint) (tail : PyStr) :
    ∃ escaped, readUnits .plain (escapeControl c ++ tail) =
        (readUnits .plain tail).map (fun r => ((c, escaped) :: r.1, r.2)) ∧
      (escaped = true → c.val < 0x20) := by
  unfold escapeControl
  split
  · rename_i text special
    exact ⟨false, readUnits_special special, by simp⟩
  · rename_i ordinary
    split
    · rename_i control
      exact ⟨true, readUnits_unitEscape rfl (by omega), fun _ => control⟩
    · rename_i shown
      exact ⟨false, readUnits_raw ordinary (by omega), by simp⟩

theorem joinUnits_cons {u : CodePoint × Bool} {us : List (CodePoint × Bool)}
    (apart : ∀ v ∈ us.head?, ¬ ((u.2 && v.2) && (isHigh u.1 && isLow v.1)) = true) :
    joinUnits (u :: us) = u.1 :: joinUnits us := by
  cases us with
  | nil => rfl
  | cons v us =>
    rw [joinUnits, if_neg]
    exact apart v rfl

theorem joinUnits_controls {us : List (CodePoint × Bool)}
    (controls : ∀ u ∈ us, u.2 = true → u.1.val < 0x20) : joinUnits us = us.map Prod.fst := by
  induction us with
  | nil => rfl
  | cons u us ih =>
    rw [joinUnits_cons, ih fun v hv => controls v (by simp [hv])]
    · rfl
    · intro v _ both
      simp only [isHigh, Bool.and_eq_true, decide_eq_true_eq] at both
      have control := controls u (by simp) both.1.1
      omega

theorem asciiUnits_cases (c : CodePoint) :
    (∃ escaped, asciiUnits c = [(c, escaped)] ∧ (isSurrogate c = true → escaped = true)) ∨
    ∃ high low, asciiUnits c = [(high, true), (low, true)] ∧ isHigh high = true ∧
      isLow low = true ∧ pair high low = c ∧ isHigh c = false ∧ isLow c = false := by
  have bound := c.isLt
  unfold asciiUnits
  split
  · rename_i text special
    refine .inl ⟨false, rfl, fun surrogate => ?_⟩
    obtain ⟨e, found, -⟩ := Option.map_eq_some_iff.mp special
    have same : codePoint e.1 = c := by simpa using List.find?_some found
    rw [← same, codePoint_scalar] at surrogate
    cases surrogate
  · split
    · rename_i shown
      refine .inl ⟨false, rfl, fun surrogate => ?_⟩
      simp only [isSurrogate, Bool.and_eq_true, decide_eq_true_eq] at surrogate
      omega
    · split
      · exact .inl ⟨true, rfl, fun _ => rfl⟩
      · rename_i large
        obtain ⟨high, low⟩ := And.intro (highOf_lt c) (lowOf_lt c)
        have highValue : (Fin.ofNat 0x110000 (highOf c)).val = highOf c :=
          Nat.mod_eq_of_lt (by omega)
        have lowValue : (Fin.ofNat 0x110000 (lowOf c)).val = lowOf c :=
          Nat.mod_eq_of_lt (by omega)
        have whole : pair (Fin.ofNat 0x110000 (highOf c)) (Fin.ofNat 0x110000 (lowOf c)) = c := by
          apply Fin.ext
          rw [pair_val, highValue, lowValue]
          unfold highOf lowOf
          omega
        refine .inr ⟨_, _, rfl, ?_, ?_, whole, ?_⟩
        · simp only [isHigh, highValue, Bool.and_eq_true, decide_eq_true_eq]
          exact high
        · simp only [isLow, lowValue, Bool.and_eq_true, decide_eq_true_eq]
          exact low
        · have plain := pair_plain (Fin.ofNat 0x110000 (highOf c)) (Fin.ofNat 0x110000 (lowOf c))
          rw [whole] at plain
          exact plain

theorem high_not_low (h : isHigh c = true) : isLow c = false := by
  simp only [isHigh, isLow, Bool.and_eq_true, decide_eq_true_eq, Bool.and_eq_false_iff,
    decide_eq_false_iff_not] at h ⊢
  omega

theorem low_surrogate (h : isLow c = true) : isSurrogate c = true := by
  simp only [isLow, isSurrogate, Bool.and_eq_true, decide_eq_true_eq] at h ⊢
  omega

theorem asciiUnits_head {s : PyStr} {v : CodePoint × Bool}
    (first : v ∈ (s.flatMap asciiUnits).head?) (low : isLow v.1 = true) :
    ∃ rest, s = v.1 :: rest := by
  cases s with
  | nil => simp at first
  | cons c rest =>
    rw [List.flatMap_cons] at first
    rcases asciiUnits_cases c with ⟨escaped, here, -⟩ | ⟨h, l, here, high, -⟩
    · rw [here] at first
      obtain rfl : (c, escaped) = v := by simpa using first
      exact ⟨rest, rfl⟩
    · rw [here] at first
      obtain rfl : (h, true) = v := by simpa using first
      rw [high_not_low high] at low
      cases low

theorem joinUnits_ascii (s : PyStr) : joinUnits (s.flatMap asciiUnits) = join s := by
  induction s using join.induct with
  | case1 => rfl
  | case2 c =>
    rw [List.flatMap_cons]
    rcases asciiUnits_cases c with ⟨escaped, here, -⟩ | ⟨h, l, here, high, low, whole, -⟩
    · rw [here]
      rfl
    · rw [here]
      simp [joinUnits, join, high, low, whole]
  | case3 c d rest together ih =>
    obtain ⟨high, low⟩ := Bool.and_eq_true_iff.mp together
    rw [List.flatMap_cons, List.flatMap_cons]
    rcases asciiUnits_cases c with ⟨escaped, here, tagged⟩ | ⟨h, l, -, -, -, -, plain, -⟩
    · rcases asciiUnits_cases d with ⟨escaped', here', tagged'⟩ | ⟨h, l, -, -, -, -, -, plain⟩
      · rw [here, here', tagged (high_surrogate high), tagged' (low_surrogate low), join,
          if_pos together, ← ih]
        exact if_pos (by simp [high, low])
      · rw [plain] at low
        cases low
    · rw [plain] at high
      cases high
  | case4 c d rest apart ih =>
    rw [List.flatMap_cons, join, if_neg apart, ← ih]
    rcases asciiUnits_cases c with ⟨escaped, here, -⟩ | ⟨h, l, here, high, low, whole, -⟩
    · rw [here, List.singleton_append, joinUnits_cons]
      intro v first both
      simp only [Bool.and_eq_true] at both
      obtain ⟨rest', same⟩ := asciiUnits_head first both.2.2
      obtain ⟨rfl, -⟩ := List.cons.inj same
      exact apart (by simp [both.2])
    · rw [here, List.cons_append, List.singleton_append, joinUnits, if_pos (by simp [high, low]),
        whole]

/-- A string as `json.dumps` writes it is read back with its surrogates joined. -/
theorem readString_ascii (s tail : PyStr) :
    readString (s.flatMap escapeAscii ++ codePoint '"' :: tail) = some (join s, tail) := by
  have units : readUnits .plain (s.flatMap escapeAscii ++ codePoint '"' :: tail) =
      some (s.flatMap asciiUnits, tail) := by
    induction s with
    | nil => rfl
    | cons c rest ih =>
      rw [List.flatMap_cons, List.append_assoc, readUnits_escapeAscii, ih]
      rfl
  rw [readString, units, Option.map_some, joinUnits_ascii]

theorem readString_control (s tail : PyStr) :
    readString (s.flatMap escapeControl ++ codePoint '"' :: tail) = some (s, tail) := by
  have units : ∃ us, readUnits .plain (s.flatMap escapeControl ++ codePoint '"' :: tail) =
      some (us, tail) ∧ us.map Prod.fst = s ∧ ∀ u ∈ us, u.2 = true → u.1.val < 0x20 := by
    induction s with
    | nil => exact ⟨[], rfl, rfl, by simp⟩
    | cons c rest ih =>
      obtain ⟨us, read, same, controls⟩ := ih
      obtain ⟨escaped, here, control⟩ :=
        readUnits_escapeControl c (rest.flatMap escapeControl ++ codePoint '"' :: tail)
      refine ⟨(c, escaped) :: us, ?_, by simp [same], ?_⟩
      · rw [List.flatMap_cons, List.append_assoc, here, read]
        rfl
      · intro u member
        rcases List.mem_cons.mp member with rfl | later
        · exact control
        · exact controls u later
  obtain ⟨us, read, same, controls⟩ := units
  rw [readString, read, Option.map_some, joinUnits_controls controls, same]

end Escapes

end Deckhand.Lib
