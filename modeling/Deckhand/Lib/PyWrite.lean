import Deckhand.Lib.PyJson

/-! Writing JSON, and that what is written is what is read. -/
namespace Deckhand.Lib

section Writer
variable (escape : CodePoint → PyStr)

def quoted (s : PyStr) : PyStr := codePoint '"' :: s.flatMap escape ++ [codePoint '"']

def comma : PyStr := [codePoint ',']

def member (key value : PyStr) : PyStr := quoted escape key ++ codePoint ':' :: value

mutual
def PyJson.write : PyJson → PyStr
  | .null => pyStr "null"
  | .bool true => pyStr "true"
  | .bool false => pyStr "false"
  | .int i => (intText i).map codePoint
  | .float literal => literal
  | .str s => quoted escape s
  | .arr items => codePoint '[' :: comma.intercalate (writeItems items) ++ [codePoint ']']
  | .obj members =>
    codePoint '\x7b' :: comma.intercalate (writeMembers members) ++ [codePoint '\x7d']

def writeItems : List PyJson → List PyStr
  | [] => []
  | v :: rest => v.write :: writeItems rest

def writeMembers : List (PyStr × PyJson) → List PyStr
  | [] => []
  | (k, v) :: rest => member escape k v.write :: writeMembers rest
end

end Writer

theorem writeItems_map (escape : CodePoint → PyStr) (items : List PyJson) :
    writeItems escape items = items.map fun v => v.write escape := by
  induction items with
  | nil => rfl
  | cons v rest ih => rw [List.map_cons, ← ih, writeItems]

theorem writeMembers_map (escape : CodePoint → PyStr) (ms : List (PyStr × PyJson)) :
    writeMembers escape ms = ms.map fun m => member escape m.1 (m.2.write escape) := by
  induction ms with
  | nil => rfl
  | cons m rest ih => rw [List.map_cons, ← ih, writeMembers]

theorem quoted_length (s : PyStr) : (quoted escapeControl s).length ≤ 6 * s.length + 2 := by
  have inner : (s.flatMap escapeControl).length ≤ 6 * s.length := by
    induction s with
    | nil => simp
    | cons c rest ih =>
      have one : (escapeControl c).length ≤ 6 := by
        unfold escapeControl
        split
        · rename_i text special
          obtain ⟨e, -, rfl⟩ := Option.map_eq_some_iff.mp special
          simp
        · split <;> simp [unitEscape, escapeUnit]
      simp only [List.flatMap_cons, List.length_append, List.length_cons]
      omega
  simp only [quoted, List.cons_append, List.length_cons, List.length_append, List.length_nil]
  omega

/-- A character that a number could go on with. -/
def extendsNumber (c : CodePoint) : Bool :=
  isDigitPoint c || c = codePoint '.' || c = codePoint 'e' || c = codePoint 'E'

/-- What follows a number is not part of it. -/
def Stops (tail : PyStr) : Prop := ∀ c ∈ tail.head?, extendsNumber c = false

section Numbers
variable {tail : PyStr} {n : Nat}

theorem stops_cons {c : CodePoint} (h : extendsNumber c = false) : Stops (c :: tail) := by
  rintro d hd
  obtain rfl : c = d := by simpa using hd
  exact h

theorem stops_nil : Stops [] := by simp [Stops]

/-- What follows is not another digit. -/
def Undigit (tail : PyStr) : Prop := ∀ c ∈ tail.head?, isDigitPoint c = false

theorem Stops.undigit (stops : Stops tail) : Undigit tail := by
  intro c hc
  have other := stops c hc
  simp only [extendsNumber, Bool.or_eq_false_iff] at other
  exact other.1.1.1

theorem readFraction_stops (stops : Stops tail) : readFraction tail = ([], tail) := by
  match tail with
  | [] => rfl
  | [_] => rfl
  | c :: d :: rest =>
    have other := stops c rfl
    simp only [extendsNumber, Bool.or_eq_false_iff, decide_eq_false_iff_not] at other
    rw [readFraction, if_neg fun h => other.1.1.2 h.1]

theorem readExponent_stops (stops : Stops tail) : readExponent tail = ([], tail) := by
  match tail with
  | [] => rfl
  | [_] => rfl
  | c :: d :: rest =>
    have other := stops c rfl
    simp only [extendsNumber, Bool.or_eq_false_iff, decide_eq_false_iff_not] at other
    rw [readExponent, if_neg fun h => h.elim other.1.2 other.2]

theorem span_digits {digits : PyStr} (all : ∀ c ∈ digits, isDigitPoint c = true)
    (first : Undigit tail) :
    (digits ++ tail).takeWhile isDigitPoint = digits ∧
      (digits ++ tail).dropWhile isDigitPoint = tail := by
  rw [List.takeWhile_append_of_pos all, List.dropWhile_append_of_pos all]
  cases tail with
  | nil => simp
  | cons c rest =>
    have other := first c rfl
    simp [other]

theorem leading_digit (positive : 0 < n) {c : CodePoint} {rest : PyStr}
    (whole : (Nat.toDigits 10 n).map codePoint = c :: rest) : c ≠ codePoint '0' := by
  induction n using Nat.strongRecOn generalizing rest with
  | ind n ih =>
    by_cases small : n < 10
    · rw [Nat.toDigits_of_lt_base small] at whole
      obtain ⟨rfl, -⟩ := List.cons.inj whole
      have all : ∀ m < 10, 0 < m → codePoint (Nat.digitChar m) ≠ codePoint '0' := by decide
      exact all n small positive
    · rw [Nat.toDigits_of_base_le (by decide) (by omega), List.map_append] at whole
      cases front : (Nat.toDigits 10 (n / 10)).map codePoint with
      | nil => simp at front
      | cons d later =>
        rw [front] at whole
        obtain ⟨rfl, -⟩ := List.cons.inj whole
        exact ih (n / 10) (by omega) (by omega) front

/-- The decimal text of a number: a digit, not zero unless it is the only one, and digits. -/
theorem toDigits_cons (n : Nat) : ∃ c rest, (Nat.toDigits 10 n).map codePoint = c :: rest ∧
    isDigitPoint c = true ∧ (∀ d ∈ rest, isDigitPoint d = true) ∧
      (c = codePoint '0' → rest = []) := by
  have digit : ∀ c ∈ (Nat.toDigits 10 n).map codePoint, isDigitPoint c = true := by
    intro c hc
    obtain ⟨d, hd, rfl⟩ := List.mem_map.mp hc
    have digit := Nat.isDigit_of_mem_toDigits (by decide) (by decide) hd
    simp only [Char.isDigit, Bool.and_eq_true, decide_eq_true_eq] at digit
    simp only [isDigitPoint, Bool.and_eq_true, decide_eq_true_eq]
    exact digit
  have zero : ∀ c rest, (Nat.toDigits 10 n).map codePoint = c :: rest →
      c = codePoint '0' → rest = [] := by
    intro c rest whole leading
    rcases Nat.eq_zero_or_pos n with rfl | positive
    · exact (List.cons.inj whole).2.symm
    · exact absurd leading (leading_digit positive whole)
  cases whole : (Nat.toDigits 10 n).map codePoint with
  | nil => simp at whole
  | cons c rest =>
    rw [whole] at digit
    exact ⟨c, rest, rfl, digit c (by simp), fun d hd => digit d (by simp [hd]),
      zero c rest whole⟩

theorem natOf_digits (n : Nat) : natOf ((Nat.toDigits 10 n).map codePoint) = n := by
  have value := Nat.ofDigitChars_ten_toDigits (n := n)
  rw [Nat.ofDigitChars_eq_foldl] at value
  rw [natOf, List.foldl_map]
  exact value

theorem readWhole_digits (first : Undigit tail) :
    readWhole ((Nat.toDigits 10 n).map codePoint ++ tail) =
      some ((Nat.toDigits 10 n).map codePoint, tail) := by
  obtain ⟨c, rest, whole, digit, others, leading⟩ := toDigits_cons n
  obtain ⟨taken, dropped⟩ := span_digits others first
  rw [whole, List.cons_append, readWhole]
  by_cases zero : c = codePoint '0'
  · rw [if_pos zero, leading zero]
    rfl
  · rw [if_neg zero, if_pos digit, taken, dropped]

theorem readNumber_int {decoder : Decoder} (i : Int)
    (fits : ∀ limit ∈ decoder.maxStrDigits, (Nat.toDigits 10 i.natAbs).length ≤ limit)
    (stops : Stops tail) :
    readNumber decoder ((intText i).map codePoint ++ tail) = .ok (.int i, tail) := by
  have admitted : ¬ ∃ limit ∈ decoder.maxStrDigits,
      limit < ((Nat.toDigits 10 i.natAbs).map codePoint).length := by
    rintro ⟨limit, set, more⟩
    rw [List.length_map] at more
    exact absurd (fits limit set) (by omega)
  cases i with
  | ofNat n =>
    have unsigned : readMinus ((Nat.toDigits 10 n).map codePoint ++ tail) =
        ([], (Nat.toDigits 10 n).map codePoint ++ tail) := by
      obtain ⟨c, rest, whole, first, -⟩ := toDigits_cons n
      have plain : c ≠ codePoint '-' := by
        rintro rfl
        exact absurd first (by decide)
      rw [whole, List.cons_append, readMinus, if_neg plain]
    have admitted : ¬ ∃ limit ∈ decoder.maxStrDigits,
        limit < ((Nat.toDigits 10 n).map codePoint).length := admitted
    simp only [intText, readNumber, unsigned, readWhole_digits stops.undigit,
      readFraction_stops stops, readExponent_stops stops, natOf_digits, if_neg admitted]
    rfl
  | negSucc n =>
    have signed : readMinus ((intText (.negSucc n)).map codePoint ++ tail) =
        ([codePoint '-'], (Nat.toDigits 10 (n + 1)).map codePoint ++ tail) := rfl
    have admitted : ¬ ∃ limit ∈ decoder.maxStrDigits,
        limit < ((Nat.toDigits 10 (n + 1)).map codePoint).length := admitted
    simp only [readNumber, signed, readWhole_digits stops.undigit,
      readFraction_stops stops, readExponent_stops stops, natOf_digits, if_neg admitted]
    rfl

end Numbers

/-- The text of a float is one that the reader takes for it. -/
def FloatText (literal : PyStr) : Prop :=
  ∀ (decoder : Decoder) (tail : PyStr), Stops tail →
    ∀ n, scanOnce decoder n (literal ++ tail) = .ok (.float literal, tail)

variable (decoder : Decoder)

mutual
/-- A value that its text stands for: the strings and keys are of a kind that is read back, the
reader takes the text of each float for it and admits the digits of each integer, and it makes
of the pairs of each object what they are. -/
def PyJson.Proper (text : PyStr → Prop) : PyJson → Prop
  | .int i => ∀ limit ∈ decoder.maxStrDigits, (Nat.toDigits 10 i.natAbs).length ≤ limit
  | .float literal => FloatText literal
  | .str s => text s
  | .arr items => ProperItems text items
  | .obj members => decoder.pairsHook members = members ∧ ProperMembers text members
  | _ => True

def ProperItems (text : PyStr → Prop) : List PyJson → Prop
  | [] => True
  | v :: rest => v.Proper text ∧ ProperItems text rest

def ProperMembers (text : PyStr → Prop) : List (PyStr × PyJson) → Prop
  | [] => True
  | (k, v) :: rest => text k ∧ v.Proper text ∧ ProperMembers text rest
end

theorem properItems_iff {decoder : Decoder} {text : PyStr → Prop} {items : List PyJson} :
    ProperItems decoder text items ↔ ∀ v ∈ items, v.Proper decoder text := by
  induction items with
  | nil => simp [ProperItems]
  | cons v rest ih => rw [ProperItems, ih, List.forall_mem_cons]

theorem properMembers_iff {decoder : Decoder} {text : PyStr → Prop}
    {members : List (PyStr × PyJson)} : ProperMembers decoder text members ↔
      ∀ m ∈ members, text m.1 ∧ m.2.Proper decoder text := by
  induction members with
  | nil => simp [ProperMembers]
  | cons m rest ih => simp only [ProperMembers, ih, List.forall_mem_cons, and_assoc]

mutual
/-- The value with the pairs of each object made into what a reader makes of them. -/
def PyJson.hooked (hook : List (PyStr × PyJson) → List (PyStr × PyJson)) : PyJson → PyJson
  | .arr items => .arr (hookedItems hook items)
  | .obj members => .obj (hook (hookedMembers hook members))
  | v => v

def hookedItems (hook : List (PyStr × PyJson) → List (PyStr × PyJson)) :
    List PyJson → List PyJson
  | [] => []
  | v :: rest => v.hooked hook :: hookedItems hook rest

def hookedMembers (hook : List (PyStr × PyJson) → List (PyStr × PyJson)) :
    List (PyStr × PyJson) → List (PyStr × PyJson)
  | [] => []
  | (k, v) :: rest => (k, v.hooked hook) :: hookedMembers hook rest
end

/-- The reader that keeps the pairs of an object as they come. -/
def Decoder.plain : Decoder := { decoder with pairsHook := id }

section Hook
variable {decoder : Decoder} {text : PyStr → Prop}

mutual
theorem proper_hooked : ∀ {v : PyJson}, v.Proper decoder text → v.hooked decoder.pairsHook = v
  | .null, _ => rfl
  | .bool _, _ => rfl
  | .int _, _ => rfl
  | .float _, _ => rfl
  | .str _, _ => rfl
  | .arr _, proper => congrArg PyJson.arr (properItems_hooked proper)
  | .obj _, proper => by rw [PyJson.hooked, properMembers_hooked proper.2, proper.1]

theorem properItems_hooked : ∀ {items : List PyJson}, ProperItems decoder text items →
    hookedItems decoder.pairsHook items = items
  | [], _ => rfl
  | _ :: _, proper => by
    rw [hookedItems, proper_hooked proper.1, properItems_hooked proper.2]

theorem properMembers_hooked : ∀ {ms : List (PyStr × PyJson)}, ProperMembers decoder text ms →
    hookedMembers decoder.pairsHook ms = ms
  | [], _ => rfl
  | (_, _) :: _, proper => by
    rw [hookedMembers, proper_hooked proper.2.1, properMembers_hooked proper.2.2]
end

mutual
theorem proper_plain : ∀ {v : PyJson}, v.Proper decoder text → v.Proper decoder.plain text
  | .null, _ => trivial
  | .bool _, _ => trivial
  | .int _, fits => fits
  | .float _, readable => readable
  | .str _, kind => kind
  | .arr _, proper => properItems_plain proper
  | .obj _, proper => ⟨rfl, properMembers_plain proper.2⟩

theorem properItems_plain : ∀ {items : List PyJson}, ProperItems decoder text items →
    ProperItems decoder.plain text items
  | [], _ => trivial
  | _ :: _, proper => ⟨proper_plain proper.1, properItems_plain proper.2⟩

theorem properMembers_plain : ∀ {ms : List (PyStr × PyJson)}, ProperMembers decoder text ms →
    ProperMembers decoder.plain text ms
  | [], _ => trivial
  | (_, _) :: _, proper =>
    ⟨proper.1, proper_plain proper.2.1, properMembers_plain proper.2.2⟩
end

end Hook

mutual
/-- No integer in the value has too many digits for the reader, or for `json.dumps`. -/
def PyJson.bounded : PyJson → Bool
  | .int i => digitsFit i
  | .arr items => boundedItems items
  | .obj members => boundedMembers members
  | _ => true

def boundedItems : List PyJson → Bool
  | [] => true
  | v :: rest => v.bounded && boundedItems rest

def boundedMembers : List (PyStr × PyJson) → Bool
  | [] => true
  | (_, v) :: rest => v.bounded && boundedMembers rest
end

mutual
/-- No float is in it, and no key is there twice. -/
def PyJson.tidy : PyJson → Bool
  | .float _ => false
  | .arr items => tidyItems items
  | .obj members => decide (members.map Prod.fst).Nodup && tidyMembers members
  | _ => true

def tidyItems : List PyJson → Bool
  | [] => true
  | v :: rest => v.tidy && tidyItems rest

def tidyMembers : List (PyStr × PyJson) → Bool
  | [] => true
  | (_, v) :: rest => v.tidy && tidyMembers rest
end

theorem fits_default {i : Int} (h : digitsFit i = true) :
    ∀ limit ∈ Decoder.default.maxStrDigits, (Nat.toDigits 10 i.natAbs).length ≤ limit := by
  intro limit set
  obtain rfl : maxStrDigits = limit := Option.some.inj set
  exact digitsFit_iff.mp h

mutual
theorem tidy_proper : ∀ v : PyJson, v.tidy = true → v.Proper ⟨none, ofPairs⟩ fun _ => True
  | .null, _ => trivial
  | .bool _, _ => trivial
  | .int _, _ => fun _ set => nomatch set
  | .str _, _ => trivial
  | .arr items, h => tidyItems_proper items h
  | .obj members, h => by
    simp only [PyJson.tidy, Bool.and_eq_true, decide_eq_true_eq] at h
    exact ⟨ofPairs_distinct h.1, tidyMembers_proper members h.2⟩

theorem tidyItems_proper : ∀ items : List PyJson, tidyItems items = true →
    ProperItems ⟨none, ofPairs⟩ (fun _ => True) items
  | [], _ => trivial
  | v :: rest, h => by
    simp only [tidyItems, Bool.and_eq_true] at h
    exact ⟨tidy_proper v h.1, tidyItems_proper rest h.2⟩

theorem tidyMembers_proper : ∀ members : List (PyStr × PyJson), tidyMembers members = true →
    ProperMembers ⟨none, ofPairs⟩ (fun _ => True) members
  | [], _ => trivial
  | (_, v) :: rest, h => by
    simp only [tidyMembers, Bool.and_eq_true] at h
    exact ⟨trivial, tidy_proper v h.1, tidyMembers_proper rest h.2⟩
end

section Sequences
variable {α : Type} {close : CodePoint} {item : Scanner α}

theorem skipSpace_cons {c : CodePoint} {rest : PyStr} (h : isSpace c = false) :
    skipSpace (c :: rest) = c :: rest := by
  rw [skipSpace, List.dropWhile_cons_of_neg]
  simp [h]

theorem intercalate_length (texts : List PyStr)
    (starts : ∀ text ∈ texts, ∃ c rest, text = c :: rest ∧ isSpace c = false) (tail : PyStr) :
    texts.length ≤ (comma.intercalate texts ++ tail).length := by
  induction texts with
  | nil => simp
  | cons text texts ih =>
    obtain ⟨c, rest, whole, -⟩ := starts text (by simp)
    have later := ih fun t ht => starts t (by simp [ht])
    cases texts with
    | nil => simp [whole, List.intercalate]
    | cons t ts =>
      rw [List.intercalate_cons_cons]
      simp only [List.length_append, List.length_cons, whole] at later ⊢
      omega

theorem readSequence_intercalate {xs : List α} {texts : List PyStr} {n : Nat} {tail : PyStr}
    (reads : List.Forall₂ (fun x text => ∀ after, Stops after →
      item (text ++ after) = .ok (x, after)) xs texts)
    (starts : ∀ text ∈ texts, ∃ c rest, text = c :: rest ∧ isSpace c = false)
    (some_item : xs ≠ []) (enough : xs.length ≤ n)
    (closing : isSpace close = false ∧ extendsNumber close = false ∧ close ≠ codePoint ',') :
    readSequence close item n (comma.intercalate texts ++ close :: tail) = .ok (xs, tail) := by
  induction reads generalizing n with
  | nil => exact absurd rfl some_item
  | @cons x text xs texts first rest ih =>
    cases n with
    | zero => simp at enough
    | succ n =>
      cases rest with
      | nil =>
        have here := first (close :: tail) (stops_cons closing.2.1)
        have single : comma.intercalate [text] = text := by simp [List.intercalate]
        rw [single, readSequence, here, ok_bind]
        simp only [skipSpace_cons closing.1, if_pos]
      | @cons y text' xs texts second rest =>
        have stop : Stops (codePoint ',' :: (comma.intercalate (text' :: texts) ++
            close :: tail)) :=
          stops_cons (by decide)
        have here := first _ stop
        have later := ih (n := n) (fun t ht => starts t (by simp [ht])) (by simp)
          (by simpa using enough)
        obtain ⟨c, cs, begins, solid⟩ := starts text' (by simp)
        have kept : skipSpace (comma.intercalate (text' :: texts) ++ close :: tail) =
            comma.intercalate (text' :: texts) ++ close :: tail := by
          cases texts with
          | nil =>
            simp only [List.intercalate, List.intersperse, List.flatten_cons, begins,
              List.cons_append]
            exact skipSpace_cons solid
          | cons t ts =>
            simp only [List.intercalate_cons_cons, begins, List.cons_append]
            exact skipSpace_cons solid
        have comma_other : ¬ codePoint ',' = close := fun h => closing.2.2 h.symm
        have whole : comma.intercalate (text :: text' :: texts) ++ close :: tail =
            text ++ codePoint ',' :: (comma.intercalate (text' :: texts) ++ close :: tail) := by
          simp [List.intercalate_cons_cons, comma]
        rw [whole, readSequence, here, ok_bind]
        simp only [skipSpace_cons (show isSpace (codePoint ',') = false by decide),
          if_neg comma_other,
          if_true]
        rw [kept, later]
        rfl

theorem readBracket_intercalate {xs : List α} {texts : List PyStr} {tail : PyStr}
    (reads : List.Forall₂ (fun x text => ∀ after, Stops after →
      item (text ++ after) = .ok (x, after)) xs texts)
    (starts : ∀ text ∈ texts, ∃ c rest, text = c :: rest ∧ isSpace c = false ∧ c ≠ close)
    (closing : isSpace close = false ∧ extendsNumber close = false ∧ close ≠ codePoint ',') :
    readBracket close item (comma.intercalate texts ++ close :: tail) = .ok (xs, tail) := by
  have solid : ∀ text ∈ texts, ∃ c rest, text = c :: rest ∧ isSpace c = false := by
    intro text ht
    obtain ⟨c, rest, whole, space, -⟩ := starts text ht
    exact ⟨c, rest, whole, space⟩
  have short : xs.length ≤ (comma.intercalate texts ++ close :: tail).length := by
    rw [reads.length_eq]
    exact intercalate_length texts solid _
  have read : xs ≠ [] → readSequence close item (comma.intercalate texts ++ close :: tail).length
      (comma.intercalate texts ++ close :: tail) = .ok (xs, tail) := fun some_item =>
    readSequence_intercalate reads solid some_item short closing
  cases reads with
  | nil =>
    rw [readBracket]
    simp only [List.intercalate, List.intersperse, List.flatten_nil, List.nil_append,
      skipSpace_cons closing.1, if_true]
  | @cons x text xs texts first rest =>
    obtain ⟨c, cs, begins, space, other⟩ := starts text (by simp)
    obtain ⟨more, whole⟩ : ∃ more,
        comma.intercalate (text :: texts) ++ close :: tail = c :: more := by
      cases texts with
      | nil => exact ⟨cs ++ close :: tail, by simp [List.intercalate, begins]⟩
      | cons t ts =>
        exact ⟨_, by simp only [List.intercalate_cons_cons, begins, List.cons_append]; rfl⟩
    have taken := read (by simp)
    rw [whole] at taken ⊢
    simp only [readBracket, skipSpace_cons space, if_neg other]
    exact taken

end Sequences

section Round
variable {decoder : Decoder} {escape : CodePoint → PyStr} {text : PyStr → Prop} {tail : PyStr}

def blanks : List CodePoint :=
  [codePoint ' ', codePoint '\t', codePoint '\n', codePoint '\r', codePoint ']']

theorem scanOnce_blank {c : CodePoint} (member : c ∈ blanks) {n : Nat} {rest : PyStr} :
    scanOnce decoder n (c :: rest) = .error .decode := by
  simp only [blanks, List.mem_cons, List.not_mem_nil, or_false] at member
  rcases member with rfl | rfl | rfl | rfl | rfl <;> cases n <;> rfl

theorem write_starts (escape : CodePoint → PyStr) (v : PyJson)
    (proper : v.Proper decoder text) :
    ∃ c rest, v.write escape = c :: rest ∧ isSpace c = false ∧ c ≠ codePoint ']' := by
  cases v with
  | null => exact ⟨_, _, rfl, by decide, by decide⟩
  | bool b => cases b <;> exact ⟨_, _, rfl, by decide, by decide⟩
  | str s => exact ⟨codePoint '"', _, rfl, by decide, by decide⟩
  | arr items => exact ⟨codePoint '[', _, rfl, by decide, by decide⟩
  | obj members => exact ⟨codePoint '\x7b', _, rfl, by decide, by decide⟩
  | int i =>
    have digit : ∀ {c : CodePoint}, isDigitPoint c = true → isSpace c = false ∧
        c ≠ codePoint ']' := by
      intro c digit
      constructor
      · simp only [isSpace, Bool.or_eq_false_iff, decide_eq_false_iff_not]
        refine ⟨⟨⟨?_, ?_⟩, ?_⟩, ?_⟩ <;> rintro rfl <;> exact absurd digit (by decide)
      · rintro rfl
        exact absurd digit (by decide)
    cases i with
    | ofNat n =>
      obtain ⟨c, rest, whole, first, -⟩ := toDigits_cons n
      exact ⟨c, rest, whole, digit first⟩
    | negSucc n => exact ⟨codePoint '-', _, rfl, by decide, by decide⟩
  | float literal =>
    have read : scanOnce decoder 0 literal = .ok (.float literal, []) := by
      have whole := proper decoder [] stops_nil 0
      rwa [List.append_nil] at whole
    cases literal with
    | nil => cases read
    | cons c rest =>
      have other : ∀ d ∈ blanks, c ≠ d := by
        rintro d member rfl
        rw [scanOnce_blank member] at read
        cases read
      refine ⟨c, rest, rfl, ?_, other _ (by decide)⟩
      simp only [isSpace, Bool.or_eq_false_iff, decide_eq_false_iff_not]
      exact ⟨⟨⟨other _ (by decide), other _ (by decide)⟩, other _ (by decide)⟩,
        other _ (by decide)⟩

theorem literal_starts {l : PyStr × PyJson} (member : l ∈ literals) :
    ∃ c rest, l.1 = c :: rest ∧ isDigitPoint c = false ∧
      (c = codePoint '-' → ∃ d more, rest = d :: more ∧ isDigitPoint d = false) := by
  simp only [literals, List.mem_cons, List.not_mem_nil, or_false] at member
  rcases member with rfl | rfl | rfl | rfl | rfl | rfl
  case inr.inr.inr.inr.inr =>
    exact ⟨_, _, rfl, by decide, fun _ => ⟨_, _, rfl, by decide⟩⟩
  all_goals exact ⟨_, _, rfl, by decide, fun h => absurd h (by decide)⟩

theorem isPrefixOf?_other {c d : CodePoint} {l rest : PyStr} (other : c ≠ d) :
    (c :: l).isPrefixOf? (d :: rest) = none := by
  rw [List.isPrefixOf?, if_neg (by simpa using other)]

theorem digit_other {c d : CodePoint} (other : isDigitPoint c = false)
    (digit : isDigitPoint d = true) : c ≠ d := by
  rintro rfl
  rw [digit] at other
  cases other

theorem readLiteral_digit {c : CodePoint} {rest : PyStr} (digit : isDigitPoint c = true) :
    readLiteral (c :: rest) = none := by
  rw [readLiteral, List.findSome?_eq_none_iff]
  intro l member
  obtain ⟨d, more, whole, letter, -⟩ := literal_starts member
  rw [whole, isPrefixOf?_other (digit_other letter digit)]
  rfl

theorem readLiteral_negative {c : CodePoint} {rest : PyStr} (digit : isDigitPoint c = true) :
    readLiteral (codePoint '-' :: c :: rest) = none := by
  rw [readLiteral, List.findSome?_eq_none_iff]
  intro l member
  obtain ⟨d, more, whole, -, signed⟩ := literal_starts member
  by_cases minus : d = codePoint '-'
  · obtain ⟨e, later, rfl, letter⟩ := signed minus
    rw [whole, minus, List.isPrefixOf?, if_pos (by simp),
      isPrefixOf?_other (digit_other letter digit)]
    rfl
  · rw [whole, isPrefixOf?_other minus]
    rfl

theorem scanOnce_scalar {c : CodePoint} {rest : PyStr}
    (closed : c ≠ codePoint '[' ∧ c ≠ codePoint '\x7b') (n : Nat) :
    scanOnce decoder n (c :: rest) = readScalar decoder (c :: rest) := by
  cases n with
  | zero => rw [scanOnce, if_neg fun opens => opens.elim closed.1 closed.2]
  | succ n => rw [scanOnce, if_neg closed.1, if_neg closed.2]

theorem scanOnce_number {c : CodePoint} {rest : PyStr} (digit : isDigitPoint c = true)
    (negative : Bool) (n : Nat) :
    scanOnce decoder n ((bif negative then [codePoint '-'] else []) ++ c :: rest) =
      readNumber decoder ((bif negative then [codePoint '-'] else []) ++ c :: rest) := by
  cases negative with
  | false =>
    have other : ∀ {d : CodePoint}, isDigitPoint d = false → ¬ c = d :=
      fun letter same => digit_other letter digit same.symm
    rw [cond_false, List.nil_append, scanOnce_scalar ⟨other (by decide), other (by decide)⟩,
      readScalar, if_neg (other (by decide)), readLiteral_digit digit]
  | true =>
    rw [cond_true, List.singleton_append, scanOnce_scalar ⟨by decide, by decide⟩, readScalar,
      if_neg (by decide), readLiteral_negative digit]

theorem scanOnce_int (i : Int)
    (fits : ∀ limit ∈ decoder.maxStrDigits, (Nat.toDigits 10 i.natAbs).length ≤ limit)
    (stops : Stops tail) (n : Nat) :
    scanOnce decoder n ((intText i).map codePoint ++ tail) = .ok (.int i, tail) := by
  have read := readNumber_int i fits stops
  cases i with
  | ofNat m =>
    obtain ⟨c, rest, whole, first, -⟩ := toDigits_cons m
    change scanOnce decoder n ((Nat.toDigits 10 m).map codePoint ++ tail) = _
    change readNumber decoder ((Nat.toDigits 10 m).map codePoint ++ tail) = _ at read
    rw [whole, List.cons_append] at read ⊢
    exact (scanOnce_number first false n).trans read
  | negSucc m =>
    obtain ⟨c, rest, whole, first, -⟩ := toDigits_cons (m + 1)
    have signed : (intText (.negSucc m)).map codePoint = codePoint '-' :: c :: rest := by
      rw [← whole]
      rfl
    rw [signed, List.cons_append, List.cons_append] at read ⊢
    exact (scanOnce_number first true n).trans read

mutual
def PyJson.depth : PyJson → Nat
  | .arr items => depthItems items + 1
  | .obj members => depthMembers members + 1
  | _ => 0

def depthItems : List PyJson → Nat
  | [] => 0
  | v :: rest => max v.depth (depthItems rest)

def depthMembers : List (PyStr × PyJson) → Nat
  | [] => 0
  | (_, v) :: rest => max v.depth (depthMembers rest)
end

theorem writeItems_starts : ∀ (items : List PyJson), ProperItems decoder text items →
    ∀ t ∈ writeItems escape items, ∃ c rest, t = c :: rest ∧ isSpace c = false ∧ c ≠ codePoint ']'
  | [], _, t, ht => by simp [writeItems] at ht
  | v :: rest, proper, t, ht => by
    rcases List.mem_cons.mp (by simpa only [writeItems] using ht) with rfl | later
    · exact write_starts escape v proper.1
    · exact writeItems_starts rest proper.2 t later

theorem writeMembers_starts : ∀ (members : List (PyStr × PyJson)),
    ∀ t ∈ writeMembers escape members,
      ∃ c rest, t = c :: rest ∧ isSpace c = false ∧ c ≠ codePoint '\x7d'
  | [], t, ht => by simp [writeMembers] at ht
  | (k, v) :: rest, t, ht => by
    rcases List.mem_cons.mp (by simpa only [writeMembers] using ht) with rfl | later
    · exact ⟨codePoint '"', _, rfl, by decide, by decide⟩
    · exact writeMembers_starts rest t later

/-- Strings of this kind are read back from what the writer makes of them. -/
def Reads (escape : CodePoint → PyStr) (text : PyStr → Prop) : Prop :=
  ∀ s, text s → ∀ tail, readString (s.flatMap escape ++ codePoint '"' :: tail) = some (s, tail)

theorem readMember_member (reads : Reads escape text) {α : Type}
    {item : Scanner α} {k value after : PyStr} {x : α} (key : text k)
    (starts : ∃ c rest, value = c :: rest ∧ isSpace c = false)
    (read : item (value ++ after) = .ok (x, after)) :
    readMember item (member escape k value ++ after) = .ok ((k, x), after) := by
  obtain ⟨c, rest, whole, solid⟩ := starts
  have opened : member escape k value ++ after = codePoint '"' ::
      (k.flatMap escape ++ codePoint '"' :: (codePoint ':' :: (value ++ after))) := by
    simp [member, quoted]
  have kept : skipSpace (value ++ after) = value ++ after := by
    rw [whole, List.cons_append]
    exact skipSpace_cons solid
  rw [opened, readMember, if_pos rfl, reads k key, demand, ok_bind]
  simp only [skipSpace_cons (show isSpace (codePoint ':') = false by decide), if_true, kept, read]
  rfl

mutual
/-- A value's text is read as what the reader makes of the value, whatever follows it and ends
it. -/
theorem scanOnce_write (reads : Reads escape text) : ∀ v : PyJson, v.Proper decoder.plain text →
    ∀ n, v.depth ≤ n → ∀ tail, Stops tail →
      scanOnce decoder n (v.write escape ++ tail) = .ok (v.hooked decoder.pairsHook, tail)
  | .null, _, n, _, tail, _ => scanOnce_scalar ⟨by decide, by decide⟩ n
  | .bool true, _, n, _, tail, _ => scanOnce_scalar ⟨by decide, by decide⟩ n
  | .bool false, _, n, _, tail, _ => scanOnce_scalar ⟨by decide, by decide⟩ n
  | .int i, fits, n, _, tail, stops => by
    have admitted : ∀ limit ∈ decoder.maxStrDigits, (Nat.toDigits 10 i.natAbs).length ≤ limit :=
      fits
    simp only [PyJson.write]
    exact scanOnce_int i admitted stops n
  | .float literal, proper, n, _, tail, stops => by
    simp only [PyJson.write]
    exact proper decoder tail stops n
  | .str s, proper, n, _, tail, _ => by
    have opened : (PyJson.str s).write escape ++ tail =
        codePoint '"' :: (s.flatMap escape ++ codePoint '"' :: tail) := by
      simp [PyJson.write, quoted]
    rw [opened, scanOnce_scalar ⟨by decide, by decide⟩, readScalar, if_pos rfl, reads s proper]
    rfl
  | .arr items, proper, n + 1, deep, tail, _ => by
    have each := scanOnce_writeItems reads items proper n (by simpa [PyJson.depth] using deep)
    have opened : (PyJson.arr items).write escape ++ tail = codePoint '[' ::
        (comma.intercalate (writeItems escape items) ++ codePoint ']' :: tail) := by
      simp [PyJson.write]
    rw [opened, scanOnce, if_pos rfl,
      readBracket_intercalate each (writeItems_starts items proper) (by decide)]
    rfl
  | .obj members, proper, n + 1, deep, tail, _ => by
    have each := scanOnce_writeMembers reads members proper.2 n (by simpa [PyJson.depth] using deep)
    have opened : (PyJson.obj members).write escape ++ tail = codePoint '\x7b' ::
        (comma.intercalate (writeMembers escape members) ++ codePoint '\x7d' :: tail) := by
      simp [PyJson.write]
    rw [opened, scanOnce, if_neg (by decide), if_pos rfl,
      readBracket_intercalate each (writeMembers_starts members) (by decide)]
    rfl

theorem scanOnce_writeItems (reads : Reads escape text) : ∀ items : List PyJson,
    ProperItems decoder.plain text items → ∀ n, depthItems items ≤ n →
      List.Forall₂ (fun v t => ∀ after, Stops after →
        scanOnce decoder n (t ++ after) = .ok (v, after))
          (hookedItems decoder.pairsHook items) (writeItems escape items)
  | [], _, _, _ => .nil
  | v :: rest, proper, n, deep => by
    obtain ⟨here, later⟩ := Nat.max_le.mp deep
    simp only [writeItems, hookedItems]
    exact .cons (scanOnce_write reads v proper.1 n here)
      (scanOnce_writeItems reads rest proper.2 n later)

theorem scanOnce_writeMembers (reads : Reads escape text) : ∀ members : List (PyStr × PyJson),
    ProperMembers decoder.plain text members → ∀ n, depthMembers members ≤ n →
      List.Forall₂ (fun m t => ∀ after, Stops after →
        readMember (scanOnce decoder n) (t ++ after) = .ok (m, after))
          (hookedMembers decoder.pairsHook members) (writeMembers escape members)
  | [], _, _, _ => .nil
  | (k, v) :: rest, proper, n, deep => by
    obtain ⟨here, later⟩ := Nat.max_le.mp deep
    simp only [writeMembers, hookedMembers]
    refine .cons (fun after stops => ?_) (scanOnce_writeMembers reads rest proper.2.2 n later)
    obtain ⟨c, more, whole, solid, -⟩ := write_starts escape v proper.2.1
    exact readMember_member reads proper.1 ⟨c, more, whole, solid⟩
      (scanOnce_write reads v proper.2.1 n here after stops)
end

/-- `json.loads` makes of what was written what its hook makes of it, unless it is nested too
deep. -/
theorem loads_hooked (reads : Reads escape text) (v : PyJson)
    (proper : v.Proper decoder.plain text) {depth : Nat} (shallow : v.depth ≤ depth) :
    decoder.loads depth (v.write escape) = .ok (v.hooked decoder.pairsHook) := by
  obtain ⟨c, rest, whole, solid, -⟩ := write_starts escape v proper
  have kept : skipSpace (v.write escape) = v.write escape := by
    rw [whole]
    exact skipSpace_cons solid
  have read := scanOnce_write reads v proper depth shallow [] stops_nil
  rw [List.append_nil] at read
  rw [Decoder.loads, kept, read]
  rfl

/-- `json.loads` reads what was written, unless it is nested too deep. -/
theorem loads_write (reads : Reads escape text) (v : PyJson) (proper : v.Proper decoder text)
    {depth : Nat} (shallow : v.depth ≤ depth) : decoder.loads depth (v.write escape) = .ok v := by
  rw [loads_hooked reads v (proper_plain proper) shallow, proper_hooked proper]

theorem decodeText_write (escape : CodePoint → PyStr) (members : List (PyStr × PyJson)) :
    decodeText (encodeUtf8 ((PyJson.obj members).write escape)) =
      some ((PyJson.obj members).write escape) := by
  obtain ⟨c, rest, opened, ascii⟩ : ∃ c rest, (PyJson.obj members).write escape =
      codePoint '\x7b' :: c :: rest ∧ 0 < c.val ∧ c.val < 0x80 := by
    cases members with
    | nil => exact ⟨codePoint '\x7d', [], rfl, by decide, by decide⟩
    | cons m members =>
      cases members <;> exact ⟨codePoint '"', _, rfl, by decide, by decide⟩
  rw [opened, decodeText_ascii _ _ _ (by decide) ascii]

theorem loadBytes_hooked (reads : Reads escape text) {members : List (PyStr × PyJson)}
    (proper : (PyJson.obj members).Proper Decoder.default.plain text) {depth : Nat}
    (shallow : (PyJson.obj members).depth ≤ depth) :
    PyJson.loadBytes depth (encodeUtf8 ((PyJson.obj members).write escape)) =
      .ok ((PyJson.obj members).hooked ofPairs) := by
  rw [PyJson.loadBytes, decodeText_write, demand, ok_bind]
  exact loads_hooked reads _ proper shallow

theorem loadBytes_write (reads : Reads escape text) {members : List (PyStr × PyJson)}
    (proper : (PyJson.obj members).Proper .default text) {depth : Nat}
    (shallow : (PyJson.obj members).depth ≤ depth) :
    PyJson.loadBytes depth (encodeUtf8 ((PyJson.obj members).write escape)) =
      .ok (.obj members) := by
  have kept : (PyJson.obj members).hooked ofPairs = .obj members := proper_hooked proper
  rw [loadBytes_hooked reads (proper_plain proper) shallow, kept]

theorem reads_ascii : Reads escapeAscii Joined := by
  intro s joined tail
  rw [readString_ascii, join_of_joined joined]

theorem reads_control : Reads escapeControl fun _ => True :=
  fun s _ tail => readString_control s tail

end Round

section Injective
variable {s t : PyStr}

theorem escapeSpecial_surrogate {c : CodePoint} (h : isSurrogate c = true) :
    escapeSpecial c = none := by
  cases special : escapeSpecial c with
  | none => rfl
  | some text =>
    obtain ⟨e, found, -⟩ := Option.map_eq_some_iff.mp special
    have same : codePoint e.1 = c := by simpa using List.find?_some found
    rw [← same, codePoint_scalar] at h
    cases h

theorem escapeAscii_surrogate {c : CodePoint} (h : isSurrogate c = true) :
    escapeAscii c = unitEscape c.val := by
  rw [escapeAscii, escapeSpecial_surrogate h]
  simp only [isSurrogate, Bool.and_eq_true, decide_eq_true_eq] at h
  have hidden : ¬ (0x20 ≤ c.val ∧ c.val ≤ 0x7e) := by omega
  have small : c.val < 0x10000 := by omega
  simp only [if_neg hidden, if_pos small]

theorem escapeAscii_large {c : CodePoint} (h : 0x10000 ≤ c.val) :
    escapeAscii c = unitEscape (highOf c) ++ unitEscape (lowOf c) := by
  have ordinary : escapeSpecial c = none := by
    cases special : escapeSpecial c with
    | none => rfl
    | some text =>
      obtain ⟨e, found, -⟩ := Option.map_eq_some_iff.mp special
      have same : codePoint e.1 = c := by simpa using List.find?_some found
      have all : ∀ e ∈ specials, (codePoint e.1).val < 0x10000 := by decide
      have small := all e (List.mem_of_find?_eq_some found)
      rw [same] at small
      omega
  have hidden : ¬ (0x20 ≤ c.val ∧ c.val ≤ 0x7e) := by omega
  have large : ¬ c.val < 0x10000 := by omega
  rw [escapeAscii, ordinary]
  simp only [if_neg hidden, if_neg large]

theorem escapeAscii_pair {c d : CodePoint} (high : isHigh c = true) (low : isLow d = true) :
    escapeAscii (pair c d) = escapeAscii c ++ escapeAscii d := by
  have value := pair_val c d
  rw [escapeAscii_surrogate (high_surrogate high), escapeAscii_surrogate (low_surrogate low),
    escapeAscii_large (by omega)]
  simp only [isHigh, isLow, Bool.and_eq_true, decide_eq_true_eq] at high low
  have first : highOf (pair c d) = c.val := by
    rw [highOf, value]
    omega
  have second : lowOf (pair c d) = d.val := by
    rw [lowOf, value]
    omega
  rw [first, second]

theorem escape_join (s : PyStr) : (join s).flatMap escapeAscii = s.flatMap escapeAscii := by
  induction s using join.induct with
  | case1 => rfl
  | case2 c => rfl
  | case3 c d rest together ih =>
    obtain ⟨high, low⟩ := Bool.and_eq_true_iff.mp together
    rw [join, if_pos together, List.flatMap_cons, ih, escapeAscii_pair high low]
    simp only [List.flatMap_cons, List.append_assoc]
  | case4 c d rest apart ih =>
    rw [join, if_neg apart, List.flatMap_cons, ih]
    rfl

/-- What is written of a string, its closing quote included, is that of the joined string. -/
theorem quoted_split {l m : PyStr} (same : quoted escapeAscii s ++ l = quoted escapeAscii t ++ m) :
    join s = join t ∧ l = m := by
  simp only [quoted, List.cons_append, List.append_assoc, List.cons.injEq, true_and,
    List.nil_append] at same
  have read := readString_ascii s l
  rw [same, readString_ascii t m] at read
  obtain ⟨joined, rest⟩ := Prod.mk.inj (Option.some.inj read)
  exact ⟨joined.symm, rest.symm⟩

theorem quoted_join (same : join s = join t) : quoted escapeAscii s = quoted escapeAscii t := by
  rw [quoted, quoted, ← escape_join s, ← escape_join t, same]

def textMember (m : PyStr × PyStr) : PyStr := member escapeAscii m.1 (quoted escapeAscii m.2)

theorem writeMembers_text (members : List (PyStr × PyStr)) :
    writeMembers escapeAscii (members.map fun m => (m.1, .str m.2)) = members.map textMember := by
  induction members with
  | nil => rfl
  | cons m rest ih =>
    rw [List.map_cons, List.map_cons, writeMembers, ih]
    rfl

/-- Objects of strings with the same keys are written alike when their values are, surrogates
joined. -/
theorem texts_iff {ms ns : List (PyStr × PyStr)} (keys : ms.map Prod.fst = ns.map Prod.fst)
    (tail : PyStr) :
    comma.intercalate (ms.map textMember) ++ tail = comma.intercalate (ns.map textMember) ++ tail ↔
      ms.map (fun m => join m.2) = ns.map fun m => join m.2 := by
  have forget : ∀ {m n : PyStr × PyStr} {l k : PyStr}, m.1 = n.1 →
      (textMember m ++ l = textMember n ++ k ↔ join m.2 = join n.2 ∧ l = k) := by
    intro m n l k key
    simp only [textMember, member, key, List.append_assoc, List.cons_append,
      List.append_cancel_left_eq, List.cons.injEq, true_and]
    constructor
    · exact quoted_split
    · rintro ⟨joined, rfl⟩
      rw [quoted_join joined]
  induction ms generalizing ns with
  | nil =>
    cases ns with
    | nil => simp
    | cons n ns => cases keys
  | cons m ms ih =>
    cases ns with
    | nil => cases keys
    | cons n ns =>
      obtain ⟨key, others⟩ := List.cons.inj keys
      have later := ih others
      cases ms with
      | nil =>
        cases ns with
        | nil => simp [List.intercalate, forget key]
        | cons n' ns => cases others
      | cons m' ms =>
        cases ns with
        | nil => cases others
        | cons n' ns =>
          simp only [List.map_cons, List.intercalate_cons_cons, List.append_assoc, List.cons.injEq]
            at later ⊢
          rw [forget key, List.append_cancel_left_eq]
          exact and_congr Iff.rfl later

theorem encodeUtf8_injective : Function.Injective encodeUtf8 := by
  intro s t same
  have decoded := decode_encodeUtf8 s
  rw [same, decode_encodeUtf8] at decoded
  exact (Option.some.inj decoded).symm

end Injective
end Deckhand.Lib
