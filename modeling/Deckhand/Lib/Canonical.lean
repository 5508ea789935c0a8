import Mathlib.Data.List.Sort
import Mathlib.Data.List.Perm.Basic
import Deckhand.Lib.JsonMode
import Deckhand.Lib.PyWrite

/-! The canonical text of a JSON value: two values have one text just if they are equal up to
the order of keys once surrogates that stand for one code point are joined. -/
namespace Deckhand.Lib

def PyFloat.literal : PyFloat → PyStr
  | .finite repr _ => pyStr repr
  | .nan => pyStr "NaN"
  | .infinity false => pyStr "Infinity"
  | .infinity true => pyStr "-Infinity"

mutual
def Json.py : Json → PyJson
  | .null => .null
  | .bool b => .bool b
  | .int i => .int i
  | .float f => .float (PyFloat.literal f)
  | .str s => .str s
  | .arr items => .arr (Json.pyItems items)
  | .obj members => .obj (Json.pyMembers members)

def Json.pyItems : List Json → List PyJson
  | [] => []
  | j :: rest => Json.py j :: Json.pyItems rest

def Json.pyMembers : List (PyStr × Json) → List (PyStr × PyJson)
  | [] => []
  | (k, j) :: rest => (k, Json.py j) :: Json.pyMembers rest
end

mutual
/-- Equal as JSON values: the order of keys does not matter, and an integer, a float and a
boolean are never equal. -/
inductive Json.Same : Json → Json → Prop
  | null : Json.Same .null .null
  | bool (b : Bool) : Json.Same (.bool b) (.bool b)
  | int (i : Int) : Json.Same (.int i) (.int i)
  | float (f : PyFloat) : Json.Same (.float f) (.float f)
  | str (s : PyStr) : Json.Same (.str s) (.str s)
  | arr {xs ys : List Json} : SameItems xs ys → Json.Same (.arr xs) (.arr ys)
  | obj {ms ms' ns : List (PyStr × Json)} : ms.Perm ms' → SameMembers ms' ns →
      Json.Same (.obj ms) (.obj ns)

inductive SameItems : List Json → List Json → Prop
  | nil : SameItems [] []
  | cons {x y : Json} {xs ys : List Json} : Json.Same x y → SameItems xs ys →
      SameItems (x :: xs) (y :: ys)

inductive SameMembers : List (PyStr × Json) → List (PyStr × Json) → Prop
  | nil : SameMembers [] []
  | cons {k : PyStr} {x y : Json} {ms ns : List (PyStr × Json)} : Json.Same x y →
      SameMembers ms ns → SameMembers ((k, x) :: ms) ((k, y) :: ns)
end

def sortKeys {α : Type} (members : List (PyStr × α)) : List (PyStr × α) :=
  members.insertionSort fun a b => a.1 ≤ b.1

mutual
/-- The value with the members of every dict in the order of their keys. -/
def Json.sorted : Json → Json
  | .arr items => .arr (sortedItems items)
  | .obj members => .obj (sortKeys (sortedMembers members))
  | j => j

def sortedItems : List Json → List Json
  | [] => []
  | j :: rest => j.sorted :: sortedItems rest

def sortedMembers : List (PyStr × Json) → List (PyStr × Json)
  | [] => []
  | (k, j) :: rest => (k, j.sorted) :: sortedMembers rest
end

/-- What the text of a value tells of it. -/
def Json.written (j : Json) : Json := j.sorted.joined

section Floats
variable {decoder : Decoder} {tail : PyStr}

theorem digit_point {c : Char} (digit : c.isDigit = true) : isDigitPoint (codePoint c) = true := by
  simp only [Char.isDigit, Bool.and_eq_true, decide_eq_true_eq] at digit
  simp only [isDigitPoint, Bool.and_eq_true, decide_eq_true_eq]
  exact digit

theorem digit_points {digits : List Char} (all : ∀ c ∈ digits, c.isDigit = true) :
    ∀ c ∈ digits.map codePoint, isDigitPoint c = true := by
  intro c hc
  obtain ⟨d, member, rfl⟩ := List.mem_map.mp hc
  exact digit_point (all d member)

theorem readFraction_text {fraction : List Char} (digits : ∀ c ∈ fraction, c.isDigit = true)
    (first : Undigit tail) (other : fraction = [] → readFraction tail = ([], tail)) :
    readFraction ((fractionText fraction).map codePoint ++ tail) =
      ((fractionText fraction).map codePoint, tail) := by
  cases fraction with
  | nil => exact other rfl
  | cons c fraction =>
    have points := digit_points digits
    obtain ⟨taken, dropped⟩ := span_digits (fun d hd => points d (List.mem_cons_of_mem _ hd)) first
    change readFraction (codePoint '.' :: codePoint c :: (fraction.map codePoint ++ tail)) = _
    rw [readFraction, if_pos ⟨rfl, points _ List.mem_cons_self⟩, taken, dropped]
    rfl

theorem readExponent_text {exponent : List Char} (up : Bool)
    (digits : ∀ c ∈ exponent, c.isDigit = true) (stops : Stops tail) :
    readExponent ((exponentText up exponent).map codePoint ++ tail) =
      ((exponentText up exponent).map codePoint, tail) := by
  cases exponent with
  | nil => exact readExponent_stops stops
  | cons c exponent =>
    obtain ⟨taken, dropped⟩ := span_digits (digit_points digits) stops.undigit
    have unlike : ∀ up : Bool, isDigitPoint (codePoint (bif up then '+' else '-')) = false ∧
        (codePoint (bif up then '+' else '-') = codePoint '-' ∨
          codePoint (bif up then '+' else '-') = codePoint '+') := by
      decide
    change readExponent (codePoint 'e' :: codePoint (bif up then '+' else '-') ::
      ((c :: exponent).map codePoint ++ tail)) = _
    rw [readExponent, if_pos (.inl rfl), if_neg (by simp [(unlike up).1]),
      if_pos ⟨(unlike up).2, by rw [taken]; simp⟩, taken, dropped]
    rfl

theorem undigit_exponent (exponent : List Char) (up : Bool) (stops : Stops tail) :
    Undigit ((exponentText up exponent).map codePoint ++ tail) := by
  cases exponent with
  | nil => exact stops.undigit
  | cons c exponent =>
    intro d hd
    obtain rfl : codePoint 'e' = d := Option.some.inj hd
    decide

theorem undigit_fraction (fraction : List Char) (later : Undigit tail) :
    Undigit ((fractionText fraction).map codePoint ++ tail) := by
  cases fraction with
  | nil => exact later
  | cons c fraction =>
    intro d hd
    obtain rfl : codePoint '.' = d := Option.some.inj hd
    decide

theorem readFraction_exponent (exponent : List Char) (up : Bool) (stops : Stops tail) :
    readFraction ((exponentText up exponent).map codePoint ++ tail) =
      ([], (exponentText up exponent).map codePoint ++ tail) := by
  cases exponent with
  | nil => exact readFraction_stops stops
  | cons c exponent =>
    change readFraction (codePoint 'e' :: codePoint (bif up then '+' else '-') ::
      ((c :: exponent).map codePoint ++ tail)) = _
    rw [readFraction, if_neg fun both => absurd both.1 (by decide)]
    rfl

theorem fractionText_eq_nil {fraction : List Char} :
    fractionText fraction = [] ↔ fraction = [] := by
  cases fraction <;> simp [fractionText]

theorem exponentText_eq_nil {exponent : List Char} {up : Bool} :
    exponentText up exponent = [] ↔ exponent = [] := by
  cases exponent <;> simp [exponentText]

theorem readNumber_float {l : List Char} (wellFormed : FloatRepr l) (stops : Stops tail) :
    readNumber decoder (l.map codePoint ++ tail) = .ok (.float (l.map codePoint), tail) := by
  obtain ⟨negative, up, whole, fraction, exponent, digits, some_digit⟩ := wellFormed
  have fractional := readFraction_text (fun c hc => digits c (List.mem_append_left _ hc))
    (undigit_exponent exponent up stops) fun _ => readFraction_exponent exponent up stops
  have exponential := readExponent_text up
    (fun c hc => digits c (List.mem_append_right _ hc)) stops
  have integral := readWhole_digits (n := whole)
    (undigit_fraction fraction (undigit_exponent exponent up stops))
  have real : ¬ ((fractionText fraction).map codePoint = [] ∧
      (exponentText up exponent).map codePoint = []) := by
    rw [List.map_eq_nil_iff, List.map_eq_nil_iff, fractionText_eq_nil, exponentText_eq_nil]
    rintro ⟨rfl, rfl⟩
    exact some_digit rfl
  have signed : readMinus ((bif negative then [codePoint '-'] else []) ++
      ((Nat.toDigits 10 whole).map codePoint ++ ((fractionText fraction).map codePoint ++
        ((exponentText up exponent).map codePoint ++ tail)))) =
      ((bif negative then [codePoint '-'] else []), (Nat.toDigits 10 whole).map codePoint ++
        ((fractionText fraction).map codePoint ++
          ((exponentText up exponent).map codePoint ++ tail))) := by
    cases negative with
    | true => rfl
    | false =>
      obtain ⟨c, rest, text, first, -⟩ := toDigits_cons whole
      have plain : c ≠ codePoint '-' := by
        rintro rfl
        exact absurd first (by decide)
      rw [text, cond_false, List.nil_append, List.cons_append, readMinus, if_neg plain]
  have sign : (bif negative then ['-'] else []).map codePoint =
      bif negative then [codePoint '-'] else [] := by
    cases negative <;> rfl
  simp only [List.map_append, List.append_assoc, sign, readNumber, signed, integral,
    fractional, exponential, if_neg real]

theorem floatRepr_text {l : List Char} (wellFormed : FloatRepr l) :
    FloatText (l.map codePoint) := by
  intro decoder tail stops n
  have read : readNumber decoder (l.map codePoint ++ tail) = .ok (.float (l.map codePoint), tail) :=
    readNumber_float wellFormed stops
  obtain ⟨negative, up, whole, fraction, exponent, -, -⟩ := wellFormed
  obtain ⟨c, rest, text, digit, -⟩ := toDigits_cons whole
  have sign : (bif negative then ['-'] else []).map codePoint =
      bif negative then [codePoint '-'] else [] := by
    cases negative <;> rfl
  simp only [List.map_append, List.append_assoc, sign, text, List.cons_append] at read ⊢
  exact (scanOnce_number digit negative n).trans read

theorem literal_text (f : PyFloat) : FloatText (PyFloat.literal f) := by
  cases f with
  | finite repr wellFormed => exact floatRepr_text wellFormed
  | nan => exact fun _ _ _ n => scanOnce_scalar ⟨by decide, by decide⟩ n
  | infinity negative =>
    cases negative with
    | false => exact fun _ _ _ n => scanOnce_scalar ⟨by decide, by decide⟩ n
    | true => exact fun _ _ _ n => scanOnce_scalar ⟨by decide, by decide⟩ n

theorem literal_injective : Function.Injective PyFloat.literal := by
  have letter : ∀ {repr : String}, FloatRepr repr.toList → ∀ {c : Char},
      (c.isDigit = false ∧ c ∉ ['-', '+', '.', 'e']) → ∀ {t : String}, c ∈ t.toList →
      pyStr repr ≠ pyStr t := by
    intro repr wellFormed c unlike t member same
    rw [← pyStr_injective same] at member
    rcases wellFormed.characters c member with digit | other
    · rw [unlike.1] at digit
      cases digit
    · exact unlike.2 other
  intro f g same
  cases f with
  | finite r wellFormed =>
    cases g with
    | finite t =>
      obtain rfl := pyStr_injective same
      rfl
    | nan => exact absurd same (letter wellFormed (c := 'N') (by decide) (by decide))
    | infinity negative =>
      cases negative with
      | false => exact absurd same (letter wellFormed (c := 'I') (by decide) (by decide))
      | true => exact absurd same (letter wellFormed (c := 'I') (by decide) (by decide))
  | nan =>
    cases g with
    | finite t wellFormed =>
      exact absurd same.symm (letter wellFormed (c := 'N') (by decide) (by decide))
    | nan => rfl
    | infinity negative => cases negative <;> exact absurd same (by decide)
  | infinity negative =>
    cases g with
    | finite t wellFormed =>
      cases negative with
      | false => exact absurd same.symm (letter wellFormed (c := 'I') (by decide) (by decide))
      | true => exact absurd same.symm (letter wellFormed (c := 'I') (by decide) (by decide))
    | nan => cases negative <;> exact absurd same (by decide)
    | infinity other =>
      cases negative <;> cases other
      · rfl
      · exact absurd same (by decide)
      · exact absurd same (by decide)
      · rfl

end Floats

section Text

theorem map_intercalate {α β : Type} (f : α → β) (sep : List α) (ls : List (List α)) :
    (sep.intercalate ls).map f = (sep.map f).intercalate (ls.map (List.map f)) := by
  induction ls with
  | nil => rfl
  | cons l rest ih =>
    cases rest with
    | nil => simp [List.intercalate]
    | cons m rest =>
      rw [List.map_cons] at ih
      rw [List.intercalate_cons_cons, List.map_cons, List.map_cons, List.intercalate_cons_cons,
        List.map_append, List.map_append, ih]

theorem escapeChar_point (c : CodePoint) : (escapeChar c).map codePoint = escapeAscii c := by
  by_cases special : ∃ e ∈ specials, codePoint e.1 = c
  · obtain ⟨e, member, rfl⟩ := special
    have all : ∀ e ∈ specials,
        (escapeChar (codePoint e.1)).map codePoint = escapeAscii (codePoint e.1) := by
      decide
    exact all e member
  · have ordinary : escapeSpecial c = none := by
      rw [escapeSpecial, Option.map_eq_none_iff, List.find?_eq_none]
      intro e member same
      exact special ⟨e, member, of_decide_eq_true same⟩
    have other : ∀ {d : Char}, (∃ e ∈ specials, e.1 = d) → c ≠ codePoint d := by
      rintro d ⟨e, member, rfl⟩ rfl
      exact special ⟨e, member, rfl⟩
    have backspace : ¬ c.val = 8 := fun h =>
      other (d := '\x08') (by decide) (Fin.ext h)
    have formFeed : ¬ c.val = 12 := fun h =>
      other (d := '\x0c') (by decide) (Fin.ext h)
    rw [escapeAscii, ordinary, escapeChar, if_neg (other (by decide)),
      if_neg (other (by decide)), if_neg (other (by decide)), if_neg (other (by decide)),
      if_neg (other (by decide)), if_neg backspace, if_neg formFeed]
    by_cases shown : 0x20 ≤ c.val ∧ c.val ≤ 0x7e
    · have back : codePoint (Char.ofNat c.val) = c := by
        have all : ∀ n, n ≤ 0x7e → (codePoint (Char.ofNat n)).val = n := by decide
        exact Fin.ext (all c.val shown.2)
      rw [if_pos shown, List.map_singleton, back]
      exact (if_pos shown).symm
    · rw [if_neg shown]
      apply Eq.trans _ (if_neg shown).symm
      by_cases small : c.val < 0x10000
      · exact (congrArg _ (if_pos small)).trans (if_pos small).symm
      · rw [if_neg small, if_neg small]
        exact List.map_append

theorem quote_point (s : PyStr) : (quote s).map codePoint = quoted escapeAscii s := by
  have inner : (s.flatMap escapeChar).map codePoint = s.flatMap escapeAscii := by
    rw [List.map_flatMap]
    exact List.flatMap_congr fun c _ => escapeChar_point c
  rw [quote, quoted, List.map_append, List.map_cons, inner]
  rfl

theorem float_point (f : PyFloat) : f.text.map codePoint = PyFloat.literal f := by
  cases f with
  | finite repr wellFormed => rfl
  | nan => rfl
  | infinity negative => cases negative <;> rfl

theorem textMembers_map (ms : List (PyStr × Json)) :
    textMembers ms = ms.map fun m => (m.1, m.2.text) := by
  induction ms with
  | nil => rfl
  | cons m rest ih => rw [List.map_cons, ← ih, textMembers]

theorem sortedMembers_map (ms : List (PyStr × Json)) :
    sortedMembers ms = ms.map fun m => (m.1, m.2.sorted) := by
  induction ms with
  | nil => rfl
  | cons m rest ih => rw [List.map_cons, ← ih, sortedMembers]

theorem pyMembers_map (ms : List (PyStr × Json)) :
    Json.pyMembers ms = ms.map fun m => (m.1, Json.py m.2) := by
  induction ms with
  | nil => rfl
  | cons m rest ih => rw [List.map_cons, ← ih, Json.pyMembers]

theorem sortKeys_map {α β : Type} (f : α → β) (ms : List (PyStr × α)) :
    sortKeys (ms.map fun m => (m.1, f m.2)) = (sortKeys ms).map fun m => (m.1, f m.2) :=
  (List.map_insertionSort (fun a b : PyStr × α => a.1 ≤ b.1) (fun a b : PyStr × β => a.1 ≤ b.1)
    (fun m => (m.1, f m.2)) ms fun _ _ _ _ => Iff.rfl).symm

theorem sortKeys_perm {α : Type} (ms : List (PyStr × α)) : (sortKeys ms).Perm ms :=
  List.perm_insertionSort _ _

theorem obj_write {ms : List (PyStr × Json)}
    (each : ∀ m ∈ ms, m.2.text.map codePoint = (Json.py m.2.sorted).write escapeAscii) :
    (Json.obj ms).text.map codePoint = (Json.py (Json.obj ms).sorted).write escapeAscii := by
  have inner : ((sortKeys (textMembers ms)).map memberText).map (List.map codePoint) =
      writeMembers escapeAscii (Json.pyMembers (sortKeys (sortedMembers ms))) := by
    rw [textMembers_map, sortedMembers_map, sortKeys_map, sortKeys_map, pyMembers_map,
      writeMembers_map, List.map_map, List.map_map, List.map_map, List.map_map]
    apply List.map_congr_left
    intro m hm
    have value := each m ((sortKeys_perm ms).mem_iff.mp hm)
    change (quote m.1 ++ ':' :: m.2.text).map codePoint = _
    rw [List.map_append, List.map_cons, quote_point, value]
    rfl
  change ('\x7b' :: [','].intercalate ((sortKeys (textMembers ms)).map memberText) ++
    ['\x7d']).map codePoint = _
  rw [List.map_append, List.map_cons, map_intercalate, inner]
  rfl

mutual
theorem text_write : ∀ j : Json,
    j.text.map codePoint = (Json.py j.sorted).write escapeAscii
  | .null => rfl
  | .bool true => rfl
  | .bool false => rfl
  | .int _ => rfl
  | .float f => float_point f
  | .str s => quote_point s
  | .arr items => by
    have inner := textItems_write items
    change ('[' :: [','].intercalate (textItems items) ++ [']']).map codePoint = _
    rw [List.map_append, List.map_cons, map_intercalate, inner]
    rfl
  | .obj ms => obj_write (textMembers_write ms)

theorem textItems_write : ∀ items : List Json,
    (textItems items).map (List.map codePoint) =
      writeItems escapeAscii (Json.pyItems (sortedItems items))
  | [] => rfl
  | j :: rest => by
    rw [textItems, List.map_cons, text_write j, textItems_write rest]
    rfl

theorem textMembers_write : ∀ ms : List (PyStr × Json), ∀ m ∈ ms,
    m.2.text.map codePoint = (Json.py m.2.sorted).write escapeAscii
  | [], _, member => by cases member
  | m :: rest, n, member => by
    cases member with
    | head => exact text_write m.2
    | tail _ later => exact textMembers_write rest n later
end

end Text

section Reading

mutual
theorem py_injective : ∀ {j k : Json}, Json.py j = Json.py k → j = k
  | .null, .null, _ => rfl
  | .bool _, .bool _, same => congrArg Json.bool (PyJson.bool.inj same)
  | .int _, .int _, same => congrArg Json.int (PyJson.int.inj same)
  | .float _, .float _, same => congrArg Json.float (literal_injective (PyJson.float.inj same))
  | .str _, .str _, same => congrArg Json.str (PyJson.str.inj same)
  | .arr _, .arr _, same => congrArg Json.arr (pyItems_injective (PyJson.arr.inj same))
  | .obj _, .obj _, same => congrArg Json.obj (pyMembers_injective (PyJson.obj.inj same))

theorem pyItems_injective : ∀ {xs ys : List Json}, Json.pyItems xs = Json.pyItems ys → xs = ys
  | [], [], _ => rfl
  | _ :: _, _ :: _, same => by
    injection same with head tail
    rw [py_injective head, pyItems_injective tail]

theorem pyMembers_injective : ∀ {ms ns : List (PyStr × Json)},
    Json.pyMembers ms = Json.pyMembers ns → ms = ns
  | [], [], _ => rfl
  | (k, x) :: _, (l, y) :: _, same => by
    injection same with head tail
    injection head with key value
    rw [key, py_injective value, pyMembers_injective tail]
end

theorem keys_map {α β : Type} (f : α → β) (ms : List (PyStr × α)) :
    (ms.map fun m => (m.1, f m.2)).map Prod.fst = ms.map Prod.fst := by
  rw [List.map_map]
  rfl

/-- A reader that keeps every pair and every digit. -/
def Decoder.raw : Decoder := ⟨none, id⟩

mutual
theorem joined_write : ∀ j : Json,
    (Json.py j.joined).write escapeAscii = (Json.py j).write escapeAscii
  | .null => rfl
  | .bool _ => rfl
  | .int _ => rfl
  | .float _ => rfl
  | .str s => quoted_join (join_join s)
  | .arr items => by
    have inner := joinedItems_write items
    simp only [Json.joined, Json.py, PyJson.write, inner]
  | .obj members => by
    have inner := joinedMembers_write members
    simp only [Json.joined, Json.py, PyJson.write, inner]

theorem joinedItems_write : ∀ items : List Json,
    writeItems escapeAscii (Json.pyItems (joinedItems items)) =
      writeItems escapeAscii (Json.pyItems items)
  | [] => rfl
  | j :: rest => by
    simp only [joinedItems, Json.pyItems, writeItems, joined_write j, joinedItems_write rest]

theorem joinedMembers_write : ∀ members : List (PyStr × Json),
    writeMembers escapeAscii (Json.pyMembers (joinedMembers members)) =
      writeMembers escapeAscii (Json.pyMembers members)
  | [] => rfl
  | (k, j) :: rest => by
    simp only [joinedMembers, Json.pyMembers, writeMembers, member, joined_write j,
      quoted_join (join_join k), joinedMembers_write rest]
end

mutual
theorem joined_proper : ∀ j : Json, (Json.py j.joined).Proper .raw Joined
  | .null => trivial
  | .bool _ => trivial
  | .int _ => fun _ set => nomatch set
  | .float f => literal_text f
  | .str s => join_joined s
  | .arr items => joinedItems_proper items
  | .obj members => ⟨rfl, joinedMembers_proper members⟩

theorem joinedItems_proper : ∀ items : List Json,
    ProperItems .raw Joined (Json.pyItems (joinedItems items))
  | [] => trivial
  | j :: rest => ⟨joined_proper j, joinedItems_proper rest⟩

theorem joinedMembers_proper : ∀ members : List (PyStr × Json),
    ProperMembers .raw Joined (Json.pyMembers (joinedMembers members))
  | [] => trivial
  | (k, j) :: rest => ⟨join_joined k, joined_proper j, joinedMembers_proper rest⟩
end

theorem text_eq_iff {j k : Json} : j.text = k.text ↔ j.written = k.written := by
  have text : ∀ j : Json, j.text.map codePoint = (Json.py j.written).write escapeAscii :=
    fun j => (text_write j).trans (joined_write j.sorted).symm
  constructor
  · intro same
    have reads : ∀ j : Json, ∀ depth, (Json.py j.written).depth ≤ depth →
        Decoder.raw.loads depth (j.text.map codePoint) = .ok (Json.py j.written) := by
      intro j depth shallow
      rw [text]
      exact loads_write reads_ascii _ (joined_proper j.sorted) shallow
    have first := reads j (max (Json.py j.written).depth (Json.py k.written).depth) (by simp)
    rw [same, reads k _ (by simp)] at first
    exact (py_injective (Except.ok.inj first)).symm
  · intro same
    have written : j.text.map codePoint = k.text.map codePoint := by
      rw [text, text, same]
    exact List.map_injective_iff.mpr codePoint_injective written

end Reading

section Same

theorem sortKeys_eq {α : Type} {ms ns : List (PyStr × α)} (keys : (ms.map Prod.fst).Nodup)
    (perm : ms.Perm ns) : sortKeys ms = sortKeys ns := by
  have sorts : (sortKeys ms).Perm (sortKeys ns) :=
    (sortKeys_perm ms).trans (perm.trans (sortKeys_perm ns).symm)
  apply sorts.eq_of_pairwise _ (List.pairwise_insertionSort _ _) (List.pairwise_insertionSort _ _)
  intro m n hm hn below above
  have key : m.1 = n.1 := le_antisymm below above
  have first := (sortKeys_perm ms).mem_iff.mp hm
  have second := perm.mem_iff.mpr ((sortKeys_perm ns).mem_iff.mp hn)
  exact List.inj_on_of_nodup_map keys first second key

mutual
theorem same_sorted : ∀ {j k : Json}, Json.Same j k → j.Distinct → j.sorted = k.sorted
  | _, _, .null, _ => rfl
  | _, _, .bool _, _ => rfl
  | _, _, .int _, _ => rfl
  | _, _, .float _, _ => rfl
  | _, _, .str _, _ => rfl
  | _, _, .arr items, h => congrArg Json.arr (same_sortedItems items h)
  | .obj ms, .obj ns, .obj perm members, h => by
    have other : DistinctMembers _ := distinctMembers_iff.mpr fun m hm =>
      distinctMembers_iff.mp h.2 m (perm.mem_iff.mpr hm)
    have inner := same_sortedMembers members other
    have keys : ((sortedMembers ms).map Prod.fst).Nodup := by
      rw [sortedMembers_map, keys_map]
      exact h.1
    have moved : (sortedMembers ms).Perm (sortedMembers ns) := by
      rw [← inner, sortedMembers_map, sortedMembers_map]
      exact perm.map _
    exact congrArg Json.obj (sortKeys_eq keys moved)

theorem same_sortedItems : ∀ {xs ys : List Json}, SameItems xs ys → DistinctItems xs →
    sortedItems xs = sortedItems ys
  | _, _, .nil, _ => rfl
  | _, _, .cons first rest, h => by
    rw [sortedItems, sortedItems, same_sorted first h.1, same_sortedItems rest h.2]

theorem same_sortedMembers : ∀ {ms ns : List (PyStr × Json)}, SameMembers ms ns →
    DistinctMembers ms → sortedMembers ms = sortedMembers ns
  | _, _, .nil, _ => rfl
  | _, _, .cons first rest, h => by
    rw [sortedMembers, sortedMembers, same_sorted first h.1, same_sortedMembers rest h.2]
end

theorem perm_map_split {α β : Type} {f : α → β} {ms : List α} {ns : List β}
    (perm : (ms.map f).Perm ns) : ∃ ms', ms.Perm ms' ∧ ms'.map f = ns := by
  have mapped : List.Forall₂ (fun b a => b = f a) (ms.map f) ms := by
    rw [List.forall₂_map_left_iff]
    exact List.forall₂_same.mpr fun _ _ => rfl
  obtain ⟨ms', values, moved⟩ := List.perm_comp_forall₂ perm.symm mapped
  refine ⟨ms', moved.symm, ?_⟩
  rw [← List.forall₂_map_right_iff, List.forall₂_eq_eq_eq] at values
  exact values.symm

mutual
theorem sorted_same : ∀ {j k : Json}, j.sorted = k.sorted → Json.Same j k
  | .null, .null, _ => .null
  | .bool b, .bool _, same => by
    obtain rfl := Json.bool.inj same
    exact .bool b
  | .int i, .int _, same => by
    obtain rfl := Json.int.inj same
    exact .int i
  | .float f, .float _, same => by
    obtain rfl := Json.float.inj same
    exact .float f
  | .str s, .str _, same => by
    obtain rfl := Json.str.inj same
    exact .str s
  | .arr xs, .arr ys, same => .arr (sortedItems_same (Json.arr.inj same))
  | .obj ms, .obj ns, same => by
    have sorts : sortKeys (sortedMembers ms) = sortKeys (sortedMembers ns) := Json.obj.inj same
    have perm : (sortedMembers ms).Perm (sortedMembers ns) := by
      apply (sortKeys_perm _).symm.trans
      rw [sorts]
      exact sortKeys_perm _
    rw [sortedMembers_map ms] at perm
    obtain ⟨ms', moved, values⟩ := perm_map_split perm
    rw [← sortedMembers_map] at values
    exact .obj moved (sortedMembers_same values)

theorem sortedItems_same : ∀ {xs ys : List Json}, sortedItems xs = sortedItems ys →
    SameItems xs ys
  | [], [], _ => .nil
  | _ :: _, _ :: _, same => by
    injection same with head tail
    exact .cons (sorted_same head) (sortedItems_same tail)

theorem sortedMembers_same : ∀ {ms ns : List (PyStr × Json)},
    sortedMembers ms = sortedMembers ns → SameMembers ms ns
  | [], [], _ => .nil
  | (_, _) :: _, (_, _) :: _, same => by
    injection same with head tail
    injection head with key value
    obtain rfl := key
    exact .cons (sorted_same value) (sortedMembers_same tail)
end

/-- Values without a key twice are the same in the order of their keys just if they are equal as
JSON values. -/
theorem sorted_eq_iff {j k : Json} (distinct : j.Distinct) : j.sorted = k.sorted ↔ Json.Same j k :=
  ⟨sorted_same, fun same => same_sorted same distinct⟩

theorem same_written {j k : Json} (same : Json.Same j k) (distinct : j.Distinct) :
    j.written = k.written :=
  congrArg Json.joined (same_sorted same distinct)

mutual
theorem same_every {leaf : Json → Bool} {key : PyStr → Bool} : ∀ {j k : Json}, Json.Same j k →
    j.every leaf key = true → k.every leaf key = true
  | _, _, .null, h => h
  | _, _, .bool _, h => h
  | _, _, .int _, h => h
  | _, _, .float _, h => h
  | _, _, .str _, h => h
  | _, _, .arr items, h => same_everyItem items h
  | .obj ms, .obj _, .obj perm members, h => by
    apply same_everyMember members
    rw [everyMember_iff]
    have each : ∀ m ∈ ms, key m.1 = true ∧ m.2.every leaf key = true := every_obj.mp h
    exact fun m hm => each m (perm.mem_iff.mpr hm)

theorem same_everyItem {leaf : Json → Bool} {key : PyStr → Bool} : ∀ {xs ys : List Json},
    SameItems xs ys → everyItem leaf key xs = true → everyItem leaf key ys = true
  | _, _, .nil, h => h
  | _, _, .cons first rest, h => by
    simp only [everyItem, Bool.and_eq_true] at h ⊢
    exact ⟨same_every first h.1, same_everyItem rest h.2⟩

theorem same_everyMember {leaf : Json → Bool} {key : PyStr → Bool} :
    ∀ {ms ns : List (PyStr × Json)}, SameMembers ms ns → everyMember leaf key ms = true →
      everyMember leaf key ns = true
  | _, _, .nil, h => h
  | _, _, .cons first rest, h => by
    simp only [everyMember, Bool.and_eq_true] at h ⊢
    exact ⟨⟨h.1.1, same_every first h.1.2⟩, same_everyMember rest h.2⟩
end

@[simp] theorem same_bool {a b : Bool} : Json.Same (.bool a) (.bool b) ↔ a = b := by
  constructor
  · rintro ⟨⟩
    rfl
  · rintro rfl
    exact .bool a

@[simp] theorem same_int {a b : Int} : Json.Same (.int a) (.int b) ↔ a = b := by
  constructor
  · rintro ⟨⟩
    rfl
  · rintro rfl
    exact .int a

@[simp] theorem same_str {a b : PyStr} : Json.Same (.str a) (.str b) ↔ a = b := by
  constructor
  · rintro ⟨⟩
    rfl
  · rintro rfl
    exact .str a

@[simp] theorem sameMembers_nil : SameMembers [] [] := .nil

@[simp] theorem sameMembers_cons {k : PyStr} {x y : Json} {ms ns : List (PyStr × Json)} :
    SameMembers ((k, x) :: ms) ((k, y) :: ns) ↔ Json.Same x y ∧ SameMembers ms ns := by
  constructor
  · intro same
    cases same with
    | cons first rest => exact ⟨first, rest⟩
  · rintro ⟨first, rest⟩
    exact .cons first rest

theorem sameMembers_value {ms ns : List (PyStr × Json)} {k : PyStr} {x : Json}
    (same : SameMembers ms ns) (member : (k, x) ∈ ms) : ∃ y, (k, y) ∈ ns ∧ Json.Same x y := by
  induction ms generalizing ns with
  | nil => cases member
  | cons m ms ih =>
    cases same with
    | cons first rest =>
      cases member with
      | head => exact ⟨_, List.mem_cons_self, first⟩
      | tail _ later =>
        obtain ⟨y, found, value⟩ := ih rest later
        exact ⟨y, List.mem_cons_of_mem _ found, value⟩

theorem sameMembers_of_values {ms ns : List (PyStr × Json)}
    (names : ms.map Prod.fst = ns.map Prod.fst)
    (values : ∀ k x y, (k, x) ∈ ms → (k, y) ∈ ns → Json.Same x y) : SameMembers ms ns := by
  induction ms generalizing ns with
  | nil =>
    cases ns with
    | nil => exact .nil
    | cons n ns => cases names
  | cons m ms ih =>
    cases ns with
    | nil => cases names
    | cons n ns =>
      obtain ⟨key, others⟩ := List.cons.inj names
      obtain ⟨k, x⟩ := m
      obtain ⟨l, y⟩ := n
      obtain rfl : k = l := key
      apply SameMembers.cons (values k x y List.mem_cons_self List.mem_cons_self)
      exact ih others fun k x y hx hy =>
        values k x y (List.mem_cons_of_mem _ hx) (List.mem_cons_of_mem _ hy)

theorem same_obj {ms ns : List (PyStr × Json)} (names : ms.map Prod.fst = ns.map Prod.fst)
    (keys : (ns.map Prod.fst).Nodup) : Json.Same (.obj ms) (.obj ns) ↔ SameMembers ms ns := by
  constructor
  · rintro ⟨⟩
    rename_i perm same
    apply sameMembers_of_values names
    intro k x y hx hy
    obtain ⟨z, hz, value⟩ := sameMembers_value same (perm.mem_iff.mp hx)
    have one : (k, y) = (k, z) := List.inj_on_of_nodup_map keys hy hz rfl
    rw [(Prod.mk.inj one).2]
    exact value
  · exact fun same => .obj (List.Perm.refl ms) same

end Same

section Written

/-- What is written of a dict: its members in the order of their keys, surrogates joined. -/
theorem written_obj (ms : List (PyStr × Json)) : (Json.obj ms).written =
    .obj ((sortKeys (ms.map fun m => (m.1, m.2.written))).map fun m => (join m.1, m.2)) := by
  have inner : sortKeys (ms.map fun m => (m.1, m.2.written)) =
      (sortKeys (sortedMembers ms)).map fun m => (m.1, m.2.joined) := by
    rw [← sortKeys_map, sortedMembers_map, List.map_map]
    rfl
  rw [inner, Json.written, Json.sorted, Json.joined, joinedMembers_map, List.map_map]
  rfl

/-- A dict is found again from its members in any order, when the keys stand in the same order. -/
theorem eq_of_perm_keys {α : Type} {ms ns : List (PyStr × α)}
    (names : ms.map Prod.fst = ns.map Prod.fst) (keys : (ns.map Prod.fst).Nodup)
    (perm : ms.Perm ns) : ms = ns := by
  induction ms generalizing ns with
  | nil => exact perm.nil_eq
  | cons m ms ih =>
    cases ns with
    | nil => cases names
    | cons n ns =>
      obtain ⟨key, others⟩ := List.cons.inj names
      have found : m ∈ n :: ns := perm.mem_iff.mp List.mem_cons_self
      obtain rfl := List.inj_on_of_nodup_map keys found List.mem_cons_self key
      rw [ih others (List.nodup_cons.mp keys).2 perm.cons_inv]

theorem eq_of_keys_values {α : Type} {ms ns : List (PyStr × α)}
    (names : ms.map Prod.fst = ns.map Prod.fst) (values : ms.map Prod.snd = ns.map Prod.snd) :
    ms = ns := by
  have zipped := congrArg₂ List.zip names values
  rwa [List.zip_map', List.zip_map', List.map_id', List.map_id'] at zipped

theorem sortKeys_names {α : Type} {ms ns : List (PyStr × α)}
    (names : ms.map Prod.fst = ns.map Prod.fst) :
    (sortKeys ms).map Prod.fst = (sortKeys ns).map Prod.fst := by
  have forget : ∀ xs : List (PyStr × α),
      (sortKeys xs).map Prod.fst = (xs.map Prod.fst).insertionSort (· ≤ ·) := fun xs =>
    List.map_insertionSort (fun a b : PyStr × α => a.1 ≤ b.1) (· ≤ ·) Prod.fst xs
      fun _ _ _ _ => Iff.rfl
  rw [forget, forget, names]

theorem written_obj_iff {ms ns : List (PyStr × Json)} (names : ms.map Prod.fst = ns.map Prod.fst)
    (keys : (ns.map Prod.fst).Nodup) : (Json.obj ms).written = (Json.obj ns).written ↔
      ms.map (fun m => m.2.written) = ns.map fun n => n.2.written := by
  have inner : (ms.map fun m : PyStr × Json => (m.1, m.2.written)).map Prod.fst =
      (ns.map fun n : PyStr × Json => (n.1, n.2.written)).map Prod.fst := by
    rw [keys_map, keys_map, names]
  rw [written_obj, written_obj, Json.obj.injEq]
  constructor
  · intro same
    have values := congrArg (List.map Prod.snd) same
    rw [List.map_map, List.map_map] at values
    have sorts := eq_of_keys_values (sortKeys_names inner) values
    have perm := (sortKeys_perm (ms.map fun m : PyStr × Json => (m.1, m.2.written))).symm.trans
      (sorts ▸ sortKeys_perm (ns.map fun n : PyStr × Json => (n.1, n.2.written)))
    have whole := eq_of_perm_keys inner (by rwa [keys_map]) perm
    simpa [Function.comp_def] using congrArg (List.map Prod.snd) whole
  · intro values
    have whole : (ms.map fun m => (m.1, m.2.written)) = ns.map fun n => (n.1, n.2.written) := by
      apply eq_of_keys_values inner
      simpa [Function.comp_def] using values
    rw [whole]

mutual
theorem sorted_every {leaf : Json → Bool} {key : PyStr → Bool} :
    ∀ {j : Json}, j.every leaf key = true → j.sorted.every leaf key = true
  | .null, h => h
  | .bool _, h => h
  | .int _, h => h
  | .float _, h => h
  | .str _, h => h
  | .arr _, h => every_arr.mpr (sorted_everyItem (every_arr.mp h))
  | .obj _, h => every_obj.mpr fun m kept =>
      sorted_everyMember (every_obj.mp h) m ((sortKeys_perm _).mem_iff.mp kept)

theorem sorted_everyItem {leaf : Json → Bool} {key : PyStr → Bool} : ∀ {items : List Json},
    (∀ j ∈ items, j.every leaf key = true) → ∀ j ∈ sortedItems items, j.every leaf key = true
  | [], _ => List.forall_mem_nil _
  | _ :: _, h => by
    obtain ⟨first, others⟩ := List.forall_mem_cons.mp h
    exact List.forall_mem_cons.mpr ⟨sorted_every first, sorted_everyItem others⟩

theorem sorted_everyMember {leaf : Json → Bool} {key : PyStr → Bool} :
    ∀ {ms : List (PyStr × Json)}, (∀ m ∈ ms, key m.1 = true ∧ m.2.every leaf key = true) →
      ∀ m ∈ sortedMembers ms, key m.1 = true ∧ m.2.every leaf key = true
  | [], _ => List.forall_mem_nil _
  | (_, _) :: _, h => by
    obtain ⟨⟨name, first⟩, others⟩ := List.forall_mem_cons.mp h
    exact List.forall_mem_cons.mpr ⟨⟨name, sorted_every first⟩, sorted_everyMember others⟩
end

end Written
end Deckhand.Lib
