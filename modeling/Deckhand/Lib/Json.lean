import Mathlib.Data.List.Lex
import Mathlib.Data.List.Sort
import Mathlib.Data.List.Infix
import Mathlib.Data.List.Perm.Subperm
import Deckhand.Lib.PyText

/-! JSON values as Python's json module reads and writes them: integers, floats and
booleans are distinct, strings may hold surrogates, and text is ASCII with everything else
escaped. -/
namespace Deckhand.Lib

/-- An integer of more digits is neither read nor written. -/
def maxStrDigits : Nat := 4300

def digitsFit (i : Int) : Bool := i.natAbs < 10 ^ maxStrDigits

theorem digitsFit_iff {i : Int} :
    digitsFit i = true ↔ (Nat.toDigits 10 i.natAbs).length ≤ maxStrDigits := by
  rw [digitsFit, decide_eq_true_eq, Nat.length_toDigits_le_iff (by decide) (by decide)]

attribute [irreducible] digitsFit

def isPrintable (c : Char) : Bool := ' ' ≤ c && c ≤ '~'

def fractionText : List Char → List Char
  | [] => []
  | c :: digits => '.' :: c :: digits

def exponentText (up : Bool) : List Char → List Char
  | [] => []
  | c :: digits => 'e' :: (bif up then '+' else '-') :: c :: digits

/-- The repr of a finite float: a whole number, and a fraction or an exponent or both. -/
inductive FloatRepr : List Char → Prop where
  | mk (negative up : Bool) (whole : Nat) (fraction exponent : List Char) :
      (∀ c ∈ fraction ++ exponent, c.isDigit = true) → fraction ++ exponent ≠ [] →
      FloatRepr ((bif negative then ['-'] else []) ++ Nat.toDigits 10 whole ++
        fractionText fraction ++ exponentText up exponent)

/-- A float is carried as its repr, which is different for different finite floats. -/
inductive PyFloat where
  | finite (repr : String) (wellFormed : FloatRepr repr.toList)
  | nan
  | infinity (negative : Bool)

inductive Json where
  | null
  | bool (b : Bool)
  | int (i : Int)
  | float (f : PyFloat)
  | str (s : PyStr)
  | arr (items : List Json)
  | obj (members : List (PyStr × Json))

/-- A Python dict with string keys. -/
abbrev Dict := List (PyStr × Json)

section Pairs
variable {α β : Type}

/-- `d[key] = value` -/
def put (d : List (PyStr × α)) (m : PyStr × α) : List (PyStr × α) :=
  if d.any fun x => x.1 == m.1 then d.map fun x => if x.1 == m.1 then m else x else d ++ [m]

/-- `dict(pairs)`: a key that comes again keeps its place and takes the later value. -/
def ofPairs (pairs : List (PyStr × α)) : List (PyStr × α) := pairs.foldl put []

theorem put_fresh {d : List (PyStr × α)} {m : PyStr × α} (fresh : m.1 ∉ d.map Prod.fst) :
    put d m = d ++ [m] := by
  rw [put, if_neg]
  intro taken
  obtain ⟨x, hx, same⟩ := List.any_eq_true.mp taken
  exact fresh (by simpa using ⟨x.2, beq_iff_eq.mp same ▸ hx⟩)

theorem put_keys {d : List (PyStr × α)} {m : PyStr × α} (taken : m.1 ∈ d.map Prod.fst) :
    (put d m).map Prod.fst = d.map Prod.fst := by
  obtain ⟨x, hx, same⟩ := List.mem_map.mp taken
  have there : (d.any fun x => x.1 == m.1) = true :=
    List.any_eq_true.mpr ⟨x, hx, by simpa using same⟩
  rw [put, if_pos there, List.map_map]
  apply List.map_congr_left
  intro y _
  by_cases here : y.1 = m.1 <;> simp [here]

theorem put_nodup {d : List (PyStr × α)} {m : PyStr × α} (distinct : (d.map Prod.fst).Nodup) :
    ((put d m).map Prod.fst).Nodup := by
  by_cases taken : m.1 ∈ d.map Prod.fst
  · rw [put_keys taken]
    exact distinct
  · rw [put_fresh taken, List.map_append, List.nodup_append]
    refine ⟨distinct, List.nodup_singleton _, ?_⟩
    rintro k before k' here rfl
    exact taken (List.mem_singleton.mp here ▸ before)

theorem mem_put {d : List (PyStr × α)} {m x : PyStr × α} (h : x ∈ put d m) : x ∈ d ∨ x = m := by
  unfold put at h
  split at h
  · obtain ⟨y, hy, same⟩ := List.mem_map.mp h
    split at same
    · exact .inr same.symm
    · exact .inl (same ▸ hy)
  · simpa using h

theorem ofPairs_nodup (pairs : List (PyStr × α)) : ((ofPairs pairs).map Prod.fst).Nodup := by
  have step : ∀ (d pairs : List (PyStr × α)), (d.map Prod.fst).Nodup →
      ((pairs.foldl put d).map Prod.fst).Nodup := by
    intro d pairs distinct
    induction pairs generalizing d with
    | nil => exact distinct
    | cons m rest ih => exact ih _ (put_nodup distinct)
  exact step [] pairs .nil

theorem mem_ofPairs {pairs : List (PyStr × α)} {x : PyStr × α} (h : x ∈ ofPairs pairs) :
    x ∈ pairs := by
  have step : ∀ d pairs : List (PyStr × α), x ∈ pairs.foldl put d → x ∈ d ∨ x ∈ pairs := by
    intro d pairs h
    induction pairs generalizing d with
    | nil => exact .inl h
    | cons m rest ih =>
      rcases ih _ h with early | later
      · rcases mem_put early with old | rfl
        · exact .inl old
        · exact .inr List.mem_cons_self
      · exact .inr (List.mem_cons_of_mem _ later)
  rcases step [] pairs h with none | here
  · cases none
  · exact here

theorem ofPairs_distinct {pairs : List (PyStr × α)} (distinct : (pairs.map Prod.fst).Nodup) :
    ofPairs pairs = pairs := by
  have step : ∀ d pairs : List (PyStr × α), ((d ++ pairs).map Prod.fst).Nodup →
      pairs.foldl put d = d ++ pairs := by
    intro d pairs distinct
    induction pairs generalizing d with
    | nil => simp
    | cons m rest ih =>
      have fresh : m.1 ∉ d.map Prod.fst := by
        intro taken
        rw [List.map_append, List.nodup_append] at distinct
        exact distinct.2.2 m.1 taken m.1 (by simp) rfl
      rw [List.foldl_cons, put_fresh fresh, ih (d ++ [m]) (by simpa using distinct)]
      simp
  exact step [] pairs distinct

theorem ofPairs_subperm (pairs : List (PyStr × α)) : (ofPairs pairs).Subperm pairs :=
  List.Nodup.subperm (List.Nodup.of_map Prod.fst (ofPairs_nodup pairs)) fun _ => mem_ofPairs

end Pairs

namespace Dict

def get? (d : Dict) (k : PyStr) : Option Json := (d.find? fun m => m.1 == k).map Prod.snd

/-- `{**d, k: v}` -/
def set (d : Dict) (k : PyStr) (v : Json) : Dict := put d (k, v)

theorem get?_set_self (d : Dict) (k : PyStr) (v : Json) : (d.set k v).get? k = some v := by
  unfold set put get?
  induction d with
  | nil => simp
  | cons m rest ih =>
    by_cases h : m.1 = k
    · simp [h]
    · by_cases more : rest.any fun m => m.1 == k
      · simpa [h, more] using ih
      · simpa [h, more] using ih

theorem find?_replace (d : Dict) {k j : PyStr} (v : Json) (other : j ≠ k) :
    (d.map fun m => if m.1 == k then (k, v) else m).find? (fun m => m.1 == j) =
      d.find? fun m => m.1 == j := by
  have hkj : (k == j) = false := by simpa using fun h => other h.symm
  induction d with
  | nil => rfl
  | cons m rest ih =>
    by_cases h : m.1 = k
    · have hj : (m.1 == j) = false := by rw [h]; exact hkj
      simpa [h, hj, hkj, -List.find?_map] using ih
    · cases hj : m.1 == j
      · simpa [h, hj, -List.find?_map] using ih
      · simp [h, hj, -List.find?_map]

theorem get?_set_other (d : Dict) {k j : PyStr} (v : Json) (other : j ≠ k) :
    (d.set k v).get? j = d.get? j := by
  unfold set put get?
  split
  · rw [find?_replace d v other]
  · have hkj : (k == j) = false := by simpa using fun h => other h.symm
    simp [List.find?_append, hkj]

@[simp] theorem get?_nil (k : PyStr) : get? [] k = none := rfl

@[simp] theorem get?_cons (m : PyStr × Json) (d : Dict) (k : PyStr) :
    get? (m :: d) k = if m.1 = k then some m.2 else get? d k := by
  by_cases h : m.1 = k <;> simp [get?, h]

end Dict

def hexDigit (n : Nat) : Char := Nat.digitChar (n % 16)

/-- A UTF-16 code unit as `\uXXXX`. -/
def escapeUnit (n : Nat) : List Char :=
  ['\\', 'u', hexDigit (n / 4096), hexDigit (n / 256), hexDigit (n / 16), hexDigit n]

def escapeChar (c : CodePoint) : List Char :=
  if c = codePoint '"' then ['\\', '"']
  else if c = codePoint '\\' then ['\\', '\\']
  else if c = codePoint '\n' then ['\\', 'n']
  else if c = codePoint '\r' then ['\\', 'r']
  else if c = codePoint '\t' then ['\\', 't']
  else if c.val = 8 then ['\\', 'b']
  else if c.val = 12 then ['\\', 'f']
  else if 0x20 ≤ c.val ∧ c.val ≤ 0x7e then [Char.ofNat c.val]
  else if c.val < 0x10000 then escapeUnit c.val
  else escapeUnit (0xd800 + (c.val - 0x10000) / 0x400) ++
    escapeUnit (0xdc00 + (c.val - 0x10000) % 0x400)

def quote (s : PyStr) : List Char := '"' :: s.flatMap escapeChar ++ ['"']

def PyFloat.text : PyFloat → List Char
  | .finite repr _ => repr.toList
  | .nan => "NaN".toList
  | .infinity false => "Infinity".toList
  | .infinity true => "-Infinity".toList

def intText : Int → List Char
  | .ofNat n => Nat.toDigits 10 n
  | .negSucc n => '-' :: Nat.toDigits 10 (n + 1)

def memberText (m : PyStr × List Char) : List Char := quote m.1 ++ ':' :: m.2

mutual
/-- `json.dumps(value, sort_keys=True, separators=(",", ":"))` -/
def Json.text : Json → List Char
  | .null => "null".toList
  | .bool true => "true".toList
  | .bool false => "false".toList
  | .int i => intText i
  | .float f => f.text
  | .str s => quote s
  | .arr items => '[' :: [','].intercalate (textItems items) ++ [']']
  | .obj members =>
    let sorted := (textMembers members).insertionSort fun a b => a.1 ≤ b.1
    '\x7b' :: [','].intercalate (sorted.map memberText) ++ ['\x7d']

def textItems : List Json → List (List Char)
  | [] => []
  | j :: rest => j.text :: textItems rest

def textMembers : List (PyStr × Json) → List (PyStr × List Char)
  | [] => []
  | (k, j) :: rest => (k, j.text) :: textMembers rest
end

def Json.dumps (j : Json) : String := String.ofList j.text

def Printable (l : List Char) : Prop := ∀ c ∈ l, isPrintable c = true

instance (l : List Char) : Decidable (Printable l) := List.decidableBAll _ l

theorem printable_append {a b : List Char} : Printable (a ++ b) ↔ Printable a ∧ Printable b :=
  List.forall_mem_append

theorem printable_cons {c : Char} {l : List Char} :
    Printable (c :: l) ↔ isPrintable c = true ∧ Printable l := List.forall_mem_cons

theorem hexDigit_printable : ∀ n, isPrintable (hexDigit n) = true := by
  intro n
  have all : ∀ m < 16, isPrintable (Nat.digitChar m) = true := by decide
  exact all (n % 16) (Nat.mod_lt _ (by decide))

theorem escapeUnit_printable (n : Nat) : Printable (escapeUnit n) := by
  have h := hexDigit_printable
  simp only [escapeUnit, printable_cons, h]
  decide

theorem escapeChar_printable (c : CodePoint) : Printable (escapeChar c) := by
  unfold escapeChar
  repeat' split
  all_goals first
    | decide
    | exact escapeUnit_printable _
    | exact printable_append.mpr ⟨escapeUnit_printable _, escapeUnit_printable _⟩
    | skip
  rename_i shown
  have all : ∀ n, n ≤ 0x7e → 0x20 ≤ n → isPrintable (Char.ofNat n) = true := by decide
  exact printable_cons.mpr ⟨all _ shown.2 shown.1, by simp [Printable]⟩

theorem quote_printable (s : PyStr) : Printable (quote s) := by
  refine printable_append.mpr ⟨printable_cons.mpr ⟨by decide, ?_⟩, by decide⟩
  intro c hc
  obtain ⟨d, _, hd⟩ := List.mem_flatMap.mp hc
  exact escapeChar_printable d c hd

theorem digit_printable {c : Char} (digit : c.isDigit = true) : isPrintable c = true := by
  simp only [Char.isDigit, ge_iff_le, Bool.and_eq_true, decide_eq_true_eq] at digit
  simp only [isPrintable, Bool.and_eq_true, decide_eq_true_eq]
  exact ⟨UInt32.le_trans (by decide) digit.1, UInt32.le_trans digit.2 (by decide)⟩

theorem digits_printable (n : Nat) : Printable (Nat.toDigits 10 n) :=
  fun _ hc => digit_printable (Nat.isDigit_of_mem_toDigits (by decide) (by decide) hc)

theorem intText_printable (i : Int) : Printable (intText i) := by
  cases i with
  | ofNat n => exact digits_printable n
  | negSucc n => exact printable_cons.mpr ⟨by decide, digits_printable _⟩

theorem FloatRepr.characters {l : List Char} (h : FloatRepr l) :
    ∀ c ∈ l, c.isDigit = true ∨ c ∈ ['-', '+', '.', 'e'] := by
  obtain ⟨negative, up, whole, fraction, exponent, digits, -⟩ := h
  intro c hc
  simp only [List.mem_append] at hc
  rcases hc with ((sign | number) | part) | part
  · cases negative with
    | false => cases sign
    | true =>
      obtain rfl := List.mem_singleton.mp sign
      exact .inr (by decide)
  · exact .inl (Nat.isDigit_of_mem_toDigits (by decide) (by decide) number)
  · cases fraction with
    | nil => cases part
    | cons d fraction =>
      rcases List.mem_cons.mp part with rfl | part
      · exact .inr (by decide)
      · exact .inl (digits c (List.mem_append_left _ part))
  · cases exponent with
    | nil => cases part
    | cons d exponent =>
      rcases List.mem_cons.mp part with rfl | part
      · exact .inr (by decide)
      · rcases List.mem_cons.mp part with rfl | part
        · cases up <;> exact .inr (by decide)
        · exact .inl (digits c (List.mem_append_right _ part))

theorem float_printable (f : PyFloat) : Printable f.text := by
  cases f with
  | finite repr wellFormed =>
    intro c hc
    rcases wellFormed.characters c hc with digit | other
    · exact digit_printable digit
    · have all : (['-', '+', '.', 'e'].all isPrintable) = true := by decide
      exact List.all_eq_true.mp all c other
  | nan => decide
  | infinity negative => cases negative <;> decide

theorem intercalate_printable {ls : List (List Char)} (h : ∀ l ∈ ls, Printable l) :
    Printable ([','].intercalate ls) := by
  induction ls with
  | nil => simp [List.intercalate, Printable]
  | cons l rest ih =>
    cases rest with
    | nil => simpa [List.intercalate] using h l (by simp)
    | cons m rest =>
      have tail := ih fun x hx => h x (List.mem_cons_of_mem _ hx)
      rw [List.intercalate_cons_cons]
      exact printable_append.mpr ⟨printable_append.mpr ⟨h l (by simp), by decide⟩, tail⟩

mutual
theorem text_printable : ∀ j : Json, Printable j.text
  | .null => by simp only [Json.text]; decide
  | .bool true => by simp only [Json.text]; decide
  | .bool false => by simp only [Json.text]; decide
  | .int i => by simpa only [Json.text] using intText_printable i
  | .float f => by simpa only [Json.text] using float_printable f
  | .str s => by simpa only [Json.text] using quote_printable s
  | .arr items => by
    have inner := intercalate_printable (items_printable items)
    simp only [Json.text]
    exact printable_append.mpr ⟨printable_cons.mpr ⟨by decide, inner⟩, by decide⟩
  | .obj members => by
    have each := members_printable members
    simp only [Json.text]
    refine printable_append.mpr ⟨printable_cons.mpr ⟨by decide, intercalate_printable ?_⟩,
      by decide⟩
    intro l hl
    obtain ⟨m, hm, rfl⟩ := List.mem_map.mp hl
    have value := each m ((List.mem_insertionSort _).mp hm)
    exact printable_append.mpr ⟨quote_printable _, printable_cons.mpr ⟨by decide, value⟩⟩

theorem items_printable : ∀ items : List Json, ∀ l ∈ textItems items, Printable l
  | [], _, h => by simp [textItems] at h
  | j :: rest, l, h => by
    rcases List.mem_cons.mp (by simpa only [textItems] using h) with rfl | h
    · exact text_printable j
    · exact items_printable rest l h

theorem members_printable : ∀ members : List (PyStr × Json),
    ∀ m ∈ textMembers members, Printable m.2
  | [], _, h => by simp [textMembers] at h
  | (k, j) :: rest, m, h => by
    rcases List.mem_cons.mp (by simpa only [textMembers] using h) with rfl | h
    · exact text_printable j
    · exact members_printable rest m h
end

theorem dumps_printable (j : Json) : Printable j.dumps.toList := by
  rw [Json.dumps, String.toList_ofList]
  exact text_printable j

end Deckhand.Lib
