import Deckhand.Lib.Calendar
import Deckhand.Lib.PyJson

/-! `datetime.fromisoformat`: the dates, times and offsets of ISO 8601 that Python reads. -/
namespace Deckhand.Lib

def takeNumber (width : Nat) (s : PyStr) : Option (Nat × PyStr) :=
  if (s.take width).length = width ∧ (s.take width).all isDigitPoint then
    some (natOf (s.take width), s.drop width)
  else none

/-- Where the date ends: it may be a calendar date or a week date, with or without dashes. -/
def findSeparator (s : PyStr) : Option Nat :=
  if s.length = 7 then some 7
  else if s[4]? = some (codePoint '-') then
    if s[5]? = some (codePoint 'W') then
      if s[8]? = some (codePoint '-') then
        if s.length = 9 then none
        else if (s[10]?).any isDigitPoint then some 8
        else some 10
      else some 8
    else some 10
  else if s[4]? = some (codePoint 'W') then
    let digits := 7 + ((s.drop 7).takeWhile isDigitPoint).length
    if digits < 9 then some digits else if digits % 2 = 0 then some 7 else some 8
  else some 8

/-- The day number of a year, a month and a day that name a date. -/
def calendarDate (year month day : Nat) : Option Int :=
  let date : Int × Int × Int := (year, month, day)
  if 1 ≤ year ∧ civil (dayNumber date) = date then some (dayNumber date) else none

/-- A week belongs to the year that its Thursday is in. -/
def weekDate (year week day : Nat) : Option Int :=
  let first := dayNumber (year, 1, 1)
  let monday := first - (first + 3) % 7 + (if 3 < (first + 3) % 7 then 7 else 0)
  let last := dayNumber ((year : Int) + 1, 1, 1)
  let next := last - (last + 3) % 7 + (if 3 < (last + 3) % 7 then 7 else 0)
  let date := monday + ((week : Int) - 1) * 7 + ((day : Int) - 1)
  if 1 ≤ year ∧ 0 < week ∧ 0 < day ∧ day < 8 ∧ monday + (week : Int) * 7 ≤ next ∧
    date ≤ 2932896 then
    some date
  else none

/-- Dashes are written everywhere or nowhere. -/
def passDash (dash : Bool) (s : PyStr) : Option PyStr :=
  if dash then (if s.head? = some (codePoint '-') then some s.tail else none)
  else if s.head? = some (codePoint '-') then none
  else some s

def parseIsoDate (s : PyStr) : Option Int := do
  let (year, rest) ← takeNumber 4 s
  let dash : Bool := rest.head? = some (codePoint '-')
  let rest := if dash then rest.tail else rest
  if rest.head? = some (codePoint 'W') then
    let (week, rest) ← takeNumber 2 rest.tail
    if rest = [] then weekDate year week 1
    else
      let (day, rest) ← (passDash dash rest).bind (takeNumber 1)
      if rest = [] then weekDate year week day else none
  else
    let (month, rest) ← takeNumber 2 rest
    let (day, rest) ← (passDash dash rest).bind (takeNumber 2)
    if rest = [] then calendarDate year month day else none

structure Clock where
  hour : Nat
  minute : Nat := 0
  second : Nat := 0
  micro : Nat := 0

def leftOver (s : PyStr) : Bool := s.head?.any fun c => c.val ≠ 0

/-- The microseconds: the digits after the sixth are skipped. -/
def parseFraction (s : PyStr) : Option (Nat × Bool) :=
  let digits := s.take 6
  if digits ≠ [] ∧ digits.all isDigitPoint then
    some (natOf digits * 10 ^ (6 - digits.length), leftOver ((s.drop 6).dropWhile isDigitPoint))
  else none

/-- What comes after two digits of a clock. -/
inductive AfterDigits where
  | ended (more : Bool)
  | number (rest : PyStr)
  | fraction (rest : PyStr)

/-- A last character is passed over, whatever it is. -/
def afterDigits (colon : Bool) : PyStr → Option AfterDigits
  | [] => some (.ended false)
  | [c] => some (.ended (leftOver [c]))
  | c :: rest =>
    if colon = true ∧ c = codePoint ':' then some (.number rest)
    else if c = codePoint '.' ∨ c = codePoint ',' then some (.fraction rest)
    else if colon then none
    else some (.number (c :: rest))

def Clock.withFraction (c : Clock) (s : PyStr) : Option (Clock × Bool) :=
  (parseFraction s).map fun (micro, more) => ({ c with micro }, more)

/-- `HH[:?MM[:?SS[{.,}fff[fff]]]]`, and whether anything is left over. -/
def parseClock (s : PyStr) : Option (Clock × Bool) := do
  let (hour, rest) ← takeNumber 2 s
  let colon : Bool := rest.head? = some (codePoint ':')
  match ← afterDigits colon rest with
  | .ended more => return (⟨hour, 0, 0, 0⟩, more)
  | .fraction rest => Clock.withFraction ⟨hour, 0, 0, 0⟩ rest
  | .number rest =>
    let (minute, rest) ← takeNumber 2 rest
    match ← afterDigits colon rest with
    | .ended more => return (⟨hour, minute, 0, 0⟩, more)
    | .fraction rest => Clock.withFraction ⟨hour, minute, 0, 0⟩ rest
    | .number rest =>
      let (second, rest) ← takeNumber 2 rest
      match ← afterDigits colon rest with
      | .ended more => return (⟨hour, minute, second, 0⟩, more)
      | .fraction rest => Clock.withFraction ⟨hour, minute, second, 0⟩ rest
      | .number rest => Clock.withFraction ⟨hour, minute, second, 0⟩ rest

def Clock.span (c : Clock) : Nat :=
  ((c.hour * 60 + c.minute) * 60 + c.second) * 1000000 + c.micro

/-- The offset from UTC, which is less than a day. -/
def parseZone : PyStr → Option (Option Int)
  | [] => some none
  | sign :: rest =>
    if sign = codePoint 'Z' then (if leftOver rest = false then some (some 0) else none)
    else do
      let (clock, more) ← parseClock rest
      if more = false ∧ clock.span < 86400000000 then
        return some (if sign = codePoint '-' then - (clock.span : Int) else clock.span)
      else none

def beforeZone (c : CodePoint) : Bool :=
  c ≠ codePoint '+' && c ≠ codePoint '-' && c ≠ codePoint 'Z'

/-- What is left over of the clock is passed over where a zone follows. -/
def parseIsoTime (s : PyStr) : Option (Nat × Option Int) := do
  let (clock, more) ← parseClock (s.takeWhile beforeZone)
  let zone ← parseZone (s.dropWhile beforeZone)
  if (more = true → zone.isSome = true) ∧ clock.hour < 24 ∧ clock.minute < 60 ∧
    clock.second < 60 then
    return (clock.span, zone)
  else none

/-- The date stands alone, or with a separator of one byte after it. -/
def dateOnly (s : PyStr) (separator : Nat) : Bool :=
  match s.drop separator with
  | [] => true
  | [c] => c.val < 0x80 || isSurrogate c
  | _ => false

/-- What the clock shows, in microseconds, and how far it is ahead of UTC if the text says. -/
def fromisoformat (s : PyStr) : Option (Int × Option Int) := do
  if s.length < 7 then none
  let separator ← findSeparator s
  let days ← parseIsoDate (s.take separator)
  if dateOnly s separator then return (days * 86400000000, none)
  let (clock, zone) ← parseIsoTime (s.drop (separator + 1))
  return (days * 86400000000 + clock, zone)

section Round
variable {rest : PyStr}

theorem natOf_append (digits : PyStr) (c : CodePoint) :
    natOf (digits ++ [c]) = 10 * natOf digits + (c.val - 0x30) := by
  simp [natOf]

theorem digitChar_digit : ∀ d < 10, isDigitPoint (codePoint (Nat.digitChar d)) = true ∧
    (codePoint (Nat.digitChar d)).val - 0x30 = d := by decide

theorem padded_digits (width n : Nat) :
    ((padded width n).map codePoint).all isDigitPoint = true := by
  induction width generalizing n with
  | zero => rfl
  | succ width ih =>
    rw [padded, List.map_append, List.all_append, ih]
    simpa using (digitChar_digit (n % 10) (Nat.mod_lt _ (by decide))).1

theorem natOf_padded {width n : Nat} (small : n < 10 ^ width) :
    natOf ((padded width n).map codePoint) = n := by
  induction width generalizing n with
  | zero =>
    have zero : n = 0 := by simpa using small
    subst zero
    rfl
  | succ width ih =>
    have front : n / 10 < 10 ^ width := by
      rw [Nat.pow_succ] at small
      omega
    have last := (digitChar_digit (n % 10) (Nat.mod_lt _ (by decide))).2
    rw [padded, List.map_append, List.map_cons, List.map_nil, natOf_append, ih front, last]
    omega

theorem takeNumber_padded {width n : Nat} (small : n < 10 ^ width) :
    takeNumber width ((padded width n).map codePoint ++ rest) = some (n, rest) := by
  have length : ((padded width n).map codePoint).length = width := by
    rw [List.length_map, padded_length]
  have front : ((padded width n).map codePoint ++ rest).take width =
      (padded width n).map codePoint := by
    rw [List.take_append_of_le_length (by omega), List.take_of_length_le (by omega)]
  have back : ((padded width n).map codePoint ++ rest).drop width = rest := by
    rw [List.drop_append_of_le_length (by omega), List.drop_of_length_le (by omega),
      List.nil_append]
  rw [takeNumber, front, back, if_pos ⟨length, padded_digits width n⟩, natOf_padded small]

theorem padded_nonempty (width n : Nat) : (padded (width + 1) n).map codePoint ≠ [] := by
  intro empty
  have length := congrArg List.length empty
  rw [List.length_map, padded_length] at length
  exact absurd length (by simp)

theorem digits_head {digits : PyStr} (all : digits.all isDigitPoint = true)
    (nonempty : digits ≠ []) {c : CodePoint} (other : isDigitPoint c = false) :
    (digits ++ rest).head? ≠ some c := by
  cases digits with
  | nil => exact absurd rfl nonempty
  | cons d digits =>
    intro head
    obtain rfl : d = c := Option.some.inj head
    rw [List.all_cons, other] at all
    exact absurd all (by simp)

theorem parseIsoDate_written {year month day : Nat} (hy : year < 10 ^ 4) (hm : month < 10 ^ 2)
    (hd : day < 10 ^ 2) : parseIsoDate ((padded 4 year).map codePoint ++ codePoint '-' ::
      ((padded 2 month).map codePoint ++ codePoint '-' :: (padded 2 day).map codePoint)) =
      calendarDate year month day := by
  have week : ((padded 2 month).map codePoint ++ codePoint '-' ::
      (padded 2 day).map codePoint).head? ≠ some (codePoint 'W') :=
    digits_head (padded_digits 2 month) (padded_nonempty 1 month) (by decide)
  have last : takeNumber 2 ((padded 2 day).map codePoint ++ []) = some (day, []) :=
    takeNumber_padded hd
  rw [List.append_nil] at last
  simp only [parseIsoDate, takeNumber_padded hy, Option.bind_eq_bind, Option.bind_some,
    List.head?_cons, decide_true, if_true, List.tail_cons, if_neg week, takeNumber_padded hm,
    passDash, last]

theorem afterDigits_dot (c : CodePoint) (rest : PyStr) :
    afterDigits true (codePoint '.' :: c :: rest) = some (.fraction (c :: rest)) := rfl

theorem afterDigits_padded (width n : Nat) (rest : PyStr) :
    afterDigits true (codePoint ':' :: ((padded (width + 1) n).map codePoint ++ rest)) =
      some (.number ((padded (width + 1) n).map codePoint ++ rest)) := by
  cases digits : (padded (width + 1) n).map codePoint with
  | nil => exact absurd digits (padded_nonempty width n)
  | cons c more => rfl

theorem parseClock_written {hour minute second : Nat} (hh : hour < 10 ^ 2)
    (hm : minute < 10 ^ 2) (hs : second < 10 ^ 2) (fraction : PyStr) :
    parseClock ((padded 2 hour).map codePoint ++
      codePoint ':' :: ((padded 2 minute).map codePoint ++
      codePoint ':' :: ((padded 2 second).map codePoint ++ fraction))) =
      (afterDigits true fraction).bind fun
        | .ended more => some (⟨hour, minute, second, 0⟩, more)
        | .fraction rest => Clock.withFraction ⟨hour, minute, second, 0⟩ rest
        | .number rest => Clock.withFraction ⟨hour, minute, second, 0⟩ rest := by
  simp only [parseClock, takeNumber_padded hh, takeNumber_padded hm, takeNumber_padded hs,
    Option.bind_eq_bind, Option.bind_some, List.head?_cons, decide_true, afterDigits_padded]
  rfl

theorem parseFraction_written {micro : Nat} (small : micro < 10 ^ 6) :
    parseFraction ((padded 6 micro).map codePoint) = some (micro, false) := by
  have length : ((padded 6 micro).map codePoint).length = 6 := by
    rw [List.length_map, padded_length]
  have whole : ((padded 6 micro).map codePoint).take 6 = (padded 6 micro).map codePoint :=
    List.take_of_length_le (by omega)
  have rest : ((padded 6 micro).map codePoint).drop 6 = [] := List.drop_of_length_le (by omega)
  simp only [parseFraction, whole, rest]
  rw [if_pos ⟨padded_nonempty 5 micro, padded_digits 6 micro⟩, natOf_padded small, length]
  simp [leftOver]

def clockOf (us : Nat) : Clock :=
  ⟨us / 3600000000, us / 60000000 % 60, us / 1000000 % 60, us % 1000000⟩

theorem clockOf_span (us : Nat) : (clockOf us).span = us := by
  simp only [clockOf, Clock.span]
  omega

theorem timeText_parse (t : Int) :
    parseClock ((timeText t).map codePoint) = some (clockOf (t % 86400000000).toNat, false) := by
  unfold timeText
  dsimp only
  generalize below : (t % 86400000000).toNat = us
  have hour : us / 3600000000 < 10 ^ 2 := by omega
  have minute : us / 60000000 % 60 < 10 ^ 2 := by omega
  have second : us / 1000000 % 60 < 10 ^ 2 := by omega
  split
  · rename_i zero
    have read := parseClock_written hour minute second []
    simp only [List.map_append, List.map_cons, List.append_assoc, List.cons_append]
    rw [List.append_nil] at read
    rw [read, clockOf, zero]
    rfl
  · have micro : us % 1000000 < 10 ^ 6 := by omega
    simp only [List.map_append, List.map_cons, List.append_assoc, List.cons_append]
    have fraction : afterDigits true (codePoint '.' :: (padded 6 (us % 1000000)).map codePoint) =
        some (.fraction ((padded 6 (us % 1000000)).map codePoint)) := by
      cases digits : (padded 6 (us % 1000000)).map codePoint with
      | nil => exact absurd digits (padded_nonempty 5 _)
      | cons c rest => exact afterDigits_dot c rest
    rw [parseClock_written hour minute second, fraction, Option.bind_some]
    simp only [Clock.withFraction, parseFraction_written micro, Option.map_some, clockOf]

theorem digits_beforeZone {digits : PyStr} (all : digits.all isDigitPoint = true) :
    ∀ c ∈ digits, beforeZone c = true := by
  intro c member
  have digit := List.all_eq_true.mp all c member
  simp only [beforeZone, Bool.and_eq_true, decide_eq_true_eq, ne_eq]
  refine ⟨⟨?_, ?_⟩, ?_⟩ <;> rintro rfl <;> exact absurd digit (by decide)

theorem timeText_beforeZone (t : Int) : ∀ c ∈ (timeText t).map codePoint, beforeZone c = true := by
  have padded := fun width n => digits_beforeZone (padded_digits width n)
  have colon : beforeZone (codePoint ':') = true := by decide
  have dot : beforeZone (codePoint '.') = true := by decide
  unfold timeText
  dsimp only
  split
  · simp only [List.map_append, List.map_cons, List.forall_mem_append, List.forall_mem_cons, colon,
      true_and]
    exact ⟨⟨padded _ _, padded _ _⟩, padded _ _⟩
  · simp only [List.map_append, List.map_cons, List.forall_mem_append, List.forall_mem_cons, colon,
      dot, true_and]
    exact ⟨⟨⟨padded _ _, padded _ _⟩, padded _ _⟩, padded _ _⟩

theorem parseIsoTime_written (t : Int) :
    parseIsoTime ((timeText t).map codePoint ++ pyStr "+00:00") =
      some ((t % 86400000000).toNat, some 0) := by
  have before := timeText_beforeZone t
  have clock : ((timeText t).map codePoint ++ pyStr "+00:00").takeWhile beforeZone =
      (timeText t).map codePoint := by
    rw [List.takeWhile_append_of_pos before]
    exact List.append_nil _
  have zone : ((timeText t).map codePoint ++ pyStr "+00:00").dropWhile beforeZone =
      pyStr "+00:00" := List.dropWhile_append_of_pos before
  have utc : parseZone (pyStr "+00:00") = some (some 0) := by decide
  have span := clockOf_span (t % 86400000000).toNat
  rw [parseIsoTime, clock, zone, timeText_parse, utc]
  simp only [Option.bind_eq_bind, Option.bind_some, span]
  rw [if_pos]
  · rfl
  · simp only [clockOf, Option.isSome_some, implies_true, true_and]
    omega

theorem dateText_parse {t : Int} (range : Timestamp.InRange t) :
    parseIsoDate ((dateText t).map codePoint) = some (t / 86400000000) := by
  unfold Timestamp.InRange at range
  obtain ⟨year, month, day⟩ := civil_bounds (t / 86400000000) (by omega) (by omega)
  have date : (((civil (t / 86400000000)).1.toNat : Int),
      ((civil (t / 86400000000)).2.1.toNat : Int),
      ((civil (t / 86400000000)).2.2.toNat : Int)) = civil (t / 86400000000) := by
    refine Prod.ext ?_ (Prod.ext ?_ ?_) <;> exact Int.toNat_of_nonneg (by omega)
  simp only [dateText, List.map_append, List.map_cons, List.append_assoc, List.cons_append]
  rw [parseIsoDate_written (by omega) (by omega) (by omega), calendarDate]
  simp only [date, dayNumber_civil]
  rw [if_pos ⟨by omega, trivial⟩]

theorem findSeparator_written {t : Int} {rest : PyStr} :
    findSeparator ((dateText t).map codePoint ++ codePoint 'T' :: rest) = some 10 := by
  have year : ((padded 4 (civil (t / 86400000000)).1.toNat).map codePoint).length = 4 := by
    rw [List.length_map, padded_length]
  have long : ((dateText t).map codePoint ++ codePoint 'T' :: rest).length ≠ 7 := by
    rw [List.length_append, List.length_map, dateText_length]
    omega
  have dash : ((dateText t).map codePoint ++ codePoint 'T' :: rest)[4]? = some (codePoint '-') := by
    simp only [dateText, List.map_append, List.map_cons, List.append_assoc, List.cons_append]
    rw [List.getElem?_append_right (by omega), year]
    rfl
  have month : ((dateText t).map codePoint ++ codePoint 'T' :: rest)[5]? ≠
      some (codePoint 'W') := by
    simp only [dateText, List.map_append, List.map_cons, List.append_assoc, List.cons_append]
    rw [List.getElem?_append_right (by omega), year, List.getElem?_cons_succ,
      ← List.head?_eq_getElem?]
    exact digits_head (padded_digits 2 _) (padded_nonempty 1 _) (by decide)
  rw [findSeparator, if_neg long, if_pos dash, if_neg month]

/-- `fromisoformat` reads what `isoformat` writes. -/
theorem fromisoformat_isoformat {t : Int} (range : Timestamp.InRange t) :
    fromisoformat (pyStr (Timestamp.isoformat t)) = some (t, some 0) := by
  have written : pyStr (Timestamp.isoformat t) = (dateText t).map codePoint ++ codePoint 'T' ::
      ((timeText t).map codePoint ++ pyStr "+00:00") := by
    simp only [pyStr, Timestamp.isoformat, String.toList_ofList, List.map_append, List.map_cons,
      List.append_assoc, List.cons_append]
  have length : ((dateText t).map codePoint).length = 10 := by
    rw [List.length_map, dateText_length]
  have date : ((dateText t).map codePoint ++ codePoint 'T' ::
      ((timeText t).map codePoint ++ pyStr "+00:00")).take 10 = (dateText t).map codePoint := by
    rw [List.take_append_of_le_length (by omega), List.take_of_length_le (by omega)]
  have time : ((dateText t).map codePoint ++ codePoint 'T' ::
      ((timeText t).map codePoint ++ pyStr "+00:00")).drop 11 =
        (timeText t).map codePoint ++ pyStr "+00:00" := by
    rw [List.drop_append, List.drop_of_length_le (by omega), length]
    rfl
  have apart : dateOnly ((dateText t).map codePoint ++ codePoint 'T' ::
      ((timeText t).map codePoint ++ pyStr "+00:00")) 10 = false := by
    have dropped : ((dateText t).map codePoint ++ codePoint 'T' ::
        ((timeText t).map codePoint ++ pyStr "+00:00")).drop 10 =
          codePoint 'T' :: ((timeText t).map codePoint ++ pyStr "+00:00") := by
      rw [List.drop_append, List.drop_of_length_le (by omega), length]
      rfl
    rw [dateOnly, dropped]
    cases (timeText t).map codePoint <;> rfl
  have long : ¬ ((dateText t).map codePoint ++ codePoint 'T' ::
      ((timeText t).map codePoint ++ pyStr "+00:00")).length < 7 := by
    rw [List.length_append, List.length_cons]
    omega
  rw [written, fromisoformat, findSeparator_written]
  simp only [Option.bind_eq_bind, Option.bind_some, date, time, dateText_parse range,
    parseIsoTime_written, apart, if_neg long, Bool.false_eq_true, if_false]
  have clock : t / 86400000000 * 86400000000 + ((t % 86400000000).toNat : Int) = t := by omega
  rw [clock]
  rfl

end Round

end Deckhand.Lib
