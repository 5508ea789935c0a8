import Mathlib.Algebra.Group.Nat.Defs
import Deckhand.Lib.Json

/-! UTC datetimes as microseconds since 1970-01-01T00:00:00, and the text Python's
`isoformat` gives them. -/
namespace Deckhand.Lib

abbrev Timestamp := Int

def Timestamp.addSeconds (t : Timestamp) (seconds : Int) : Timestamp := t + seconds * 1000000

/-- Year, month and day of a day number, in the proleptic Gregorian calendar. Years are
counted from March inside 400-year eras, so that leap days come last. -/
def civil (days : Int) : Int × Int × Int :=
  let z := days + 719468
  let era := z / 146097
  let doe := z % 146097
  let yoe := (doe - doe / 1460 + doe / 36524 - doe / 146096) / 365
  let doy := doe - (365 * yoe + yoe / 4 - yoe / 100)
  let mp := (5 * doy + 2) / 153
  let month := if mp < 10 then mp + 3 else mp - 9
  (yoe + era * 400 + (if month ≤ 2 then 1 else 0), month, doy - (153 * mp + 2) / 5 + 1)

/-- The last `width` decimal digits, zero-padded. -/
def padded : Nat → Nat → List Char
  | 0, _ => []
  | width + 1, n => padded width (n / 10) ++ [Nat.digitChar (n % 10)]

def dateText (t : Timestamp) : List Char :=
  let date := civil (t / 86400000000)
  padded 4 date.1.toNat ++ '-' :: padded 2 date.2.1.toNat ++ '-' :: padded 2 date.2.2.toNat

def timeText (t : Timestamp) : List Char :=
  let us := (t % 86400000000).toNat
  let clock := padded 2 (us / 3600000000) ++ ':' :: padded 2 (us / 60000000 % 60) ++
    ':' :: padded 2 (us / 1000000 % 60)
  if us % 1000000 = 0 then clock else clock ++ '.' :: padded 6 (us % 1000000)

/-- `datetime.isoformat` of an aware UTC datetime; a zero fraction is left out. -/
def Timestamp.isoformat (t : Timestamp) : String :=
  String.ofList (dateText t ++ 'T' :: timeText t ++ "+00:00".toList)

theorem padded_printable (width n : Nat) : Printable (padded width n) := by
  have digit : ∀ m < 10, isPrintable (Nat.digitChar m) = true := by decide
  induction width generalizing n with
  | zero => intro c hc; cases hc
  | succ width ih =>
    refine printable_append.mpr ⟨ih _, ?_⟩
    simpa [Printable] using digit (n % 10) (Nat.mod_lt _ (by decide))

theorem timeText_printable (t : Timestamp) : Printable (timeText t) := by
  have pad := padded_printable
  have colon : isPrintable ':' = true := by decide
  have dot : isPrintable '.' = true := by decide
  unfold timeText
  dsimp only
  split <;> simp only [printable_append, printable_cons, pad, colon, dot, and_self]

theorem isoformat_printable (t : Timestamp) : Printable (Timestamp.isoformat t).toList := by
  have pad := padded_printable
  have dash : isPrintable '-' = true := by decide
  have letter : isPrintable 'T' = true := by decide
  have offset : Printable "+00:00".toList := by decide
  rw [Timestamp.isoformat, String.toList_ofList]
  simp only [dateText, printable_append, printable_cons, pad, dash, letter, offset,
    timeText_printable, and_self]

example : Timestamp.isoformat 1786665600000001 = "2026-08-14T00:00:00.000001+00:00" := by decide

theorem era_year (doe : Int) (low : 0 ≤ doe) (high : doe < 146097) :
    let yoe := (doe - doe / 1460 + doe / 36524 - doe / 146096) / 365
    let doy := doe - (365 * yoe + yoe / 4 - yoe / 100)
    0 ≤ yoe ∧ yoe < 400 ∧ 0 ≤ doy ∧ doy ≤ 365 := by
  intro yoe doy
  have century : doe / 36524 = 0 ∨ doe / 36524 = 1 ∨ doe / 36524 = 2 ∨ doe / 36524 = 3 ∨
      doe = 146096 := by omega
  have leap : yoe = 4 * (doe / 1460) - 1 ∨ yoe = 4 * (doe / 1460) ∨ yoe = 4 * (doe / 1460) + 1 ∨
      yoe = 4 * (doe / 1460) + 2 ∨ yoe = 4 * (doe / 1460) + 3 := by omega
  rcases century with h | h | h | h | rfl
  case inr.inr.inr.inr => decide
  all_goals rcases leap with k | k | k | k | k <;> omega

def dayNumber (date : Int × Int × Int) : Int :=
  let y := date.1 - (if date.2.1 ≤ 2 then 1 else 0)
  let yoe := y % 400
  let mp := if date.2.1 ≤ 2 then date.2.1 + 9 else date.2.1 - 3
  y / 400 * 146097 + (365 * yoe + yoe / 4 - yoe / 100 + ((153 * mp + 2) / 5 + date.2.2 - 1)) -
    719468

theorem civil_fields (days : Int) : ∃ era yoe doy mp : Int,
    0 ≤ yoe ∧ yoe < 400 ∧ 0 ≤ doy ∧ doy ≤ 365 ∧ mp = (5 * doy + 2) / 153 ∧
    days = era * 146097 + (365 * yoe + yoe / 4 - yoe / 100 + doy) - 719468 ∧
    civil days = (yoe + era * 400 + (if (if mp < 10 then mp + 3 else mp - 9) ≤ 2 then 1 else 0),
      (if mp < 10 then mp + 3 else mp - 9), doy - (153 * mp + 2) / 5 + 1) := by
  obtain ⟨yoe_low, yoe_high, doy_low, doy_high⟩ :=
    era_year ((days + 719468) % 146097) (by omega) (by omega)
  refine ⟨(days + 719468) / 146097, _, _, _, yoe_low, yoe_high, doy_low, doy_high, rfl, ?_, rfl⟩
  omega

theorem dayNumber_civil (days : Int) : dayNumber (civil days) = days := by
  obtain ⟨era, yoe, doy, mp, yoe_low, yoe_high, doy_low, doy_high, month, whole, date⟩ :=
    civil_fields days
  rw [date, dayNumber]
  dsimp only
  by_cases early : mp < 10
  · have later : ¬ mp + 3 ≤ 2 := by omega
    simp only [if_pos early, if_neg later]
    have year : (yoe + era * 400 + 0 - 0) / 400 = era ∧ (yoe + era * 400 + 0 - 0) % 400 = yoe := by
      omega
    rw [year.1, year.2]
    omega
  · have next : mp - 9 ≤ 2 := by omega
    simp only [if_neg early, if_pos next]
    have year : (yoe + era * 400 + 1 - 1) / 400 = era ∧ (yoe + era * 400 + 1 - 1) % 400 = yoe := by
      omega
    rw [year.1, year.2]
    omega

/-- The months and days of a date have two digits, and so have four the years of the days that
Python's datetimes reach. -/
theorem civil_bounds (days : Int) (low : -719162 ≤ days) (high : days ≤ 2932896) :
    (1 ≤ (civil days).1 ∧ (civil days).1 < 10000) ∧
      (0 ≤ (civil days).2.1 ∧ (civil days).2.1 < 100) ∧
      0 ≤ (civil days).2.2 ∧ (civil days).2.2 < 100 := by
  obtain ⟨era, yoe, doy, mp, yoe_low, yoe_high, doy_low, doy_high, month, whole, date⟩ :=
    civil_fields days
  rw [date]
  dsimp only
  by_cases early : mp < 10
  · have later : ¬ mp + 3 ≤ 2 := by omega
    simp only [if_pos early, if_neg later]
    refine ⟨?_, by omega, by omega⟩
    constructor <;> omega
  · have next : mp - 9 ≤ 2 := by omega
    simp only [if_neg early, if_pos next]
    refine ⟨?_, by omega, by omega⟩
    constructor <;> omega

theorem padded_length (width n : Nat) : (padded width n).length = width := by
  induction width generalizing n with
  | zero => rfl
  | succ width ih => simp [padded, ih]

theorem padded_injective {width n m : Nat} (hn : n < 10 ^ width) (hm : m < 10 ^ width)
    (same : padded width n = padded width m) : n = m := by
  induction width generalizing n m with
  | zero => omega
  | succ width ih =>
    obtain ⟨front, last⟩ := List.append_inj' same rfl
    have digit : ∀ a < 10, ∀ b < 10, Nat.digitChar a = Nat.digitChar b → a = b := by decide
    have units := digit (n % 10) (by omega) (m % 10) (by omega) (List.singleton_inj.mp last)
    have tens := ih (n := n / 10) (m := m / 10) (by rw [Nat.pow_succ] at hn; omega)
      (by rw [Nat.pow_succ] at hm; omega) front
    omega

/-- The instants Python's UTC datetimes reach. -/
def Timestamp.InRange (t : Int) : Prop := -62135596800000000 ≤ t ∧ t < 253402300800000000

instance (t : Int) : Decidable (Timestamp.InRange t) := inferInstanceAs (Decidable (_ ∧ _))

theorem dateText_injective {s t : Int} (hs : Timestamp.InRange s) (ht : Timestamp.InRange t)
    (same : dateText s = dateText t) : s / 86400000000 = t / 86400000000 := by
  unfold Timestamp.InRange at hs ht
  obtain ⟨ys, ms, ds⟩ := civil_bounds (s / 86400000000) (by omega) (by omega)
  obtain ⟨yt, mt, dt⟩ := civil_bounds (t / 86400000000) (by omega) (by omega)
  simp only [dateText, List.append_assoc, List.cons_append] at same
  obtain ⟨year, rest⟩ := List.append_inj same (by simp only [padded_length])
  obtain ⟨month, rest⟩ := List.append_inj (List.cons.inj rest).2 (by simp only [padded_length])
  have day := (List.cons.inj rest).2
  have y := padded_injective (by omega) (by omega) year
  have m := padded_injective (by omega) (by omega) month
  have d := padded_injective (by omega) (by omega) day
  rw [← dayNumber_civil (s / 86400000000), ← dayNumber_civil (t / 86400000000)]
  congr 1
  refine Prod.ext ?_ (Prod.ext ?_ ?_) <;> omega

theorem dateText_length (t : Timestamp) : (dateText t).length = 10 := by
  simp [dateText, padded_length]

theorem timeText_injective {s t : Int}
    (same : timeText s ++ "+00:00".toList = timeText t ++ "+00:00".toList) :
    s % 86400000000 = t % 86400000000 := by
  have clock : ∀ {a b : Nat} {l m : List Char}, a < 86400000000 → b < 86400000000 →
      padded 2 (a / 3600000000) ++ ':' :: (padded 2 (a / 60000000 % 60) ++
        ':' :: (padded 2 (a / 1000000 % 60) ++ l)) =
      padded 2 (b / 3600000000) ++ ':' :: (padded 2 (b / 60000000 % 60) ++
        ':' :: (padded 2 (b / 1000000 % 60) ++ m)) → a / 1000000 = b / 1000000 ∧ l = m := by
    intro a b l m ha hb same
    obtain ⟨hour, rest⟩ := List.append_inj same (by simp only [padded_length])
    obtain ⟨minute, rest⟩ := List.append_inj (List.cons.inj rest).2 (by simp only [padded_length])
    obtain ⟨second, rest⟩ := List.append_inj (List.cons.inj rest).2 (by simp only [padded_length])
    have h := padded_injective (by omega) (by omega) hour
    have m := padded_injective (by omega) (by omega) minute
    have s := padded_injective (by omega) (by omega) second
    exact ⟨by omega, rest⟩
  unfold timeText at same
  dsimp only at same
  generalize hs : (s % 86400000000).toNat = a at same
  generalize ht : (t % 86400000000).toNat = b at same
  have whole : a = b := by
    split at same <;> split at same <;>
      simp only [List.append_assoc, List.cons_append] at same <;>
      obtain ⟨seconds, fraction⟩ := clock (by omega) (by omega) same
    · omega
    · exact absurd (List.cons.inj fraction).1 (by decide)
    · exact absurd (List.cons.inj fraction).1 (by decide)
    · obtain ⟨micro, -⟩ := List.append_inj (List.cons.inj fraction).2 (by simp only [padded_length])
      have := padded_injective (by omega) (by omega) micro
      omega
  omega

theorem isoformat_injective {s t : Int} (hs : Timestamp.InRange s) (ht : Timestamp.InRange t)
    (same : Timestamp.isoformat s = Timestamp.isoformat t) : s = t := by
  have texts := String.ofList_injective same
  rw [List.append_assoc, List.append_assoc, List.cons_append, List.cons_append] at texts
  obtain ⟨date, rest⟩ := List.append_inj texts (by simp only [dateText_length])
  have days := dateText_injective hs ht date
  have clock := timeText_injective (List.cons.inj rest).2
  omega

end Deckhand.Lib
