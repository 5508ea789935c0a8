import Deckhand.Lib.Calendar
import Deckhand.Lib.Table

/-! The texts of two UTC datetimes compare as the datetimes do, although they differ in length:
every field has its own width, and the sign of the offset comes before the decimal point. -/
namespace Deckhand.Lib

section Lexicographic
variable {α : Type} [LT α] {l m x y : List α}

theorem append_lt_of_lt (length : l.length = m.length) (less : l < m) : l ++ x < m ++ y := by
  induction l generalizing m with
  | nil =>
    cases m with
    | nil => cases less
    | cons b m => simp at length
  | cons a l ih =>
    cases m with
    | nil => simp at length
    | cons b m =>
      rw [List.cons_append, List.cons_append, List.cons_lt_cons_iff]
      rcases List.cons_lt_cons_iff.mp less with first | ⟨rfl, rest⟩
      · exact Or.inl first
      · exact Or.inr ⟨rfl, ih (by simpa using length) rest⟩

theorem cons_lt_of_lt (a : α) (less : x < y) : a :: x < a :: y :=
  List.cons_lt_cons_iff.mpr (Or.inr ⟨rfl, less⟩)

end Lexicographic

theorem digitChar_lt : ∀ a < 10, ∀ b < 10, a < b → Nat.digitChar a < Nat.digitChar b := by decide

theorem padded_lt {width n m : Nat} (less : n < m) (bound : m < 10 ^ width) :
    padded width n < padded width m := by
  induction width generalizing n m with
  | zero => omega
  | succ width ih =>
    have tens : m / 10 < 10 ^ width := by
      rw [Nat.pow_succ] at bound
      omega
    rw [padded, padded]
    by_cases same : n / 10 = m / 10
    · have units := digitChar_lt (n % 10) (by omega) (m % 10) (by omega) (by omega)
      rw [same]
      exact List.append_left_lt (List.cons_lt_cons_iff.mpr (Or.inl units))
    · refine append_lt_of_lt ?_ (ih (by omega) tens)
      rw [padded_length, padded_length]

theorem field_lt {width n m : Nat} {x y : List Char} (bound : m < 10 ^ width)
    (less : n < m ∨ n = m ∧ x < y) : padded width n ++ x < padded width m ++ y := by
  rcases less with smaller | ⟨rfl, rest⟩
  · refine append_lt_of_lt ?_ (padded_lt smaller bound)
    rw [padded_length, padded_length]
  · exact List.append_left_lt rest

theorem year_start {p q : Int} (less : p < q) :
    365 * p + p / 4 - p / 100 + 365 ≤ 365 * q + q / 4 - q / 100 := by omega

/-- The order of two days is that of their years, counted from March, and of the days in them. -/
theorem year_order {eraA yoeA doyA eraB yoeB doyB : Int} (lowA : 0 ≤ yoeA) (highA : yoeA < 400)
    (lowB : 0 ≤ yoeB) (highB : yoeB < 400) (dayA : 0 ≤ doyA) (dayB : doyB ≤ 365)
    (less : eraA * 146097 + (365 * yoeA + yoeA / 4 - yoeA / 100 + doyA) <
      eraB * 146097 + (365 * yoeB + yoeB / 4 - yoeB / 100 + doyB)) :
    yoeA + eraA * 400 < yoeB + eraB * 400 ∨
      yoeA + eraA * 400 = yoeB + eraB * 400 ∧ doyA < doyB := by
  have startA : 0 ≤ 365 * yoeA + yoeA / 4 - yoeA / 100 := by omega
  have startB : 365 * yoeB + yoeB / 4 - yoeB / 100 ≤ 145731 := by omega
  rcases lt_trichotomy yoeA yoeB with before | rfl | after
  · have order : eraA ≤ eraB := by omega
    omega
  · omega
  · have first := year_start after
    have order : eraA < eraB := by omega
    clear startA startB first less
    omega

/-- A later day has a later year, or the same year and a later month, or the same month and a
later day of it. -/
theorem civil_lt {a b : Int} (less : a < b) :
    (civil a).1 < (civil b).1 ∨ (civil a).1 = (civil b).1 ∧
      ((civil a).2.1 < (civil b).2.1 ∨ (civil a).2.1 = (civil b).2.1 ∧
        (civil a).2.2 < (civil b).2.2) := by
  obtain ⟨eraA, yoeA, doyA, mpA, yoeA_low, yoeA_high, doyA_low, doyA_high, monthA, wholeA, dateA⟩ :=
    civil_fields a
  obtain ⟨eraB, yoeB, doyB, mpB, yoeB_low, yoeB_high, doyB_low, doyB_high, monthB, wholeB, dateB⟩ :=
    civil_fields b
  have years : yoeA + eraA * 400 < yoeB + eraB * 400 ∨
      yoeA + eraA * 400 = yoeB + eraB * 400 ∧ doyA < doyB :=
    year_order yoeA_low yoeA_high yoeB_low yoeB_high doyA_low doyB_high (by omega)
  clear wholeA wholeB
  rw [dateA, dateB]
  dsimp only
  generalize yoeA + eraA * 400 = yearA at years ⊢
  generalize yoeB + eraB * 400 = yearB at years ⊢
  by_cases earlyA : mpA < 10 <;> by_cases earlyB : mpB < 10 <;>
    simp only [earlyA, earlyB, if_true, if_false]
  · rw [if_neg (by omega), if_neg (by omega)]
    omega
  · rw [if_neg (by omega), if_pos (by omega)]
    omega
  · rw [if_pos (by omega), if_neg (by omega)]
    omega
  · rw [if_pos (by omega), if_pos (by omega)]
    omega

theorem dateText_lt {s t : Int} (hs : Timestamp.InRange s) (ht : Timestamp.InRange t)
    (less : s / 86400000000 < t / 86400000000) : dateText s < dateText t := by
  unfold Timestamp.InRange at hs ht
  obtain ⟨ys, ms, ds⟩ := civil_bounds (s / 86400000000) (by omega) (by omega)
  obtain ⟨yt, mt, dt⟩ := civil_bounds (t / 86400000000) (by omega) (by omega)
  have date := civil_lt less
  simp only [dateText, List.append_assoc, List.cons_append]
  refine field_lt (by omega) ?_
  rcases date with year | ⟨year, month | ⟨month, day⟩⟩
  · exact Or.inl (by omega)
  · refine Or.inr ⟨by rw [year], cons_lt_of_lt _ (field_lt (by omega) (Or.inl ?_))⟩
    omega
  · refine Or.inr ⟨by rw [year], cons_lt_of_lt _ (field_lt (by omega) (Or.inr ⟨by rw [month], ?_⟩))⟩
    exact cons_lt_of_lt _ (padded_lt (by omega) (by omega))

theorem timeText_lt {s t : Int} (less : s % 86400000000 < t % 86400000000) :
    timeText s ++ "+00:00".toList < timeText t ++ "+00:00".toList := by
  have clock : ∀ {a b : Nat} {x y : List Char}, a ≤ b → b < 86400000000 →
      (a / 1000000 = b / 1000000 → x < y) →
      padded 2 (a / 3600000000) ++ ':' :: (padded 2 (a / 60000000 % 60) ++
        ':' :: (padded 2 (a / 1000000 % 60) ++ x)) <
      padded 2 (b / 3600000000) ++ ':' :: (padded 2 (b / 60000000 % 60) ++
        ':' :: (padded 2 (b / 1000000 % 60) ++ y)) := by
    intro a b x y order bound rest
    refine field_lt (by omega) ?_
    by_cases hour : a / 3600000000 = b / 3600000000
    · refine Or.inr ⟨hour, cons_lt_of_lt _ (field_lt (by omega) ?_)⟩
      by_cases minute : a / 60000000 % 60 = b / 60000000 % 60
      · refine Or.inr ⟨minute, cons_lt_of_lt _ (field_lt (by omega) ?_)⟩
        by_cases second : a / 1000000 % 60 = b / 1000000 % 60
        · exact Or.inr ⟨second, rest (by omega)⟩
        · exact Or.inl (by omega)
      · exact Or.inl (by omega)
    · exact Or.inl (by omega)
  have plus : ∀ x y : List Char, '+' :: x < '.' :: y := fun x y =>
    List.cons_lt_cons_iff.mpr (Or.inl (by decide))
  unfold timeText
  dsimp only
  generalize hs : (s % 86400000000).toNat = a
  generalize ht : (t % 86400000000).toNat = b
  have earlier : a < b := by omega
  split <;> split <;> simp only [List.append_assoc, List.cons_append] <;>
    refine clock (by omega) (by omega) fun same => ?_
  · omega
  · exact plus _ _
  · omega
  · exact cons_lt_of_lt _ (field_lt (by omega) (Or.inl (by omega)))

theorem isoformat_toList (t : Timestamp) :
    (Timestamp.isoformat t).toList = dateText t ++ 'T' :: (timeText t ++ "+00:00".toList) := by
  rw [Timestamp.isoformat, String.toList_ofList, List.append_assoc, List.cons_append]

theorem isoformat_lt {s t : Int} (hs : Timestamp.InRange s) (ht : Timestamp.InRange t)
    (less : s < t) : Timestamp.isoformat s < Timestamp.isoformat t := by
  rw [String.lt_iff, isoformat_toList, isoformat_toList]
  by_cases day : s / 86400000000 = t / 86400000000
  · have date : dateText s = dateText t := by rw [dateText, dateText, day]
    have time := timeText_lt (show s % 86400000000 < t % 86400000000 by omega)
    rw [date]
    exact List.append_left_lt (cons_lt_of_lt _ time)
  · refine append_lt_of_lt ?_ (dateText_lt hs ht (by omega))
    rw [dateText_length, dateText_length]

theorem isoformat_lt_iff {s t : Int} (hs : Timestamp.InRange s) (ht : Timestamp.InRange t) :
    Timestamp.isoformat s < Timestamp.isoformat t ↔ s < t := by
  constructor
  · intro less
    by_contra later
    rcases eq_or_lt_of_le (not_lt.mp later) with rfl | greater
    · exact String.lt_irrefl _ less
    · exact String.lt_asymm less (isoformat_lt ht hs greater)
  · exact isoformat_lt hs ht

theorem isoformat_eq_iff {s t : Int} (hs : Timestamp.InRange s) (ht : Timestamp.InRange t) :
    Timestamp.isoformat s = Timestamp.isoformat t ↔ s = t :=
  ⟨isoformat_injective hs ht, congrArg Timestamp.isoformat⟩

/-- `ORDER BY` on a text column, with the ties as in `orderBy`. -/
def orderByText {α : Type} (column : α → String) (rank : α → Nat) (rows : List α) : List α :=
  rows.insertionSort fun a b => column a < column b ∨ (column a = column b ∧ rank a ≤ rank b)

/-- `ORDER BY ... DESC` on a text column. -/
def orderByTextDesc {α : Type} (column : α → String) (rank : α → Nat) (rows : List α) : List α :=
  rows.insertionSort fun a b => column b < column a ∨ (column a = column b ∧ rank a ≤ rank b)

section Order
variable {α : Type} {column : α → Timestamp} {rank : α → Nat} {rows : List α}

theorem insertionSort_congr {r r' : α → α → Prop} [DecidableRel r] [DecidableRel r']
    (same : ∀ a ∈ rows, ∀ b ∈ rows, r a b ↔ r' a b) :
    rows.insertionSort r = rows.insertionSort r' := by
  have sorted := List.map_insertionSort r r' id rows same
  rwa [List.map_id, List.map_id] at sorted

theorem orderByText_isoformat (dated : ∀ r ∈ rows, Timestamp.InRange (column r)) :
    orderByText (fun r => Timestamp.isoformat (column r)) rank rows = orderBy column rank rows := by
  refine insertionSort_congr fun a ha b hb => ?_
  rw [isoformat_lt_iff (dated a ha) (dated b hb), isoformat_eq_iff (dated a ha) (dated b hb)]

theorem orderByTextDesc_isoformat (dated : ∀ r ∈ rows, Timestamp.InRange (column r)) :
    orderByTextDesc (fun r => Timestamp.isoformat (column r)) rank rows =
      orderBy (fun r => -column r) rank rows := by
  refine insertionSort_congr fun a ha b hb => ?_
  rw [isoformat_lt_iff (dated b hb) (dated a ha), isoformat_eq_iff (dated a ha) (dated b hb)]
  dsimp only
  omega

end Order

end Deckhand.Lib
