import Mathlib.Algebra.Order.Ring.Defs
import Mathlib.Data.Nat.Cast.Order.Ring
import Mathlib.Tactic.Linarith

/-! Token buckets over an ordered ring. A bucket holds at most `burst` tokens and refills at
`rate` tokens in a unit of time; what it grants in any window is bounded by both. -/
namespace Deckhand.Lib

structure Bucket (K : Type) where
  tokens : K
  lastRefill : K

namespace Bucket
variable {K : Type} [CommRing K] [LinearOrder K]
variable (burst rate : K)

def refilled (b : Bucket K) (now : K) : K := min burst (b.tokens + (now - b.lastRefill) * rate)

/-- Whether a token was granted at this time, and the bucket after. -/
def take (b : Bucket K) (now : K) : Bool × Bucket K :=
  if 1 ≤ b.refilled burst rate now then (true, ⟨b.refilled burst rate now - 1, now⟩)
  else (false, ⟨b.refilled burst rate now, now⟩)

/-- The times at which tokens were granted, of those at which they were asked for. -/
def grants : Bucket K → List K → List K
  | _, [] => []
  | b, now :: rest =>
    (bif (b.take burst rate now).1 then [now] else []) ++ grants (b.take burst rate now).2 rest

def drained : Bucket K → List K → Bucket K
  | b, [] => b
  | b, now :: rest => drained (b.take burst rate now).2 rest

def Balanced (b : Bucket K) : Prop := 0 ≤ b.tokens ∧ b.tokens ≤ burst

/-- The grants of a window of length `D`, its ends included. -/
def within (start D : K) (granted : List K) : Nat :=
  (granted.filter fun t => start ≤ t ∧ t ≤ start + D).length

section
variable {burst rate}

theorem grants_snoc (b : Bucket K) (times : List K) (now : K) :
    b.grants burst rate (times ++ [now]) = b.grants burst rate times ++
      bif ((b.drained burst rate times).take burst rate now).1 then [now] else [] := by
  induction times generalizing b with
  | nil => simp [grants, drained]
  | cons t rest ih => simp only [List.cons_append, grants, drained, ih, List.append_assoc]

theorem drained_snoc (b : Bucket K) (times : List K) (now : K) :
    b.drained burst rate (times ++ [now]) =
      ((b.drained burst rate times).take burst rate now).2 := by
  induction times generalizing b with
  | nil => rfl
  | cons t rest ih => exact ih _

theorem take_tokens (burst rate : K) (b : Bucket K) (now : K) :
    (b.take burst rate now).2.tokens + (bif (b.take burst rate now).1 then 1 else 0) =
      b.refilled burst rate now := by
  unfold take
  split
  · simp
  · simp

theorem take_lastRefill (b : Bucket K) (now : K) : (b.take burst rate now).2.lastRefill = now := by
  unfold take
  split <;> rfl

theorem within_append (start D : K) (first second : List K) :
    within start D (first ++ second) = within start D first + within start D second := by
  unfold within
  rw [List.filter_append, List.length_append]

theorem within_late {start D : K} {granted : List K} (late : ∀ t ∈ granted, start + D < t) :
    within start D granted = 0 := by
  apply List.length_eq_zero_iff.mpr
  apply List.filter_eq_nil_iff.mpr
  intro t member
  simp [late t member]

theorem grants_mem {b : Bucket K} {times : List K} {t : K} (h : t ∈ b.grants burst rate times) :
    t ∈ times := by
  induction times generalizing b with
  | nil => cases h
  | cons now rest ih =>
    rcases List.mem_append.mp h with here | later
    · cases granted : (b.take burst rate now).1 with
      | true =>
        rw [granted] at here
        exact List.mem_cons.mpr (.inl (List.mem_singleton.mp here))
      | false =>
        rw [granted] at here
        cases here
    · exact List.mem_cons_of_mem _ (ih later)

theorem drained_lastRefill {b : Bucket K} {times : List K} {now : K}
    (ordered : (b.lastRefill :: (times ++ [now])).Pairwise (· ≤ ·)) :
    (b.drained burst rate times).lastRefill ≤ now := by
  induction times generalizing b with
  | nil => exact (List.pairwise_cons.mp ordered).1 now (by simp)
  | cons t rest ih =>
    apply ih
    rw [take_lastRefill]
    exact (List.pairwise_cons.mp ordered).2

variable [IsStrictOrderedRing K]

theorem refilled_nonneg {b : Bucket K} {now : K} (positive : 0 ≤ rate) (balanced : b.Balanced burst)
    (later : b.lastRefill ≤ now) : 0 ≤ b.refilled burst rate now := by
  have gained : 0 ≤ (now - b.lastRefill) * rate := mul_nonneg (sub_nonneg.mpr later) positive
  have room : 0 ≤ burst := balanced.1.trans balanced.2
  exact le_min room (add_nonneg balanced.1 gained)

theorem refilled_ge {b : Bucket K} {now : K} (positive : 0 ≤ rate) (balanced : b.Balanced burst)
    (later : b.lastRefill ≤ now) : b.tokens ≤ b.refilled burst rate now := by
  have gained : 0 ≤ (now - b.lastRefill) * rate := mul_nonneg (sub_nonneg.mpr later) positive
  exact le_min balanced.2 (le_add_of_nonneg_right gained)

theorem take_balanced {b : Bucket K} {now : K} (positive : 0 ≤ rate) (balanced : b.Balanced burst)
    (later : b.lastRefill ≤ now) : (b.take burst rate now).2.Balanced burst := by
  have floor := refilled_nonneg positive balanced later
  have ceiling : b.refilled burst rate now ≤ burst := min_le_left _ _
  unfold take
  split
  · rename_i enough
    exact ⟨sub_nonneg.mpr enough, (sub_le_self _ zero_le_one).trans ceiling⟩
  · exact ⟨floor, ceiling⟩

theorem drained_balanced {b : Bucket K} {times : List K} (positive : 0 ≤ rate)
    (balanced : b.Balanced burst) (ordered : (b.lastRefill :: times).Pairwise (· ≤ ·)) :
    (b.drained burst rate times).Balanced burst := by
  induction times generalizing b with
  | nil => exact balanced
  | cons now rest ih =>
    obtain ⟨later, ordered⟩ := List.pairwise_cons.mp ordered
    refine ih (take_balanced positive balanced (later now (by simp))) ?_
    rw [take_lastRefill]
    exact ordered

theorem within_single_le (start D now : K) (granted : Bool) :
    (within start D (bif granted then [now] else []) : K) ≤ bif granted then 1 else 0 := by
  cases granted with
  | false => simp [within]
  | true =>
    have most : within start D [now] ≤ 1 := List.length_filter_le _ _
    change ((within start D [now] : Nat) : K) ≤ 1
    exact_mod_cast most

/-- Until a time `start + D`, no more is granted than the bucket held and was refilled. -/
theorem grants_until {b : Bucket K} {times : List K} {start D : K} (positive : 0 ≤ rate)
    (balanced : b.Balanced burst) (ordered : (b.lastRefill :: times).Pairwise (· ≤ ·))
    (before : b.lastRefill ≤ start + D) :
    (within start D (b.grants burst rate times) : K) ≤
      b.tokens + rate * (start + D - b.lastRefill) := by
  induction times generalizing b with
  | nil =>
    have gained : 0 ≤ rate * (start + D - b.lastRefill) :=
      mul_nonneg positive (sub_nonneg.mpr before)
    simpa [grants, within] using add_nonneg balanced.1 gained
  | cons now rest ih =>
    obtain ⟨later, ordered⟩ := List.pairwise_cons.mp ordered
    have since : b.lastRefill ≤ now := later now (by simp)
    by_cases inside : now ≤ start + D
    · have rest_bound := ih (take_balanced positive balanced since)
        (by rw [take_lastRefill]; exact ordered) (by rw [take_lastRefill]; exact inside)
      rw [take_lastRefill] at rest_bound
      have here := within_single_le start D now (b.take burst rate now).1
      have spent := take_tokens burst rate b now
      have gained : b.refilled burst rate now ≤ b.tokens + (now - b.lastRefill) * rate :=
        min_le_right _ _
      rw [grants, within_append, Nat.cast_add]
      linarith
    · have late : within start D (b.grants burst rate (now :: rest)) = 0 := by
        refine within_late fun t granted => (not_le.mp inside).trans_le ?_
        rcases List.mem_cons.mp (grants_mem granted) with rfl | member
        · exact le_rfl
        · exact (List.pairwise_cons.mp ordered).1 t member
      have gained : 0 ≤ rate * (start + D - b.lastRefill) :=
        mul_nonneg positive (sub_nonneg.mpr before)
      rw [late, Nat.cast_zero]
      exact add_nonneg balanced.1 gained

/-- In any window no more is granted than a full bucket and what it is refilled in that time. -/
theorem grants_within {b : Bucket K} {times : List K} {start D : K} (positive : 0 ≤ rate)
    (balanced : b.Balanced burst) (ordered : (b.lastRefill :: times).Pairwise (· ≤ ·))
    (length : 0 ≤ D) :
    (within start D (b.grants burst rate times) : K) ≤ burst + rate * D := by
  have room : 0 ≤ burst := balanced.1.trans balanced.2
  have gained : 0 ≤ rate * D := mul_nonneg positive length
  induction times generalizing b with
  | nil => simpa [grants, within] using add_nonneg room gained
  | cons now rest ih =>
    obtain ⟨later, ordered⟩ := List.pairwise_cons.mp ordered
    have since : b.lastRefill ≤ now := later now (by simp)
    have after := take_balanced positive balanced since
    have sorted : ((b.take burst rate now).2.lastRefill :: rest).Pairwise (· ≤ ·) := by
      rw [take_lastRefill]
      exact ordered
    rw [grants, within_append, Nat.cast_add]
    by_cases early : now < start
    · -- the window has not begun: what was granted here is outside of it
      have outside : within start D (bif (b.take burst rate now).1 then [now] else []) = 0 := by
        cases (b.take burst rate now).1 with
        | true => simp [within, early]
        | false => rfl
      rw [outside, Nat.cast_zero, zero_add]
      exact ih after sorted
    · by_cases inside : now ≤ start + D
      · have reaches : (b.take burst rate now).2.lastRefill ≤ start + D := by
          rw [take_lastRefill]
          exact inside
        have rest_bound := grants_until positive after sorted reaches
        rw [take_lastRefill] at rest_bound
        have here := within_single_le start D now (b.take burst rate now).1
        have spent := take_tokens burst rate b now
        have ceiling : b.refilled burst rate now ≤ burst := min_le_left _ _
        have shorter : rate * (start + D - now) ≤ rate * D :=
          mul_le_mul_of_nonneg_left (by linarith) positive
        linarith
      · have outside : within start D (bif (b.take burst rate now).1 then [now] else []) = 0 := by
          cases (b.take burst rate now).1 with
          | true => simp [within, not_le.mp inside]
          | false => rfl
        rw [outside, Nat.cast_zero, zero_add]
        exact ih after sorted

end
end Bucket
end Deckhand.Lib
