import Mathlib.Algebra.Order.Ring.Unbundled.Rat
import Mathlib.Data.Nat.Log
import Mathlib.Algebra.Group.Nat.Defs

/-! Natural numbers as binary64 floats. -/
namespace Deckhand.Lib

/-- `n / d`, to the nearest, ties to even. -/
def roundHalfEven (n d : Nat) : Nat :=
  if 2 * (n % d) < d ∨ (2 * (n % d) = d ∧ n / d % 2 = 0) then n / d else n / d + 1

/-- The nearest number with 53 significant bits. -/
def significant (n : Nat) : Nat :=
  let ulp := 2 ^ (n.log2 + 1 - 53)
  roundHalfEven n ulp * ulp

def maxExponent : Nat := 1024

/-- `float(n)`: `none` when the result is beyond the finite floats. -/
def floatOfNat (n : Nat) : Option Rat :=
  if significant n < 2 ^ maxExponent then some (significant n) else none

theorem roundHalfEven_of_dvd {n d : Nat} (pos : 0 < d) (exact : d ∣ n) :
    roundHalfEven n d = n / d := by
  apply if_pos
  left
  rw [Nat.mod_eq_zero_of_dvd exact]
  exact pos

theorem significant_two_pow (k : Nat) : significant (2 ^ k) = 2 ^ k := by
  unfold significant
  have exact : 2 ^ ((2 ^ k).log2 + 1 - 53) ∣ 2 ^ k := by
    rw [Nat.log2_two_pow]
    apply Nat.pow_dvd_pow
    omega
  dsimp only
  rw [roundHalfEven_of_dvd (Nat.two_pow_pos _) exact]
  exact Nat.div_mul_cancel exact

theorem floatOfNat_two_pow (k : Nat) :
    floatOfNat (2 ^ k) = if k < maxExponent then some (2 ^ k) else none := by
  have bound : 2 ^ k < 2 ^ maxExponent ↔ k < maxExponent := Nat.pow_lt_pow_iff_right (by decide)
  simp only [floatOfNat, significant_two_pow, bound]
  split
  · push_cast
    rfl
  · rfl

end Deckhand.Lib
