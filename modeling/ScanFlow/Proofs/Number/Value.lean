import Mathlib.Algebra.Order.Field.Power
import Mathlib.Algebra.Order.Ring.Rat
import Mathlib.Tactic.NormNum
import Mathlib.Tactic.Ring
import ScanFlow.Verdict

/-!
The numbers that binary floating-point numbers stand for.

A finite number is a rational number: its significand times a power of two. Comparisons of
finite numbers are comparisons of these rationals, although they are computed on whole
multiples of the smallest power.
-/

namespace ScanFlow.Binary64

/-- The distance from zero of the number that is denoted. A normal significand has a leading
one before its fraction; a subnormal one has none. -/
def distance (x : Binary64) : ℚ :=
  if x.exponent.val = 0 then (x.fraction.val : ℚ) / 2 ^ 52 * (2 : ℚ) ^ (-1022 : ℤ)
  else (1 + (x.fraction.val : ℚ) / 2 ^ 52) * (2 : ℚ) ^ ((x.exponent.val : ℤ) - 1023)

def value (x : Binary64) : ℚ := if x.negative then -x.distance else x.distance

theorem magnitude_eq (x : Binary64) :
    (x.magnitude : ℚ) = x.distance * (2 : ℚ) ^ (1074 : ℤ) := by
  unfold magnitude distance fractionBits
  split
  · rw [mul_assoc, ← zpow_add₀ (by norm_num)]
    norm_num
  · rename_i hnormal
    have hpower : (2 : ℚ) ^ ((x.exponent.val : ℤ) - 1023) * (2 : ℚ) ^ (1074 : ℤ) =
        2 ^ 52 * 2 ^ (x.exponent.val - 1) := by
      rw [← zpow_add₀ (by norm_num), ← pow_add, ← zpow_natCast]
      congr 1
      omega
    rw [mul_assoc, hpower]
    push_cast
    ring

theorem order_eq (x : Binary64) : (x.order : ℚ) = x.value * (2 : ℚ) ^ (1074 : ℤ) := by
  unfold order value
  split <;> simp [magnitude_eq]

/-- The whole multiples are in the order of the numbers. -/
theorem order_le_iff (x y : Binary64) : x.order ≤ y.order ↔ x.value ≤ y.value := by
  rw [← Int.cast_le (R := ℚ), order_eq, order_eq]
  exact mul_le_mul_iff_left₀ (by positivity)

theorem not_isNaN {x : Binary64} (h : x.isFinite = true) : x.isNaN = false := by
  simp only [isFinite, bne_iff_ne, ne_eq] at h
  simp [isNaN, h]

theorem le_iff {x y : Binary64} (hx : x.isFinite = true) (hy : y.isFinite = true) :
    x.le y = true ↔ x.value ≤ y.value := by
  simp [le, not_isNaN hx, not_isNaN hy, order_le_iff]

theorem lt_iff {x y : Binary64} (hx : x.isFinite = true) (hy : y.isFinite = true) :
    x.lt y = true ↔ x.value < y.value := by
  rw [← not_le, ← order_le_iff]
  simp [lt, not_isNaN hx, not_isNaN hy]

@[simp] theorem zero_isFinite : zero.isFinite = true := by decide

@[simp] theorem one_isFinite : one.isFinite = true := by decide

@[simp] theorem zero_value : zero.value = 0 := by
  simp [value, distance, zero]

@[simp] theorem one_value : one.value = 1 := by
  have hnegative : one.negative = false := rfl
  have hexponent : one.exponent.val = 1023 := rfl
  have hfraction : one.fraction.val = 0 := rfl
  simp only [value, distance, hnegative, hexponent, hfraction]
  norm_num

def InUnit (p : Binary64) : Prop := p.isFinite = true ∧ 0 ≤ p.value ∧ p.value ≤ 1

theorem isProbability_iff (p : Binary64) : p.isProbability = true ↔ p.InUnit := by
  unfold isProbability InUnit
  by_cases hfinite : p.isFinite = true
  · have hzero : zero.le p = true ↔ 0 ≤ p.value := by simp [le_iff zero_isFinite hfinite]
    have hone : p.le one = true ↔ p.value ≤ 1 := by simp [le_iff hfinite one_isFinite]
    simp [hfinite, hzero, hone]
  · simp [hfinite]

end ScanFlow.Binary64
