import Mathlib.Algebra.Order.Round
import Mathlib.Data.Int.ConditionallyCompleteOrder
import Mathlib.Data.Rat.Floor
import Mathlib.Order.Monotone.Odd
import Mathlib.Tactic.Linarith
import Reckoner.Arithmetic

/-!
# Schedules over exact rationals

The operations of schedules on rational numbers are exact. Only rounding loses anything, at most
half a cent, and it keeps the order of amounts.
-/

namespace Reckoner

/-- The nearest integer, halves away from zero. -/
def nearest (value : ℚ) : ℤ :=
  if 0 ≤ value then round value else -round (-value)

/-- Positive halves are rounded up, so the negative ones are rounded as their opposites are. -/
theorem nearest_neg (value : ℚ) : nearest (-value) = -nearest value := by
  rcases lt_trichotomy value 0 with negative | isZero | positive
  · rw [nearest, nearest, if_pos (neg_nonneg.mpr (le_of_lt negative)), if_neg (not_le.mpr negative),
      neg_neg]
  · rw [isZero, neg_zero, nearest, if_pos le_rfl, round_zero, neg_zero]
  · have opposite : ¬0 ≤ -value := not_le.mpr (neg_neg_of_pos positive)
    rw [nearest, nearest, if_neg opposite, if_pos (le_of_lt positive), neg_neg]

example : [nearest (5 / 2), nearest (-5 / 2), nearest (7 / 3)] = [3, -3, 2] := by decide +kernel

theorem nearest_of_nonneg {value : ℚ} (nonneg : 0 ≤ value) : nearest value = ⌊value + 1 / 2⌋ := by
  rw [nearest, if_pos nonneg, round_eq]

theorem abs_sub_nearest (value : ℚ) : |value - nearest value| ≤ 1 / 2 := by
  rw [nearest]
  split
  · exact abs_sub_round value
  · have opposite := abs_sub_round (-value)
    rw [← abs_neg] at opposite
    rw [Int.cast_neg, sub_neg_eq_add]
    rwa [neg_sub, sub_neg_eq_add, add_comm] at opposite

theorem nearest_mono : Monotone nearest := by
  refine monotone_of_odd_of_monotoneOn_nonneg nearest_neg ?_
  intro first firstNonneg second secondNonneg isLe
  rw [nearest_of_nonneg firstNonneg, nearest_of_nonneg secondNonneg]
  exact Int.floor_le_floor (by linarith)

/-- Exact rationals, all of which are numbers. -/
instance : Arithmetic ℚ where
  lt first second := decide (first < second)
  le first second := decide (first ≤ second)
  isNaN _ := false
  round value := nearest value
  power base exponent := base ^ exponent

namespace Arithmetic

/-- The nearest amount in whole cents keeps the order of amounts. -/
theorem roundCents_mono {first second : ℚ} (isLe : first ≤ second) :
    roundCents first ≤ roundCents second := by
  have cents : first * 100 ≤ second * 100 := mul_le_mul_of_nonneg_right isLe (by norm_num)
  have rounded : (nearest (first * 100) : ℚ) ≤ nearest (second * 100) :=
    Int.cast_le.mpr (nearest_mono cents)
  exact div_le_div_of_nonneg_right rounded (by norm_num)

theorem roundCents_nonneg {value : ℚ} (nonneg : 0 ≤ value) : 0 ≤ roundCents value := by
  have rounded := roundCents_mono nonneg
  have zero : roundCents (0 : ℚ) = 0 := by decide +kernel
  rwa [zero] at rounded

/-- Whole cents are at most half a cent away. -/
theorem abs_sub_roundCents (value : ℚ) : |value - roundCents value| ≤ 1 / 200 := by
  have near := abs_sub_nearest (value * 100)
  have scaled : value - roundCents value = (value * 100 - nearest (value * 100)) / 100 := by
    have cents : roundCents value = (nearest (value * 100) : ℚ) / 100 := rfl
    rw [cents]
    ring
  rw [scaled, abs_div, abs_of_pos (by norm_num : (0 : ℚ) < 100)]
  linarith

theorem beq_iff {first second : ℚ} : beq first second = true ↔ first = second := by
  simp only [beq, le, Bool.and_eq_true, decide_eq_true_eq]
  exact le_antisymm_iff.symm

theorem sum_eq_sum (values : List ℚ) : sum values = values.sum :=
  List.sum_eq_foldl.symm

theorem sum_le_sum {first second : List ℚ} (isLe : List.Forall₂ (· ≤ ·) first second) :
    sum first ≤ sum second := by
  refine List.rel_foldl ?_ le_rfl isLe
  intro _ _ total _ _ value
  exact add_le_add total value

end Arithmetic

end Reckoner
