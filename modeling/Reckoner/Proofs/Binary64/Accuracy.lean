import Reckoner.Proofs.Binary64.Nearest

/-!
# Significands that bits are dropped from

Sums and quotients are computed with more bits than a float has. The bits that are dropped are not
lost at once: a significand keeps its accuracy, which tells where between it and the next one the
exact value is. That is all that rounding to the nearest float needs to know, so however many bits
are dropped one by one, the rounding is that of the exact value.
-/

namespace Reckoner

namespace Binary64

open Float.Model (Format UnpackedFloat totalExponent)
open Float.Model.UnpackedFloat (Accuracy ExtendedMantissa)

/-- Whether a value is where a significand and its accuracy say that it is. -/
def Describes (significand : ℕ) (value : ℚ) : Accuracy → Prop
  | .exact => value = significand
  | .inexact .lt => significand < value ∧ value < significand + 1 / 2
  | .inexact .eq => value = significand + 1 / 2
  | .inexact .gt => significand + 1 / 2 < value ∧ value < significand + 1

variable {significand : ℕ} {exponent : ℤ} {value : ℚ} {accuracy : Accuracy}
  {extended : ExtendedMantissa}

theorem describes_natCast (significand : ℕ) : Describes significand significand .exact := rfl

theorem Describes.le_and_lt (describes : Describes significand value accuracy) :
    significand ≤ value ∧ value < significand + 1 := by
  rcases accuracy with _ | (_ | _ | _) <;> simp only [Describes] at describes <;>
    constructor <;> linarith

/-- Rounding by the accuracy is rounding of the value. -/
theorem Describes.isNearestEven (describes : Describes significand value accuracy) :
    Rounding.IsNearestEven value (accuracy.roundToNearestEven significand) := by
  rcases accuracy with _ | (_ | _ | _) <;>
    simp only [Describes] at describes <;>
    simp only [Accuracy.roundToNearestEven]
  · exact .of_lt (by simp [describes])
  · exact .of_lt (abs_lt.mpr (by constructor <;> linarith))
  · rcases Nat.mod_two_eq_zero_or_one significand with isEven | isOdd
    · rw [isEven, add_zero, describes]
      exact ⟨by norm_num, fun _ => Nat.even_iff.mpr isEven⟩
    · rw [isOdd, describes]
      refine ⟨?_, fun _ => Nat.even_iff.mpr (by omega)⟩
      push_cast
      rw [abs_le]
      constructor <;> linarith
  · refine .of_lt (abs_lt.mpr ?_)
    push_cast
    constructor <;> linarith

/-! ## Dropping bits -/

theorem describes_ofMantissaAndAccuracy (describes : Describes significand value accuracy) :
    Describes (ExtendedMantissa.ofMantissaAndAccuracy significand accuracy).mantissa value
      (ExtendedMantissa.ofMantissaAndAccuracy significand accuracy).accuracy := by
  rcases accuracy with _ | (_ | _ | _) <;> exact describes

/-- A significand without its last bit describes half of the value. The bit that is dropped tells
the side of the middle, the two further bits whether the value is off it. -/
theorem describes_shiftRightOne
    (describes : Describes extended.mantissa value extended.accuracy) :
    Describes extended.shiftRightOne.mantissa (value / 2) extended.shiftRightOne.accuracy := by
  rcases extended with ⟨significand, roundBit, stickyBit⟩
  have isSum : (significand : ℚ) = 2 * (significand / 2 : ℕ) + (significand % 2 : ℕ) := by
    exact_mod_cast (Nat.div_add_mod significand 2).symm
  rcases Nat.mod_two_eq_zero_or_one significand with isEven | isOdd
  · have shifted : ExtendedMantissa.shiftRightOne ⟨significand, roundBit, stickyBit⟩ =
        ⟨significand / 2, false, roundBit || stickyBit⟩ := by
      simp [ExtendedMantissa.shiftRightOne, isEven]
    rw [isEven, Nat.cast_zero] at isSum
    rw [shifted]
    cases roundBit <;> cases stickyBit <;>
      simp only [ExtendedMantissa.accuracy, Describes, Bool.or_false, Bool.or_true]
        at describes ⊢ <;>
      grind
  · have shifted : ExtendedMantissa.shiftRightOne ⟨significand, roundBit, stickyBit⟩ =
        ⟨significand / 2, true, roundBit || stickyBit⟩ := by
      simp [ExtendedMantissa.shiftRightOne, isOdd]
    rw [isOdd, Nat.cast_one] at isSum
    rw [shifted]
    cases roundBit <;> cases stickyBit <;>
      simp only [ExtendedMantissa.accuracy, Describes, Bool.or_false, Bool.or_true]
        at describes ⊢ <;>
      grind

theorem describes_shiftRight (describes : Describes extended.mantissa value extended.accuracy)
    (places : ℕ) :
    Describes (extended >>> places).mantissa (value / 2 ^ places)
      (extended >>> places).accuracy := by
  induction places with
  | zero =>
      rw [pow_zero, div_one]
      exact describes
  | succ places ih =>
      have halved := describes_shiftRightOne ih
      rw [div_div, ← pow_succ] at halved
      exact halved

/-! ## The grid of a significand -/

theorem targetExponent_eq (significand : ℕ) (exponent : ℤ) :
    Format.binary64.targetExponent (totalExponent significand exponent) =
      max (significand.log2 + exponent - 52) leastExponent := by
  simp only [Format.targetExponent, Format.minExponent, Format.mantissaBits, totalExponent,
    leastExponent]
  omega

theorem shiftToTargetExponent_eq (significand : ℕ) (exponent : ℤ) (accuracy : Accuracy) :
    ∃ places : ℕ, UnpackedFloat.shiftToTargetExponent .binary64 significand exponent accuracy =
      (ExtendedMantissa.ofMantissaAndAccuracy significand accuracy >>> places, exponent + places) ∧
      exponent + places = max exponent (max (significand.log2 + exponent - 52) leastExponent) := by
  refine ⟨(max (significand.log2 + exponent - 52) leastExponent - exponent).toNat, ?_, ?_⟩
  · rw [← targetExponent_eq]
    rfl
  · omega

/-- What a significand describes is below the power of two that its length tells. -/
theorem Describes.lt_two_zpow (describes : Describes significand value accuracy) :
    value < 2 ^ ((significand.log2 : ℤ) + 1) := by
  have below : significand + 1 ≤ 2 ^ (significand.log2 + 1) := Nat.lt_log2_self
  calc value < significand + 1 := describes.le_and_lt.2
    _ ≤ 2 ^ ((significand.log2 : ℤ) + 1) := by exact_mod_cast below

theorem Describes.two_zpow_le (describes : Describes significand value accuracy)
    (nonzero : significand ≠ 0) : (2 : ℚ) ^ (significand.log2 : ℤ) ≤ value := by
  have above := Nat.log2_self_le nonzero
  calc (2 : ℚ) ^ (significand.log2 : ℤ) ≤ significand := by exact_mod_cast above
    _ ≤ value := describes.le_and_lt.1

/-- A significand of enough bits is rounded to the nearest point of the grid around the value. -/
theorem Describes.isRounding_shift (describes : Describes significand value accuracy)
    (hasBits : 52 ≤ significand.log2 ∨ exponent ≤ leastExponent) :
    IsRounding (value * 2 ^ exponent)
      (UnpackedFloat.shiftToTargetExponent .binary64 significand exponent
        accuracy).1.roundedMantissa
      (UnpackedFloat.shiftToTargetExponent .binary64 significand exponent accuracy).2 := by
  rcases shiftToTargetExponent_eq significand exponent accuracy with ⟨places, shifted, isMax⟩
  rw [shifted]
  have isTarget : exponent + places = max (significand.log2 + exponent - 52) leastExponent := by
    omega
  refine ⟨?_, ?_, ?_, ?_⟩
  · omega
  · rw [div_lt_iff₀ (by positivity), ← two_zpow_add _ 53]
    calc value * 2 ^ exponent < 2 ^ ((significand.log2 : ℤ) + 1) * 2 ^ exponent := by
          have := describes.lt_two_zpow
          gcongr
      _ = 2 ^ ((significand.log2 : ℤ) + 1 + exponent) := (zpow_add₀ two_ne_zero _ _).symm
      _ ≤ 2 ^ (exponent + places + (53 : ℕ)) := zpow_le_zpow_right₀ one_le_two (by omega)
  · by_cases isLeast : exponent + places = leastExponent
    · exact .inr isLeast
    · left
      have nonzero : significand ≠ 0 := by
        rintro rfl
        simp at hasBits isTarget
        omega
      rw [le_div_iff₀ (by positivity), ← two_zpow_add _ 52]
      calc (2 : ℚ) ^ (exponent + places + (52 : ℕ)) = 2 ^ ((significand.log2 : ℤ) + exponent) := by
            congr 1
            omega
        _ = 2 ^ (significand.log2 : ℤ) * 2 ^ exponent := zpow_add₀ two_ne_zero _ _
        _ ≤ value * 2 ^ exponent := by
            have := describes.two_zpow_le nonzero
            gcongr
  · rw [two_zpow_add, mul_div_mul_right _ _ (by positivity)]
    exact (describes_shiftRight (describes_ofMantissaAndAccuracy describes) places).isNearestEven

end Binary64

end Reckoner
