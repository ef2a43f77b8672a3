import Reckoner.Proofs.Binary64.Accuracy
import Reckoner.Proofs.Binary64.Packing

/-!
# Sums, differences and quotients of floats

An operation on finite floats returns the float nearest to the exact result. A sum brings both
summands to the lesser of their exponents, where their significands can be added; a quotient puts so
many zeros after the dividend that the quotient of the significands has at least the 53 bits of a
float. Both are exact up to there, and the bits beyond those of a float are dropped in one rounding
at the end.
-/

namespace Reckoner

namespace Binary64

open Float.Model (Format UnpackedFloat totalExponent)
open Float.Model.UnpackedFloat (Accuracy ExtendedMantissa Sign)

/-! ## Values -/

/-- A magnitude with a sign. -/
def signed (negative : Bool) (magnitude : ℚ) : ℚ := if negative then -magnitude else magnitude

/-- Whether a float is finite and of a given value. -/
def HasValue (float : Float) (value : ℚ) : Prop :=
  ∃ negative significand exponent, ofFloat float = .finite negative significand exponent ∧
    value = signed negative (significand * 2 ^ exponent)

/-- Whether a float is the one nearest to a value, with the sign of the value unless that is zero.
Values that are too large are rounded to infinity. -/
def IsRounded (value : ℚ) (float : Float) : Prop :=
  ∃ negative significand grid, value = signed negative |value| ∧
    IsRounding |value| significand grid ∧
    float = ofPattern negative (min infinityBits (pattern significand grid))

variable {significand : ℕ} {exponent grid : ℤ} {value magnitude : ℚ}
  {accuracy : Accuracy}

theorem signed_mul (negative : Bool) (magnitude scale : ℚ) :
    signed negative (magnitude * scale) = signed negative magnitude * scale := by
  cases negative <;> simp [signed]

theorem signed_not (negative : Bool) (magnitude : ℚ) :
    signed (!negative) magnitude = -signed negative magnitude := by
  cases negative <;> simp [signed]

theorem signed_div (firstNegative secondNegative : Bool) (first second : ℚ) :
    signed (firstNegative ^^ secondNegative) (first / second) =
      signed firstNegative first / signed secondNegative second := by
  cases firstNegative <;> cases secondNegative <;> simp [signed, neg_div, div_neg]

theorem signed_natAbs (mantissa : ℤ) :
    signed (decide (mantissa < 0)) mantissa.natAbs = mantissa := by
  rcases lt_or_ge mantissa 0 with isNegative | nonneg
  · have isAbs : ((mantissa.natAbs : ℤ) : ℚ) = -mantissa := by
      rw [Int.ofNat_natAbs_of_nonpos isNegative.le, Int.cast_neg]
    rw [Int.cast_natCast] at isAbs
    simp [signed, isNegative, isAbs]
  · have isAbs : ((mantissa.natAbs : ℤ) : ℚ) = mantissa := by
      rw [Int.natAbs_of_nonneg nonneg]
    rw [Int.cast_natCast] at isAbs
    simp [signed, nonneg.not_gt, isAbs]

theorem abs_signed (negative : Bool) (nonneg : 0 ≤ magnitude) :
    |signed negative magnitude| = magnitude := by
  cases negative <;> simp [signed, abs_of_nonneg nonneg]

/-- Only the sign of zero is not told by a value with a sign. -/
theorem eq_of_signed_eq_signed {firstNegative secondNegative : Bool} {first second : ℚ}
    (first_nonneg : 0 ≤ first) (second_nonneg : 0 ≤ second)
    (same : signed firstNegative first = signed secondNegative second) :
    first = second ∧ (first ≠ 0 → firstNegative = secondNegative) := by
  have sameAbs := congrArg abs same
  rw [abs_signed _ first_nonneg, abs_signed _ second_nonneg] at sameAbs
  subst sameAbs
  refine ⟨rfl, ?_⟩
  intro nonzero
  cases firstNegative <;> cases secondNegative <;> simp_all [signed, self_eq_neg, neg_eq_self]

theorem cast_apply (negative : Bool) (significand : ℕ) :
    (((signOf negative).apply significand : ℤ) : ℚ) = signed negative significand := by
  cases negative <;> simp [signOf, Sign.apply, signed]

theorem IsRounding.isRounded (rounds : IsRounding magnitude significand grid)
    (nonneg : 0 ≤ magnitude) (negative : Bool) :
    IsRounded (signed negative magnitude)
      (ofPattern negative (min infinityBits (pattern significand grid))) := by
  refine ⟨negative, significand, grid, ?_, ?_, rfl⟩
  all_goals rw [abs_signed negative nonneg]
  exact rounds

/-- A magnitude is its own rounding. -/
theorem IsMagnitude.isRounded (isMagnitude : IsMagnitude significand exponent) (negative : Bool) :
    IsRounded (signed negative (significand * 2 ^ exponent))
      (packed (toUnpacked (.finite negative significand exponent))) := by
  rw [packed_finite isMagnitude.lt isMagnitude.least_le isMagnitude.isNormal]
  exact isMagnitude.isRounding.isRounded (by positivity) negative

theorem isMagnitude_zero : IsMagnitude 0 leastExponent :=
  ⟨by decide, le_refl _, by decide, .inr rfl⟩

theorem isRounded_zero (negative : Bool) : IsRounded 0 (packed (.zero (signOf negative))) := by
  have isRounded := isMagnitude_zero.isRounded negative
  rwa [Nat.cast_zero, zero_mul, signed, neg_zero, ite_self] at isRounded

/-! ## Rounding -/

/-- A rounded significand is packed into its pattern, also if rounding has made it one bit
longer. -/
theorem packed_shiftToTargetExponent (negative : Bool) (le : significand ≤ 2 * fractionCount)
    (least_le : leastExponent ≤ grid)
    (isNormal : fractionCount ≤ significand ∨ grid = leastExponent) :
    ∃ filled exponent,
      UnpackedFloat.shiftToTargetExponent .binary64 significand grid .exact =
        (⟨filled, false, false⟩, exponent) ∧
      packed (toUnpacked (.finite negative filled exponent)) =
        ofPattern negative (min infinityBits (pattern significand grid)) := by
  rcases shiftToTargetExponent_eq significand grid .exact with ⟨places, shifted, isMax⟩
  rw [shifted]
  rcases le.lt_or_eq with lt | rfl
  · have noPlaces : places = 0 := by
      have log2_lt : significand.log2 < 53 := by
        rcases eq_or_ne significand 0 with rfl | nonzero
        · decide
        · exact (Nat.log2_lt nonzero).mpr lt
      omega
    subst noPlaces
    exact ⟨significand, grid + (0 : ℕ), rfl, by simpa using packed_finite lt least_le isNormal⟩
  · have onePlace : places = 1 := by
      have isLog : (2 * fractionCount).log2 = 53 := by decide
      omega
    subst onePlace
    refine ⟨fractionCount, grid + (1 : ℕ), rfl, ?_⟩
    rw [packed_finite (by decide) (by omega) (.inl le_rfl)]
    have samePattern : pattern fractionCount (grid + (1 : ℕ)) =
        pattern (2 * fractionCount) grid := by
      simp only [pattern, leastExponent, fractionCount_eq] at least_le ⊢
      omega
    rw [samePattern]

/-- A significand of enough bits is packed into the nearest point of the grid around the value. -/
theorem Describes.packed_roundWithAccuracy (describes : Describes significand value accuracy)
    (negative : Bool) (hasBits : 52 ≤ significand.log2 ∨ exponent ≤ leastExponent) :
    ∃ rounded grid, IsRounding (value * 2 ^ exponent) rounded grid ∧
      packed (.roundWithAccuracy .binary64 (signOf negative) significand exponent accuracy) =
        ofPattern negative (min infinityBits (pattern rounded grid)) := by
  have rounds := describes.isRounding_shift hasBits
  refine ⟨_, _, rounds, ?_⟩
  rcases rounds.significand_mem with ⟨le, isNormal⟩
  rcases packed_shiftToTargetExponent negative le rounds.least_le isNormal with
    ⟨filled, exponent, shifted, isPacked⟩
  rw [← isPacked]
  simp only [UnpackedFloat.roundWithAccuracy, shifted, toUnpacked]

theorem log2_shiftLeft (nonzero : significand ≠ 0) (places : ℕ) :
    (significand <<< places).log2 = significand.log2 + places := by
  have bounds := (Nat.log2_eq_iff nonzero).mp rfl
  rw [Nat.shiftLeft_eq, Nat.log2_eq_iff (Nat.mul_ne_zero nonzero (by positivity)), add_right_comm,
    pow_add, pow_add]
  constructor
  · gcongr
    exact bounds.1
  · gcongr
    exact bounds.2

theorem cast_shiftLeft (significand places : ℕ) (exponent : ℤ) :
    ((significand <<< places : ℕ) : ℚ) * 2 ^ (exponent - places) = significand * 2 ^ exponent := by
  have scaled := two_zpow_add (exponent - places) places
  rw [sub_add_cancel] at scaled
  rw [Nat.shiftLeft_eq, scaled]
  push_cast
  ring

/-- A significand is given the bits that rounding needs by zeros that are put after it. -/
theorem packed_round (negative : Bool) (nonzero : significand ≠ 0) (exponent : ℤ) :
    ∃ rounded grid, IsRounding (significand * 2 ^ exponent) rounded grid ∧
      packed (.round .binary64 (signOf negative) significand exponent) =
        ofPattern negative (min infinityBits (pattern rounded grid)) := by
  set target := Format.binary64.targetExponent (totalExponent significand exponent) with isTarget
  rw [targetExponent_eq] at isTarget
  have describes := describes_natCast (significand <<< (exponent - target).toNat)
  have hasBits := log2_shiftLeft nonzero (exponent - target).toNat
  rw [← cast_shiftLeft significand (exponent - target).toNat exponent]
  exact describes.packed_roundWithAccuracy negative (by omega)

/-! ## Sums -/

theorem normalize_of_ne_zero {mantissa : ℤ} (nonzero : mantissa ≠ 0) (exponent : ℤ) (sign : Sign) :
    UnpackedFloat.normalize .binary64 mantissa exponent sign =
      .round .binary64 (signOf (decide (mantissa < 0))) mantissa.natAbs exponent := by
  rcases nonzero.lt_or_gt with isNegative | isPositive
  · have isAbs : (-mantissa).toNat = mantissa.natAbs := by omega
    simp only [UnpackedFloat.normalize, compare_lt_iff_lt.mpr isNegative, isAbs, isNegative]
    rfl
  · have isAbs : mantissa.toNat = mantissa.natAbs := by omega
    simp only [UnpackedFloat.normalize, compare_gt_iff_gt.mpr isPositive, isAbs, isPositive.not_gt]
    rfl

theorem isRounded_normalize (mantissa exponent : ℤ) :
    IsRounded (mantissa * 2 ^ exponent)
      (packed (.normalize .binary64 mantissa exponent .positive)) := by
  rcases eq_or_ne mantissa 0 with rfl | nonzero
  · rw [Int.cast_zero, zero_mul]
    exact isRounded_zero false
  · rcases packed_round (decide (mantissa < 0)) (Int.natAbs_ne_zero.mpr nonzero) exponent with
      ⟨rounded, grid, rounds, isPacked⟩
    rw [normalize_of_ne_zero nonzero, isPacked]
    have isRounded := rounds.isRounded (by positivity) (decide (mantissa < 0))
    rw [signed_mul, signed_natAbs] at isRounded
    exact isRounded

theorem decreaseExponent_eq (significand : ℕ) {exponent least : ℤ} (le : least ≤ exponent) :
    ∃ scaled, UnpackedFloat.decreaseExponent significand exponent least = (scaled, least) ∧
      (scaled : ℚ) * 2 ^ least = significand * 2 ^ exponent := by
  have isLeast : exponent - (exponent - least).toNat = least := by omega
  refine ⟨significand <<< (exponent - least).toNat, ?_, ?_⟩
  · simp only [UnpackedFloat.decreaseExponent, isLeast]
  · rw [← cast_shiftLeft significand (exponent - least).toNat exponent, isLeast]

variable {first second : ℕ} {firstExponent secondExponent : ℤ}

/-- The sum of two magnitudes is rounded. Zeros have no significand to add, so they are told apart
before the exponents are made equal. -/
theorem isRounded_unpacked_add (firstNegative secondNegative : Bool)
    (isFirst : IsMagnitude first firstExponent) (isSecond : IsMagnitude second secondExponent) :
    IsRounded (signed firstNegative (first * 2 ^ firstExponent) +
        signed secondNegative (second * 2 ^ secondExponent))
      (packed (.add .binary64 (toUnpacked (.finite firstNegative first firstExponent))
        (toUnpacked (.finite secondNegative second secondExponent)))) := by
  have noFirst : signed firstNegative ((0 : ℕ) * 2 ^ firstExponent) = 0 := by simp [signed]
  have noSecond : signed secondNegative ((0 : ℕ) * 2 ^ secondExponent) = 0 := by simp [signed]
  by_cases firstZero : first = 0 <;> by_cases secondZero : second = 0
  · subst firstZero secondZero
    rw [noFirst, noSecond, add_zero]
    simp only [toUnpacked, dite_true, UnpackedFloat.add]
    split
    · exact isRounded_zero firstNegative
    · exact isRounded_zero false
  · subst firstZero
    have isRounded := isSecond.isRounded secondNegative
    rw [noFirst, zero_add]
    simpa only [toUnpacked, dite_true, secondZero, dite_false, UnpackedFloat.add] using isRounded
  · subst secondZero
    have isRounded := isFirst.isRounded firstNegative
    rw [noSecond, add_zero]
    simpa only [toUnpacked, dite_true, firstZero, dite_false, UnpackedFloat.add] using isRounded
  · rcases decreaseExponent_eq first (min_le_left firstExponent secondExponent) with
      ⟨firstScaled, firstEq, firstValue⟩
    rcases decreaseExponent_eq second (min_le_right firstExponent secondExponent) with
      ⟨secondScaled, secondEq, secondValue⟩
    simp only [toUnpacked, firstZero, secondZero, dite_false, UnpackedFloat.add, firstEq, secondEq]
    rw [← firstValue, ← secondValue, signed_mul, signed_mul, ← add_mul, ← cast_apply, ← cast_apply,
      ← Int.cast_add]
    exact isRounded_normalize _ _

variable {firstFloat secondFloat : Float} {firstValue secondValue : ℚ}

/-- The sum of finite floats is the float nearest to the exact sum. -/
theorem HasValue.add (isFirst : HasValue firstFloat firstValue)
    (isSecond : HasValue secondFloat secondValue) :
    IsRounded (firstValue + secondValue) (firstFloat + secondFloat) := by
  rcases isFirst with ⟨firstNegative, first, firstExponent, firstDecodes, rfl⟩
  rcases isSecond with ⟨secondNegative, second, secondExponent, secondDecodes, rfl⟩
  have isRounded := isRounded_unpacked_add firstNegative secondNegative
    (of_ofFloat_eq_finite firstDecodes).1 (of_ofFloat_eq_finite secondDecodes).1
  rwa [← firstDecodes, ← secondDecodes, ← unpack_eq, ← unpack_eq] at isRounded

theorem apply_neg (sign : Sign) (mantissa : ℤ) : (-sign).apply mantissa = -sign.apply mantissa := by
  cases sign with
  | negative => exact (neg_neg mantissa).symm
  | positive => rfl

theorem unpacked_sub_eq (first second : UnpackedFloat) :
    UnpackedFloat.sub .binary64 first second = .add .binary64 first second.neg := by
  rcases first with _ | _ | _ | ⟨_, _, _, _⟩ <;> rcases second with _ | _ | _ | ⟨_, _, _, _⟩
  case finite.finite =>
    simp only [UnpackedFloat.sub, UnpackedFloat.add, UnpackedFloat.neg, apply_neg, sub_eq_add_neg]
  all_goals rfl

theorem toUnpacked_neg (negative : Bool) (significand : ℕ) (exponent : ℤ) :
    (toUnpacked (.finite negative significand exponent)).neg =
      toUnpacked (.finite (!negative) significand exponent) := by
  simp only [toUnpacked]
  split <;> cases negative <;> rfl

/-- The difference of finite floats is the float nearest to the exact difference. -/
theorem HasValue.sub (isFirst : HasValue firstFloat firstValue)
    (isSecond : HasValue secondFloat secondValue) :
    IsRounded (firstValue - secondValue) (firstFloat - secondFloat) := by
  rcases isFirst with ⟨firstNegative, first, firstExponent, firstDecodes, rfl⟩
  rcases isSecond with ⟨secondNegative, second, secondExponent, secondDecodes, rfl⟩
  have isRounded := isRounded_unpacked_add firstNegative (!secondNegative)
    (of_ofFloat_eq_finite firstDecodes).1 (of_ofFloat_eq_finite secondDecodes).1
  rwa [signed_not, ← sub_eq_add_neg, ← toUnpacked_neg, ← unpacked_sub_eq, ← firstDecodes,
    ← secondDecodes, ← unpack_eq, ← unpack_eq] at isRounded

/-! ## Quotients -/

theorem describes_accuracyOfFraction (numerator : ℕ) {denominator : ℕ}
    (positive : 0 < denominator) :
    Describes (numerator / denominator) (numerator / denominator : ℚ)
      (UnpackedFloat.accuracyOfFraction (numerator % denominator) denominator) := by
  have positive' : (0 : ℚ) < denominator := by exact_mod_cast positive
  have rest_lt : ((numerator % denominator : ℕ) : ℚ) < denominator := by
    exact_mod_cast Nat.mod_lt numerator positive
  rw [Rounding.cast_div_eq_add_rest numerator positive]
  generalize numerator / denominator = whole
  generalize numerator % denominator = rest at *
  simp only [UnpackedFloat.accuracyOfFraction]
  split
  · next isZero => simp [isZero, Describes]
  next nonzero =>
  have rest_pos : (0 : ℚ) < rest := by exact_mod_cast Nat.pos_of_ne_zero nonzero
  have pos : 0 < (rest : ℚ) / denominator := by positivity
  have lt_one : (rest : ℚ) / denominator < 1 := by rwa [div_lt_one positive']
  rcases lt_trichotomy (2 * rest) denominator with isLess | isHalf | isMore
  · have isLess' : (rest : ℚ) / denominator < 1 / 2 := by
      have twice_lt : 2 * (rest : ℚ) < denominator := by exact_mod_cast isLess
      rw [div_lt_iff₀ positive']
      linarith
    rw [compare_lt_iff_lt.mpr isLess]
    exact ⟨by linarith, by linarith⟩
  · have isHalf' : (rest : ℚ) / denominator = 1 / 2 := by
      have twice_eq : 2 * (rest : ℚ) = denominator := by exact_mod_cast isHalf
      rw [div_eq_iff positive'.ne']
      linarith
    rw [compare_eq_iff_eq.mpr isHalf, isHalf']
    rfl
  · have isMore' : 1 / 2 < (rest : ℚ) / denominator := by
      have lt_twice : (denominator : ℚ) < 2 * rest := by exact_mod_cast isMore
      rw [lt_div_iff₀ positive']
      linarith
    rw [compare_gt_iff_gt.mpr isMore]
    exact ⟨by linarith, by linarith⟩

theorem le_log2_div (secondNonzero : second ≠ 0) {bits : ℕ}
    (isLong : second.log2 + 1 + bits ≤ first.log2) : bits ≤ (first / second).log2 := by
  have firstNonzero : first ≠ 0 := by
    rintro rfl
    simp at isLong
  have le : 2 ^ bits ≤ first / second := by
    rw [Nat.le_div_iff_mul_le (Nat.pos_of_ne_zero secondNonzero)]
    calc 2 ^ bits * second ≤ 2 ^ bits * 2 ^ (second.log2 + 1) := by
          gcongr
          exact Nat.lt_log2_self.le
      _ = 2 ^ (second.log2 + 1 + bits) := by rw [← pow_add, add_comm]
      _ ≤ 2 ^ first.log2 := Nat.pow_le_pow_right two_pos isLong
      _ ≤ first := Nat.log2_self_le firstNonzero
  have quotientNonzero : first / second ≠ 0 := (lt_of_lt_of_le (by positivity) le).ne'
  exact (Nat.le_log2 quotientNonzero).mpr le

/-- The quotient of two significands has the bits that rounding needs. -/
theorem divCore_spec (firstNonzero : first ≠ 0) (secondNonzero : second ≠ 0)
    (firstExponent secondExponent : ℤ) :
    ∃ quotient exponent accuracy value,
      UnpackedFloat.divCore .binary64 first firstExponent second secondExponent =
        (quotient, exponent, accuracy) ∧
      Describes quotient value accuracy ∧ (52 ≤ quotient.log2 ∨ exponent ≤ leastExponent) ∧
      value * 2 ^ exponent = first * 2 ^ firstExponent / (second * 2 ^ secondExponent) := by
  set target := min (firstExponent - secondExponent) (Format.binary64.targetExponent
    (totalExponent first firstExponent - totalExponent second secondExponent)) with isTarget
  set places := (firstExponent - secondExponent - target).toNat with isPlaces
  refine ⟨(first <<< places) / second, target, _, _, rfl,
    describes_accuracyOfFraction _ (Nat.pos_of_ne_zero secondNonzero), ?_, ?_⟩
  · simp only [Format.targetExponent, Format.minExponent, Format.mantissaBits,
      totalExponent] at isTarget
    by_cases isLeast : target ≤ leastExponent
    · exact .inr isLeast
    · left
      apply le_log2_div secondNonzero
      rw [log2_shiftLeft firstNonzero]
      simp only [leastExponent] at isLeast
      omega
  · have isDifference : target = firstExponent - secondExponent - places := by omega
    rw [isDifference, div_mul_eq_mul_div, cast_shiftLeft, zpow_sub₀ two_ne_zero]
    field_simp

theorem signOf_div (firstNegative secondNegative : Bool) :
    signOf firstNegative / signOf secondNegative = signOf (firstNegative ^^ secondNegative) := by
  cases firstNegative <;> cases secondNegative <;> rfl

/-- The quotient of finite floats is the float nearest to the exact quotient. -/
theorem HasValue.div (isFirst : HasValue firstFloat firstValue)
    (isSecond : HasValue secondFloat secondValue) (nonzero : secondValue ≠ 0) :
    IsRounded (firstValue / secondValue) (firstFloat / secondFloat) := by
  rcases isFirst with ⟨firstNegative, first, firstExponent, firstDecodes, rfl⟩
  rcases isSecond with ⟨secondNegative, second, secondExponent, secondDecodes, rfl⟩
  have secondNonzero : second ≠ 0 := by
    rintro rfl
    simp [signed] at nonzero
  have isQuotient : firstFloat / secondFloat = packed (.div .binary64
      (toUnpacked (.finite firstNegative first firstExponent))
      (toUnpacked (.finite secondNegative second secondExponent))) := by
    rw [← firstDecodes, ← secondDecodes, ← unpack_eq, ← unpack_eq]
    rfl
  rw [isQuotient, ← signed_div]
  by_cases firstZero : first = 0
  · subst firstZero
    simp only [toUnpacked, dite_true, secondNonzero, dite_false, UnpackedFloat.div, signOf_div]
    have isRounded := isRounded_zero (firstNegative ^^ secondNegative)
    simpa [signed] using isRounded
  · rcases divCore_spec firstZero secondNonzero firstExponent secondExponent with
      ⟨quotient, exponent, accuracy, value, isCore, describes, hasBits, isValue⟩
    rcases describes.packed_roundWithAccuracy (firstNegative ^^ secondNegative) hasBits
      with ⟨rounded, grid, rounds, isPacked⟩
    simp only [toUnpacked, firstZero, secondNonzero, dite_false, UnpackedFloat.div, signOf_div,
      isCore, isPacked]
    rw [isValue] at rounds
    exact rounds.isRounded (by positivity) _

end Binary64

end Reckoner
