import Reckoner.Proofs.Binary64.Operations

/-!
# Floats and their values

Finite floats compare as their values do, and but for the signs of zero a value belongs to one float
only. A rounded value is infinite or the nearest of all values of floats, which is enough to tell
what a sum or a quotient can be without looking at its bits. In particular no difference of distinct
values is rounded to zero, since all values are multiples of the least positive one.
-/

namespace Reckoner

namespace Binary64

open Float.Model (UnpackedFloat)

variable {first second significand : ℕ} {firstExponent secondExponent exponent : ℤ}
  {float firstFloat secondFloat : Float} {value found firstValue secondValue : ℚ}

/-! ## Comparisons -/

/-- Magnitudes are ordered by their exponents first. -/
theorem IsMagnitude.lt_of_exponent_lt (isFirst : IsMagnitude first firstExponent)
    (isSecond : IsMagnitude second secondExponent) (lt : firstExponent < secondExponent) :
    (first : ℚ) * 2 ^ firstExponent < second * 2 ^ secondExponent := by
  have notLeast : secondExponent ≠ leastExponent := (isFirst.least_le.trans_lt lt).ne'
  have filled : (2 : ℚ) ^ 52 ≤ second := by exact_mod_cast isSecond.isNormal.resolve_right notLeast
  calc (first : ℚ) * 2 ^ firstExponent < 2 ^ 53 * 2 ^ (secondExponent - 1) :=
        isFirst.mul_lt (by omega)
    _ = 2 ^ 52 * 2 ^ secondExponent := by
        rw [zpow_sub_one₀ two_ne_zero]
        ring
    _ ≤ second * 2 ^ secondExponent := by gcongr

theorem IsMagnitude.compares (isFirst : IsMagnitude first firstExponent)
    (isSecond : IsMagnitude second secondExponent) :
    ((compare firstExponent secondExponent).then (compare first second)).Compares
      ((first : ℚ) * 2 ^ firstExponent) (second * 2 ^ secondExponent) := by
  rcases lt_trichotomy firstExponent secondExponent with lt | rfl | gt
  · rw [compare_lt_iff_lt.mpr lt]
    exact isFirst.lt_of_exponent_lt isSecond lt
  · rw [compare_eq_iff_eq.mpr rfl]
    have unit_pos : (0 : ℚ) < 2 ^ firstExponent := by positivity
    rcases lt_trichotomy first second with lt | rfl | gt
    · rw [compare_lt_iff_lt.mpr lt]
      exact mul_lt_mul_of_pos_right (Nat.cast_lt.mpr lt) unit_pos
    · rw [compare_eq_iff_eq.mpr rfl]
      rfl
    · rw [compare_gt_iff_gt.mpr gt]
      exact mul_lt_mul_of_pos_right (Nat.cast_lt.mpr gt) unit_pos
  · rw [compare_gt_iff_gt.mpr gt]
    exact isSecond.lt_of_exponent_lt isFirst gt

theorem compares_neg {order : Ordering} (compares : order.Compares firstValue secondValue) :
    order.swap.Compares (-firstValue) (-secondValue) := by
  cases order with
  | lt => exact neg_lt_neg compares
  | eq => exact congrArg _ compares
  | gt => exact neg_lt_neg compares

/-- Unpacked floats compare as their values do. -/
theorem compare_toUnpacked (firstNegative secondNegative : Bool)
    (isFirst : IsMagnitude first firstExponent) (isSecond : IsMagnitude second secondExponent) :
    ∃ order, (toUnpacked (.finite firstNegative first firstExponent)).compare
        (toUnpacked (.finite secondNegative second secondExponent)) = some order ∧
      order.Compares (signed firstNegative (first * 2 ^ firstExponent))
        (signed secondNegative (second * 2 ^ secondExponent)) := by
  have compares := isFirst.compares isSecond
  have value_pos {significand : ℕ} (nonzero : significand ≠ 0) (exponent : ℤ) :
      0 < (significand : ℚ) * 2 ^ exponent :=
    mul_pos (Nat.cast_pos.mpr (Nat.pos_of_ne_zero nonzero)) (by positivity)
  by_cases firstZero : first = 0 <;> by_cases secondZero : second = 0
  · exact ⟨.eq, by simp [toUnpacked, firstZero, secondZero, UnpackedFloat.compare],
      by simp [Ordering.Compares, signed, firstZero, secondZero]⟩
  · have second_pos := value_pos secondZero secondExponent
    simp only [toUnpacked, firstZero, secondZero, dite_true, dite_false]
    cases secondNegative with
    | false => exact ⟨.lt, rfl, by simpa [Ordering.Compares, signed] using second_pos⟩
    | true => exact ⟨.gt, rfl, by simpa [Ordering.Compares, signed] using second_pos⟩
  · have first_pos := value_pos firstZero firstExponent
    simp only [toUnpacked, firstZero, secondZero, dite_true, dite_false]
    cases firstNegative with
    | false => exact ⟨.gt, rfl, by simpa [Ordering.Compares, signed] using first_pos⟩
    | true => exact ⟨.lt, rfl, by simpa [Ordering.Compares, signed] using first_pos⟩
  · have first_pos := value_pos firstZero firstExponent
    have second_pos := value_pos secondZero secondExponent
    simp only [toUnpacked, firstZero, secondZero, dite_false]
    cases firstNegative <;> cases secondNegative
    · exact ⟨_, rfl, compares⟩
    · exact ⟨.gt, rfl, (neg_neg_of_pos second_pos).trans first_pos⟩
    · exact ⟨.lt, rfl, (neg_neg_of_pos first_pos).trans second_pos⟩
    · exact ⟨_, rfl, compares_neg compares⟩

theorem HasValue.compare (isFirst : HasValue firstFloat firstValue)
    (isSecond : HasValue secondFloat secondValue) :
    ∃ order, firstFloat.toModel.unpack.compare secondFloat.toModel.unpack = some order ∧
      order.Compares firstValue secondValue := by
  rcases isFirst with ⟨firstNegative, first, firstExponent, firstDecodes, rfl⟩
  rcases isSecond with ⟨secondNegative, second, secondExponent, secondDecodes, rfl⟩
  rw [unpack_eq, unpack_eq, firstDecodes, secondDecodes]
  exact compare_toUnpacked firstNegative secondNegative (of_ofFloat_eq_finite firstDecodes).1
    (of_ofFloat_eq_finite secondDecodes).1

theorem HasValue.le_iff (isFirst : HasValue firstFloat firstValue)
    (isSecond : HasValue secondFloat secondValue) :
    firstFloat ≤ secondFloat ↔ firstValue ≤ secondValue := by
  rcases isFirst.compare isSecond with ⟨order, isOrder, compares⟩
  have le : firstFloat ≤ secondFloat ↔
      firstFloat.toModel.unpack.le secondFloat.toModel.unpack = true := decide_eq_true_iff
  rw [← compares.ne_gt, le, UnpackedFloat.le, isOrder]
  cases order <;> simp

theorem HasValue.lt_iff (isFirst : HasValue firstFloat firstValue)
    (isSecond : HasValue secondFloat secondValue) :
    firstFloat < secondFloat ↔ firstValue < secondValue := by
  rcases isFirst.compare isSecond with ⟨order, isOrder, compares⟩
  have lt : firstFloat < secondFloat ↔
      firstFloat.toModel.unpack.lt secondFloat.toModel.unpack = true := decide_eq_true_iff
  rw [← compares.eq_lt, lt, UnpackedFloat.lt, isOrder]
  cases order <;> simp

/-! ## Which floats have a value -/

theorem hasValue_or_infinity_or_nan (float : Float) :
    (∃ value, HasValue float value) ∨ (∃ negative, float = infinity negative) ∨ float = nan := by
  cases decodes : ofFloat float with
  | finite negative significand exponent => exact .inl ⟨_, _, _, _, decodes, rfl⟩
  | infinite negative => exact .inr (.inl ⟨negative, eq_infinity_of_ofFloat decodes⟩)
  | notANumber => exact .inr (.inr (eq_nan_of_ofFloat decodes))

theorem exists_ofFloat_eq_finite (isFinite : float.isFinite = true) :
    ∃ negative significand exponent, ofFloat float = .finite negative significand exponent := by
  have unpacked : float.toModel.unpack.isFinite = true := isFinite
  rw [unpack_eq] at unpacked
  cases decodes : ofFloat float with
  | finite negative significand exponent => exact ⟨negative, significand, exponent, rfl⟩
  | infinite negative =>
    rw [decodes] at unpacked
    contradiction
  | notANumber =>
    rw [decodes] at unpacked
    contradiction

theorem HasValue.ne_infinity (hasValue : HasValue float value) (negative : Bool) :
    float ≠ infinity negative := by
  rintro rfl
  rcases hasValue with ⟨_, _, _, decodes, -⟩
  have isInfinite : ofFloat (infinity negative) = .infinite negative := by
    cases negative <;> decide
  rw [isInfinite] at decodes
  contradiction

theorem HasValue.ne_nan (hasValue : HasValue float value) : float ≠ nan := by
  rintro rfl
  rcases hasValue with ⟨_, _, _, decodes, -⟩
  have isNaN : ofFloat nan = .notANumber := by decide
  rw [isNaN] at decodes
  contradiction

theorem HasValue.unique (isFirst : HasValue float firstValue)
    (isSecond : HasValue float secondValue) :
    firstValue = secondValue := by
  rcases isFirst with ⟨_, _, _, decodes, rfl⟩
  rcases isSecond with ⟨_, _, _, same, rfl⟩
  rw [decodes] at same
  cases same
  rfl

/-- A float other than zero is told by its value. -/
theorem HasValue.eq_of_ne_zero (isFirst : HasValue firstFloat value)
    (isSecond : HasValue secondFloat value) (nonzero : value ≠ 0) : firstFloat = secondFloat := by
  rcases isFirst with ⟨firstNegative, first, firstExponent, firstDecodes, rfl⟩
  rcases isSecond with ⟨secondNegative, second, secondExponent, secondDecodes, same⟩
  rcases of_ofFloat_eq_finite firstDecodes with ⟨firstIsMagnitude, rfl⟩
  rcases of_ofFloat_eq_finite secondDecodes with ⟨secondIsMagnitude, rfl⟩
  rcases eq_of_signed_eq_signed (by positivity) (by positivity) same with ⟨sameMagnitude, signs⟩
  have magnitude_ne_zero : (first : ℚ) * 2 ^ firstExponent ≠ 0 := by
    intro isZero
    exact nonzero (by rw [isZero, signed, neg_zero, ite_self])
  have firstRounds := firstIsMagnitude.isRounding
  rw [sameMagnitude] at firstRounds
  rcases firstRounds.unique secondIsMagnitude.isRounding with ⟨rfl, rfl⟩
  have sameSign := signs magnitude_ne_zero
  rw [sameSign]

/-- The values of floats are multiples of the least positive one. -/
theorem HasValue.exists_int (hasValue : HasValue float value) :
    ∃ count : ℤ, value = count * 2 ^ leastExponent := by
  rcases hasValue with ⟨negative, significand, exponent, decodes, rfl⟩
  have least_le := (of_ofFloat_eq_finite decodes).1.least_le
  rcases decreaseExponent_eq significand least_le with ⟨scaled, -, isScaled⟩
  refine ⟨(signOf negative).apply scaled, ?_⟩
  rw [cast_apply, ← signed_mul, isScaled]

/-! ## What a rounded value is -/

theorem IsRounded.cases (isRounded : IsRounded value float) :
    ∃ negative, value = signed negative |value| ∧
      (float = infinity negative ∧ 2 ^ 54 ≤ |value| ∨ IsNearestFloat negative |value| float) := by
  rcases isRounded with ⟨negative, significand, grid, sign, rounds, rfl⟩
  refine ⟨negative, sign, ?_⟩
  rcases lt_or_ge (pattern significand grid) infinityBits with isFinite | overflows
  · right
    rcases rounds.exists_isPacked isFinite with ⟨filled, exponent, isPacked⟩
    refine ⟨filled, exponent, ?_, rounds.isNearestMagnitude isPacked⟩
    rw [min_eq_right isFinite.le, isPacked.samePattern, ofFloat_ofPattern isPacked.isMagnitude]
  · left
    refine ⟨?_, ?_⟩
    · rw [min_eq_left overflows]
      rfl
    · by_contra small
      exact (rounds.pattern_lt_of_lt (not_le.mp small)).not_ge overflows

/-- No magnitude is nearer to a value than its rounding, if that is finite. -/
theorem IsRounded.abs_sub_le (isRounded : IsRounded value float) (hasValue : HasValue float found)
    (isMagnitude : IsMagnitude significand exponent) :
    |(|value| - |found|)| ≤ |(|value| - significand * 2 ^ exponent)| := by
  rcases isRounded.cases with ⟨negative, -, ⟨isInfinite, -⟩ | ⟨rounded, grid, decodes, nearest⟩⟩
  · exact absurd isInfinite (hasValue.ne_infinity negative)
  · rcases hasValue with ⟨_, _, _, same, rfl⟩
    rw [decodes] at same
    cases same
    rw [abs_signed _ (by positivity)]
    exact nearest.near _ _ isMagnitude

theorem IsRounded.eq_zero (isRounded : IsRounded 0 float) (hasValue : HasValue float found) :
    found = 0 := by
  have near := isRounded.abs_sub_le hasValue isMagnitude_zero
  simpa using near

/-- Rounding does not change the sign. -/
theorem IsRounded.nonneg_cases (isRounded : IsRounded value float) (nonneg : 0 ≤ value) :
    float = infinity false ∨ ∃ found, HasValue float found ∧ 0 ≤ found := by
  rcases isRounded.cases with ⟨negative, sign, isInfinite | ⟨rounded, grid, decodes, -⟩⟩
  · left
    cases negative with
    | false => exact isInfinite.1
    | true =>
      have large := isInfinite.2
      rw [abs_of_nonneg nonneg] at sign large
      simp only [signed, if_true] at sign
      linarith
  · right
    have hasValue : HasValue float (signed negative (rounded * 2 ^ grid)) := ⟨_, _, _, decodes, rfl⟩
    refine ⟨_, hasValue, ?_⟩
    cases negative with
    | false =>
      simp only [signed, Bool.false_eq_true, if_false]
      positivity
    | true =>
      have isZero : value = 0 := by
        rw [abs_of_nonneg nonneg] at sign
        simp only [signed, if_true] at sign
        linarith
      rw [isZero] at isRounded
      exact (isRounded.eq_zero hasValue).ge

/-- A difference is zero only for equal values. It is never rounded to zero, since the least
positive magnitude is nearer to any other difference. -/
theorem HasValue.sub_zero_iff (isFirst : HasValue firstFloat firstValue)
    (isSecond : HasValue secondFloat secondValue) :
    HasValue (firstFloat - secondFloat) 0 ↔ firstValue = secondValue := by
  have isRounded := isFirst.sub isSecond
  constructor
  · intro isZero
    rcases isFirst.exists_int with ⟨firstCount, rfl⟩
    rcases isSecond.exists_int with ⟨secondCount, rfl⟩
    rw [← sub_mul, ← Int.cast_sub] at isRounded
    have unit : IsMagnitude 1 leastExponent := ⟨by decide, le_refl _, by decide, .inr rfl⟩
    have unit_pos : (0 : ℚ) < 2 ^ leastExponent := by positivity
    by_contra distinct
    have near := isRounded.abs_sub_le isZero unit
    have apart : (1 : ℚ) ≤ |((firstCount - secondCount : ℤ) : ℚ)| := by
      have different : firstCount - secondCount ≠ 0 := by
        intro same
        exact distinct (by rw [sub_eq_zero.mp same])
      exact_mod_cast Int.one_le_abs different
    have le_abs : (2 : ℚ) ^ leastExponent ≤
        |((firstCount - secondCount : ℤ) : ℚ)| * 2 ^ leastExponent :=
      le_mul_of_one_le_left unit_pos.le apart
    rw [abs_mul, abs_of_pos unit_pos, abs_zero, sub_zero, Nat.cast_one, one_mul,
      abs_of_nonneg (sub_nonneg.mpr le_abs), abs_of_nonneg (by positivity)] at near
    linarith
  · rintro rfl
    rw [sub_self] at isRounded
    rcases isRounded.cases with ⟨negative, -, ⟨-, large⟩ | ⟨significand, exponent, decodes, -⟩⟩
    · norm_num at large
    · have hasValue : HasValue (firstFloat - secondFloat)
          (signed negative (significand * 2 ^ exponent)) := ⟨_, _, _, decodes, rfl⟩
      rwa [isRounded.eq_zero hasValue] at hasValue

end Binary64

end Reckoner
