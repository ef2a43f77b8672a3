import Reckoner.Decimal.Fixed
import Reckoner.Proofs.Binary64.Nearest

/-!
# Rounding a float to decimal places

Two roundings follow each other: to the decimal grid and from there to the floats. A second pass
changes nothing, and which of the two grids is finer decides why. Where the floats lie closer than
the decimals, the float is nearer to its decimal than to any other. Where they lie farther apart,
the decimal is nearer to its float than to any other, unless the float is a power of two, below
which the floats lie twice as close. But such a power of two is on the decimal grid itself.
-/

namespace Reckoner

namespace Decimal

open Binary64

variable {places : ℕ} {value : Float} {negative : Bool} {significand : ℕ} {exponent : ℤ}

/-- A magnitude is counted in units of the last decimal place. -/
theorem isNearestEven_scaledToPlaces (places significand : ℕ) (exponent : ℤ) :
    Rounding.IsNearestEven (significand * 2 ^ exponent * 10 ^ places)
      (scaledToPlaces places significand exponent) := by
  have nearest := Rounding.isNearestEven_nearestEven
    (significand * (powerQuotient 2 exponent).1 * 10 ^ places)
    (powerQuotient_pos two_pos exponent).2
  have isQuotient := cast_powerQuotient 2 exponent
  rw [Nat.cast_ofNat] at isQuotient
  rw [← isQuotient, mul_div_assoc', div_mul_eq_mul_div]
  exact_mod_cast nearest

theorem scaledToPlaces_eq {units : ℕ}
    (nearest : Rounding.IsNearestEven (significand * 2 ^ exponent * 10 ^ places) units) :
    scaledToPlaces places significand exponent = units :=
  (isNearestEven_scaledToPlaces places significand exponent).unique nearest

theorem roundToPlaces_of_finite (decodes : ofFloat value = .finite negative significand exponent) :
    roundToPlaces places value =
      Binary64.nearest negative (scaledToPlaces places significand exponent) (10 ^ places) := by
  simp only [roundToPlaces, decodes]
  rfl

/-- Decimals whose nearest float is a magnitude become that magnitude. -/
theorem roundToPlaces_eq_ofPattern {units filled : ℕ} {grid : ℤ}
    (decodes : ofFloat value = .finite negative significand exponent)
    (nearest : Rounding.IsNearestEven (significand * 2 ^ exponent * 10 ^ places) units)
    (rounds : IsRounding (units / 10 ^ places) filled grid)
    (isMagnitude : IsMagnitude filled grid) :
    roundToPlaces places value = ofPattern negative (pattern filled grid) := by
  have positive : 0 < 10 ^ places := by positivity
  have rounds' : IsRounding (units / (10 ^ places : ℕ)) filled grid := by
    rw [Nat.cast_pow, Nat.cast_ofNat]
    exact rounds
  rw [roundToPlaces_of_finite decodes, scaledToPlaces_eq nearest, nearest_eq_ofPattern,
    nearestBits_eq positive rounds', min_eq_right (pattern_lt isMagnitude).le]

/-- A float on the decimal grid is kept. -/
theorem roundToPlaces_eq_self (units : ℕ)
    (decodes : ofFloat value = .finite negative significand exponent)
    (isDecimal : (significand : ℚ) * 2 ^ exponent * 10 ^ places = units) :
    roundToPlaces places value = value := by
  rcases of_ofFloat_eq_finite decodes with ⟨isMagnitude, valueEq⟩
  have nearest : Rounding.IsNearestEven (significand * 2 ^ exponent * 10 ^ places) units := by
    apply Rounding.IsNearestEven.of_lt
    rw [isDecimal, sub_self, abs_zero]
    norm_num
  have rounds : IsRounding (units / 10 ^ places) significand exponent := by
    rw [← isDecimal, mul_div_cancel_right₀ _ (by positivity)]
    exact isMagnitude.isRounding
  rw [roundToPlaces_eq_ofPattern decodes nearest rounds isMagnitude, ← valueEq]

/-- A power of two at the start of a binade is on the decimal grid if the floats there lie farther
apart than the decimals. -/
theorem exists_units_of_isPower (few : places ≤ 22)
    (coarse : 1 ≤ (10 : ℚ) ^ places * 2 ^ exponent) :
    ∃ units : ℕ, ((2 ^ 52 : ℕ) : ℚ) * 2 ^ exponent * 10 ^ places = units := by
  have split_ten : (10 : ℚ) ^ places = 2 ^ (places : ℤ) * 5 ^ places := by
    rw [zpow_natCast, ← mul_pow]
    norm_num
  have five_lt : (5 : ℚ) ^ places < 2 ^ (52 : ℤ) := by
    calc (5 : ℚ) ^ places ≤ 5 ^ 22 := pow_le_pow_right₀ (by norm_num) few
      _ < 2 ^ (52 : ℤ) := by norm_num
  have lifted : (2 : ℚ) ^ (0 : ℤ) < 2 ^ (52 + exponent + places) := by
    calc (2 : ℚ) ^ (0 : ℤ) ≤ 5 ^ places * (2 ^ exponent * 2 ^ (places : ℤ)) := by
          rw [split_ten] at coarse
          rw [zpow_zero]
          linarith
      _ < 2 ^ (52 : ℤ) * (2 ^ exponent * 2 ^ (places : ℤ)) := by gcongr
      _ = 2 ^ (52 + exponent + places) := by
        rw [zpow_add₀ two_ne_zero, zpow_add₀ two_ne_zero, mul_assoc]
  rw [zpow_lt_zpow_iff_right₀ one_lt_two] at lifted
  obtain ⟨power, isPower⟩ : ∃ power : ℕ, 52 + exponent + places = power :=
    ⟨(52 + exponent + places).toNat, by omega⟩
  refine ⟨2 ^ power * 5 ^ places, ?_⟩
  push_cast
  rw [← zpow_natCast 2 power, ← isPower, zpow_add₀ two_ne_zero, zpow_add₀ two_ne_zero, split_ten]
  norm_num
  ring

/-- A float is kept where the floats lie farther apart than the decimals. The decimal is less than
half a step away from it, and the step below is as wide unless the significand is a power. -/
theorem roundToPlaces_of_coarse (few : places ≤ 22)
    (decodes : ofFloat value = .finite negative significand exponent)
    (coarse : 1 ≤ (10 : ℚ) ^ places * 2 ^ exponent) : roundToPlaces places value = value := by
  rcases of_ofFloat_eq_finite decodes with ⟨isMagnitude, valueEq⟩
  by_cases isPower : significand = 2 ^ 52
  · rcases exists_units_of_isPower few coarse with ⟨units, isDecimal⟩
    exact roundToPlaces_eq_self units decodes (isPower ▸ isDecimal)
  rcases coarse.eq_or_lt with same | coarser
  · refine roundToPlaces_eq_self significand decodes ?_
    rw [mul_assoc, mul_comm (2 ^ exponent), ← same, mul_one]
  have nearest := isNearestEven_scaledToPlaces places significand exponent
  generalize scaledToPlaces places significand exponent = units at nearest
  have near : |(units : ℚ) / 10 ^ places / 2 ^ exponent - significand| < 1 / 2 := by
    have scale_pos : (0 : ℚ) < 10 ^ places * 2 ^ exponent := by positivity
    have distance : (units : ℚ) / 10 ^ places / 2 ^ exponent - significand =
        -(significand * 2 ^ exponent * 10 ^ places - units) / (10 ^ places * 2 ^ exponent) := by
      field_simp
      ring
    rw [distance, abs_div, abs_neg, abs_of_pos scale_pos, div_lt_iff₀ scale_pos]
    have unit_near := nearest.near
    linarith
  have rounds : IsRounding (units / 10 ^ places) significand exponent := by
    rcases abs_lt.mp near with ⟨above, below⟩
    refine ⟨isMagnitude.least_le, ?_, ?_, .of_lt near⟩
    · have significand_lt : (significand : ℚ) + 1 ≤ 2 ^ 53 := by exact_mod_cast isMagnitude.lt
      linarith
    · refine isMagnitude.isNormal.imp_left ?_
      intro isFilled
      have significand_gt : (2 : ℚ) ^ 52 + 1 ≤ significand := by
        exact_mod_cast lt_of_le_of_ne isFilled (Ne.symm isPower)
      linarith
  rw [roundToPlaces_eq_ofPattern decodes nearest rounds isMagnitude, ← valueEq]

/-! ## What the rounding of a finite float is -/

theorem cast_scaledToPlaces_of_nonneg (isWhole : 0 ≤ exponent) :
    (scaledToPlaces places significand exponent : ℚ) =
      significand * 2 ^ exponent * 10 ^ places := by
  lift exponent to ℕ using isWhole
  have nearest : Rounding.IsNearestEven (significand * 2 ^ (exponent : ℤ) * 10 ^ places)
      (significand * 2 ^ exponent * 10 ^ places) := by
    apply Rounding.IsNearestEven.of_lt
    simp
  rw [scaledToPlaces_eq nearest]
  push_cast
  rfl

theorem scaledToPlaces_div_lt (places significand : ℕ) (exponent : ℤ) :
    (scaledToPlaces places significand exponent : ℚ) / 10 ^ places <
      significand * 2 ^ exponent + 1 := by
  have near := abs_le.mp (isNearestEven_scaledToPlaces places significand exponent).near
  have one_le : (1 : ℚ) ≤ 10 ^ places := one_le_pow₀ (by norm_num)
  rw [div_lt_iff₀ (by positivity)]
  linarith

/-- A rounding to decimal places is never infinite. -/
theorem exists_isRounding_of_finite (places : ℕ)
    (decodes : ofFloat value = .finite negative significand exponent) :
    ∃ point grid filled power,
      IsRounding (scaledToPlaces places significand exponent / 10 ^ places) point grid ∧
        IsPacked point grid filled power ∧
        roundToPlaces places value = ofPattern negative (pattern filled power) := by
  have isMagnitude := (of_ofFloat_eq_finite decodes).1
  have positive : 0 < 10 ^ places := by positivity
  rcases exists_isRounding (scaledToPlaces places significand exponent) positive with
    ⟨point, grid, rounds, bits⟩
  rw [Nat.cast_pow, Nat.cast_ofNat] at rounds
  have isFinite : pattern point grid < infinityBits := by
    rcases le_or_gt 0 exponent with isWhole | isFraction
    · rw [cast_scaledToPlaces_of_nonneg isWhole, mul_div_cancel_right₀ _ (by positivity)] at rounds
      rcases rounds.unique isMagnitude.isRounding with ⟨rfl, rfl⟩
      exact pattern_lt isMagnitude
    · apply rounds.pattern_lt_of_lt
      have small := isMagnitude.mul_lt isFraction.le
      have quotient_lt := scaledToPlaces_div_lt places significand exponent
      rw [zpow_zero] at small
      linarith
  rcases rounds.exists_isPacked isFinite with ⟨filled, power, packed⟩
  refine ⟨point, grid, filled, power, rounds, packed, ?_⟩
  rw [roundToPlaces_of_finite decodes, nearest_eq_ofPattern, bits, min_eq_right isFinite.le,
    packed.samePattern]

/-- The rounding of a finite float is the float nearest to a decimal. -/
theorem isNearestFloat_roundToPlaces (places : ℕ)
    (decodes : ofFloat value = .finite negative significand exponent) :
    IsNearestFloat negative (scaledToPlaces places significand exponent / 10 ^ places)
      (roundToPlaces places value) := by
  rcases exists_isRounding_of_finite places decodes with
    ⟨point, grid, filled, power, rounds, packed, roundsTo⟩
  refine ⟨filled, power, ?_, rounds.isNearestMagnitude packed⟩
  rw [roundsTo, ofFloat_ofPattern packed.isMagnitude]

/-- Where the floats lie closer than the decimals, the rounding counts the same units as the
value. -/
theorem scaledToPlaces_of_fine {units point filled : ℕ} {grid power : ℤ}
    (rounds : IsRounding (units / 10 ^ places) point grid)
    (packed : IsPacked point grid filled power)
    (fine : (10 : ℚ) ^ places * 2 ^ grid < 1) : scaledToPlaces places filled power = units := by
  apply scaledToPlaces_eq
  apply Rounding.IsNearestEven.of_lt
  have scale_pos : (0 : ℚ) < 10 ^ places * 2 ^ grid := by positivity
  have distance : (point : ℚ) * 2 ^ grid * 10 ^ places - units =
      -(units / 10 ^ places / 2 ^ grid - point) * (10 ^ places * 2 ^ grid) := by
    field_simp
    ring
  rw [packed.sameValue, distance, abs_mul, abs_neg, abs_of_pos scale_pos]
  calc |(units : ℚ) / 10 ^ places / 2 ^ grid - point| * (10 ^ places * 2 ^ grid)
      ≤ 1 / 2 * (10 ^ places * 2 ^ grid) := by
        gcongr
        exact rounds.nearest.near
    _ < 1 / 2 := by linarith

/-- A second rounding to the same places changes nothing. -/
theorem roundToPlaces_roundToPlaces (few : places ≤ 22) (value : Float) :
    roundToPlaces places (roundToPlaces places value) = roundToPlaces places value := by
  rcases decodes : ofFloat value with ⟨negative, significand, exponent⟩ | negative | _
  · rcases exists_isRounding_of_finite places decodes with
      ⟨point, grid, filled, power, rounds, packed, roundsTo⟩
    have decodes' : ofFloat (ofPattern negative (pattern filled power)) =
        .finite negative filled power := ofFloat_ofPattern packed.isMagnitude
    rw [roundsTo]
    rcases lt_or_ge ((10 : ℚ) ^ places * 2 ^ grid) 1 with fine | coarse
    · rw [roundToPlaces_of_finite decodes', scaledToPlaces_of_fine rounds packed fine,
        ← roundToPlaces_of_finite decodes, roundsTo]
    · apply roundToPlaces_of_coarse few decodes'
      calc (1 : ℚ) ≤ 10 ^ places * 2 ^ grid := coarse
        _ ≤ 10 ^ places * 2 ^ power := by
          gcongr
          · exact one_le_two
          · exact packed.grid_le
  · simp only [roundToPlaces, decodes]
  · simp only [roundToPlaces, decodes]

end Decimal

end Reckoner
