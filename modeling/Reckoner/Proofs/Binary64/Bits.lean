import Mathlib
import Reckoner.Binary64

/-!
# Floats as bit patterns

A finite float is a sign and a magnitude, and its bits hold no more than these: magnitudes are
numbered from zero on without gaps, and the pattern of a magnitude is its number. So a magnitude
that is put into bits is decoded unchanged, and a float that is decoded is the only one with its
sign and magnitude. The infinite floats and the float that is no number are the only others.
-/

namespace Reckoner

namespace Binary64

/-! ## Bits that are kept -/

theorem toNat_unpackExponent (bits : BitVec 64) :
    (@Float.Model.UnpackedFloat.unpackExponent .binary64 bits).toNat =
      bits.toNat / 2 ^ 52 % 2048 := by
  simp [Float.Model.UnpackedFloat.unpackExponent, BitVec.extractLsb_toNat,
    Nat.shiftRight_eq_div_pow]

theorem toNat_unpackMantissa (bits : BitVec 64) :
    (@Float.Model.UnpackedFloat.unpackMantissa .binary64 bits).toNat = bits.toNat % 2 ^ 52 := by
  simp [Float.Model.UnpackedFloat.unpackMantissa, BitVec.extractLsb_toNat]

theorem ofBits_toBits (value : Float) : Float.ofBits value.toBits = value := by
  rcases value with ⟨⟨bits, valid⟩⟩
  have same := Float.Model.UnpackedFloat.pack_unpack_of_valid valid
  simp only [Float.ofBits, Float.toBits, Float.Model.ofBits, Float.Model.pack, same]

/-- Bits are kept unless they are those of no number. -/
theorem toBits_ofBits {bits : UInt64}
    (isNumber : bits.toNat / 2 ^ 52 % 2048 = 2047 → bits.toNat % 2 ^ 52 = 0) :
    (Float.ofBits bits).toBits = bits := by
  have notNaN : @Float.Model.UnpackedFloat.isNaNBits .binary64 bits.toBitVec = false := by
    simp only [Float.Model.UnpackedFloat.isNaNBits, decide_eq_false_iff_not, not_and, not_not]
    intro isGreatest
    have field := congrArg BitVec.toNat isGreatest
    rw [toNat_unpackExponent] at field
    apply BitVec.eq_of_toNat_eq
    rw [toNat_unpackMantissa]
    exact isNumber field
  have same := @Float.Model.UnpackedFloat.pack_unpack .binary64 bits.toBitVec (by decide)
  rw [notNaN] at same
  simp only [Float.ofBits, Float.toBits, Float.Model.ofBits, Float.Model.pack, same]
  rfl

/-! ## Magnitudes and their patterns -/

/-- The significands and exponents of finite floats: the significand fills its bits unless the
exponent is the least one. -/
structure IsMagnitude (significand : Nat) (exponent : Int) : Prop where
  lt : significand < 2 * fractionCount
  least_le : leastExponent ≤ exponent
  le_greatest : exponent ≤ 971
  isNormal : fractionCount ≤ significand ∨ exponent = leastExponent

/-- The number of magnitudes below that of a significand and an exponent. -/
def pattern (significand : Nat) (exponent : Int) : Nat :=
  (exponent - leastExponent).toNat * fractionCount + significand

/-- The float of a sign and the pattern of a magnitude. -/
def ofPattern (negative : Bool) (pattern : Nat) : Float :=
  Float.ofBits (UInt64.ofNat (signBits negative + pattern))

variable {negative : Bool} {significand : Nat} {exponent : Int} {value : Float}

theorem pattern_lt (isMagnitude : IsMagnitude significand exponent) :
    pattern significand exponent < infinityBits := by
  rcases isMagnitude with ⟨lt, least_le, le_greatest, -⟩
  simp only [pattern, infinityBits, leastExponent, fractionCount, Nat.pow_eq] at *
  omega

theorem signBits_cases (negative : Bool) :
    (negative = false ∧ signBits negative = 0) ∨
      (negative = true ∧ signBits negative = 2 ^ 63) := by
  cases negative <;> simp [signBits]

theorem toNat_toBits_ofPattern (negative : Bool) {pattern : Nat} (le : pattern ≤ infinityBits) :
    (ofPattern negative pattern).toBits.toNat = signBits negative + pattern := by
  have sign := signBits_cases negative
  simp only [infinityBits, fractionCount, Nat.pow_eq] at le
  have toNat_ofNat : (UInt64.ofNat (signBits negative + pattern)).toNat =
      signBits negative + pattern := by
    rw [UInt64.toNat_ofNat', Nat.mod_eq_of_lt]
    omega
  rw [ofPattern, toBits_ofBits, toNat_ofNat]
  rw [toNat_ofNat]
  omega

/-- The bits of a float are its sign, the field of its exponent and the field of its fraction. -/
theorem exists_fields (value : Float) :
    ∃ (negative : Bool) (field fraction : Nat), field < 2048 ∧ fraction < fractionCount ∧
      value.toBits.toNat = signBits negative + (field * fractionCount + fraction) := by
  have lt := value.toBits.toNat_lt
  refine ⟨decide (2 ^ 63 ≤ value.toBits.toNat), value.toBits.toNat / fractionCount % 2048,
    value.toBits.toNat % fractionCount, ?_, ?_, ?_⟩
  · omega
  · simp only [fractionCount, Nat.pow_eq]
    omega
  · simp only [signBits, fractionCount, Nat.pow_eq, decide_eq_true_eq]
    split
    · omega
    · omega

theorem ofFloat_of_fields {field fraction : Nat} (field_lt : field < 2048)
    (fraction_lt : fraction < fractionCount)
    (bits : value.toBits.toNat = signBits negative + (field * fractionCount + fraction)) :
    ofFloat value =
      if field = 2047 then if fraction = 0 then .infinite negative else .notANumber
      else if field = 0 then .finite negative fraction leastExponent
      else .finite negative (fractionCount + fraction) (field - 1 + leastExponent) := by
  have sign := signBits_cases negative
  have fractionCount_eq : fractionCount = 2 ^ 52 := rfl
  rw [fractionCount_eq] at fraction_lt bits
  have isNegative : decide (Nat.pow 2 63 ≤ value.toBits.toNat) = negative := by
    rcases sign with ⟨rfl, sign⟩ | ⟨rfl, sign⟩
    · rw [decide_eq_false_iff_not, Nat.pow_eq]
      omega
    · rw [decide_eq_true_iff, Nat.pow_eq]
      omega
  have isField : value.toBits.toNat / fractionCount % 2048 = field := by
    rw [fractionCount_eq]
    omega
  have isFraction : value.toBits.toNat % fractionCount = fraction := by
    rw [fractionCount_eq]
    omega
  simp only [ofFloat, isNegative, isField, isFraction]

/-- The field of the exponent is zero for the significands that do not fill their bits. -/
theorem IsMagnitude.pattern_eq_fields (isMagnitude : IsMagnitude significand exponent) :
    (exponent = leastExponent ∧ significand < fractionCount ∧
        pattern significand exponent = 0 * fractionCount + significand) ∨
      ∃ field fraction : Nat, 0 < field ∧ field < 2047 ∧ fraction < fractionCount ∧
        significand = fractionCount + fraction ∧ exponent = field - 1 + leastExponent ∧
        pattern significand exponent = field * fractionCount + fraction := by
  rcases isMagnitude with ⟨lt, least_le, le_greatest, isNormal⟩
  by_cases isFilled : fractionCount ≤ significand
  · right
    refine ⟨(exponent - leastExponent).toNat + 1, significand - fractionCount, ?_⟩
    simp only [pattern, leastExponent, fractionCount, Nat.pow_eq] at *
    omega
  · left
    simp only [pattern, leastExponent, fractionCount, Nat.pow_eq] at *
    omega

/-- A magnitude that is put into bits is decoded unchanged. -/
theorem ofFloat_ofPattern (isMagnitude : IsMagnitude significand exponent) :
    ofFloat (ofPattern negative (pattern significand exponent)) =
      .finite negative significand exponent := by
  have bits := toNat_toBits_ofPattern negative (pattern_lt isMagnitude).le
  rcases isMagnitude.pattern_eq_fields with ⟨rfl, fraction_lt, patternEq⟩ |
    ⟨field, fraction, field_pos, field_lt, fraction_lt, rfl, rfl, patternEq⟩
  · rw [patternEq] at bits ⊢
    rw [ofFloat_of_fields (by decide) fraction_lt bits]
    rfl
  · have notGreatest : field ≠ 2047 := by omega
    have notZero : field ≠ 0 := by omega
    rw [patternEq] at bits ⊢
    rw [ofFloat_of_fields (by omega) fraction_lt bits, if_neg notGreatest, if_neg notZero]

theorem eq_of_toNat_toBits {first second : Float}
    (same : first.toBits.toNat = second.toBits.toNat) : first = second := by
  rw [← ofBits_toBits first, ← ofBits_toBits second, UInt64.toNat_inj.mp same]

theorem isMagnitude_of_fraction {fraction : Nat} (fraction_lt : fraction < fractionCount) :
    IsMagnitude fraction leastExponent ∧ pattern fraction leastExponent = fraction := by
  refine ⟨⟨by omega, le_refl _, by decide, .inr rfl⟩, ?_⟩
  simp [pattern]

theorem isMagnitude_of_fields {field fraction : Nat} (field_pos : 0 < field)
    (field_lt : field < 2047) (fraction_lt : fraction < fractionCount) :
    IsMagnitude (fractionCount + fraction) (field - 1 + leastExponent) ∧
      pattern (fractionCount + fraction) (field - 1 + leastExponent) =
        field * fractionCount + fraction := by
  simp only [fractionCount, Nat.pow_eq] at fraction_lt
  refine ⟨⟨?_, ?_, ?_, .inl ?_⟩, ?_⟩
  all_goals simp only [pattern, leastExponent, fractionCount, Nat.pow_eq]; omega

/-- A finite float is the only one with its sign and magnitude. -/
theorem of_ofFloat_eq_finite (decodes : ofFloat value = .finite negative significand exponent) :
    IsMagnitude significand exponent ∧
      value = ofPattern negative (pattern significand exponent) := by
  rcases exists_fields value with ⟨sign, field, fraction, field_lt, fraction_lt, bits⟩
  rw [ofFloat_of_fields field_lt fraction_lt bits] at decodes
  have encodes : IsMagnitude significand exponent ∧
      pattern significand exponent = field * fractionCount + fraction ∧ sign = negative := by
    split at decodes
    · split at decodes <;> contradiction
    next notGreatest =>
    split at decodes
    · next isZero =>
      cases decodes
      rcases isMagnitude_of_fraction fraction_lt with ⟨isMagnitude, patternEq⟩
      exact ⟨isMagnitude, by simp [patternEq, isZero], rfl⟩
    · next notZero =>
      cases decodes
      rcases isMagnitude_of_fields (Nat.pos_of_ne_zero notZero) (by omega) fraction_lt with
        ⟨isMagnitude, patternEq⟩
      exact ⟨isMagnitude, patternEq, rfl⟩
  rcases encodes with ⟨isMagnitude, patternEq, rfl⟩
  refine ⟨isMagnitude, eq_of_toNat_toBits ?_⟩
  rw [toNat_toBits_ofPattern _ (pattern_lt isMagnitude).le, patternEq, bits]

theorem eq_infinity_of_ofFloat (decodes : ofFloat value = .infinite negative) :
    value = infinity negative := by
  rcases exists_fields value with ⟨sign, field, fraction, field_lt, fraction_lt, bits⟩
  rw [ofFloat_of_fields field_lt fraction_lt bits] at decodes
  split at decodes
  · next isGreatest =>
    split at decodes
    · next isZero =>
      cases decodes
      refine eq_of_toNat_toBits ?_
      have infinityBits_eq := toNat_toBits_ofPattern negative (le_refl infinityBits)
      rw [bits, isGreatest, isZero]
      exact infinityBits_eq.symm
    · contradiction
  · split at decodes <;> contradiction

/-- There is one float that is no number. -/
theorem eq_nan_of_ofFloat (decodes : ofFloat value = .notANumber) : value = nan := by
  rcases exists_fields value with ⟨sign, field, fraction, field_lt, fraction_lt, bits⟩
  rw [ofFloat_of_fields field_lt fraction_lt bits] at decodes
  split at decodes
  · next isGreatest =>
    split at decodes
    · contradiction
    · next notZero =>
      rcases value with ⟨⟨word, valid⟩⟩
      rw [isGreatest] at bits
      have sign_cases := signBits_cases sign
      simp only [Float.toBits, fractionCount, Nat.pow_eq] at bits fraction_lt
      have isPacked : word.toBitVec = Float.Model.UnpackedFloat.packedNaN .binary64 := by
        apply valid.eq_packedNaN
        · apply BitVec.eq_of_toNat_eq
          rw [toNat_unpackExponent]
          simp
          omega
        · intro isZero
          have noFraction := congrArg BitVec.toNat isZero
          rw [toNat_unpackMantissa] at noFraction
          simp at noFraction
          omega
      have word_eq : word = nan.toBits :=
        UInt64.toBitVec_inj.mp (isPacked.trans (by decide +kernel))
      exact eq_of_toNat_toBits (congrArg UInt64.toNat word_eq)
  · split at decodes <;> contradiction

end Binary64

end Reckoner
