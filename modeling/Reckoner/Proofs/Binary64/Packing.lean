import Reckoner.Proofs.Binary64.Nearest

/-!
# Packed and unpacked floats

The operations on floats unpack their operands, compute with exponents and significands and pack the
result. A float is unpacked into its exact value, and a point of a grid is packed into its pattern,
so the patterns that are known to be nearest to a value are what such an operation returns.
-/

namespace Reckoner

namespace Binary64

open Float.Model (Format UnpackedFloat)
open Float.Model.UnpackedFloat (Sign)

/-- The sign of an unpacked float. -/
def signOf (negative : Bool) : Sign := if negative then .negative else .positive

/-- The unpacked float of an exact value; zeros are told from all other magnitudes. -/
def toUnpacked : Binary64 → UnpackedFloat
  | finite negative significand exponent =>
      if isZero : significand = 0 then .zero (signOf negative)
      else .finite (signOf negative) significand exponent (Nat.pos_of_ne_zero isZero)
  | infinite negative => .infinity (signOf negative)
  | notANumber => .notANumber

/-- The float of an unpacked one. -/
def packed (unpacked : UnpackedFloat) : Float := .ofModel (.pack unpacked)

variable {negative : Bool} {significand : ℕ} {exponent : ℤ}

theorem toNat_append {width lowWidth : ℕ} (high : BitVec width) (low : BitVec lowWidth) :
    (high ++ low).toNat = high.toNat * 2 ^ lowWidth + low.toNat := by
  rw [BitVec.toNat_append, ← Nat.shiftLeft_add_eq_or_of_lt low.isLt, Nat.shiftLeft_eq]

/-! ## Packing -/

theorem toNat_packComponents (negative : Bool) (field : BitVec 11) (fraction : BitVec 52) :
    (UnpackedFloat.packComponents .binary64 (signOf negative) field fraction).toNat =
      signBits negative + (field.toNat * fractionCount + fraction.toNat) := by
  have upper := toNat_append (signOf negative).toBitVec field
  have whole := toNat_append ((signOf negative).toBitVec ++ field) fraction
  rw [upper] at whole
  refine whole.trans ?_
  rw [fractionCount_eq]
  cases negative with
  | false => simp [signOf, Sign.toBitVec, signBits]
  | true =>
      simp only [signOf, Sign.toBitVec, signBits, if_true, BitVec.toNat_ofNat, Nat.pow_eq]
      omega

theorem toNat_packedInfinity (negative : Bool) :
    (UnpackedFloat.packedInfinity .binary64 (signOf negative)).toNat =
      signBits negative + infinityBits :=
  toNat_packComponents negative _ _

theorem packed_eq_ofPattern {unpacked : UnpackedFloat} {pattern : ℕ} (le : pattern ≤ infinityBits)
    (bits : (UnpackedFloat.pack .binary64 unpacked).toNat = signBits negative + pattern) :
    packed unpacked = ofPattern negative pattern := by
  apply eq_of_toNat_toBits
  rw [toNat_toBits_ofPattern negative le, ← bits]
  rfl

/-- A point of a grid is packed into its pattern, or that of infinity if it is too large. -/
theorem packed_finite (lt : significand < 2 * fractionCount) (least_le : leastExponent ≤ exponent)
    (isNormal : fractionCount ≤ significand ∨ exponent = leastExponent) :
    packed (toUnpacked (.finite negative significand exponent)) =
      ofPattern negative (min infinityBits (pattern significand exponent)) := by
  refine packed_eq_ofPattern (min_le_left _ _) ?_
  rw [fractionCount_eq] at lt isNormal
  simp only [leastExponent] at least_le isNormal
  simp only [toUnpacked]
  split
  · next isZero =>
    have isLeast : exponent = -1074 := by omega
    simp only [isZero, isLeast]
    exact toNat_packComponents negative _ _
  next nonzero =>
  have isFilled_iff : significand.log2 + 1 = Format.binary64.mantissaBits ↔
      2 ^ 52 ≤ significand := by
    have isLog := Nat.log2_eq_iff nonzero (k := 52)
    simp only [Format.mantissaBits]
    omega
  simp only [UnpackedFloat.pack, isFilled_iff]
  split
  · next overflows =>
    rw [toNat_packedInfinity, min_eq_left]
    simp only [Format.exponentBias, Nat.add_one_sub_one, Nat.reducePow, Nat.cast_ofNat] at overflows
    simp only [pattern, infinityBits, leastExponent, fractionCount_eq]
    omega
  next fits =>
  simp only [Format.exponentBias, Nat.add_one_sub_one, Nat.reducePow, Nat.cast_ofNat] at fits
  rw [min_eq_right]
  split
  · rw [toNat_packComponents]
    simp only [Format.exponentBias, pattern, leastExponent, fractionCount_eq, BitVec.toNat_ofNat,
      Nat.add_one_sub_one, Nat.reducePow, Nat.cast_ofNat]
    omega
  · have isLeast : exponent = -1074 := by omega
    rw [toNat_packComponents]
    simp only [pattern, leastExponent, fractionCount_eq, isLeast, BitVec.toNat_ofNat]
    omega
  simp only [pattern, infinityBits, leastExponent, fractionCount_eq]
  omega

/-! ## Unpacking -/

theorem unpackSign_eq {bits : BitVec 64} {lower : ℕ} (lower_lt : lower < 2 ^ 63)
    (isBits : bits.toNat = signBits negative + lower) :
    Sign.ofBitVec (@UnpackedFloat.unpackSign .binary64 bits) = signOf negative := by
  have isBit : @UnpackedFloat.unpackSign .binary64 bits = (signOf negative).toBitVec := by
    apply BitVec.eq_of_toNat_eq
    cases negative <;>
      simp [UnpackedFloat.unpackSign, BitVec.extractLsb_toNat, Nat.shiftRight_eq_div_pow, isBits,
        signBits, signOf, Sign.toBitVec] <;>
      omega
  rw [isBit]
  cases negative <;> rfl

/-- A float is unpacked into its exact value. -/
theorem unpack_eq (value : Float) : value.toModel.unpack = (ofFloat value).toUnpacked := by
  rcases exists_fields value with ⟨negative, field, fraction, field_lt, fraction_lt, bits⟩
  rw [ofFloat_of_fields field_lt fraction_lt bits]
  have word : value.toModel.toBits.toBitVec.toNat =
      signBits negative + (field * fractionCount + fraction) := bits
  have sign_cases := signBits_cases negative
  rw [fractionCount_eq] at fraction_lt word
  have isSign := unpackSign_eq (by omega) word
  have isField := toNat_unpackExponent value.toModel.toBits.toBitVec
  have isFraction := toNat_unpackMantissa value.toModel.toBits.toBitVec
  rw [show value.toModel.toBits.toBitVec.toNat / 2 ^ 52 % 2048 = field by omega] at isField
  rw [show value.toModel.toBits.toBitVec.toNat % 2 ^ 52 = fraction by omega] at isFraction
  have isGreatest : @UnpackedFloat.unpackExponent .binary64 value.toModel.toBits.toBitVec = -1#11 ↔
      field = 2047 := by
    rw [← isField]
    exact BitVec.toNat_inj.symm
  have isLeast : @UnpackedFloat.unpackExponent .binary64 value.toModel.toBits.toBitVec = 0#11 ↔
      field = 0 := by
    rw [← isField]
    exact BitVec.toNat_inj.symm
  have isWhole : @UnpackedFloat.unpackMantissa .binary64 value.toModel.toBits.toBitVec = 0#52 ↔
      fraction = 0 := by
    rw [← isFraction]
    exact BitVec.toNat_inj.symm
  simp only [Float.Model.unpack, UnpackedFloat.unpack, isSign, isGreatest, isLeast, isWhole,
    toNat_append, isField, isFraction, fractionCount_eq]
  split
  · split <;> rfl
  split
  · next isZero =>
    subst isZero
    simp only [toUnpacked]
    split <;> rfl
  · next nonzero =>
    rw [toUnpacked, dif_neg (by omega)]
    congr 1
    simp only [leastExponent, Format.exponentBias, Nat.add_one_sub_one, Nat.reducePow,
      Nat.cast_ofNat]
    omega

end Binary64

end Reckoner
