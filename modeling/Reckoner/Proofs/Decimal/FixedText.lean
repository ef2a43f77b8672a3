import Reckoner.Decimal.Reading
import Reckoner.Proofs.Decimal.Places
import Reckoner.Proofs.Digits
import Reckoner.Proofs.Expression.Numerals

/-!
# Fixed decimals are read back

The text of a float with a fixed number of decimal places is a numeral behind a sign. Every such
text is read as the float nearest to its decimal number, so the text of a float is read as the
rounding of the float.
-/

namespace Reckoner

namespace Decimal

open Binary64

variable {places units : ℕ} {negative : Bool} {value : Float}

/-! ## Reading numerals -/

theorem ofUnsignedText?_text (numeral : Numeral) :
    ofUnsignedText? numeral.text = some numeral.toDecimal := by
  have ends := numeral.endsBefore_nil
  have digits_ne_nil :
      (numeral.whole ++ numeral.fraction.getD DigitRun.empty).chars ≠ [] :=
    List.append_ne_nil_of_left_ne_nil numeral.whole_ne_nil _
  rw [← List.append_nil numeral.text]
  simp only [ofUnsignedText?, Numeral.text, List.append_assoc,
    DigitRun.takeFrom_append ends.fractionText, DigitRun.dropFrom_append ends.fractionText,
    Numeral.readFraction_text_append ends, Numeral.readExponent_text_append ends]
  simp [digits_ne_nil, Numeral.toDecimal]

theorem readMinus_signText_text (numeral : Numeral) :
    readMinus (signText negative ++ numeral.text) = (negative, numeral.text) := by
  have reads (sign : Option Sign) :
      Exponent.readSign (Exponent.signText sign ++ numeral.text) = (sign, numeral.text) := by
    simp only [Numeral.text, List.append_assoc]
    exact Exponent.readSign_signText_append _ numeral.whole_ne_nil
  cases negative with
  | false => exact congrArg (fun found => (found.1 == some .minus, found.2)) (reads none)
  | true => exact congrArg (fun found => (found.1 == some .minus, found.2)) (reads (some .minus))

theorem map_toLower_text_ne (numeral : Numeral) :
    numeral.text.map Char.toLower ∉ infinityWords ∧ numeral.text.map Char.toLower ≠ nanWord := by
  rcases numeral.exists_text_eq_cons with ⟨digit, rest, isText, isDigit⟩
  have noLetter : digit.toLower.isAlpha = false := by
    rw [Char.isAlpha_toLower_eq_isAlpha]
    grind [Char.isDigit, Char.isAlpha, Char.isUpper, Char.isLower]
  rw [isText, List.map_cons]
  constructor
  · intro isWord
    simp only [infinityWords, List.mem_cons, List.cons.injEq, List.not_mem_nil, or_false] at isWord
    rcases isWord with ⟨isLetter, -⟩ | ⟨isLetter, -⟩
    · rw [isLetter] at noLetter
      contradiction
    · rw [isLetter] at noLetter
      contradiction
  · intro isWord
    rw [(List.cons.inj isWord).1] at noLetter
    contradiction

/-- A numeral behind a sign is read as the float nearest to it. -/
theorem floatOfText?_signText_text (numeral : Numeral) :
    floatOfText? (signText negative ++ numeral.text) =
      some (numeral.toDecimal.toFloat negative) := by
  rcases map_toLower_text_ne numeral with ⟨notInfinity, notNan⟩
  simp only [floatOfText?, readMinus_signText_text, notInfinity, notNan, if_false,
    ofUnsignedText?_text, Option.map_some]

/-! ## Texts with a fixed number of places -/

/-- The numeral that counts units of the last decimal place. -/
def placesNumeral (places units : ℕ) : Numeral where
  whole := DigitRun.ofNat (units / 10 ^ places)
  fraction := some (DigitRun.padded places (units % 10 ^ places))
  exponent := none
  whole_ne_nil := DigitRun.ofNat_ne_nil _

theorem text_placesNumeral (places units : ℕ) :
    (placesNumeral places units).text = placesText places units := by
  simp [placesNumeral, placesText, Numeral.text, Numeral.fractionText, Numeral.exponentText,
    DigitRun.ofNat, DigitRun.padded]

theorem toDecimal_placesNumeral (positive : 0 < places) (units : ℕ) :
    (placesNumeral places units).toDecimal = ⟨units, -places⟩ := by
  have length := DigitRun.length_padded_mod positive units
  have value := DigitRun.value_ofNat_append_padded positive units
  simp [placesNumeral, Numeral.toDecimal, Numeral.decimalOf, value, length]

/-- Whether a text is a decimal behind a sign that has exactly so many places and counts so many
units of the last place. -/
def IsFixedText (places : ℕ) (negative : Bool) (units : ℕ) (text : List Char) : Prop :=
  ∃ (whole : ℕ) (fraction : DigitRun),
    text = signText negative ++ Digits.ofNat whole ++ '.' :: fraction.chars ∧
      fraction.length = places ∧ whole * 10 ^ places + fraction.value = units

theorem isFixedText_placesText (positive : 0 < places) (negative : Bool) (units : ℕ) :
    IsFixedText places negative units (signText negative ++ placesText places units) := by
  refine ⟨units / 10 ^ places, DigitRun.padded places (units % 10 ^ places), ?_,
    DigitRun.length_padded_mod positive units, ?_⟩
  · rw [List.append_assoc]
    rfl
  · rw [DigitRun.value_padded]
    exact Nat.div_add_mod' units (10 ^ places)

theorem fixedText_of_finite {significand : ℕ} {exponent : ℤ}
    (decodes : ofFloat value = .finite negative significand exponent) :
    fixedText places value =
      signText negative ++ placesText places (scaledToPlaces places significand exponent) := by
  simp only [fixedText, decodes]

/-- The cut-offs for absurd exponents spare what has few places and is not too large. -/
theorem toFloat_of_places (few : places ≤ 330) (lt : units < 10 ^ (310 + places)) :
    toFloat negative ⟨units, -places⟩ = Binary64.nearest negative units (10 ^ places) := by
  by_cases isZero : units = 0
  · simp [isZero, toFloat, Binary64.nearest, nearestBits]
  have length_pos : 0 < (Digits.ofNat units).length := Nat.length_toDigits_pos
  have length_le : (Digits.ofNat units).length ≤ 310 + places :=
    (Nat.length_toDigits_le_iff (by decide) (by omega)).mpr lt
  have notTiny : ¬ ((Digits.ofNat units).length + -(places : ℤ) < -330) := by omega
  have notHuge : ¬ (310 < (Digits.ofNat units).length + -(places : ℤ)) := by omega
  simp [toFloat, digitCount, isZero, notTiny, notHuge, powerQuotient]

theorem scaledToPlaces_lt {significand : ℕ} {exponent : ℤ}
    (isMagnitude : IsMagnitude significand exponent) (places : ℕ) :
    scaledToPlaces places significand exponent < 10 ^ (310 + places) := by
  have quotient_lt := scaledToPlaces_div_lt places significand exponent
  have value_lt := isMagnitude.mul_lt isMagnitude.le_greatest
  have greatest : 2 ^ 53 * 2 ^ 971 + 1 < 10 ^ 310 := by decide +kernel
  have greatest' : (2 : ℚ) ^ 53 * 2 ^ (971 : ℤ) + 1 < 10 ^ 310 := by exact_mod_cast greatest
  have units_lt : (scaledToPlaces places significand exponent : ℚ) < 10 ^ 310 * 10 ^ places := by
    rw [← div_lt_iff₀ (by positivity)]
    exact quotient_lt.trans ((add_lt_add_left value_lt 1).trans greatest')
  rw [pow_add]
  exact_mod_cast units_lt

theorem floatOfText?_infinity (negative : Bool) :
    floatOfText? (signText negative ++ ['i', 'n', 'f']) = some (infinity negative) := by
  have reads : readMinus (signText negative ++ ['i', 'n', 'f']) = (negative, ['i', 'n', 'f']) := by
    cases negative <;> rfl
  have isWord : ['i', 'n', 'f'].map Char.toLower ∈ infinityWords := by decide
  simp only [floatOfText?, reads, isWord, if_true]

theorem floatOfText?_nan : floatOfText? ['N', 'a', 'N'] = some nan := by
  have reads : readMinus ['N', 'a', 'N'] = (false, ['N', 'a', 'N']) := rfl
  have isWord : ['N', 'a', 'N'].map Char.toLower = nanWord := by decide
  have notInfinity : nanWord ∉ infinityWords := by decide
  simp only [floatOfText?, reads, isWord, notInfinity, if_true, if_false]

/-- The text of a float is read as the rounding of the float. -/
theorem floatOfText?_fixedText (positive : 0 < places) (few : places ≤ 330) (value : Float) :
    floatOfText? (fixedText places value) = some (roundToPlaces places value) := by
  rcases decodes : ofFloat value with ⟨negative, significand, exponent⟩ | negative | _
  · have units_lt := scaledToPlaces_lt (of_ofFloat_eq_finite decodes).1 places
    rw [roundToPlaces_of_finite decodes, fixedText_of_finite decodes]
    rw [← text_placesNumeral, floatOfText?_signText_text, toDecimal_placesNumeral positive,
      toFloat_of_places few units_lt]
  · simp only [fixedText, roundToPlaces, decodes, floatOfText?_infinity]
    rw [eq_infinity_of_ofFloat decodes]
  · simp only [fixedText, roundToPlaces, decodes, floatOfText?_nan]
    rw [eq_nan_of_ofFloat decodes]

end Decimal

end Reckoner
