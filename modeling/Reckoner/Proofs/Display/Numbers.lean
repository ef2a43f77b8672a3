import Mathlib.Data.List.DropRight
import Reckoner.Display.Number
import Reckoner.Proofs.Binary64.Values
import Reckoner.Proofs.Decimal.FixedText

/-!
# Numbers are shown without what is superfluous

A number has seven decimals, of which the zeros at the end are left out, then a point that nothing
follows, then the minus of a zero. The point stops the first trim, so no digit before it is lost,
and the digits before the point stop the second. What is left is a numeral again, which counts in a
coarser decimal place and denotes the same number. The number settles the digits, and it settles the
sign unless it is zero, which is shown without one. So two numbers are shown alike if they are
rounded alike, and only then.
-/

namespace Reckoner

open Binary64 (HasValue signed)

namespace Decimal

/-- The rational number that a decimal number is. -/
def toRat (number : Decimal) : ℚ := number.coefficient * 10 ^ number.exponent

/-- The number that a text denotes, if the whole text is a numeral behind an optional sign. -/
def numberOfText? (text : List Char) : Option ℚ :=
  let (negative, unsigned) := readMinus text
  (ofUnsignedText? unsigned).map fun number => signed negative number.toRat

theorem numberOfText?_signText_text (negative : Bool) (numeral : Numeral) :
    numberOfText? (signText negative ++ numeral.text) =
      some (signed negative numeral.toDecimal.toRat) := by
  simp only [numberOfText?, readMinus_signText_text, ofUnsignedText?_text, Option.map_some]

/-- Without an exponent, the digits behind the point tell the decimal place in which the digits
count. -/
theorem toRat_decimalOf (whole : DigitRun) (fraction : Option DigitRun) :
    (Numeral.decimalOf whole fraction none).toRat =
      (whole ++ fraction.getD DigitRun.empty).value /
        10 ^ (fraction.getD DigitRun.empty).length := by
  simp [Numeral.decimalOf, toRat, zpow_neg, div_eq_mul_inv]

end Decimal

namespace DigitRun

/-- A run of digits without the zeros at its end. -/
def withoutLastZeros (digits : DigitRun) : DigitRun where
  chars := digits.chars.rdropWhile (· == '0')
  all_isDigit := by
    rw [List.all_eq_true]
    intro digit member
    exact List.all_eq_true.mp digits.all_isDigit digit ((List.rdropWhile_prefix _ _).subset member)

theorem exists_chars_eq_append_zeros (digits : DigitRun) :
    ∃ zeros, digits.chars = digits.withoutLastZeros.chars ++ List.replicate zeros '0' := by
  have areZeros : ∀ char ∈ digits.chars.rtakeWhile (· == '0'), char = '0' := by
    intro char member
    simpa using List.mem_rtakeWhile_imp member
  refine ⟨(digits.chars.rtakeWhile (· == '0')).length, ?_⟩
  rw [← List.eq_replicate_of_mem areZeros]
  exact List.rdropWhile_append_rtakeWhile.symm

theorem getLast?_withoutLastZeros (digits : DigitRun) :
    digits.withoutLastZeros.chars.getLast? ≠ some '0' := by
  intro isLast
  have notEmpty : digits.withoutLastZeros.chars ≠ [] := by
    intro isEmpty
    rw [isEmpty] at isLast
    contradiction
  rw [List.getLast?_eq_some_getLast notEmpty, Option.some.injEq] at isLast
  exact List.rdropWhile_last_not (· == '0') digits.chars notEmpty (beq_iff_eq.mpr isLast)

/-- The zeros at the end of digits behind a point only tell in which decimal place they count. -/
theorem value_append_eq (whole fraction : DigitRun) :
    ((whole ++ fraction).value : ℚ) / 10 ^ fraction.length =
      (whole ++ fraction.withoutLastZeros).value / 10 ^ fraction.withoutLastZeros.length := by
  rcases fraction.exists_chars_eq_append_zeros with ⟨zeros, isFraction⟩
  have isLength : fraction.length = fraction.withoutLastZeros.length + zeros := by
    rw [length, isFraction, List.length_append, List.length_replicate, length]
  have isValue : (whole ++ fraction).value =
      (whole ++ fraction.withoutLastZeros).value * 10 ^ zeros := by
    change Nat.ofDigitChars 10 (whole.chars ++ fraction.chars) 0 = _
    rw [isFraction, ← List.append_assoc, Nat.ofDigitChars_append, Nat.ofDigitChars_replicate_zero,
      Nat.mul_comm]
    rfl
  rw [isLength, isValue, Nat.cast_mul, Nat.cast_pow, Nat.cast_ofNat, pow_add,
    mul_div_mul_right _ _ (by positivity)]

end DigitRun

namespace Display

open Decimal

variable {places units : ℕ} {negative : Bool} {value : Float}

/-! ## Trimming -/

theorem dropLast_eq_rdropWhile (isDropped : Char → Bool) (text : List Char) :
    dropLast isDropped text = text.rdropWhile isDropped := rfl

/-- A letter that is kept shields what is in front of it. -/
theorem rdropWhile_append_cons {isDropped : Char → Bool} {char : Char}
    (isKept : isDropped char = false) (front back : List Char) :
    (front ++ char :: back).rdropWhile isDropped = front ++ char :: back.rdropWhile isDropped := by
  induction back using List.reverseRecOn with
  | nil => simp [isKept]
  | append_singleton back last ih =>
      rw [← List.cons_append, ← List.append_assoc, List.rdropWhile_concat, List.rdropWhile_concat,
        ih]
      split
      · rfl
      · rw [List.append_assoc, List.cons_append]

theorem rdropWhile_point_append_digits {digits : DigitRun} (notEmpty : digits.chars ≠ [])
    (front : List Char) :
    (front ++ digits.chars).rdropWhile (· == '.') = front ++ digits.chars := by
  refine List.rdropWhile_eq_self_iff.mpr ?_
  intro notEmptyText isPoint
  rw [List.getLast_append_of_ne_nil _ notEmpty, beq_iff_eq] at isPoint
  exact digits.notMem_chars rfl (isPoint ▸ List.getLast_mem notEmpty)

/-- The digits behind the point that are shown, if there are any. -/
def shownFraction (fraction : DigitRun) : Option DigitRun :=
  if fraction.withoutLastZeros.chars = [] then none else some fraction.withoutLastZeros

/-- The numeral that is shown for a count of units of a decimal place. -/
def shownNumeral (places units : ℕ) : Numeral :=
  { placesNumeral places units with
    fraction := shownFraction (DigitRun.padded places (units % 10 ^ places)) }

/-- The first trim stops at the point at the latest and the second in front of it. -/
theorem dropLast_dropLast_eq {whole : DigitRun} (notEmpty : whole.chars ≠ []) (front : List Char)
    (fraction : DigitRun) :
    dropLast (· == '.') (dropLast (· == '0') (front ++ whole.chars ++ '.' :: fraction.chars)) =
      front ++ whole.chars ++ Numeral.fractionText (shownFraction fraction) := by
  have stops : (front ++ whole.chars ++ '.' :: fraction.chars).rdropWhile (· == '0') =
      front ++ whole.chars ++ '.' :: fraction.withoutLastZeros.chars :=
    rdropWhile_append_cons rfl _ _
  rw [dropLast_eq_rdropWhile, dropLast_eq_rdropWhile, stops, shownFraction]
  split
  · next noDigits =>
    rw [noDigits, List.rdropWhile_concat_pos _ _ _ rfl, rdropWhile_point_append_digits notEmpty]
    exact (List.append_nil _).symm
  · next someDigits =>
    rw [List.append_cons, rdropWhile_point_append_digits someDigits, ← List.append_cons]
    rfl

/-! ## The numeral that is shown -/

theorem getD_shownFraction (fraction : DigitRun) :
    (shownFraction fraction).getD DigitRun.empty = fraction.withoutLastZeros := by
  unfold shownFraction
  split
  · next noDigits =>
    rcases shown : fraction.withoutLastZeros with ⟨chars, all_isDigit⟩
    rw [shown] at noDigits
    subst noDigits
    rfl
  · rfl

theorem text_shownNumeral (places units : ℕ) :
    (shownNumeral places units).text = (DigitRun.ofNat (units / 10 ^ places)).chars ++
      Numeral.fractionText (shownFraction (DigitRun.padded places (units % 10 ^ places))) :=
  List.append_nil _

theorem toRat_placesNumeral (positive : 0 < places) (units : ℕ) :
    (placesNumeral places units).toDecimal.toRat = units / 10 ^ places := by
  rw [Numeral.toDecimal, placesNumeral, toRat_decimalOf, Option.getD_some,
    DigitRun.value_ofNat_append_padded positive, DigitRun.length_padded_mod positive]

theorem toRat_shownNumeral (positive : 0 < places) (units : ℕ) :
    (shownNumeral places units).toDecimal.toRat = units / 10 ^ places := by
  rw [Numeral.toDecimal, shownNumeral, placesNumeral, toRat_decimalOf, getD_shownFraction,
    ← DigitRun.value_append_eq, DigitRun.value_ofNat_append_padded positive,
    DigitRun.length_padded_mod positive]

theorem text_shownNumeral_zero (places : ℕ) : (shownNumeral places 0).text = ['0'] := by
  have allZeros : (DigitRun.padded places 0).withoutLastZeros.chars = [] := by
    refine List.rdropWhile_eq_nil_iff.mpr ?_
    intro char member
    rcases List.mem_append.mp member with isFilling | isDigit
    · exact beq_iff_eq.mpr (List.eq_of_mem_replicate isFilling)
    · exact beq_iff_eq.mpr (List.mem_singleton.mp isDigit)
  rw [text_shownNumeral, Nat.zero_div, Nat.zero_mod, shownFraction, if_pos allZeros]
  rfl

theorem text_shownNumeral_eq_zero_iff (positive : 0 < places) :
    (shownNumeral places units).text = ['0'] ↔ units = 0 := by
  constructor
  · intro isZero
    have reads := ofUnsignedText?_text (shownNumeral places units)
    rw [isZero] at reads
    have denotes : (shownNumeral places units).toDecimal = ⟨0, 0⟩ := (Option.some.inj reads).symm
    have isUnits := toRat_shownNumeral positive units
    rw [denotes, toRat, Nat.cast_zero, zero_mul, eq_comm, div_eq_zero_iff,
      Nat.cast_eq_zero] at isUnits
    exact isUnits.resolve_right (by positivity)
  · rintro rfl
    exact text_shownNumeral_zero places

theorem signText_append_eq_minusZero_iff (positive : 0 < places) :
    signText negative ++ (shownNumeral places units).text = ['-', '0'] ↔
      negative = true ∧ units = 0 := by
  rw [← text_shownNumeral_eq_zero_iff positive]
  cases negative with
  | false =>
    rcases (shownNumeral places units).exists_text_eq_cons with ⟨digit, rest, isText, isDigit⟩
    have noMinus : digit ≠ '-' := by
      rintro rfl
      contradiction
    simp [signText, isText, noMinus]
  | true => simp [signText]

/-- What is left of a number with decimals is the shorter numeral, behind a minus if the number is
negative and not zero. -/
theorem trimDecimals_eq (positive : 0 < places) (negative : Bool) (units : ℕ) :
    trimDecimals (signText negative ++ placesText places units) =
      signText (negative && decide (units ≠ 0)) ++ (shownNumeral places units).text := by
  have trimmed : dropLast (· == '.')
      (dropLast (· == '0') (signText negative ++ placesText places units)) =
      signText negative ++ (shownNumeral places units).text := by
    rw [text_shownNumeral, ← List.append_assoc, ← dropLast_dropLast_eq (DigitRun.ofNat_ne_nil _),
      List.append_assoc]
    rfl
  simp only [trimDecimals, trimmed, signText_append_eq_minusZero_iff positive]
  split
  · next isMinusZero =>
    rw [isMinusZero.2, text_shownNumeral_zero]
    simp [signText]
  · next notMinusZero =>
    have sameSign : (negative && decide (units ≠ 0)) = negative := by
      cases negative with
      | false => rfl
      | true => simpa using notMinusZero
    rw [sameSign]

/-! ## What the shown text keeps -/

/-- The digits before the point of a number with an optional sign. -/
def wholeDigits (text : List Char) : DigitRun := DigitRun.takeFrom (readMinus text).2

theorem wholeDigits_signText_text (negative : Bool) (numeral : Numeral) :
    wholeDigits (signText negative ++ numeral.text) = numeral.whole := by
  rw [wholeDigits, readMinus_signText_text, ← List.append_nil numeral.text]
  simp only [Numeral.text, List.append_assoc]
  exact DigitRun.takeFrom_append numeral.endsBefore_nil.fractionText

/-- Whether a text has nothing that a number can be shown without: no point at its end, no zeros at
the end of digits behind a point, and no sign of a zero. -/
structure IsTrimmed (text : List Char) : Prop where
  notEmpty : text ≠ []
  lastNotPoint : text.getLast? ≠ some '.'
  lastNotZero : '.' ∈ text → text.getLast? ≠ some '0'
  notMinusZero : text ≠ ['-', '0']

theorem trimDecimals_ne_minusZero (text : List Char) : trimDecimals text ≠ ['-', '0'] := by
  simp only [trimDecimals]
  split
  · decide
  · assumption

theorem of_shownFraction_eq_some {fraction kept : DigitRun}
    (isShown : shownFraction fraction = some kept) :
    kept.chars ≠ [] ∧ kept.chars.getLast? ≠ some '0' := by
  unfold shownFraction at isShown
  split at isShown
  · contradiction
  · next someDigits =>
    cases isShown
    exact ⟨someDigits, fraction.getLast?_withoutLastZeros⟩

theorem getLast?_append_digits_ne_point {digits : DigitRun} (notEmpty : digits.chars ≠ [])
    (front : List Char) : (front ++ digits.chars).getLast? ≠ some '.' := by
  rw [List.getLast?_append_of_ne_nil _ notEmpty]
  intro isPoint
  exact digits.notMem_chars rfl (List.mem_of_getLast? isPoint)

/-- What is shown ends in a digit, and if it has a point, in a digit other than zero. -/
theorem isTrimmed_trimDecimals (positive : 0 < places) (negative : Bool) (units : ℕ) :
    IsTrimmed (trimDecimals (signText negative ++ placesText places units)) := by
  have notMinusZero := trimDecimals_ne_minusZero (signText negative ++ placesText places units)
  rw [trimDecimals_eq positive, text_shownNumeral] at notMinusZero ⊢
  have someWhole := DigitRun.ofNat_ne_nil (units / 10 ^ places)
  generalize isSign : signText (negative && decide (units ≠ 0)) = sign at notMinusZero ⊢
  cases isShown : shownFraction (DigitRun.padded places (units % 10 ^ places)) with
  | none =>
    rw [isShown, Numeral.fractionText, List.append_nil] at notMinusZero
    rw [Numeral.fractionText, List.append_nil]
    refine ⟨List.append_ne_nil_of_right_ne_nil _ someWhole,
      getLast?_append_digits_ne_point someWhole _, ?_, notMinusZero⟩
    intro hasPoint
    have noPoint : '.' ∉ sign := by
      rw [← isSign]
      cases (negative && decide (units ≠ 0)) <;> decide
    rcases List.mem_append.mp hasPoint with inSign | inWhole
    · exact absurd inSign noPoint
    · exact absurd inWhole (DigitRun.notMem_chars _ rfl)
  | some kept =>
    rcases of_shownFraction_eq_some isShown with ⟨someDigits, lastNotZero⟩
    rw [isShown, Numeral.fractionText, ← List.append_assoc, List.append_cons] at notMinusZero
    rw [Numeral.fractionText, ← List.append_assoc, List.append_cons]
    refine ⟨List.append_ne_nil_of_right_ne_nil _ someDigits,
      getLast?_append_digits_ne_point someDigits _, ?_, notMinusZero⟩
    intro hasPoint
    rwa [List.getLast?_append_of_ne_nil _ someDigits]

/-! ## What is shown denotes what was printed -/

theorem numberOfText?_placesText (positive : 0 < places) (negative : Bool) (units : ℕ) :
    numberOfText? (signText negative ++ placesText places units) =
      some (signed negative (units / 10 ^ places)) := by
  rw [← text_placesNumeral, numberOfText?_signText_text, toRat_placesNumeral positive]

/-- A text without the zeros at its end denotes the same number. A zero loses its minus, but it is
the same number with a minus and without one. -/
theorem numberOfText?_trimDecimals (positive : 0 < places) (negative : Bool) (units : ℕ) :
    numberOfText? (trimDecimals (signText negative ++ placesText places units)) =
      some (signed negative (units / 10 ^ places)) := by
  rw [trimDecimals_eq positive, numberOfText?_signText_text, toRat_shownNumeral positive]
  by_cases isZero : units = 0
  · cases negative with
    | false => rfl
    | true => simp [signed, isZero]
  · simp [isZero]

/-- Decimals that are the same number are shown alike, and only they are. -/
theorem trimDecimals_eq_trimDecimals_iff (positive : 0 < places)
    (firstNegative secondNegative : Bool) (first second : ℕ) :
    trimDecimals (signText firstNegative ++ placesText places first) =
        trimDecimals (signText secondNegative ++ placesText places second) ↔
      signed firstNegative (first / 10 ^ places) =
        signed secondNegative (second / 10 ^ places) := by
  constructor
  · intro same
    have denotes := congrArg numberOfText? same
    rw [numberOfText?_trimDecimals positive, numberOfText?_trimDecimals positive] at denotes
    exact Option.some.inj denotes
  · intro same
    have scale_ne_zero : (10 : ℚ) ^ places ≠ 0 := by positivity
    rcases Binary64.eq_of_signed_eq_signed (by positivity) (by positivity) same with
      ⟨sameMagnitude, signs⟩
    rw [div_left_inj' scale_ne_zero, Nat.cast_inj] at sameMagnitude
    subst sameMagnitude
    rw [trimDecimals_eq positive, trimDecimals_eq positive]
    by_cases isZero : first = 0
    · simp [isZero]
    · rw [signs (div_ne_zero (Nat.cast_ne_zero.mpr isZero) scale_ne_zero)]

theorem exists_fixedText_eq (places : ℕ) (isFinite : value.isFinite = true) :
    ∃ magnitude negative units, HasValue value (signed negative magnitude) ∧
      Rounding.IsNearestEven (magnitude * 10 ^ places) units ∧
      fixedText places value = signText negative ++ placesText places units := by
  rcases Binary64.exists_ofFloat_eq_finite isFinite with ⟨negative, significand, exponent, decodes⟩
  exact ⟨significand * 2 ^ exponent, negative, scaledToPlaces places significand exponent,
    ⟨negative, significand, exponent, decodes, rfl⟩,
    isNearestEven_scaledToPlaces places significand exponent, fixedText_of_finite decodes⟩

/-- A finite number is shown as the text of its rounding to seven decimals without what is
superfluous. The text denotes the same number, and its digits before the point are the same. Two
finite numbers are shown alike if they are rounded to the same number, and only then. -/
theorem number_is_canonical (isFinite : value.isFinite = true) :
    (∃ magnitude negative units, HasValue value (signed negative magnitude) ∧
        Rounding.IsNearestEven (magnitude * 10 ^ 7) units ∧
        IsFixedText 7 negative units (fixedText 7 value) ∧
        numberOfText? (fixedText 7 value) = some (signed negative (units / 10 ^ 7)) ∧
        numberOfText? (number value) = some (signed negative (units / 10 ^ 7))) ∧
      IsTrimmed (number value) ∧
      wholeDigits (number value) = wholeDigits (fixedText 7 value) ∧
      ∀ other : Float, other.isFinite = true →
        (number value = number other ↔
          numberOfText? (fixedText 7 value) = numberOfText? (fixedText 7 other)) := by
  have positive : 0 < 7 := by decide
  rcases exists_fixedText_eq 7 isFinite with ⟨magnitude, negative, units, hasValue, nearest, isText⟩
  simp only [number, isText]
  refine ⟨⟨magnitude, negative, units, hasValue, nearest,
      isFixedText_placesText positive negative units,
      numberOfText?_placesText positive negative units,
      numberOfText?_trimDecimals positive negative units⟩,
    isTrimmed_trimDecimals positive negative units, ?_, ?_⟩
  · rw [trimDecimals_eq positive, ← text_placesNumeral, wholeDigits_signText_text,
      wholeDigits_signText_text]
    rfl
  · intro other otherIsFinite
    rcases exists_fixedText_eq 7 otherIsFinite with
      ⟨-, otherNegative, otherUnits, -, -, isOtherText⟩
    rw [isOtherText, trimDecimals_eq_trimDecimals_iff positive, numberOfText?_placesText positive,
      numberOfText?_placesText positive, Option.some_inj]

/-- A negative number that rounds to zero is shown as zero is. -/
theorem number_is_canonical_of_small_negative :
    ∃ small zero : Float, small < zero ∧ number small = ['0'] ∧ number small = number zero := by
  have isFinite : (Binary64.nearest true 1 (Nat.pow 10 8)).isFinite = true := by decide
  refine ⟨Binary64.nearest true 1 (Nat.pow 10 8), 0, by decide, by decide +kernel, ?_⟩
  exact ((number_is_canonical isFinite).2.2.2 0 (by decide)).mpr (by decide +kernel)

end Display

end Reckoner
