import Mathlib.Data.Int.Notation
import Reckoner.Display.Number
import Reckoner.Proofs.Digits

/-!
# Amounts are read back from their texts

The commas of an amount are counted from the last digit, but they are written from the first one on.
Digit by digit, a comma follows where the digits behind it fill whole groups, so only the first
group may be short. Without its marks the text is the row of digits of the cents, since two digits
stand behind the point. So a text stands for one number of cents and one sign.
-/

namespace Reckoner

namespace Display

open Decimal (signText)

/-- The letters of an amount that are no digits. -/
def marks : List Char := ['-', ',', '.']

/-- What is left of a text without its marks. -/
def withoutMarks (text : List Char) : List Char := text.filter fun char => decide (char ∉ marks)

/-- The parts of the text of an amount: a minus or nothing, groups of digits with a comma between
any two, a point and two digits. All groups have three digits but the first, which may have fewer.
It has no zero in front unless it is zero, and then it is the only one. -/
structure AmountText where
  isNegative : Bool
  first : List Char
  others : List (List Char)
  cents : List Char
  all_isDigit : (first ++ others.flatten ++ cents).all Char.isDigit = true
  first_length : 1 ≤ first.length ∧ first.length ≤ 3
  others_length : ∀ group ∈ others, group.length = 3
  cents_length : cents.length = 2
  first_zero : first.head? = some '0' → first = ['0'] ∧ others = []

namespace AmountText

/-- The parts in a row, with their marks. -/
def chars (text : AmountText) : List Char :=
  signText text.isNegative ++ [','].intercalate (text.first :: text.others) ++ '.' :: text.cents

/-- The digits in a row. -/
def digits (text : AmountText) : DigitRun :=
  ⟨text.first ++ text.others.flatten ++ text.cents, text.all_isDigit⟩

end AmountText

/-! ## Groups of digits -/

theorem length_flatten_of_groups {groups : List (List Char)}
    (lengths : ∀ group ∈ groups, group.length = 3) :
    groups.flatten.length = 3 * groups.length := by
  induction groups with
  | nil => rfl
  | cons group groups ih =>
      have length := lengths group List.mem_cons_self
      have rest := ih fun other member => lengths other (List.mem_cons_of_mem group member)
      rw [List.flatten_cons, List.length_append, List.length_cons]
      omega

theorem intercalate_cons_cons (digit : Char) (first : List Char) (others : List (List Char)) :
    [','].intercalate ((digit :: first) :: others) =
      digit :: [','].intercalate (first :: others) := by
  cases others with
  | nil => rw [List.intercalate_singleton, List.intercalate_singleton]
  | cons second others =>
      rw [List.intercalate_cons_cons, List.intercalate_cons_cons, List.cons_append,
        List.cons_append]

/-- Commas divide digits into groups of three, of which only the first may be short. -/
theorem exists_groups {digits : List Char} (notEmpty : digits ≠ []) :
    ∃ first others, groupThousands digits = [','].intercalate (first :: others) ∧
      first ++ others.flatten = digits ∧ (1 ≤ first.length ∧ first.length ≤ 3) ∧
      ∀ group ∈ others, group.length = 3 := by
  induction digits with
  | nil => contradiction
  | cons digit rest ih =>
      by_cases isLast : rest = []
      · subst isLast
        refine ⟨[digit], [], ?_, rfl, ⟨Nat.le_refl 1, Nat.le_of_ble_eq_true rfl⟩, by simp⟩
        simp [groupThousands]
      · rcases ih isLast with ⟨first, others, grouped, isRest, firstLength, othersLength⟩
        have restLength : rest.length = first.length + 3 * others.length := by
          rw [← isRest, List.length_append, length_flatten_of_groups othersLength]
        by_cases isFull : first.length = 3
        · have comma : rest.length % 3 = 0 ∧ rest ≠ [] := ⟨by omega, isLast⟩
          refine ⟨[digit], first :: others, ?_, ?_, ⟨Nat.le_refl 1, Nat.le_of_ble_eq_true rfl⟩, ?_⟩
          · rw [groupThousands, if_pos comma, grouped, List.intercalate_cons_cons]
            rfl
          · rw [List.flatten_cons, isRest]
            rfl
          · intro group member
            rcases List.mem_cons.mp member with rfl | among
            · exact isFull
            · exact othersLength group among
        · have noComma : ¬(rest.length % 3 = 0 ∧ rest ≠ []) := by omega
          refine ⟨digit :: first, others, ?_, ?_, ?_, othersLength⟩
          · rw [groupThousands, if_neg noComma, grouped, intercalate_cons_cons]
          · rw [List.cons_append, isRest]
          · rw [List.length_cons]
            omega

/-! ## Texts without marks -/

theorem notMem_marks_of_isDigit {char : Char} (isDigit : char.isDigit = true) : char ∉ marks := by
  intro member
  simp only [marks, List.mem_cons, List.not_mem_nil, or_false] at member
  rcases member with rfl | rfl | rfl
  · contradiction
  · contradiction
  · contradiction

theorem withoutMarks_eq_self {digits : List Char} (areDigits : digits.all Char.isDigit = true) :
    withoutMarks digits = digits := by
  rw [withoutMarks, List.filter_eq_self]
  intro char member
  exact decide_eq_true (notMem_marks_of_isDigit (List.all_eq_true.mp areDigits char member))

theorem withoutMarks_append (first second : List Char) :
    withoutMarks (first ++ second) = withoutMarks first ++ withoutMarks second :=
  List.filter_append ..

theorem filter_intercalate {isKept : Char → Bool} (noComma : isKept ',' = false)
    (groups : List (List Char)) :
    ([','].intercalate groups).filter isKept = groups.flatten.filter isKept := by
  induction groups with
  | nil => rfl
  | cons group groups ih =>
      cases groups with
      | nil => simp
      | cons second groups =>
          rw [List.intercalate_cons_cons, List.flatten_cons, List.filter_append, List.filter_append,
            List.filter_append, ih, List.filter_cons_of_neg (by simp [noComma]), List.filter_nil,
            List.append_nil]

theorem mem_intercalate {char : Char} (notComma : char ≠ ',') {groups : List (List Char)} :
    char ∈ [','].intercalate groups ↔ char ∈ groups.flatten := by
  have same : ([','].intercalate groups).filter (· == char) = groups.flatten.filter (· == char) :=
    filter_intercalate (by simpa using notComma.symm) groups
  have kept (text : List Char) : char ∈ text ↔ char ∈ text.filter (· == char) := by simp
  rw [kept, same, ← kept]

namespace AmountText

theorem withoutMarks_chars (text : AmountText) : withoutMarks text.chars = text.digits.chars := by
  have noSign : withoutMarks (signText text.isNegative) = [] := by
    cases text.isNegative <;> rfl
  have noPoint : withoutMarks ('.' :: text.cents) = withoutMarks text.cents := rfl
  have noCommas : withoutMarks ([','].intercalate (text.first :: text.others)) =
      withoutMarks (text.first :: text.others).flatten := filter_intercalate (by decide) _
  rw [chars, withoutMarks_append, withoutMarks_append, noSign, noPoint, noCommas, List.nil_append,
    ← withoutMarks_append, List.flatten_cons]
  exact withoutMarks_eq_self text.all_isDigit

theorem minus_mem_chars (text : AmountText) : '-' ∈ text.chars ↔ text.isNegative = true := by
  have noMinus : '-' ∉ text.digits.chars := text.digits.notMem_chars rfl
  simp only [digits, List.mem_append, not_or] at noMinus
  have notComma : '-' ≠ ',' := by decide
  simp only [chars, List.mem_append, List.mem_cons, mem_intercalate notComma, List.flatten_cons,
    noMinus, or_false]
  cases text.isNegative with
  | false => simp [signText]
  | true => simp [signText]

end AmountText

/-! ## Amounts -/

/-- A number of cents behind a sign has the text of an amount, of which the digits count the
cents. -/
theorem exists_amountText (isNegative : Bool) (cents : ℕ) :
    ∃ text : AmountText, text.isNegative = isNegative ∧
      signText isNegative ++ centsText cents = text.chars ∧ text.digits.value = cents := by
  rcases exists_groups (DigitRun.ofNat_ne_nil (cents / 100)) with
    ⟨first, others, grouped, isWhole, firstLength, othersLength⟩
  have firstZero : first.head? = some '0' → first = ['0'] ∧ others = [] := by
    intro isZero
    have notEmpty : first ≠ [] := List.length_pos_iff.mp firstLength.1
    rw [← List.head?_append_of_ne_nil first notEmpty, isWhole] at isZero
    rcases Nat.eq_zero_or_pos (cents / 100) with noWhole | isPositive
    · rw [noWhole] at isWhole
      rcases List.append_eq_singleton_iff.mp isWhole with ⟨isEmpty, -⟩ | ⟨isFirst, noOthers⟩
      · exact absurd isEmpty notEmpty
      · have noDigits := length_flatten_of_groups othersLength
        rw [noOthers, List.length_nil] at noDigits
        exact ⟨isFirst, List.length_eq_zero_iff.mp (by omega)⟩
    · exact absurd isZero (Digits.head?_ofNat isPositive)
  have allDigits : (first ++ others.flatten ++ Digits.padded 2 (cents % 100)).all Char.isDigit =
      true := by
    rw [isWhole]
    exact (DigitRun.ofNat (cents / 100) ++ DigitRun.padded 2 (cents % 100)).all_isDigit
  refine ⟨⟨isNegative, first, others, Digits.padded 2 (cents % 100), allDigits, firstLength,
    othersLength, DigitRun.length_padded_mod Nat.two_pos cents, firstZero⟩, rfl, ?_, ?_⟩
  · rw [AmountText.chars, ← grouped, List.append_assoc]
    rfl
  · have counts := DigitRun.value_ofNat_append_padded Nat.two_pos cents
    simp only [AmountText.digits, isWhole]
    exact counts

/-- The cents of an amount with its sign. -/
def signedCents (value : Float) : ℤ := if value < 0 then -(centsOf value : ℤ) else centsOf value

theorem signedCents_neg_iff {value : Float} :
    signedCents value < 0 ↔ value < 0 ∧ 0 < centsOf value := by
  unfold signedCents
  split
  · next isNegative => simp [isNegative, Nat.pos_iff_ne_zero]
  · next notNegative => simp [notNegative]

theorem signedCents_eq (value : Float) :
    signedCents value = if signedCents value < 0 then -(centsOf value : ℤ) else centsOf value := by
  unfold signedCents
  split
  · split
    · rfl
    · omega
  · exact (if_neg (by omega)).symm

theorem amount_eq (value : Float) :
    amount value = signText (decide (signedCents value < 0)) ++ centsText (centsOf value) := by
  rw [amount, ← Bool.decide_and, decide_eq_decide.mpr signedCents_neg_iff]

theorem amount_eq_amount_iff (first second : Float) :
    amount first = amount second ↔
      centsOf first = centsOf second ∧ (signedCents first).sign = (signedCents second).sign := by
  rcases exists_amountText (decide (signedCents first < 0)) (centsOf first) with
    ⟨firstText, firstSign, firstChars, firstCents⟩
  rcases exists_amountText (decide (signedCents second < 0)) (centsOf second) with
    ⟨secondText, secondSign, secondChars, secondCents⟩
  constructor
  · intro same
    rw [amount_eq, amount_eq, firstChars, secondChars] at same
    have sameDigits : firstText.digits.chars = secondText.digits.chars := by
      rw [← firstText.withoutMarks_chars, same, secondText.withoutMarks_chars]
    have sameCents : centsOf first = centsOf second := by
      rw [← firstCents, ← secondCents, DigitRun.value, DigitRun.value, sameDigits]
    have sameSign : decide (signedCents first < 0) = decide (signedCents second < 0) := by
      rw [← firstSign, ← secondSign, Bool.eq_iff_iff, ← firstText.minus_mem_chars,
        ← secondText.minus_mem_chars, same]
    refine ⟨sameCents, ?_⟩
    rw [signedCents_eq first, signedCents_eq second, sameCents]
    simp only [decide_eq_decide.mp sameSign]
  · rintro ⟨sameCents, sameSign⟩
    have bothNegative : signedCents first < 0 ↔ signedCents second < 0 := by
      rw [← Int.sign_eq_neg_one_iff_neg, sameSign, Int.sign_eq_neg_one_iff_neg]
    rw [amount_eq, amount_eq, sameCents, decide_eq_decide.mpr bothNegative]

/-- The text of an amount consists of a minus or nothing, groups of digits with commas, a point and
two digits. Without the marks it is the digits of the cents, perhaps with zeros in front, where the
cents are the hundredfold of the magnitude, rounded to an integer of 64 bits. It has a minus if the
amount is negative and does not round to zero. Two amounts have the same text if they round to the
same cents with the same sign, and only then. -/
theorem amount_decodes (value : Float) :
    let cents : Float → ℕ := fun value => (value.abs * 100).round.toUInt64.toNat
    let signed : Float → ℤ := fun value => if value < 0 then -(cents value : ℤ) else cents value
    (∃ text : AmountText, amount value = text.chars ∧
        withoutMarks (amount value) = text.digits.chars ∧ text.digits.value = cents value) ∧
      ('-' ∈ amount value ↔ value < 0 ∧ 0 < cents value) ∧
      ∀ other, amount value = amount other ↔
        cents value = cents other ∧ (signed value).sign = (signed other).sign := by
  intro cents signed
  rcases exists_amountText (decide (signedCents value < 0)) (centsOf value) with
    ⟨text, textSign, textChars, textCents⟩
  have isText : amount value = text.chars := (amount_eq value).trans textChars
  refine ⟨⟨text, isText, ?_, textCents⟩, ?_, amount_eq_amount_iff value⟩
  · rw [isText, text.withoutMarks_chars]
  · rw [isText, text.minus_mem_chars, textSign, decide_eq_true_iff]
    exact signedCents_neg_iff

end Display

end Reckoner
