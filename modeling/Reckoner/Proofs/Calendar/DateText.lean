import Mathlib.Data.Int.Notation
import Reckoner.Calendar.DateText
import Reckoner.Proofs.Digits

/-!
# Written dates are read back

The text of a date starts with a minus exactly if its year lies before year 0, and then its year has
six digits instead of four. Both forms have their hyphens, so the text is read part by part, and
nothing is left that would have to be a time of day.
-/

namespace Reckoner

namespace Date

namespace Text

variable {width value : ℕ}

theorem number_padded (positive : 0 < width) (fits : value < 10 ^ width) (rest : List Char) :
    number width (Digits.padded width value ++ rest) = some ((value : ℤ), rest) := by
  have length : (Digits.padded width value).length = width := DigitRun.length_padded positive fits
  have allDigits : (Digits.padded width value).all Char.isDigit :=
    (DigitRun.padded width value).all_isDigit
  have readsValue : Nat.ofDigitChars 10 (Digits.padded width value) 0 = value :=
    DigitRun.value_padded width value
  simp only [number, List.take_left' length, List.drop_left' length, length, allDigits, readsValue,
    true_and, if_true]

theorem exists_padded_eq_cons (width value : ℕ) :
    ∃ digit rest, Digits.padded width value = digit :: rest ∧ digit.isDigit = true := by
  have allDigits := (DigitRun.padded width value).all_isDigit
  have notEmpty : Digits.padded width value ≠ [] :=
    List.append_ne_nil_of_right_ne_nil _ (DigitRun.ofNat_ne_nil value)
  rcases List.exists_cons_of_ne_nil notEmpty with ⟨digit, rest, isCons⟩
  refine ⟨digit, rest, isCons, ?_⟩
  exact List.all_eq_true.mp allDigits digit (by simp [DigitRun.padded, isCons])

/-- A year is read back from its text. A digit is no sign, so a year without sign is read with four
digits. -/
theorem year_yearText {yearNumber : ℤ} (le_year : -9999 ≤ yearNumber) (year_le : yearNumber ≤ 9999)
    (rest : List Char) : year (yearText yearNumber ++ rest) = some (yearNumber, rest) := by
  by_cases isNegative : yearNumber < 0
  · have fits : yearNumber.natAbs < 10 ^ 6 := by omega
    have notZero : (yearNumber.natAbs : ℤ) ≠ 0 := by omega
    simp only [yearText, isNegative, if_true, List.cons_append, year,
      number_padded (by decide) fits, notZero, if_false]
    simp only [Option.some.injEq, Prod.mk.injEq, and_true]
    omega
  · have fits : yearNumber.natAbs < 10 ^ 4 := by omega
    have reads := number_padded (by decide) fits rest
    rcases exists_padded_eq_cons 4 yearNumber.natAbs with ⟨digit, digits, isCons, isDigit⟩
    simp only [yearText, isNegative, if_false]
    unfold year
    split
    · next plus => simp_all [Char.isDigit]
    · next minus => simp_all [Char.isDigit]
    · rw [reads]
      simp only [Option.some.injEq, Prod.mk.injEq, and_true]
      omega

theorem date_text (date : Date) (rest : List Char) :
    Text.date (date.text ++ rest) = some (date, rest) := by
  have readsYear := year_yearText date.le_year date.year_le
  have le_month := date.le_month
  have month_le := date.month_le
  have le_day := date.le_day
  have day_le := Int.le_trans date.day_le (daysInMonth_le date.year date.month)
  have monthFits : date.month.natAbs < 10 ^ 2 := by omega
  have dayFits : date.day.natAbs < 10 ^ 2 := by omega
  have readsMonth := number_padded (by decide) monthFits
  have readsDay := number_padded (by decide) dayFits
  have month : (date.month.natAbs : ℤ) = date.month := by omega
  have day : (date.day.natAbs : ℤ) = date.day := by omega
  simp [Text.date, Date.text, readsYear, readsMonth, readsDay, month, day, character,
    ofTriple?_parts]

end Text

/-- The written form of a date is read as that date. -/
theorem ofText?_text (date : Date) : ofText? date.text = some date := by
  have reads := Text.date_text date []
  rw [List.append_nil] at reads
  simp [ofText?, reads, Text.isIgnorable]

end Date

end Reckoner
