import Mathlib.Algebra.Group.Nat.Defs
import Mathlib.Data.List.Basic
import Reckoner.Digits

/-!
# What digits denote

A natural number is read back from its digits, also if zeros fill them up to a width, and runs of
digits in a row denote the sum of what they denote, the first run counting in places of the second.
-/

namespace Reckoner

namespace Digits

/-- A positive number has no leading zero. -/
theorem head?_ofNat {value : ℕ} (positive : 0 < value) : (ofNat value).head? ≠ some '0' := by
  induction value using Nat.strongRecOn with
  | ind value ih =>
      by_cases isDigit : value < 10
      · have notZero : ∀ digit < 10, 0 < digit → Nat.digitChar digit ≠ '0' := by decide
        simpa [ofNat, Nat.toDigits_of_lt_base isDigit] using notZero value isDigit positive
      · have shorter := ih (value / 10) (by omega) (by omega)
        rw [ofNat, Nat.toDigits_of_base_le (by decide) (by omega)]
        rwa [List.head?_append_of_ne_nil _ Nat.toDigits_ne_nil]

end Digits

namespace DigitRun

/-- Runs of digits hold digits only. -/
theorem notMem_chars (digits : DigitRun) {char : Char} (notDigit : char.isDigit = false) :
    char ∉ digits.chars := by
  intro member
  have isDigit := List.all_eq_true.mp digits.all_isDigit char member
  rw [notDigit] at isDigit
  contradiction

theorem value_ofNat (number : ℕ) : (ofNat number).value = number := Nat.ofDigitChars_ten_toDigits

theorem value_padded (width number : ℕ) : (padded width number).value = number := by
  simp only [value, padded, Digits.padded, Nat.ofDigitChars_append, Nat.ofDigitChars_replicate_zero,
    Nat.mul_zero]
  exact Nat.ofDigitChars_ten_toDigits

theorem value_append (first second : DigitRun) :
    (first ++ second).value = first.value * 10 ^ second.length + second.value := by
  change Nat.ofDigitChars 10 (first.chars ++ second.chars) 0 = _
  rw [Nat.ofDigitChars_append, Nat.ofDigitChars_eq_ofDigitChars_zero, Nat.mul_comm]
  rfl

theorem length_padded {width number : ℕ} (positive : 0 < width) (lt : number < 10 ^ width) :
    (padded width number).length = width := by
  have fits : (Digits.ofNat number).length ≤ width :=
    (Nat.length_toDigits_le_iff (by decide) positive).mpr lt
  simp only [length, padded, Digits.padded, List.length_append, List.length_replicate]
  omega

/-- A number of units of a decimal place is filled up to as many digits as there are places. -/
theorem length_padded_mod {places : ℕ} (positive : 0 < places) (units : ℕ) :
    (padded places (units % 10 ^ places)).length = places :=
  length_padded positive (Nat.mod_lt units (Nat.pow_pos (by decide)))

/-- The digits before and after a point count the units of the last place. -/
theorem value_ofNat_append_padded {places : ℕ} (positive : 0 < places) (units : ℕ) :
    (ofNat (units / 10 ^ places) ++ padded places (units % 10 ^ places)).value = units := by
  rw [value_append, value_ofNat, value_padded, length_padded_mod positive, Nat.mul_comm]
  exact Nat.div_add_mod _ _

end DigitRun

end Reckoner
