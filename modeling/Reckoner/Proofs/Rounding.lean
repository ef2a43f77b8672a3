import Mathlib
import Reckoner.Rounding

/-!
# Rounding to the nearest natural number

The rounding of a quotient is told by what it is near to: it is at most one half away, and even if
it is just that far away. Only one natural number is so, so what is rounded may be given by any
quotient.
-/

namespace Reckoner

namespace Rounding

/-- Whether a natural number is nearest to a value, and even if another one is equally near. -/
structure IsNearestEven (value : ℚ) (rounded : ℕ) : Prop where
  near : |value - rounded| ≤ 1 / 2
  even_of_tie : |value - rounded| = 1 / 2 → Even rounded

variable {value : ℚ} {rounded other : ℕ}

theorem IsNearestEven.of_lt (near : |value - rounded| < 1 / 2) : IsNearestEven value rounded :=
  ⟨near.le, fun tie => absurd tie near.ne⟩

/-- Of two nearest numbers, none is greater: the value would be in the middle between two
neighbours, and both would be even. -/
theorem IsNearestEven.le (first : IsNearestEven value rounded)
    (second : IsNearestEven value other) : other ≤ rounded := by
  by_contra above
  have below : rounded < other := not_le.mp above
  have firstNear := abs_le.mp first.near
  have secondNear := abs_le.mp second.near
  have apart : (rounded : ℚ) + 1 ≤ other := by exact_mod_cast below
  have firstEven : Even rounded := by
    apply first.even_of_tie
    rw [abs_of_nonneg (by linarith)]
    linarith
  have secondEven : Even other := by
    apply second.even_of_tie
    rw [abs_of_nonpos (by linarith)]
    linarith
  have next : other = rounded + 1 := by
    have cast_next : (other : ℚ) = (rounded + 1 : ℕ) := by
      push_cast
      linarith
    exact_mod_cast cast_next
  rw [next] at secondEven
  exact Nat.not_even_iff_odd.mpr firstEven.add_one secondEven

/-- Only one natural number is nearest, and even in case of a tie. -/
theorem IsNearestEven.unique (first : IsNearestEven value rounded)
    (second : IsNearestEven value other) : rounded = other :=
  le_antisymm (second.le first) (first.le second)

theorem IsNearestEven.half_le_abs_sub (nearest : IsNearestEven value rounded) {other : ℤ}
    (distinct : other ≠ rounded) : 1 / 2 ≤ |value - other| := by
  have apart : (1 : ℚ) ≤ |(rounded : ℚ) - other| := by
    exact_mod_cast Int.one_le_abs (sub_ne_zero.mpr distinct.symm)
  have detour := abs_sub_le (rounded : ℚ) value other
  have near := nearest.near
  rw [abs_sub_comm (rounded : ℚ) value] at detour
  linarith

/-- No whole number is nearer than the nearest one. -/
theorem IsNearestEven.abs_sub_le_abs_sub (nearest : IsNearestEven value rounded) (other : ℤ) :
    |value - rounded| ≤ |value - other| := by
  by_cases same : other = rounded
  · simp [same]
  · exact nearest.near.trans (nearest.half_le_abs_sub same)

/-- The nearest number is even if another whole number is as near. -/
theorem IsNearestEven.even_of_abs_sub_eq (nearest : IsNearestEven value rounded) {other : ℤ}
    (distinct : other ≠ rounded) (tie : |value - rounded| = |value - other|) : Even rounded := by
  apply nearest.even_of_tie
  have far := nearest.half_le_abs_sub distinct
  exact le_antisymm nearest.near (tie ▸ far)

theorem cast_div_eq_add_rest (numerator : ℕ) {denominator : ℕ} (positive : 0 < denominator) :
    (numerator : ℚ) / denominator =
      (numerator / denominator : ℕ) + (numerator % denominator : ℕ) / denominator := by
  have positive' : (0 : ℚ) < denominator := by exact_mod_cast positive
  have divides : (numerator : ℚ) =
      denominator * (numerator / denominator : ℕ) + (numerator % denominator : ℕ) := by
    exact_mod_cast (Nat.div_add_mod numerator denominator).symm
  rw [divides]
  field_simp

/-- Rounding a quotient finds the natural number nearest to it. A tie goes to the even neighbour, of
which there is one. -/
theorem isNearestEven_nearestEven (numerator : ℕ) {denominator : ℕ} (positive : 0 < denominator) :
    IsNearestEven (numerator / denominator) (nearestEven numerator denominator) := by
  have positive' : (0 : ℚ) < denominator := by exact_mod_cast positive
  have rest_lt : ((numerator % denominator : ℕ) : ℚ) < denominator := by
    exact_mod_cast Nat.mod_lt numerator positive
  have rest_nonneg : (0 : ℚ) ≤ (numerator % denominator : ℕ) := Nat.cast_nonneg _
  have quotient := cast_div_eq_add_rest numerator positive
  simp only [nearestEven]
  generalize numerator / denominator = floor at *
  generalize numerator % denominator = rest at *
  rw [quotient]
  split
  · next isLess =>
    have isLess' : 2 * (rest : ℚ) < denominator := by exact_mod_cast isLess
    apply IsNearestEven.of_lt
    rw [add_sub_cancel_left, abs_of_nonneg (by positivity), div_lt_iff₀ positive']
    linarith
  split
  · next isMore =>
    have isMore' : (denominator : ℚ) < 2 * rest := by exact_mod_cast isMore
    have below : (rest : ℚ) / denominator < 1 := by
      rw [div_lt_one positive']
      exact rest_lt
    have above : 1 / 2 < (rest : ℚ) / denominator := by
      rw [lt_div_iff₀ positive']
      linarith
    apply IsNearestEven.of_lt
    push_cast
    rw [abs_lt]
    constructor <;> linarith
  next notLess notMore =>
  have isHalf : (rest : ℚ) / denominator = 1 / 2 := by
    have isTie : 2 * rest = denominator := by omega
    rw [div_eq_iff positive'.ne', ← isTie]
    push_cast
    ring
  rw [isHalf]
  split
  · next isEven =>
    refine ⟨by norm_num, fun _ => Nat.even_iff.mpr isEven⟩
  · next isOdd =>
    refine ⟨?_, fun _ => Nat.even_iff.mpr (by omega)⟩
    push_cast
    rw [abs_le]
    constructor <;> linarith

end Rounding

end Reckoner
