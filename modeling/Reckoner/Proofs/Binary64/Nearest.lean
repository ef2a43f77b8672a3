import Reckoner.Proofs.Binary64.Bits
import Reckoner.Proofs.Rounding

/-!
# The float nearest to a quotient

Around a value the floats lie on a grid of powers of two, which is told by the value itself: the
value takes 53 bits on it, or the grid is the finest there is. The float nearest to the value is the
nearest point of that grid. If that point is the next power of two, it is on the coarser grid above
as well, and the bit pattern is the same there.
-/

namespace Reckoner

namespace Binary64

/-! ## The grid around a value -/

theorem powerQuotient_pos {base : ℕ} (positive : 0 < base) (exponent : ℤ) :
    0 < (powerQuotient base exponent).1 ∧ 0 < (powerQuotient base exponent).2 :=
  ⟨Nat.pow_pos positive, Nat.pow_pos positive⟩

theorem cast_powerQuotient (base : ℕ) (exponent : ℤ) :
    ((powerQuotient base exponent).1 : ℚ) / (powerQuotient base exponent).2 =
      (base : ℚ) ^ exponent := by
  simp only [powerQuotient, Nat.pow_eq, Nat.cast_pow]
  rcases le_total 0 exponent with nonneg | nonpos
  · lift exponent to ℕ using nonneg
    simp
  · obtain ⟨places, rfl⟩ : ∃ places : ℕ, exponent = -places := ⟨exponent.natAbs, by omega⟩
    simp

theorem two_zpow_log2_le {number : ℕ} (positive : 0 < number) :
    (2 : ℚ) ^ (number.log2 : ℤ) ≤ number ∧ (number : ℚ) < 2 ^ ((number.log2 : ℤ) + 1) := by
  have lower := Nat.log2_self_le positive.ne'
  have upper := @Nat.lt_log2_self number
  constructor
  · exact_mod_cast lower
  · exact_mod_cast upper

/-- The lengths of two numbers tell the binary exponent of their quotient up to one. -/
theorem two_zpow_log2_sub_lt {numerator denominator : ℕ} (numerator_pos : 0 < numerator)
    (denominator_pos : 0 < denominator) :
    (2 : ℚ) ^ ((numerator.log2 : ℤ) - denominator.log2 - 1) < numerator / denominator ∧
      (numerator : ℚ) / denominator < 2 ^ ((numerator.log2 : ℤ) - denominator.log2 + 1) := by
  have denominator_pos' : (0 : ℚ) < denominator := by exact_mod_cast denominator_pos
  rcases two_zpow_log2_le numerator_pos with ⟨numerator_le, numerator_lt⟩
  rcases two_zpow_log2_le denominator_pos with ⟨denominator_le, denominator_lt⟩
  generalize (numerator.log2 : ℤ) = upper at *
  generalize (denominator.log2 : ℤ) = lower at *
  constructor
  · rw [lt_div_iff₀ denominator_pos']
    calc (2 : ℚ) ^ (upper - lower - 1) * denominator
        < 2 ^ (upper - lower - 1) * 2 ^ (lower + 1) := by gcongr
      _ = 2 ^ upper := by
        rw [← zpow_add₀ two_ne_zero]
        congr 1
        ring
      _ ≤ numerator := numerator_le
  · rw [div_lt_iff₀ denominator_pos']
    calc (numerator : ℚ) < 2 ^ (upper + 1) := numerator_lt
      _ = 2 ^ (upper - lower + 1) * 2 ^ lower := by
        rw [← zpow_add₀ two_ne_zero]
        congr 1
        ring
      _ ≤ 2 ^ (upper - lower + 1) * denominator := by gcongr

theorem powerQuotient_mul_le_iff {numerator denominator : ℕ} (denominator_pos : 0 < denominator)
    (exponent : ℤ) :
    (powerQuotient 2 exponent).1 * denominator ≤ numerator * (powerQuotient 2 exponent).2 ↔
      (2 : ℚ) ^ exponent ≤ numerator / denominator := by
  have denominator_pos' : (0 : ℚ) < denominator := by exact_mod_cast denominator_pos
  have scale_pos : (0 : ℚ) < (powerQuotient 2 exponent).2 := by
    exact_mod_cast (powerQuotient_pos two_pos exponent).2
  rw [← Nat.cast_ofNat (R := ℚ), ← cast_powerQuotient 2 exponent,
    div_le_div_iff₀ scale_pos denominator_pos']
  norm_cast

/-- The binary exponent of the leading digit of a positive quotient. -/
theorem floorLog2_spec {numerator denominator : ℕ} (numerator_pos : 0 < numerator)
    (denominator_pos : 0 < denominator) :
    (2 : ℚ) ^ floorLog2 numerator denominator ≤ numerator / denominator ∧
      (numerator : ℚ) / denominator < 2 ^ (floorLog2 numerator denominator + 1) := by
  rcases two_zpow_log2_sub_lt numerator_pos denominator_pos with ⟨lt_quotient, quotient_lt⟩
  simp only [floorLog2]
  split
  · next reaches => exact ⟨(powerQuotient_mul_le_iff denominator_pos _).mp reaches, quotient_lt⟩
  · next misses =>
    rw [powerQuotient_mul_le_iff denominator_pos, not_le] at misses
    exact ⟨lt_quotient.le, by simpa using misses⟩

/-- The point of the grid around a value that is nearest to it, counted in units of the grid. -/
structure IsRounding (value : ℚ) (significand : ℕ) (grid : ℤ) : Prop where
  least_le : leastExponent ≤ grid
  lt : value / 2 ^ grid < 2 ^ 53
  le_or_isLeast : 2 ^ 52 ≤ value / 2 ^ grid ∨ grid = leastExponent
  nearest : Rounding.IsNearestEven (value / 2 ^ grid) significand

variable {value : ℚ} {numerator denominator significand other : ℕ} {grid otherGrid exponent : ℤ}

theorem two_zpow_add (exponent : ℤ) (places : ℕ) :
    (2 : ℚ) ^ (exponent + places) = 2 ^ places * 2 ^ exponent := by
  rw [zpow_add₀ two_ne_zero, zpow_natCast, mul_comm]

theorem IsRounding.grid_le (first : IsRounding value significand grid)
    (second : IsRounding value other otherGrid) : grid ≤ otherGrid := by
  rcases first.le_or_isLeast with le | isLeast
  · have lt := second.lt
    rw [le_div_iff₀ (by positivity)] at le
    rw [div_lt_iff₀ (by positivity)] at lt
    have below : (2 : ℚ) ^ (grid + (52 : ℕ)) < 2 ^ (otherGrid + (53 : ℕ)) := by
      rw [two_zpow_add, two_zpow_add]
      exact le.trans_lt lt
    rw [zpow_lt_zpow_iff_right₀ one_lt_two] at below
    omega
  · rw [isLeast]
    exact second.least_le

/-- A value has one grid and one nearest point on it. -/
theorem IsRounding.unique (first : IsRounding value significand grid)
    (second : IsRounding value other otherGrid) : significand = other ∧ grid = otherGrid := by
  obtain rfl : grid = otherGrid := le_antisymm (first.grid_le second) (second.grid_le first)
  exact ⟨first.nearest.unique second.nearest, rfl⟩

theorem isNearestEven_on_grid (numerator : ℕ) (denominator_pos : 0 < denominator) (grid : ℤ) :
    Rounding.IsNearestEven (numerator / denominator / 2 ^ grid)
      (Rounding.nearestEven (numerator * (powerQuotient 2 grid).2)
        (denominator * (powerQuotient 2 grid).1)) := by
  have scale_pos := (powerQuotient_pos two_pos grid).1
  have nearest := Rounding.isNearestEven_nearestEven (numerator * (powerQuotient 2 grid).2)
    (Nat.mul_pos denominator_pos scale_pos)
  have isQuotient := cast_powerQuotient 2 grid
  rw [Nat.cast_ofNat] at isQuotient
  rw [← isQuotient, div_div_eq_mul_div, div_mul_eq_mul_div, div_div]
  exact_mod_cast nearest

/-- Rounding to a float takes the nearest point of the grid around the value. -/
theorem exists_isRounding (numerator : ℕ) {denominator : ℕ} (denominator_pos : 0 < denominator) :
    ∃ significand grid, IsRounding (numerator / denominator) significand grid ∧
      nearestBits numerator denominator = min infinityBits (pattern significand grid) := by
  rcases Nat.eq_zero_or_pos numerator with rfl | numerator_pos
  · refine ⟨0, leastExponent, ⟨le_refl _, ?_, .inr rfl, .of_lt (by simp)⟩, ?_⟩
    · simp
    · simp [nearestBits, pattern]
  rcases floorLog2_spec numerator_pos denominator_pos with ⟨le, lt⟩
  refine ⟨_, max leastExponent (floorLog2 numerator denominator - 52), ⟨le_max_left _ _, ?_, ?_,
    isNearestEven_on_grid numerator denominator_pos _⟩, ?_⟩
  · rw [div_lt_iff₀ (by positivity)]
    refine lt.trans_le ?_
    rw [← two_zpow_add _ 53]
    refine zpow_le_zpow_right₀ one_le_two ?_
    omega
  · rcases max_choice leastExponent (floorLog2 numerator denominator - 52) with isLeast | isLog
    · exact .inr isLeast
    · left
      rw [isLog, le_div_iff₀ (by positivity), ← two_zpow_add _ 52]
      simpa using le
  · simp only [nearestBits, numerator_pos.ne', if_false]
    rfl

theorem nearestBits_eq (denominator_pos : 0 < denominator)
    (rounds : IsRounding (numerator / denominator) significand grid) :
    nearestBits numerator denominator = min infinityBits (pattern significand grid) := by
  rcases exists_isRounding numerator denominator_pos with ⟨other, otherGrid, found, bits⟩
  rcases rounds.unique found with ⟨rfl, rfl⟩
  exact bits

theorem nearest_eq_ofPattern (negative : Bool) (numerator denominator : ℕ) :
    nearest negative numerator denominator =
      ofPattern negative (nearestBits numerator denominator) :=
  rfl

theorem fractionCount_eq : fractionCount = 2 ^ 52 := rfl

/-- The nearest point of the grid has at most 53 bits, but for the next power of two. -/
theorem IsRounding.significand_mem (rounds : IsRounding value significand grid) :
    significand ≤ 2 * fractionCount ∧ (fractionCount ≤ significand ∨ grid = leastExponent) := by
  have near := abs_le.mp rounds.nearest.near
  rw [fractionCount_eq]
  constructor
  · have units_lt := rounds.lt
    have below : (significand : ℚ) < (2 * 2 ^ 52 + 1 : ℕ) := by
      push_cast
      linarith
    have below' : significand < 2 * 2 ^ 52 + 1 := by exact_mod_cast below
    omega
  · refine rounds.le_or_isLeast.imp_left ?_
    intro le_units
    have above : ((2 ^ 52 : ℕ) : ℚ) < (significand + 1 : ℕ) := by
      push_cast
      linarith
    have above' : 2 ^ 52 < significand + 1 := by exact_mod_cast above
    omega

/-- Small values are not rounded to infinity. -/
theorem IsRounding.pattern_lt_of_lt (rounds : IsRounding value significand grid)
    (small : value < 2 ^ 54) : pattern significand grid < infinityBits := by
  have grid_le : grid ≤ 1 := by
    rcases rounds.le_or_isLeast with le | isLeast
    · rw [le_div_iff₀ (by positivity)] at le
      have below : (2 : ℚ) ^ (grid + (52 : ℕ)) < 2 ^ (54 : ℤ) := by
        rw [two_zpow_add]
        exact le.trans_lt small
      rw [zpow_lt_zpow_iff_right₀ one_lt_two] at below
      omega
    · rw [isLeast]
      decide
  have significand_le := rounds.significand_mem.1
  simp only [pattern, infinityBits, leastExponent, fractionCount_eq] at *
  omega

/-- Whether a point of a grid is a magnitude, perhaps one of a coarser grid. -/
structure IsPacked (significand : ℕ) (grid : ℤ) (filled : ℕ) (exponent : ℤ) : Prop where
  isMagnitude : IsMagnitude filled exponent
  grid_le : grid ≤ exponent
  samePattern : pattern significand grid = pattern filled exponent
  sameValue : (filled : ℚ) * 2 ^ exponent = significand * 2 ^ grid
  even : Even significand → Even filled

/-- A rounded value is a magnitude, if its pattern is that of a finite float. A significand rounded
up to the next power of two is the first one that fills its bits on the grid above. -/
theorem IsRounding.exists_isPacked (rounds : IsRounding value significand grid)
    (isFinite : pattern significand grid < infinityBits) :
    ∃ filled exponent, IsPacked significand grid filled exponent := by
  have least_le := rounds.least_le
  simp only [pattern, infinityBits, leastExponent, fractionCount_eq] at isFinite least_le
  rcases rounds.significand_mem with ⟨le, isNormal⟩
  rcases le.lt_or_eq with lt | isPower
  · have le_greatest : grid ≤ 971 := by
      simp only [leastExponent, fractionCount_eq] at isNormal
      omega
    exact ⟨significand, grid, ⟨lt, rounds.least_le, le_greatest, isNormal⟩, le_refl _, rfl, rfl, id⟩
  · rw [fractionCount_eq] at isPower
    refine ⟨2 ^ 52, grid + 1, ⟨by decide, ?_, ?_, .inl le_rfl⟩, by omega, ?_, ?_, ?_⟩
    · simp only [leastExponent]
      omega
    · omega
    · simp only [pattern, leastExponent, fractionCount_eq, isPower]
      omega
    · rw [isPower, zpow_add_one₀ two_ne_zero]
      push_cast
      ring
    · intro _
      decide

/-- The value of a magnitude is its own rounding. -/
theorem IsMagnitude.isRounding (isMagnitude : IsMagnitude significand exponent) :
    IsRounding (significand * 2 ^ exponent) significand exponent := by
  have units : (significand : ℚ) * 2 ^ exponent / 2 ^ exponent = significand :=
    mul_div_cancel_right₀ _ (by positivity)
  refine ⟨isMagnitude.least_le, ?_, ?_, ?_⟩
  · rw [units]
    exact_mod_cast isMagnitude.lt
  · rw [units]
    exact_mod_cast isMagnitude.isNormal
  · apply Rounding.IsNearestEven.of_lt
    rw [units]
    norm_num

theorem IsMagnitude.mul_lt (isMagnitude : IsMagnitude significand exponent) (le : exponent ≤ grid) :
    (significand : ℚ) * 2 ^ exponent < 2 ^ 53 * 2 ^ grid := by
  have significand_lt : (significand : ℚ) < 2 ^ 53 := by exact_mod_cast isMagnitude.lt
  calc (significand : ℚ) * 2 ^ exponent ≤ significand * 2 ^ grid := by
        gcongr
        exact one_le_two
    _ < 2 ^ 53 * 2 ^ grid := by gcongr

/-! ## No float is nearer -/

/-- Whether no magnitude is nearer to a value, and the significand is even if another one is as
near. -/
structure IsNearestMagnitude (value : ℚ) (significand : ℕ) (exponent : ℤ) : Prop where
  isMagnitude : IsMagnitude significand exponent
  near : ∀ other otherExponent, IsMagnitude other otherExponent →
    |value - significand * 2 ^ exponent| ≤ |value - other * 2 ^ otherExponent|
  even_of_tie : ∀ other otherExponent, IsMagnitude other otherExponent →
    (other : ℚ) * 2 ^ otherExponent ≠ significand * 2 ^ exponent →
    |value - significand * 2 ^ exponent| = |value - other * 2 ^ otherExponent| → Even significand

/-- Whether a float has a given sign and no float is nearer to a given magnitude. -/
def IsNearestFloat (negative : Bool) (magnitude : ℚ) (value : Float) : Prop :=
  ∃ significand exponent, ofFloat value = .finite negative significand exponent ∧
    IsNearestMagnitude magnitude significand exponent

/-- A magnitude is a point of a grid, unless it is below the first point that fills its bits
there. -/
theorem IsMagnitude.on_grid_or_lt (isMagnitude : IsMagnitude other exponent) (grid : ℤ) :
    (∃ point : ℤ, (other : ℚ) * 2 ^ exponent = point * 2 ^ grid) ∨
      exponent < grid ∧ (other : ℚ) * 2 ^ exponent < 2 ^ 52 * 2 ^ grid := by
  rcases le_or_gt grid exponent with coarser | finer
  · left
    obtain ⟨shift, rfl⟩ : ∃ shift : ℕ, exponent = grid + shift :=
      ⟨(exponent - grid).toNat, by omega⟩
    refine ⟨other * 2 ^ shift, ?_⟩
    rw [two_zpow_add]
    push_cast
    ring
  · right
    refine ⟨finer, ?_⟩
    calc (other : ℚ) * 2 ^ exponent < 2 ^ 53 * 2 ^ (grid - 1) := isMagnitude.mul_lt (by omega)
      _ = 2 ^ 52 * 2 ^ grid := by
        rw [zpow_sub_one₀ two_ne_zero]
        ring

theorem abs_sub_on_grid (value count : ℚ) (grid : ℤ) :
    |value - count * 2 ^ grid| = |value / 2 ^ grid - count| * 2 ^ grid := by
  have unit_pos : (0 : ℚ) < 2 ^ grid := by positivity
  conv_rhs => rw [← abs_of_pos unit_pos, ← abs_mul, abs_of_pos unit_pos]
  rw [sub_mul, div_mul_cancel₀ _ unit_pos.ne']

theorem IsRounding.abs_sub_le_on_grid (rounds : IsRounding value significand grid) (point : ℤ) :
    |value - significand * 2 ^ grid| ≤ |value - point * 2 ^ grid| := by
  rw [abs_sub_on_grid, abs_sub_on_grid]
  have near := rounds.nearest.abs_sub_le_abs_sub point
  gcongr

/-- What is below the first point that fills its bits is farther away than that point. -/
theorem IsRounding.abs_sub_lt_of_lt (rounds : IsRounding value significand grid)
    (isMagnitude : IsMagnitude other exponent) (finer : exponent < grid)
    (lt : (other : ℚ) * 2 ^ exponent < 2 ^ 52 * 2 ^ grid) :
    |value - significand * 2 ^ grid| < |value - other * 2 ^ exponent| := by
  have notLeast : grid ≠ leastExponent := (isMagnitude.least_le.trans_lt finer).ne'
  have le := rounds.le_or_isLeast.resolve_right notLeast
  rw [le_div_iff₀ (by positivity)] at le
  have near := rounds.abs_sub_le_on_grid (2 ^ 52)
  rw [Int.cast_pow, Int.cast_ofNat, abs_of_nonneg (sub_nonneg.mpr le)] at near
  rw [abs_of_nonneg (sub_nonneg.mpr (lt.le.trans le))]
  linarith

/-- The nearest point of the grid around a value is the magnitude nearest to it. -/
theorem IsRounding.isNearestMagnitude (rounds : IsRounding value significand grid) {filled : ℕ}
    (packed : IsPacked significand grid filled exponent) :
    IsNearestMagnitude value filled exponent := by
  refine ⟨packed.isMagnitude, ?_, ?_⟩
  · intro other otherExponent otherIsMagnitude
    rw [packed.sameValue]
    rcases otherIsMagnitude.on_grid_or_lt grid with ⟨point, isPoint⟩ | ⟨finer, lt⟩
    · rw [isPoint]
      exact rounds.abs_sub_le_on_grid point
    · exact (rounds.abs_sub_lt_of_lt otherIsMagnitude finer lt).le
  · intro other otherExponent otherIsMagnitude distinct tie
    rw [packed.sameValue] at distinct tie
    rcases otherIsMagnitude.on_grid_or_lt grid with ⟨point, isPoint⟩ | ⟨finer, lt⟩
    · have unit_pos : (0 : ℚ) < 2 ^ grid := by positivity
      rw [isPoint, abs_sub_on_grid, abs_sub_on_grid, mul_left_inj' unit_pos.ne'] at tie
      refine packed.even (rounds.nearest.even_of_abs_sub_eq ?_ tie)
      rintro rfl
      exact distinct (by simpa using isPoint)
    · exact absurd tie (rounds.abs_sub_lt_of_lt otherIsMagnitude finer lt).ne

end Binary64

end Reckoner
