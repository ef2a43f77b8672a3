import Mathlib.Algebra.Order.BigOperators.Group.List
import Reckoner.Proofs.Deposit.Taxation
import Reckoner.Proofs.Rational

/-!
# The allowance is used up once

Over exact rationals a tax period takes from the remainder of an allowance what its interest exceeds
the base by, as long as there is anything left, and is taxed with the rest of that excess. So what a
sequence of periods leaves, and what it is taxed with altogether, depends on the sum of the excesses
only, and the order of the periods does not matter. The tax of each period is never more than its
interest.
-/

namespace Reckoner

namespace Deposit

namespace Allowance

variable {allowance : Allowance ℚ} {interest : ℚ}

/-! ## One period -/

theorem sub_covered (allowance : Allowance ℚ) (excess : ℚ) :
    excess - allowance.covered excess = max 0 (excess - allowance.remainder) := by
  simp only [covered, Arithmetic.isNaN, Arithmetic.lt, decide_eq_true_eq, Bool.false_eq_true,
    if_false]
  rcases lt_or_ge allowance.remainder excess with isMore | notMore
  · rw [if_pos isMore, max_eq_right (sub_nonneg.mpr (le_of_lt isMore))]
  · rw [if_neg (not_lt.mpr notMore), sub_self, max_eq_left (sub_nonpos.mpr notMore)]

theorem remainder_sub_covered (allowance : Allowance ℚ) (excess : ℚ) :
    allowance.remainder - allowance.covered excess = max 0 (allowance.remainder - excess) := by
  simp only [covered, Arithmetic.isNaN, Arithmetic.lt, decide_eq_true_eq, Bool.false_eq_true,
    if_false]
  rcases lt_or_ge allowance.remainder excess with isMore | notMore
  · rw [if_pos isMore, sub_self, max_eq_left (sub_nonpos.mpr (le_of_lt isMore))]
  · rw [if_neg (not_lt.mpr notMore), max_eq_right (sub_nonneg.mpr notMore)]

/-- What the interest of a period exceeds a base by. -/
def excess (base interest : ℚ) : ℚ := max 0 (interest - base)

/-- The part of the interest of a period that is taxed: what neither the base nor the remainder
covers. -/
def taxable (allowance : Allowance ℚ) (interest : ℚ) : ℚ :=
  if interest - allowance.base ≤ 0 then 0
  else interest - allowance.base - allowance.covered (interest - allowance.base)

theorem taxable_eq (remainderNonneg : 0 ≤ allowance.remainder) :
    allowance.taxable interest = max 0 (excess allowance.base interest - allowance.remainder) := by
  rw [taxable, excess]
  split
  · next notMore =>
    rw [max_eq_left notMore, zero_sub, max_eq_left (neg_nonpos.mpr remainderNonneg)]
  · next isMore =>
    rw [max_eq_right (le_of_lt (not_le.mp isMore)), sub_covered]

/-- A period takes its excess from the remainder, as far as there is any left, and owes the tax of
what is taxable, in whole cents. -/
theorem closePeriod_eq_taxable (remainderNonneg : 0 ≤ allowance.remainder) :
    allowance.closePeriod interest =
      (Arithmetic.round (allowance.taxable interest * allowance.taxRate) / 100,
        { allowance with
          remainder := max 0 (allowance.remainder - excess allowance.base interest) }) := by
  have noTax : (0 : ℚ) = Arithmetic.round (0 * allowance.taxRate) / 100 := by
    rw [zero_mul]
    decide +kernel
  simp only [closePeriod, taxable, excess, Arithmetic.le, decide_eq_true_eq, Nat.cast_zero,
    Nat.cast_ofNat]
  split
  · next notMore =>
    rw [← noTax, max_eq_left notMore, sub_zero, max_eq_right remainderNonneg]
  · next isMore =>
    rw [max_eq_right (le_of_lt (not_le.mp isMore)), ← remainder_sub_covered]
    split
    · next noneTaxable =>
      have isZero : interest - allowance.base - allowance.covered (interest - allowance.base) = 0 :=
        le_antisymm noneTaxable (sub_covered allowance _ ▸ le_max_left _ _)
      rw [isZero, ← noTax]
    · rfl

theorem taxable_mem (baseNonneg : 0 ≤ allowance.base) (remainderNonneg : 0 ≤ allowance.remainder)
    (interest : ℚ) :
    0 ≤ allowance.taxable interest ∧ allowance.taxable interest ≤ max 0 interest := by
  rw [taxable_eq remainderNonneg, excess]
  refine ⟨le_max_left _ _, max_le (le_max_left _ _) ?_⟩
  refine le_trans (sub_le_self _ remainderNonneg) (max_le_max_left 0 ?_)
  exact sub_le_self _ baseNonneg

/-- At a rate of at most all of it, the tax of a period is at most its interest in whole cents. -/
theorem tax_mem (baseNonneg : 0 ≤ allowance.base) (remainderNonneg : 0 ≤ allowance.remainder)
    (rateNonneg : 0 ≤ allowance.taxRate) (rateLe : allowance.taxRate ≤ 100) (interest : ℚ) :
    0 ≤ (allowance.closePeriod interest).1 ∧
      (allowance.closePeriod interest).1 ≤ max 0 (Arithmetic.roundCents interest) := by
  have taxableMem := taxable_mem baseNonneg remainderNonneg interest
  have asCents : (allowance.closePeriod interest).1 =
      Arithmetic.roundCents (allowance.taxable interest * (allowance.taxRate / 100)) := by
    rw [closePeriod_eq_taxable remainderNonneg, Arithmetic.roundCents, Nat.cast_ofNat, mul_assoc,
      div_mul_cancel₀ _ (by norm_num : (100 : ℚ) ≠ 0)]
  have roundedMax : max 0 (Arithmetic.roundCents interest) =
      Arithmetic.roundCents (max 0 interest) := by
    have zero : Arithmetic.roundCents (0 : ℚ) = 0 := by decide +kernel
    rw [Monotone.map_max fun _ _ => Arithmetic.roundCents_mono, zero]
  rw [asCents, roundedMax]
  constructor
  · exact Arithmetic.roundCents_nonneg (mul_nonneg taxableMem.1 (by linarith))
  · apply Arithmetic.roundCents_mono
    exact le_trans (mul_le_of_le_one_right taxableMem.1 (by linarith)) taxableMem.2

/-! ## A sequence of periods -/

/-- What the interest of periods exceeds a base by, period by period, added up. -/
def totalExcess (base : ℚ) (interests : List ℚ) : ℚ := (interests.map (excess base)).sum

theorem totalExcess_nonneg (base : ℚ) (interests : List ℚ) : 0 ≤ totalExcess base interests := by
  apply List.sum_nonneg
  intro value member
  rcases List.mem_map.mp member with ⟨interest, _, rfl⟩
  exact le_max_left _ _

theorem totalExcess_cons (base interest : ℚ) (interests : List ℚ) :
    totalExcess base (interest :: interests) =
      excess base interest + totalExcess base interests := by
  rw [totalExcess, List.map_cons, List.sum_cons, totalExcess]

theorem totalExcess_perm {base : ℚ} {interests reordered : List ℚ}
    (same : reordered.Perm interests) : totalExcess base reordered = totalExcess base interests :=
  (same.map _).sum_eq

/-- The taxable parts of the interest of periods that are closed one after the other. -/
def taxables (allowance : Allowance ℚ) : List ℚ → List ℚ
  | [] => []
  | interest :: interests =>
      allowance.taxable interest :: (allowance.closePeriod interest).2.taxables interests

/-- Periods take their excess from the remainder until nothing is left. -/
theorem remainder_afterPeriods (remainderNonneg : 0 ≤ allowance.remainder) (interests : List ℚ) :
    (allowance.afterPeriods interests).remainder =
      max 0 (allowance.remainder - totalExcess allowance.base interests) := by
  induction interests generalizing allowance with
  | nil =>
      rw [totalExcess, List.map_nil, List.sum_nil, sub_zero, max_eq_right remainderNonneg]
      rfl
  | cons interest interests ih =>
      have laterNonneg := totalExcess_nonneg allowance.base interests
      rw [afterPeriods, List.foldl_cons, ← afterPeriods, closePeriod_eq_taxable remainderNonneg,
        ih (le_max_left _ _), totalExcess_cons, ← sub_sub]
      dsimp only
      rcases le_total allowance.remainder (excess allowance.base interest) with usedUp | isLeft
      · have noneLeft := sub_nonpos.mpr usedUp
        rw [max_eq_left noneLeft, max_eq_left (by linarith), max_eq_left (by linarith)]
      · rw [max_eq_right (sub_nonneg.mpr isLeft)]

/-- What is taxed altogether is what the excess of all periods exceeds the remainder by. -/
theorem sum_taxables (remainderNonneg : 0 ≤ allowance.remainder) (interests : List ℚ) :
    (allowance.taxables interests).sum =
      max 0 (totalExcess allowance.base interests - allowance.remainder) := by
  induction interests generalizing allowance with
  | nil =>
      rw [totalExcess, List.map_nil, List.sum_nil, zero_sub,
        max_eq_left (neg_nonpos.mpr remainderNonneg)]
      rfl
  | cons interest interests ih =>
      have laterNonneg := totalExcess_nonneg allowance.base interests
      rw [taxables, List.sum_cons, taxable_eq remainderNonneg,
        closePeriod_eq_taxable remainderNonneg, ih (le_max_left _ _), totalExcess_cons]
      dsimp only
      rcases le_total allowance.remainder (excess allowance.base interest) with usedUp | isLeft
      · have isMore := sub_nonneg.mpr usedUp
        rw [max_eq_right isMore, max_eq_left (sub_nonpos.mpr usedUp), sub_zero,
          max_eq_right laterNonneg, max_eq_right (by linarith)]
        ring
      · rw [max_eq_left (sub_nonpos.mpr isLeft), max_eq_right (sub_nonneg.mpr isLeft), zero_add]
        congr 1
        ring

/-- Each period is taxed with the tax of its taxable part, in whole cents. -/
theorem periodTaxes_eq_map_taxables (remainderNonneg : 0 ≤ allowance.remainder)
    (interests : List ℚ) :
    allowance.periodTaxes interests =
      (allowance.taxables interests).map fun taxable =>
        Arithmetic.round (taxable * allowance.taxRate) / 100 := by
  induction interests generalizing allowance with
  | nil => rfl
  | cons interest interests ih =>
      rw [periodTaxes, taxables, List.map_cons, closePeriod_eq_taxable remainderNonneg,
        ih (le_max_left _ _)]

theorem forall₂_tax_mem (baseNonneg : 0 ≤ allowance.base)
    (remainderNonneg : 0 ≤ allowance.remainder) (rateNonneg : 0 ≤ allowance.taxRate)
    (rateLe : allowance.taxRate ≤ 100) (interests : List ℚ) :
    List.Forall₂ (fun interest tax => 0 ≤ tax ∧ tax ≤ max 0 (Arithmetic.roundCents interest))
      interests (allowance.periodTaxes interests) := by
  induction interests generalizing allowance with
  | nil => exact List.Forall₂.nil
  | cons interest interests ih =>
      have taxMem := tax_mem baseNonneg remainderNonneg rateNonneg rateLe interest
      refine List.Forall₂.cons taxMem ?_
      rw [closePeriod_eq_taxable remainderNonneg]
      exact ih baseNonneg (le_max_left _ _) rateNonneg rateLe

/-! ## The allowance of a deposit -/

theorem base_initial (keyRate remainder taxRate : ℚ) :
    (initial keyRate remainder taxRate).base = keyRate * 10000 := by
  rw [initial, baseExemption, exemptPrincipal, Nat.cast_ofNat, Nat.cast_ofNat, mul_div_assoc]
  norm_num

theorem remainder_initial (keyRate remainder taxRate : ℚ) :
    (initial keyRate remainder taxRate).remainder = max 0 remainder := by
  simp only [initial, Arithmetic.isPositive, Arithmetic.lt, decide_eq_true_eq, Nat.cast_zero]
  split
  · next isPositive => exact (max_eq_right (le_of_lt isPositive)).symm
  · next notPositive => exact (max_eq_left (not_lt.mp notPositive)).symm

/-- However often tax periods are closed, the remainder is used up once: it is what the excess of
all periods over the base leaves of it, and the taxed parts of their interest add up to what that
excess exceeds it by, in whatever order the periods come. Each tax is that of its part in whole
cents, not negative and not more than the interest in whole cents. -/
theorem periods_use_up_remainder (keyRate remainder taxRate : ℚ) (keyRateNonneg : 0 ≤ keyRate)
    (taxRateNonneg : 0 ≤ taxRate) (taxRateLe : taxRate ≤ 100) (interests : List ℚ) :
    let allowance := initial keyRate remainder taxRate
    let total := (interests.map fun interest => max 0 (interest - keyRate * 10000)).sum
    (allowance.afterPeriods interests).remainder = max 0 (max 0 remainder - total) ∧
      (allowance.taxables interests).sum = max 0 (total - max 0 remainder) ∧
      (∀ reordered : List ℚ, reordered.Perm interests →
        (allowance.taxables reordered).sum = (allowance.taxables interests).sum) ∧
      allowance.periodTaxes interests = (allowance.taxables interests).map (fun taxable =>
        Arithmetic.round (taxable * taxRate) / 100) ∧
      List.Forall₂ (fun interest tax => 0 ≤ tax ∧ tax ≤ max 0 (Arithmetic.roundCents interest))
        interests (allowance.periodTaxes interests) := by
  intro allowance total
  have baseEq : allowance.base = keyRate * 10000 := base_initial keyRate remainder taxRate
  have remainderEq : allowance.remainder = max 0 remainder :=
    remainder_initial keyRate remainder taxRate
  have baseNonneg : 0 ≤ allowance.base := by
    rw [baseEq]
    exact mul_nonneg keyRateNonneg (by norm_num)
  have remainderNonneg : 0 ≤ allowance.remainder := by
    rw [remainderEq]
    exact le_max_left _ _
  have totalEq : totalExcess allowance.base interests = total := by
    rw [baseEq]
    rfl
  refine ⟨?_, ?_, ?_, ?_, ?_⟩
  · rw [remainder_afterPeriods remainderNonneg, totalEq, remainderEq]
  · rw [sum_taxables remainderNonneg, totalEq, remainderEq]
  · intro reordered same
    rw [sum_taxables remainderNonneg, sum_taxables remainderNonneg, totalExcess_perm same]
  · exact periodTaxes_eq_map_taxables remainderNonneg interests
  · exact forall₂_tax_mem baseNonneg remainderNonneg taxRateNonneg taxRateLe interests

/-- A remainder of 15000 covers the excess of one period and a quarter of that of the next. -/
theorem periods_use_up_remainder_in_two_years :
    (0 : ℚ) ≤ 10 ∧ (0 : ℚ) ≤ 13 ∧ (13 : ℚ) ≤ 100 ∧
      ((initial (10 : ℚ) 15000 13).afterPeriods [110000, 120000]).remainder = 0 ∧
      ((initial (10 : ℚ) 15000 13).taxables [110000, 120000]).sum = 15000 ∧
      ((initial (10 : ℚ) 15000 13).taxables [120000, 110000]).sum = 15000 ∧
      (initial (10 : ℚ) 15000 13).periodTaxes [110000, 120000] = [0, 1950] := by
  have keyRateNonneg : (0 : ℚ) ≤ 10 := by norm_num
  have taxRateNonneg : (0 : ℚ) ≤ 13 := by norm_num
  have taxRateLe : (13 : ℚ) ≤ 100 := by norm_num
  have ⟨left, taxed, anyOrder, _, _⟩ := periods_use_up_remainder 10 15000 13 keyRateNonneg
    taxRateNonneg taxRateLe [110000, 120000]
  have taxedEq : ((initial (10 : ℚ) 15000 13).taxables [110000, 120000]).sum = 15000 := by
    rw [taxed]
    norm_num
  refine ⟨keyRateNonneg, taxRateNonneg, taxRateLe, ?_, taxedEq, ?_, by decide +kernel⟩
  · rw [left]
    norm_num
  · rw [anyOrder _ (List.Perm.swap _ _ _), taxedEq]

end Allowance

end Deposit

end Reckoner
