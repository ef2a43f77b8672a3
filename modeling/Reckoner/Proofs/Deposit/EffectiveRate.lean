import Reckoner.Proofs.Deposit.Capitalization

/-!
# The effective rate is the nominal rate up to rounding

A deposit that gives its interest out accrues interest on what has been contributed, day by day.
So over exact rationals the interest of all days is the daily rate of the contributed balances of
all days, but for the rounding of the payouts: half a cent for each at most. On the last day all
that has been accrued is paid out. The effective rate divides the interest by the same balances, so
the longer and the greater they are, the nearer it is to the nominal rate.
-/

namespace Reckoner

namespace Deposit

open Date (firstMarch)

namespace Outcome

variable {α : Type} [Arithmetic α]

/-- The contributed balances that the days of a deposit earn interest on, added up. -/
def balanceDays (outcome : Outcome α) (sum : α) : α :=
  Arithmetic.sum
    ((outcome.startDate.daysUpTo outcome.finishDate).map (outcome.contributedBefore sum))

end Outcome

namespace Account

variable {dailyRate : ℚ} {before after : Account ℚ}

/-- What has been paid out and accrued is the interest on the contributed balances of the days so
far, up to half a cent for each payout. -/
def EarnsNominally (dailyRate : ℚ) (account : Account ℚ) : Prop :=
  |account.interestTotal + account.accrued - account.balanceDays * dailyRate| ≤
    1 / 200 * account.payouts.size

/-- A payout replaces what is accrued by whole cents, and the error grows by no more than half a
cent. All other days are exact. -/
theorem EarnsNominally.next {capitalization : Bool} (nominally : before.EarnsNominally dailyRate)
    (givesOut : before.capitalized = 0)
    (dayAfter : IsDayAfter capitalization dailyRate before after) :
    after.EarnsNominally dailyRate := by
  have earned : before.balance = before.contributed := by
    rw [balance, givesOut]
    exact add_zero _
  rw [EarnsNominally, dayAfter.balanceDays]
  rcases dayAfter.payout with paysOut | paysNothing
  · have rounded := Arithmetic.abs_sub_roundCents (before.accrued + before.balance * dailyRate)
    rw [paysOut.interestTotal, paysOut.accrued, paysOut.payouts, Array.size_push, earned]
    rw [earned] at rounded
    generalize Arithmetic.roundCents (before.accrued + before.contributed * dailyRate) = paid at *
    calc |before.interestTotal + paid + Nat.cast 0 -
            (before.balanceDays + before.contributed) * dailyRate|
        = |(before.interestTotal + before.accrued - before.balanceDays * dailyRate) -
            (before.accrued + before.contributed * dailyRate - paid)| := by
          congr 1
          push_cast
          ring
      _ ≤ |before.interestTotal + before.accrued - before.balanceDays * dailyRate| +
            |before.accrued + before.contributed * dailyRate - paid| := abs_sub _ _
      _ ≤ 1 / 200 * before.payouts.size + 1 / 200 := add_le_add nominally rounded
      _ = 1 / 200 * ((before.payouts.size + 1 : ℕ) : ℚ) := by
          push_cast
          ring
  · rw [paysNothing.interestTotal, paysNothing.accrued, paysNothing.payouts, earned]
    have same : before.interestTotal + (before.accrued + before.contributed * dailyRate) -
          (before.balanceDays + before.contributed) * dailyRate =
        before.interestTotal + before.accrued - before.balanceDays * dailyRate := by
      ring
    rw [same]
    exact nominally

end Account

namespace Conditions

variable {α : Type} [Arithmetic α] {conditions : Conditions α}

/-- On the last day of the deposit all interest is paid out. -/
theorem accrued_finishDate (counted : firstMarch ≤ conditions.startDate)
    (isLater : conditions.startDate < conditions.finishDate) :
    (conditions.accountOn conditions.finishDate).accrued = Nat.cast 0 := by
  have lastPayoutEq : conditions.lastPayout conditions.finishDate = conditions.finishDate := by
    rw [lastPayout, payoutDatesUpTo_finishDate counted isLater, payoutDates, payoutDates_eq,
      List.getLastD_concat]
  rw [(accountOn_paysInFull counted isLater).accrued, lastPayoutEq, Date.daysUpTo_of_le le_rfl]
  rfl

variable {plain : Conditions ℚ}

theorem accountOn_earnsNominally (counted : firstMarch ≤ plain.startDate)
    (givesOut : plain.capitalization = false) {day : Date} (notBefore : plain.startDate ≤ day) :
    (plain.accountOn day).EarnsNominally plain.dailyRate := by
  refine accountOn_induction counted
    (motive := fun _ account => account.EarnsNominally plain.dailyRate) le_rfl notBefore ?_ ?_
  · rcases plain.firstDay_eq with ⟨overdrafts, firstDayEq⟩
    rw [accountOn_startDate, firstDayEq]
    simp [Account.EarnsNominally, opening]
  · intro date inside _ dayAfter nominally
    have capitalized := (accountOn_balances counted inside).capitalized
    rw [givesOut] at capitalized
    exact nominally.next capitalized dayAfter

/-- The interest of a deposit that gives its interest out is the daily rate of its balances, up to
half a cent for each payout. -/
theorem abs_interestTotal_sub_le (counted : firstMarch ≤ plain.startDate)
    (isLater : plain.startDate < plain.finishDate) (givesOut : plain.capitalization = false) :
    |plain.simulate.interestTotal - plain.simulate.balanceDays plain.sum * plain.dailyRate| ≤
      1 / 200 * plain.simulate.payouts.length := by
  have inside : plain.startDate ≤ plain.finishDate := le_of_lt isLater
  have nominally := accountOn_earnsNominally counted givesOut inside
  rw [Account.EarnsNominally, accrued_finishDate counted isLater,
    balanceDays_accountOn counted inside] at nominally
  have accrued : (plain.accountOn plain.finishDate).interestTotal + ((0 : ℕ) : ℚ) =
      plain.simulate.interestTotal := by
    rw [Nat.cast_zero, add_zero]
    rfl
  rw [accrued] at nominally
  exact nominally

/-- The effective rate divides the interest by the balances that the outcome lists. -/
theorem effectiveRate_simulate (counted : firstMarch ≤ plain.startDate)
    (isLater : plain.startDate < plain.finishDate)
    (positive : 0 < plain.simulate.balanceDays plain.sum) :
    plain.simulate.effectiveRate =
      plain.simulate.interestTotal * 365 * 100 / plain.simulate.balanceDays plain.sum := by
  have inside : plain.startDate ≤ plain.finishDate := le_of_lt isLater
  have balanceDays : (plain.accountAfter plain.days).balanceDays =
      plain.simulate.balanceDays plain.sum :=
    balanceDays_accountOn counted inside
  have someDays : 0 < plain.days := by
    have later := (Date.dayNumber_lt_iff counted (le_trans counted inside)).mpr isLater
    rw [days, Date.daysBetween]
    omega
  have isPositive : Arithmetic.isPositive (plain.simulate.balanceDays plain.sum) = true := by
    simpa [Arithmetic.isPositive, Arithmetic.lt] using positive
  have effective : plain.simulate.effectiveRate =
      effectiveRate plain.days (plain.accountAfter plain.days) := rfl
  rw [effective, effectiveRate, balanceDays, if_pos ⟨someDays, isPositive⟩]
  rfl

/-- If a deposit gives its interest out, its effective rate is the nominal one up to the rounding of
the payouts, whatever their dates and the transactions are: each of them moves it by no more than
half a cent, taken for a year, in percent of the balances of all days. -/
theorem effectiveRate_near_rate (conditions : Conditions ℚ)
    (counted : firstMarch ≤ conditions.startDate)
    (isLater : conditions.startDate < conditions.finishDate)
    (givesOut : conditions.capitalization = false)
    (positive : 0 < conditions.simulate.balanceDays conditions.sum) :
    |conditions.simulate.effectiveRate - conditions.rate| ≤
      365 / 2 * conditions.simulate.payouts.length /
        conditions.simulate.balanceDays conditions.sum := by
  have interest := abs_interestTotal_sub_le counted isLater givesOut
  have dailyRate : conditions.dailyRate = conditions.rate / 100 / 365 := rfl
  rw [dailyRate] at interest
  rw [effectiveRate_simulate counted isLater positive]
  generalize conditions.simulate.balanceDays conditions.sum = balanceDays at *
  have difference : conditions.simulate.interestTotal * 365 * 100 / balanceDays - conditions.rate =
      (conditions.simulate.interestTotal - balanceDays * (conditions.rate / 100 / 365)) * 36500 /
        balanceDays := by
    rw [eq_div_iff (ne_of_gt positive), sub_mul, div_mul_cancel₀ _ (ne_of_gt positive)]
    ring
  rw [difference, abs_div, abs_mul, abs_of_pos positive, abs_of_pos (by norm_num : (0 : ℚ) < 36500)]
  apply div_le_div_of_nonneg_right _ (le_of_lt positive)
  calc |conditions.simulate.interestTotal - balanceDays * (conditions.rate / 100 / 365)| * 36500
      ≤ 1 / 200 * conditions.simulate.payouts.length * 36500 := by
        apply mul_le_mul_of_nonneg_right interest
        norm_num
    _ = 365 / 2 * conditions.simulate.payouts.length := by ring

/-- The three days at a rate of which whole cents cannot keep track. -/
def atOnePercent : Conditions ℚ := { threeDays with rate := 1 }

/-- Three payouts over 32,000 of balances leave the effective rate within two hundredths of a
percent point of the nominal one, but not equal to it. -/
theorem effectiveRate_near_rate_of_three_days :
    firstMarch ≤ atOnePercent.startDate ∧ atOnePercent.startDate < atOnePercent.finishDate ∧
      atOnePercent.capitalization = false ∧
      atOnePercent.simulate.balanceDays atOnePercent.sum = 32000 ∧
      atOnePercent.simulate.effectiveRate = 6351 / 6400 ∧
      |atOnePercent.simulate.effectiveRate - atOnePercent.rate| ≤
        365 / 2 * atOnePercent.simulate.payouts.length /
          atOnePercent.simulate.balanceDays atOnePercent.sum := by
  have counted : firstMarch ≤ atOnePercent.startDate := by decide
  have isLater : atOnePercent.startDate < atOnePercent.finishDate := by decide +kernel
  have givesOut : atOnePercent.capitalization = false := rfl
  have balanceDays : atOnePercent.simulate.balanceDays atOnePercent.sum = 32000 := by
    decide +kernel
  have positive : 0 < atOnePercent.simulate.balanceDays atOnePercent.sum := by
    rw [balanceDays]
    norm_num
  exact ⟨counted, isLater, givesOut, balanceDays, by decide +kernel,
    effectiveRate_near_rate atOnePercent counted isLater givesOut positive⟩

end Conditions

end Deposit

end Reckoner
