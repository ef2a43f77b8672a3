import Reckoner.Proofs.Deposit.Comparison
import Reckoner.Proofs.Deposit.Taxation

/-!
# The future never changes the past

What a deposit pays out up to a day depends on its terms and on the transactions before that day
only: not on when it ends after that day, nor on what is paid in or taken out on that day or later.
Two such deposits go through the same accounts day by day, as far as the interest is concerned. The
years that are closed by then have the same payouts, and so the same taxes.
-/

namespace Reckoner

namespace Deposit

open Date (firstMarch greatest)

variable {α : Type}

/-! ## The payout dates of the past -/

/-- The payout dates up to a day do not depend on an end of the deposit after that day. -/
theorem mem_payoutDates_congr {start firstFinish secondFinish day : Date}
    (counted : firstMarch ≤ start) (frequency : PayoutFrequency)
    (sameEnd : (day < firstFinish ∧ day < secondFinish) ∨
      (firstFinish = secondFinish ∧ day ≤ firstFinish)) :
    ∀ date ≤ day, date ∈ payoutDates start firstFinish frequency ↔
      date ∈ payoutDates start secondFinish frequency := by
  intro date notAfter
  rcases sameEnd with ⟨beforeFirst, beforeSecond⟩ | ⟨sameFinish, _⟩
  · rw [mem_payoutDates_iff counted (lt_of_le_of_lt notAfter beforeFirst),
      mem_payoutDates_iff counted (lt_of_le_of_lt notAfter beforeSecond)]
  · rw [sameFinish]

namespace Conditions

variable [Arithmetic α] {first second : Conditions α} {day : Date}

/-- Two deposits that do not differ before a day: they have the same terms of interest and the same
transactions before that day, and both end after it or both on the same day, not before it. -/
structure AgreeBefore (first second : Conditions α) (day : Date) : Prop where
  sum : second.sum = first.sum
  rate : second.rate = first.rate
  startDate : second.startDate = first.startDate
  capitalization : second.capitalization = first.capitalization
  payoutFrequency : second.payoutFrequency = first.payoutFrequency
  entries : (second.entries.filter fun entry => decide (entry.date < day)) =
    first.entries.filter fun entry => decide (entry.date < day)
  finishDate : (day < first.finishDate ∧ day < second.finishDate) ∨
    (first.finishDate = second.finishDate ∧ day ≤ first.finishDate)

theorem AgreeBefore.le_finishDate (agree : AgreeBefore first second day) :
    day ≤ first.finishDate ∧ day ≤ second.finishDate := by
  rcases agree.finishDate with ⟨beforeFirst, beforeSecond⟩ | ⟨sameFinish, notAfter⟩
  · exact ⟨le_of_lt beforeFirst, le_of_lt beforeSecond⟩
  · exact ⟨notAfter, sameFinish ▸ notAfter⟩

/-- The balance that earns interest on a day up to the given one is the same. -/
theorem AgreeBefore.contributedUpTo (agree : AgreeBefore first second day) {date : Date}
    (isEarlier : date < day) : second.contributedUpTo date = first.contributedUpTo date := by
  have upTo (conditions : Conditions α) :
      (conditions.entries.filter fun entry => decide (entry.date ≤ date)) =
        (conditions.entries.filter fun entry => decide (entry.date < day)).filter fun entry =>
          decide (entry.date ≤ date) := by
    rw [List.filter_filter]
    refine List.filter_congr ?_
    intro entry _
    rw [← Bool.decide_and, decide_eq_decide]
    exact (and_iff_left_of_imp fun notLater => lt_of_le_of_lt notLater isEarlier).symm
  rw [Conditions.contributedUpTo, Conditions.contributedUpTo, upTo first, upTo second,
    agree.entries, agree.sum]

/-- At the end of a day two accounts have paid out the same, and have the same interest to go on
with. -/
structure SamePast (first second : Account α) : Prop where
  payouts : second.payouts = first.payouts
  accrued : second.accrued = first.accrued
  capitalized : second.capitalized = first.capitalized

/-- Two deposits that agree before a day have the same past on it: both accounts earn the same
interest on every day up to that one. -/
theorem accountOn_samePast (counted : firstMarch ≤ first.startDate)
    (inside : first.startDate ≤ day) (agree : AgreeBefore first second day)
    (firstLater : first.startDate < first.finishDate)
    (secondLater : second.startDate < second.finishDate) :
    SamePast (first.accountOn day) (second.accountOn day) := by
  have countedSecond : firstMarch ≤ second.startDate := by rwa [agree.startDate]
  have sameRate : second.dailyRate = first.dailyRate := by rw [dailyRate, agree.rate, dailyRate]
  have sameDates : ∀ date ≤ day, date ∈ first.payoutDates ↔ date ∈ second.payoutDates := by
    rw [payoutDates, payoutDates, agree.startDate, agree.payoutFrequency]
    exact mem_payoutDates_congr counted first.payoutFrequency agree.finishDate
  have sameInterest (date : Date) (notBefore : first.startDate ≤ date) (isEarlier : date < day)
      (samePast : SamePast (first.accountOn date) (second.accountOn date)) :
      (second.accountOn date).balance * second.dailyRate =
        (first.accountOn date).balance * first.dailyRate := by
    have notBeforeSecond : second.startDate ≤ date := by rwa [agree.startDate]
    rw [Account.balance, Account.balance, (accountOn_keepsUp counted notBefore).contributed,
      (accountOn_keepsUp countedSecond notBeforeSecond).contributed,
      agree.contributedUpTo isEarlier, samePast.capitalized, sameRate]
  refine accountOn_induction₂ counted agree.startDate firstLater secondLater inside sameDates
    (motive := fun _ => SamePast) ?_ ?_ ?_
  · rcases first.firstDay_eq with ⟨_, firstEq⟩
    rcases second.firstDay_eq with ⟨_, secondEq⟩
    rw [firstEq, secondEq]
    exact ⟨rfl, rfl, rfl⟩
  · intro date notBefore isEarlier firstPays secondPays samePast
    have notLast := lt_of_lt_of_le isEarlier day.le_greatest
    have nextInside := le_trans notBefore (le_of_lt (Date.lt_next notLast))
    have nextInsideSecond : second.startDate ≤ date.next := by rwa [agree.startDate]
    have interest := sameInterest date notBefore isEarlier samePast
    refine ⟨?_, ?_, ?_⟩
    · rw [firstPays.payouts, secondPays.payouts, date_accountOn counted nextInside,
        date_accountOn countedSecond nextInsideSecond, samePast.payouts, samePast.accrued, interest]
    · rw [firstPays.accrued, secondPays.accrued]
    · rw [firstPays.capitalized, secondPays.capitalized, samePast.capitalized, samePast.accrued,
        interest, agree.capitalization]
  · intro date notBefore isEarlier firstPaysNothing secondPaysNothing samePast
    have interest := sameInterest date notBefore isEarlier samePast
    refine ⟨?_, ?_, ?_⟩
    · rw [firstPaysNothing.payouts, secondPaysNothing.payouts, samePast.payouts]
    · rw [firstPaysNothing.accrued, secondPaysNothing.accrued, samePast.accrued, interest]
    · rw [firstPaysNothing.capitalized, secondPaysNothing.capitalized, samePast.capitalized]

theorem filter_payouts_congr (counted : firstMarch ≤ first.startDate)
    (inside : first.startDate ≤ day) (agree : AgreeBefore first second day) :
    (first.simulate.payouts.filter fun payout => decide (payout.date ≤ day)) =
      second.simulate.payouts.filter fun payout => decide (payout.date ≤ day) := by
  have countedSecond : firstMarch ≤ second.startDate := by rwa [agree.startDate]
  have insideSecond : second.startDate ≤ day := by rwa [agree.startDate]
  have sameLater : first.startDate < first.finishDate ↔ second.startDate < second.finishDate := by
    rw [agree.startDate]
    rcases agree.finishDate with ⟨beforeFirst, beforeSecond⟩ | ⟨sameFinish, _⟩
    · exact iff_of_true (lt_of_le_of_lt inside beforeFirst) (lt_of_le_of_lt inside beforeSecond)
    · rw [sameFinish]
  by_cases firstLater : first.startDate < first.finishDate
  · have secondLater := sameLater.mp firstLater
    have samePast := accountOn_samePast counted inside agree firstLater secondLater
    have firstPaid := filter_payouts_accountOn counted firstLater inside agree.le_finishDate.1
    have secondPaid :=
      filter_payouts_accountOn countedSecond secondLater insideSecond agree.le_finishDate.2
    rw [samePast.payouts, ← firstPaid] at secondPaid
    exact secondPaid.symm
  · rw [payouts_simulate_of_not_later counted firstLater,
      payouts_simulate_of_not_later countedSecond fun later => firstLater (sameLater.mpr later)]

/-! ## The taxes of the past -/

/-- The taxes that are due on the last days of years up to a day. -/
def taxesUpTo (conditions : Conditions α) (day : Date) : List α :=
  conditions.firstAllowance.dueTaxes
    (((conditions.startDate.daysUpTo day).filter Date.isLastDayOfYear).map fun closing =>
      interestOfYear conditions.simulate.payouts closing.year)

/-- Before the end of the deposit, only the last days of years close tax periods. -/
theorem closingDays_of_lt {start finish : Date} (isEarlier : day < finish) :
    start.closingDays day finish = (start.daysUpTo day).filter Date.isLastDayOfYear := by
  refine List.filter_congr ?_
  intro closing member
  have notFinish : closing ≠ finish := ne_of_lt
    (lt_of_le_of_lt (Date.mem_daysUpTo.mp member).2 isEarlier)
  rw [Date.closesYear, decide_eq_false notFinish, Bool.or_false]

/-- The taxes up to a day before the end come first among the taxes of a deposit. -/
theorem taxesUpTo_prefix (counted : firstMarch ≤ first.startDate)
    (inside : first.startDate ≤ day) (isEarlier : day < first.finishDate) :
    first.taxesUpTo day <+: first.simulate.taxes := by
  have closing : first.startDate.closingDays first.finishDate first.finishDate =
      first.startDate.closingDays day first.finishDate ++
        day.closingDays first.finishDate first.finishDate := by
    rw [Date.closingDays, ← Date.daysUpTo_append inside (le_of_lt isEarlier), List.filter_append]
    rfl
  rw [simulate_taxes counted (lt_of_le_of_lt inside isEarlier), closedPeriods, closing,
    closingDays_of_lt isEarlier, List.map_append, Allowance.dueTaxes_append]
  exact List.prefix_append _ _

/-- Where the payouts up to a day are the same, so is the interest of a year that ends by then. -/
theorem interestOfYear_congr {firstPayouts secondPayouts : List (Entry α)}
    (samePayouts : (firstPayouts.filter fun payout => decide (payout.date ≤ day)) =
      secondPayouts.filter fun payout => decide (payout.date ≤ day))
    {closing : Date} (isLastDay : closing.isLastDayOfYear = true) (notAfter : closing ≤ day) :
    interestOfYear firstPayouts closing.year = interestOfYear secondPayouts closing.year := by
  have upTo (payouts : List (Entry α)) : payoutsOfYear payouts closing.year =
      payoutsOfYear (payouts.filter fun payout => decide (payout.date ≤ day)) closing.year := by
    rw [payoutsOfYear, payoutsOfYear, List.filter_filter]
    refine List.filter_congr ?_
    intro payout _
    rw [← Bool.decide_and, decide_eq_decide]
    refine (and_iff_left_of_imp fun sameYear => ?_).symm
    by_contra isAfter
    have isLess := Date.year_lt_of_isLastDayOfYear isLastDay
      (lt_of_le_of_lt notAfter (not_le.mp isAfter))
    omega
  rw [interestOfYear, interestOfYear, upTo firstPayouts, upTo secondPayouts, samePayouts]

/-- Two deposits with the same terms of interest and the same transactions before a day pay the same
interest up to that day, whatever is paid in or taken out from that day on and whenever they end
after it. With the same terms of tax, the taxes due up to then are the same as well, and come first
among the taxes of both. -/
theorem simulate_agrees_up_to (first second : Conditions α) (day : Date)
    (counted : firstMarch ≤ first.startDate) (inside : first.startDate ≤ day)
    (agree : AgreeBefore first second day) :
    (first.simulate.payouts.filter fun payout => decide (payout.date ≤ day)) =
        (second.simulate.payouts.filter fun payout => decide (payout.date ≤ day)) ∧
      (second.taxRate = first.taxRate → second.keyRate = first.keyRate →
        second.nonTaxableRemainder = first.nonTaxableRemainder →
        day < first.finishDate → day < second.finishDate →
        first.taxesUpTo day = second.taxesUpTo day ∧
          first.taxesUpTo day <+: first.simulate.taxes ∧
          second.taxesUpTo day <+: second.simulate.taxes) := by
  have samePayouts := filter_payouts_congr counted inside agree
  refine ⟨samePayouts, ?_⟩
  intro sameTaxRate sameKeyRate sameRemainder beforeFirst beforeSecond
  have countedSecond : firstMarch ≤ second.startDate := by rwa [agree.startDate]
  have insideSecond : second.startDate ≤ day := by rwa [agree.startDate]
  have sameAllowance : first.firstAllowance = second.firstAllowance := by
    rw [firstAllowance, firstAllowance, sameTaxRate, sameKeyRate, sameRemainder]
  refine ⟨?_, taxesUpTo_prefix counted inside beforeFirst,
    taxesUpTo_prefix countedSecond insideSecond beforeSecond⟩
  rw [taxesUpTo, taxesUpTo, agree.startDate, sameAllowance]
  congr 1
  refine List.map_congr_left ?_
  intro closing member
  rw [List.mem_filter, Date.mem_daysUpTo] at member
  exact interestOfYear_congr samePayouts member.2 member.1.2

/-- A deposit that begins like the one over the turn of a year and goes on for longer, with a
withdrawal on the last day of the year. -/
def longerOverNewYear : Conditions Float :=
  { overNewYear with
    term := 5
    withdrawals := [⟨⟨overNewYear.startDate.next, 500.0⟩, .once⟩] }

/-- The withdrawal changes neither the payout of its own day nor the tax that is due on it. -/
theorem simulate_agrees_up_to_last_day_of_year :
    firstMarch ≤ overNewYear.startDate ∧ overNewYear.startDate ≤ overNewYear.startDate.next ∧
      AgreeBefore overNewYear longerOverNewYear overNewYear.startDate.next ∧
      longerOverNewYear.taxRate = overNewYear.taxRate ∧
      longerOverNewYear.keyRate = overNewYear.keyRate ∧
      longerOverNewYear.nonTaxableRemainder = overNewYear.nonTaxableRemainder ∧
      overNewYear.startDate.next < overNewYear.finishDate ∧
      overNewYear.startDate.next < longerOverNewYear.finishDate ∧
      (overNewYear.simulate.payouts.filter fun payout =>
          decide (payout.date ≤ overNewYear.startDate.next)) =
        (longerOverNewYear.simulate.payouts.filter fun payout =>
          decide (payout.date ≤ overNewYear.startDate.next)) ∧
      overNewYear.taxesUpTo overNewYear.startDate.next =
        longerOverNewYear.taxesUpTo overNewYear.startDate.next ∧
      overNewYear.taxesUpTo overNewYear.startDate.next <+: overNewYear.simulate.taxes ∧
      longerOverNewYear.taxesUpTo overNewYear.startDate.next <+:
        longerOverNewYear.simulate.taxes := by
  have counted : firstMarch ≤ overNewYear.startDate := by decide
  have inside : overNewYear.startDate ≤ overNewYear.startDate.next := by decide
  have beforeFirst : overNewYear.startDate.next < overNewYear.finishDate := by decide
  have beforeSecond : overNewYear.startDate.next < longerOverNewYear.finishDate := by decide
  have noEntries : overNewYear.entries = [] := List.mergeSort_nil
  have oneEntry : longerOverNewYear.entries = [⟨overNewYear.startDate.next, -1.0 * 500.0⟩] := by
    rw [← List.mergeSort_singleton (⟨overNewYear.startDate.next, -1.0 * 500.0⟩ : Entry Float)
      (r := fun earlier later => decide (earlier.date ≤ later.date))]
    rfl
  have agree : AgreeBefore overNewYear longerOverNewYear overNewYear.startDate.next := by
    refine ⟨rfl, rfl, rfl, rfl, rfl, ?_, Or.inl ⟨beforeFirst, beforeSecond⟩⟩
    rw [noEntries, oneEntry]
    rfl
  have agrees := simulate_agrees_up_to overNewYear longerOverNewYear overNewYear.startDate.next
    counted inside agree
  exact ⟨counted, inside, agree, rfl, rfl, rfl, beforeFirst, beforeSecond, agrees.1,
    agrees.2 rfl rfl rfl beforeFirst beforeSecond⟩

end Conditions

end Deposit

end Reckoner
