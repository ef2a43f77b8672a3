import Reckoner.Proofs.Calendar.Year
import Reckoner.Proofs.Deposit.Payments

/-!
# Tax periods are the calendar years

Interest is taxed by calendar years. The walk through the days closes a tax period on the last day
of every year and on the last day of the deposit, so each year that the deposit has a day in is
closed once, in order, with the payouts of that year and no others. The allowance passes from one
year to the next.
-/

namespace Reckoner

namespace Deposit

open Date (firstMarch greatest)

variable {α : Type}

/-- The payouts of a calendar year. -/
def payoutsOfYear (payouts : List (Entry α)) (year : Int) : List (Entry α) :=
  payouts.filter fun payout => decide (payout.date.year = year)

variable [Arithmetic α]

/-- The payouts of a calendar year, added from left to right. -/
def interestOfYear (payouts : List (Entry α)) (year : Int) : α :=
  Arithmetic.sum ((payoutsOfYear payouts year).map Entry.amount)

/-! ## Tax periods one after the other -/

namespace Allowance

/-- The allowance that is left after tax periods with the given interest. -/
def afterPeriods (allowance : Allowance α) (interests : List α) : Allowance α :=
  interests.foldl (fun left interest => (left.closePeriod interest).2) allowance

/-- The taxes of tax periods with the given interest that are closed one after the other. -/
def periodTaxes (allowance : Allowance α) : List α → List α
  | [] => []
  | interest :: interests =>
      (allowance.closePeriod interest).1 ::
        (allowance.closePeriod interest).2.periodTaxes interests

/-- The taxes of tax periods as far as tax is due. -/
def dueTaxes (allowance : Allowance α) (interests : List α) : List α :=
  (allowance.periodTaxes interests).filter Arithmetic.isPositive

theorem periodTaxes_append (allowance : Allowance α) (earlier later : List α) :
    allowance.periodTaxes (earlier ++ later) =
      allowance.periodTaxes earlier ++ (allowance.afterPeriods earlier).periodTaxes later := by
  induction earlier generalizing allowance with
  | nil => rfl
  | cons interest earlier ih =>
      rw [List.cons_append, periodTaxes, periodTaxes, ih, List.cons_append]
      rfl

theorem dueTaxes_append (allowance : Allowance α) (earlier later : List α) :
    allowance.dueTaxes (earlier ++ later) =
      allowance.dueTaxes earlier ++ (allowance.afterPeriods earlier).dueTaxes later := by
  rw [dueTaxes, periodTaxes_append, List.filter_append]
  rfl

theorem afterPeriods_append (allowance : Allowance α) (earlier later : List α) :
    allowance.afterPeriods (earlier ++ later) =
      (allowance.afterPeriods earlier).afterPeriods later :=
  List.foldl_append

end Allowance

namespace Account

/-! ## What a day changes in its tax period -/

/-- The interest of the tax periods that a day closes: that of the one period it closes, if any. -/
def closedInterest (finish day : Date) (interest : α) : List α :=
  if day.closesYear finish = true then [interest] else []

/-- The interest that a day leaves for the tax period to go on with. -/
def openInterest (finish day : Date) (interest : α) : α :=
  if day.closesYear finish = true then Nat.cast 0 else interest

/-- Closing a period taxes its interest if the day closes it, and nothing changes otherwise. -/
theorem closePeriod_eq_taxed (finish : Date) (account : Account α) :
    ∃ taxTotal, account.closePeriod finish =
      { account with
        allowance := account.allowance.afterPeriods
          (closedInterest finish account.date account.periodInterest)
        taxes := account.taxes ++ (account.allowance.dueTaxes
          (closedInterest finish account.date account.periodInterest)).toArray
        periodInterest := openInterest finish account.date account.periodInterest
        taxTotal } := by
  rw [closePeriod]
  split
  · next closes =>
    have closed : closedInterest finish account.date account.periodInterest =
      [account.periodInterest] := if_pos closes
    have noneLeft : openInterest finish account.date account.periodInterest = Nat.cast 0 :=
      if_pos closes
    rw [closed, noneLeft, Allowance.afterPeriods, Allowance.dueTaxes, Allowance.periodTaxes,
      Allowance.periodTaxes, List.filter_singleton, List.foldl_cons, List.foldl_nil]
    rcases account.allowance.closePeriod account.periodInterest with ⟨tax, allowance⟩
    cases isDue : Arithmetic.isPositive tax with
    | true => exact ⟨account.taxTotal + tax, by simp [isDue]⟩
    | false => exact ⟨account.taxTotal, by simp [isDue]⟩
  · next staysOpen =>
    have noneClosed : closedInterest finish account.date account.periodInterest = [] :=
      if_neg staysOpen
    have allLeft : openInterest finish account.date account.periodInterest =
      account.periodInterest := if_neg staysOpen
    rw [noneClosed, allLeft]
    exact ⟨account.taxTotal, rfl⟩

/-- What a day with the given payouts changes in its tax period. -/
structure IsTaxDay (finish : Date) (paid : List (Entry α)) (before after : Account α) : Prop where
  payouts : after.payouts.toList = before.payouts.toList ++ paid
  date_of_mem : ∀ payout ∈ paid, payout.date = after.date
  allowance : after.allowance = before.allowance.afterPeriods
    (closedInterest finish after.date ((paid.map Entry.amount).foldl (· + ·) before.periodInterest))
  taxes : after.taxes.toList = before.taxes.toList ++ before.allowance.dueTaxes
    (closedInterest finish after.date ((paid.map Entry.amount).foldl (· + ·) before.periodInterest))
  periodInterest : after.periodInterest =
    openInterest finish after.date ((paid.map Entry.amount).foldl (· + ·) before.periodInterest)

/-- Interest is paid out before the tax period is closed, so it counts for the period. -/
theorem nextDay_isTaxDay (dailyRate : α) (capitalization : Bool) (finish : Date)
    (account : Account α) :
    ∃ paid, IsTaxDay finish paid account (account.nextDay dailyRate capitalization finish) := by
  rw [nextDay]
  rcases closePeriod_eq_taxed finish (((account.accrue dailyRate).payOut capitalization).applyDue)
    with ⟨taxTotal, closed⟩
  rcases applyWhile_eq ((account.accrue dailyRate).payOut capitalization)
    (fun date => decide (date = ((account.accrue dailyRate).payOut capitalization).date)) with
    ⟨overdrafts, applied⟩
  rw [closed, applyDue, applied]
  rcases payOut_cases capitalization (account.accrue dailyRate) with
    ⟨ahead, isNext, paid⟩ | ⟨notNext, notPaid⟩
  · rw [paid]
    refine ⟨[⟨(account.accrue dailyRate).date,
      Arithmetic.roundCents (account.accrue dailyRate).accrued⟩], ?_⟩
    exact ⟨Array.toList_push .., by simp, rfl, Array.toList_append .., rfl⟩
  · rw [notPaid]
    exact ⟨[], (List.append_nil _).symm, by simp, rfl, Array.toList_append .., rfl⟩

end Account

/-! ## Payouts by years -/

theorem interestOfYear_append_of_eq {year : Int} {earlier paid : List (Entry α)}
    (sameYear : ∀ payout ∈ paid, payout.date.year = year) :
    interestOfYear (earlier ++ paid) year =
      (paid.map Entry.amount).foldl (· + ·) (interestOfYear earlier year) := by
  have allPaid : payoutsOfYear paid year = paid :=
    List.filter_eq_self.mpr fun payout member => decide_eq_true (sameYear payout member)
  rw [payoutsOfYear] at allPaid
  rw [interestOfYear, interestOfYear, payoutsOfYear, payoutsOfYear, List.filter_append, allPaid,
    List.map_append, Arithmetic.sum, Arithmetic.sum, List.foldl_append]

theorem interestOfYear_append_of_ne {year : Int} {earlier paid : List (Entry α)}
    (otherYear : ∀ payout ∈ paid, payout.date.year ≠ year) :
    interestOfYear (earlier ++ paid) year = interestOfYear earlier year := by
  have nonePaid : payoutsOfYear paid year = [] :=
    List.filter_eq_nil_iff.mpr fun payout member isDue =>
      otherYear payout member (of_decide_eq_true isDue)
  rw [payoutsOfYear] at nonePaid
  rw [interestOfYear, interestOfYear, payoutsOfYear, payoutsOfYear, List.filter_append, nonePaid,
    List.append_nil]

namespace Conditions

variable {conditions : Conditions α}

/-- The allowance at the start of the deposit. -/
def firstAllowance (conditions : Conditions α) : Allowance α :=
  .initial conditions.keyRate conditions.nonTaxableRemainder conditions.taxRate

/-- The interest of the tax periods that have been closed up to a day, in order. -/
def closedPeriods (conditions : Conditions α) (payouts : List (Entry α)) (day : Date) : List α :=
  (conditions.startDate.closingDays day conditions.finishDate).map fun closing =>
    interestOfYear payouts closing.year

/-- At the end of a day, the years closed by then have been taxed, and the interest of the year that
goes on is what has been paid out in it. -/
structure TaxesYears (conditions : Conditions α) (day : Date) (account : Account α) : Prop where
  allowance : account.allowance = conditions.firstAllowance.afterPeriods
    (conditions.closedPeriods account.payouts.toList day)
  taxes : account.taxes.toList = conditions.firstAllowance.dueTaxes
    (conditions.closedPeriods account.payouts.toList day)
  periodInterest : day < conditions.finishDate →
    account.periodInterest = interestOfYear account.payouts.toList day.next.year

theorem firstDay_taxesYears : conditions.TaxesYears conditions.startDate conditions.firstDay := by
  have noneClosed (payouts : List (Entry α)) :
      conditions.closedPeriods payouts conditions.startDate = [] := by
    rw [closedPeriods, Date.closingDays, Date.daysUpTo_of_le le_rfl]
    rfl
  rcases conditions.firstDay_eq with ⟨overdrafts, firstDayEq⟩
  rw [firstDayEq]
  refine ⟨?_, ?_, fun _ => rfl⟩
  · rw [noneClosed]
    rfl
  · rw [noneClosed]
    rfl

/-- The day's payouts belong to the period that the day closes, if it closes one. -/
theorem closedPeriods_next {day : Date} (notBefore : conditions.startDate ≤ day)
    (isEarlier : day < conditions.finishDate) (earlier : List (Entry α)) {paid : List (Entry α)}
    (paidNext : ∀ payout ∈ paid, payout.date = day.next) :
    conditions.closedPeriods (earlier ++ paid) day.next =
      conditions.closedPeriods earlier day ++
        Account.closedInterest conditions.finishDate day.next
          (interestOfYear (earlier ++ paid) day.next.year) := by
  have notLast := lt_of_lt_of_le isEarlier conditions.finishDate.le_greatest
  rw [closedPeriods, closedPeriods, Date.closingDays, Date.daysUpTo_next notBefore notLast,
    List.filter_append, List.map_append]
  congr 1
  · refine List.map_congr_left ?_
    intro closing member
    rw [List.mem_filter, Date.mem_daysUpTo, Date.closesYear_iff] at member
    rcases member with ⟨⟨_, notAfter⟩, isLastDay | isFinish⟩
    · refine interestOfYear_append_of_ne ?_
      intro payout member sameYear
      have isLess := Date.year_lt_of_isLastDayOfYear isLastDay
        (lt_of_le_of_lt notAfter (Date.lt_next notLast))
      rw [paidNext payout member] at sameYear
      omega
    · rw [isFinish] at notAfter
      exact absurd isEarlier (not_lt.mpr notAfter)
  · rw [Account.closedInterest, List.filter_singleton]
    cases day.next.closesYear conditions.finishDate with
    | true => rfl
    | false => rfl

theorem TaxesYears.next {day : Date} {before after : Account α} {paid : List (Entry α)}
    (notBefore : conditions.startDate ≤ day) (isEarlier : day < conditions.finishDate)
    (taxesYears : conditions.TaxesYears day before)
    (taxDay : Account.IsTaxDay conditions.finishDate paid before after)
    (dateEq : after.date = day.next)
    (paidBy : ∀ payout ∈ after.payouts.toList, payout.date ≤ day.next) :
    conditions.TaxesYears day.next after := by
  have paidNext : ∀ payout ∈ paid, payout.date = day.next := by
    intro payout member
    rw [taxDay.date_of_mem payout member, dateEq]
  have interest : (paid.map Entry.amount).foldl (· + ·) before.periodInterest =
      interestOfYear after.payouts.toList day.next.year := by
    rw [taxesYears.periodInterest isEarlier, taxDay.payouts, interestOfYear_append_of_eq]
    intro payout member
    rw [paidNext payout member]
  have closed := closedPeriods_next notBefore isEarlier before.payouts.toList paidNext
  rw [← taxDay.payouts] at closed
  refine ⟨?_, ?_, ?_⟩
  · rw [taxDay.allowance, interest, dateEq, taxesYears.allowance, closed,
      Allowance.afterPeriods_append]
  · rw [taxDay.taxes, interest, dateEq, taxesYears.allowance, taxesYears.taxes, closed,
      Allowance.dueTaxes_append]
  · intro nextIsEarlier
    have notLast := lt_of_lt_of_le nextIsEarlier conditions.finishDate.le_greatest
    rw [taxDay.periodInterest, interest, dateEq, Account.openInterest]
    split
    · next closes =>
      have isLastDay := (Date.closesYear_iff.mp closes).resolve_right (ne_of_lt nextIsEarlier)
      have newYear := Date.year_lt_of_isLastDayOfYear isLastDay (Date.lt_next notLast)
      have nonePaid : payoutsOfYear after.payouts.toList day.next.next.year = [] := by
        refine List.filter_eq_nil_iff.mpr ?_
        intro payout member isDue
        have notLater := Date.year_le_of_le (paidBy payout member)
        rw [of_decide_eq_true isDue] at notLater
        omega
      rw [interestOfYear, nonePaid]
      rfl
    · next staysOpen =>
      rw [Date.year_next fun isLastDay => staysOpen (Date.closesYear_iff.mpr (Or.inl isLastDay))]

theorem accountOn_taxesYears (counted : firstMarch ≤ conditions.startDate)
    (isLater : conditions.startDate < conditions.finishDate) {day : Date}
    (notBefore : conditions.startDate ≤ day) (notAfter : day ≤ conditions.finishDate) :
    conditions.TaxesYears day (conditions.accountOn day) := by
  refine Date.next_induction
    (motive := fun date => conditions.TaxesYears date (conditions.accountOn date)) ?_ ?_ notBefore
  · rw [accountOn_startDate]
    exact firstDay_taxesYears
  · intro date inside isEarlier taxesYears
    have beforeFinish := lt_of_lt_of_le isEarlier notAfter
    have notLast := lt_of_lt_of_le isEarlier day.le_greatest
    have nextInside := le_trans inside (le_of_lt (Date.lt_next notLast))
    have dateEq := date_accountOn counted nextInside
    have paidBy : ∀ payout ∈ (conditions.accountOn date.next).payouts.toList,
        payout.date ≤ date.next :=
      fun _ member => date_le_of_mem_payouts counted isLater nextInside member
    rcases Account.nextDay_isTaxDay conditions.dailyRate conditions.capitalization
      conditions.finishDate (conditions.accountOn date) with ⟨paid, taxDay⟩
    rw [← accountOn_next counted inside notLast] at taxDay
    exact taxesYears.next inside beforeFinish taxDay dateEq paidBy

/-- The taxes of a deposit are those of the years that its days close. -/
theorem simulate_taxes (counted : firstMarch ≤ conditions.startDate)
    (isLater : conditions.startDate < conditions.finishDate) :
    conditions.simulate.taxes = conditions.firstAllowance.dueTaxes
      (conditions.closedPeriods conditions.simulate.payouts conditions.finishDate) :=
  (accountOn_taxesYears counted isLater (le_of_lt isLater) le_rfl).taxes

/-- The payouts of a deposit are those of its calendar years, one year after the other. -/
theorem flatMap_payoutsOfYear (counted : firstMarch ≤ conditions.startDate)
    (isLater : conditions.startDate < conditions.finishDate) :
    (conditions.startDate.yearsUpTo conditions.finishDate).flatMap
        (payoutsOfYear conditions.simulate.payouts) = conditions.simulate.payouts := by
  have onTime := accountOn_paysOnTime counted isLater (le_of_lt isLater)
  have dates : conditions.simulate.payouts.map Entry.date = conditions.payoutDates :=
    onTime.dates.trans (payoutDatesUpTo_finishDate counted isLater)
  refine Date.flatMap_filter_year ?_ (Date.pairwise_yearsUpTo _ _) ?_
  · have increasing := pairwise_payoutDates counted conditions.finishDate conditions.payoutFrequency
    rw [← payoutDates, ← dates, List.pairwise_map] at increasing
    exact increasing.imp fun isEarlier => Date.year_le_of_le (le_of_lt isEarlier)
  · intro payout member
    have dated : payout.date ∈ conditions.payoutDates := by
      rw [← dates]
      exact List.mem_map_of_mem member
    exact Date.mem_yearsUpTo.mpr ⟨payout.date, mem_payoutDates counted isLater dated, rfl⟩

/-- A deposit is taxed by the calendar years of its days, in order. Every payout belongs to one of
them, and the taxes are what is due when the years are closed one after the other, each with its own
payouts added from left to right. -/
theorem simulate_taxes_by_calendar_years (conditions : Conditions α)
    (counted : firstMarch ≤ conditions.startDate)
    (isLater : conditions.startDate < conditions.finishDate) :
    let outcome := conditions.simulate
    let years := ((conditions.startDate.daysUpTo conditions.finishDate).map Date.year).dedup
    let allowance :=
      Allowance.initial conditions.keyRate conditions.nonTaxableRemainder conditions.taxRate
    years.Pairwise (· < ·) ∧
      years.flatMap (payoutsOfYear outcome.payouts) = outcome.payouts ∧
      outcome.taxes =
        (allowance.periodTaxes (years.map (interestOfYear outcome.payouts))).filter
          Arithmetic.isPositive := by
  have taxes := simulate_taxes counted isLater
  have years := Date.map_year_closingDays conditions.startDate conditions.finishDate
  refine ⟨Date.pairwise_yearsUpTo _ _, flatMap_payoutsOfYear counted isLater, ?_⟩
  rw [taxes, closedPeriods, ← Date.yearsUpTo, ← years, List.map_map]
  rfl

/-- Two days over the turn of a year, with a payout on each. -/
def overNewYear : Conditions Float where
  sum := 1000000.0
  rate := 36.5
  term := 2
  termUnit := .day
  capitalization := true
  payoutFrequency := .daily
  taxRate := 13.0
  keyRate := 0.0
  nonTaxableRemainder := 0.0
  startDate := ⟨2024, 12, 30, Date.leapDay.le_year, Date.leapDay.year_le, Date.greatest.le_month,
    Date.greatest.month_le, by decide, by decide⟩
  funds := []
  withdrawals := []

/-- Each of the two years is taxed with the payout of its one day. -/
theorem simulate_taxes_over_new_year :
    firstMarch ≤ overNewYear.startDate ∧ overNewYear.startDate < overNewYear.finishDate ∧
      overNewYear.simulate.taxes =
        (overNewYear.firstAllowance.periodTaxes
          [interestOfYear overNewYear.simulate.payouts 2024,
            interestOfYear overNewYear.simulate.payouts 2025]).filter Arithmetic.isPositive := by
  have counted : firstMarch ≤ overNewYear.startDate := by decide
  have isLater : overNewYear.startDate < overNewYear.finishDate := by decide
  have years : ((overNewYear.startDate.daysUpTo overNewYear.finishDate).map Date.year).dedup =
      [2024, 2025] := by
    decide +kernel
  have taxes := (simulate_taxes_by_calendar_years overNewYear counted isLater).2.2
  rw [years] at taxes
  exact ⟨counted, isLater, taxes⟩

end Conditions

end Deposit

end Reckoner
