import Reckoner.Proofs.Deposit.Conservation

/-!
# Interest is paid out on every payout date

The payouts of a deposit are those of its timetable, one on every date. What is paid is told without
the simulation: the interest of the days since the payout before, each on the balance that all
transactions and, with capitalization, all payouts before that day add up to.
-/

namespace Reckoner

namespace Deposit

open Date (firstMarch greatest)

variable {α : Type}

/-! ## Payout dates up to a day -/

namespace Conditions

variable {conditions : Conditions α}

/-- The payout dates up to a day. -/
def payoutDatesUpTo (conditions : Conditions α) (day : Date) : List Date :=
  conditions.payoutDates.filter fun payout => decide (payout ≤ day)

theorem payoutDatesUpTo_finishDate (counted : firstMarch ≤ conditions.startDate)
    (isLater : conditions.startDate < conditions.finishDate) :
    conditions.payoutDatesUpTo conditions.finishDate = conditions.payoutDates := by
  refine List.filter_eq_self.mpr ?_
  intro payout member
  exact decide_eq_true (mem_payoutDates counted isLater member).2

/-- The last payout date up to a day, or the start of the deposit. -/
def lastPayout (conditions : Conditions α) (day : Date) : Date :=
  (conditions.payoutDatesUpTo day).getLastD conditions.startDate

theorem lastPayout_le {day : Date} (notBefore : conditions.startDate ≤ day) :
    conditions.lastPayout day ≤ day := by
  have member :
      conditions.lastPayout day ∈ conditions.startDate :: conditions.payoutDatesUpTo day :=
    List.getLastD_mem_cons
  rcases List.mem_cons.mp member with isStart | dated
  · rw [isStart]
    exact notBefore
  · rw [payoutDatesUpTo, List.mem_filter] at dated
    exact of_decide_eq_true dated.2

end Conditions

variable [Arithmetic α]

/-! ## What is to be paid -/

namespace Outcome

/-- A sum and the dated transactions before a day, added from left to right. -/
def contributedBefore (outcome : Outcome α) (sum : α) (day : Date) : α :=
  ((outcome.entries.filter fun entry => decide (entry.date < day)).map Entry.amount).foldl
    (· + ·) sum

/-- The payouts up to a day, added from left to right, if they are added to the balance. -/
def capitalizedUpTo (outcome : Outcome α) (capitalization : Bool) (day : Date) : α :=
  if capitalization then
    Arithmetic.sum
      ((outcome.payouts.filter fun payout => decide (payout.date ≤ day)).map Entry.amount)
  else Nat.cast 0

/-- The payouts before a day, added from left to right, if they are added to the balance. -/
def capitalizedBefore (outcome : Outcome α) (capitalization : Bool) (day : Date) : α :=
  if capitalization then
    Arithmetic.sum
      ((outcome.payouts.filter fun payout => decide (payout.date < day)).map Entry.amount)
  else Nat.cast 0

end Outcome

namespace Conditions

/-- The interest of a day, by what an outcome lists before that day. -/
def interestOn (conditions : Conditions α) (outcome : Outcome α) (day : Date) : α :=
  (outcome.contributedBefore conditions.sum day +
    outcome.capitalizedBefore conditions.capitalization day) * conditions.dailyRate

/-- The interest of the days after one date up to another in whole cents. -/
def paymentFor (conditions : Conditions α) (outcome : Outcome α) (previous payout : Date) : α :=
  Arithmetic.roundCents
    (Arithmetic.sum ((previous.daysUpTo payout).map (conditions.interestOn outcome)))

/-! ## When it is paid -/

variable {conditions : Conditions α}

/-- At the end of a day, interest has been paid out on the payout dates up to it, and those ahead
are later. -/
structure PaysOnTime (conditions : Conditions α) (day : Date) (account : Account α) : Prop where
  dates : account.payouts.toList.map Entry.date = conditions.payoutDatesUpTo day
  payoutsAhead : account.payoutsAhead =
    conditions.payoutDates.filter fun payout => decide (day < payout)

theorem firstDay_paysOnTime (counted : firstMarch ≤ conditions.startDate)
    (isLater : conditions.startDate < conditions.finishDate) :
    conditions.PaysOnTime conditions.startDate conditions.firstDay := by
  rcases conditions.firstDay_eq with ⟨overdrafts, firstDayEq⟩
  rw [firstDayEq]
  constructor
  · symm
    rw [payoutDatesUpTo]
    refine List.filter_eq_nil_iff.mpr ?_
    intro payout member
    rw [decide_eq_true_eq, not_le]
    exact (mem_payoutDates counted isLater member).1
  · symm
    refine List.filter_eq_self.mpr ?_
    intro payout member
    exact decide_eq_true (mem_payoutDates counted isLater member).1

theorem PaysOnTime.next {day : Date} {before after : Account α}
    (counted : firstMarch ≤ conditions.startDate) (notLast : day < greatest)
    (onTime : conditions.PaysOnTime day before)
    (dayAfter : Account.IsDayAfter conditions.capitalization conditions.dailyRate before after)
    (dateEq : after.date = day.next) : conditions.PaysOnTime day.next after := by
  have increasing := pairwise_payoutDates counted conditions.finishDate conditions.payoutFrequency
  rcases dayAfter.payout with paysOut | paysNothing
  · have isNext := paysOut.payoutsAhead
    rw [onTime.payoutsAhead, dateEq] at isNext
    have used := Date.filter_of_head_eq_next increasing notLast isNext
    refine ⟨?_, used.1⟩
    rw [paysOut.payouts, Array.toList_push, List.map_append, onTime.dates, dateEq, payoutDatesUpTo,
      payoutDatesUpTo, payoutDates, used.2]
    rfl
  · have notNext := paysNothing.payoutsAhead_head
    rw [onTime.payoutsAhead, dateEq] at notNext
    have unused := Date.filter_of_head_ne_next increasing notLast notNext
    refine ⟨?_, ?_⟩
    · rw [paysNothing.payouts, onTime.dates, payoutDatesUpTo, payoutDatesUpTo, payoutDates,
        unused.2]
    · rw [paysNothing.payoutsAhead, onTime.payoutsAhead, payoutDates, unused.1]

theorem accountOn_paysOnTime (counted : firstMarch ≤ conditions.startDate)
    (isLater : conditions.startDate < conditions.finishDate) {day : Date}
    (notBefore : conditions.startDate ≤ day) :
    conditions.PaysOnTime day (conditions.accountOn day) := by
  refine accountOn_induction counted (motive := conditions.PaysOnTime) le_rfl notBefore ?_ ?_
  · rw [accountOn_startDate]
    exact firstDay_paysOnTime counted isLater
  · intro date inside isEarlier dayAfter onTime
    have notLast := lt_of_lt_of_le isEarlier day.le_greatest
    have nextInside := le_trans inside (le_of_lt (Date.lt_next notLast))
    exact onTime.next counted notLast dayAfter (date_accountOn counted nextInside)

theorem date_le_of_mem_payouts (counted : firstMarch ≤ conditions.startDate)
    (isLater : conditions.startDate < conditions.finishDate) {day : Date}
    (notBefore : conditions.startDate ≤ day) {payout : Entry α}
    (member : payout ∈ (conditions.accountOn day).payouts.toList) : payout.date ≤ day := by
  have dated : payout.date ∈ conditions.payoutDatesUpTo day := by
    rw [← (accountOn_paysOnTime counted isLater notBefore).dates]
    exact List.mem_map_of_mem member
  rw [payoutDatesUpTo, List.mem_filter] at dated
  exact of_decide_eq_true dated.2

/-- What has been paid out up to a day stays as it is. -/
theorem filter_payouts_accountOn (counted : firstMarch ≤ conditions.startDate)
    (isLater : conditions.startDate < conditions.finishDate) {day last : Date}
    (notBefore : conditions.startDate ≤ day) (notAfter : day ≤ last) :
    ((conditions.accountOn last).payouts.toList.filter fun payout => decide (payout.date ≤ day)) =
      (conditions.accountOn day).payouts.toList := by
  refine accountOn_induction counted
    (motive := fun _ account =>
      (account.payouts.toList.filter fun payout => decide (payout.date ≤ day)) =
        (conditions.accountOn day).payouts.toList) notBefore notAfter ?_ ?_
  · refine List.filter_eq_self.mpr ?_
    intro payout member
    exact decide_eq_true (date_le_of_mem_payouts counted isLater notBefore member)
  · intro date inside isEarlier dayAfter ih
    have notLast := lt_of_lt_of_le isEarlier last.le_greatest
    have isAfter : day < date.next := lt_of_le_of_lt inside (Date.lt_next notLast)
    have dateEq := date_accountOn counted (le_trans notBefore (le_of_lt isAfter))
    rcases dayAfter.payout with paysOut | paysNothing
    · rw [paysOut.payouts, Array.toList_push, List.filter_append, ih, dateEq]
      simp [isAfter]
    · rw [paysNothing.payouts, ih]

/-! ## How much is paid -/

theorem contributed_accountOn (counted : firstMarch ≤ conditions.startDate) {day : Date}
    (notBefore : conditions.startDate ≤ day) (notLast : day < greatest) :
    (conditions.accountOn day).contributed =
      conditions.simulate.contributedBefore conditions.sum day.next := by
  rw [(accountOn_keepsUp counted notBefore).contributed]
  simp only [contributedUpTo, Outcome.contributedBefore, Date.lt_next_iff notLast]
  rfl

/-- What an account has added to its balance is what the outcome lists up to that day: the outcome
lists the payouts of all days, and those up to this one have been made by now. -/
theorem capitalized_accountOn_upTo (counted : firstMarch ≤ conditions.startDate)
    (isLater : conditions.startDate < conditions.finishDate) {day : Date}
    (notBefore : conditions.startDate ≤ day) (notAfter : day ≤ conditions.finishDate) :
    (conditions.accountOn day).capitalized =
      conditions.simulate.capitalizedUpTo conditions.capitalization day := by
  have unchanged := filter_payouts_accountOn counted isLater notBefore notAfter
  have balances := accountOn_balances counted notBefore
  rw [balances.capitalized, balances.payments, ← unchanged]
  rfl

theorem capitalized_accountOn (counted : firstMarch ≤ conditions.startDate) {day : Date}
    (notBefore : conditions.startDate ≤ day) (isEarlier : day < conditions.finishDate) :
    (conditions.accountOn day).capitalized =
      conditions.simulate.capitalizedBefore conditions.capitalization day.next := by
  have notLast := lt_of_lt_of_le isEarlier conditions.finishDate.le_greatest
  have isLater := lt_of_le_of_lt notBefore isEarlier
  rw [capitalized_accountOn_upTo counted isLater notBefore (le_of_lt isEarlier)]
  simp only [Outcome.capitalizedUpTo, Outcome.capitalizedBefore, Date.lt_next_iff notLast]

/-- During the deposit, a day earns what its outcome tells. -/
theorem balance_mul_dailyRate (counted : firstMarch ≤ conditions.startDate)
    {day : Date} (notBefore : conditions.startDate ≤ day)
    (isEarlier : day < conditions.finishDate) :
    (conditions.accountOn day).balance * conditions.dailyRate =
      conditions.interestOn conditions.simulate day.next := by
  have notLast := lt_of_lt_of_le isEarlier conditions.finishDate.le_greatest
  rw [Account.balance, contributed_accountOn counted notBefore notLast,
    capitalized_accountOn counted notBefore isEarlier, interestOn]

/-- What effective rates divide by is the sum of the contributed balances of all days so far. -/
theorem balanceDays_accountOn (counted : firstMarch ≤ conditions.startDate) {day : Date}
    (notBefore : conditions.startDate ≤ day) :
    (conditions.accountOn day).balanceDays =
      Arithmetic.sum ((conditions.startDate.daysUpTo day).map
        (conditions.simulate.contributedBefore conditions.sum)) := by
  refine accountOn_induction counted
    (motive := fun day account => account.balanceDays =
      Arithmetic.sum ((conditions.startDate.daysUpTo day).map
        (conditions.simulate.contributedBefore conditions.sum))) le_rfl notBefore ?_ ?_
  · rcases conditions.firstDay_eq with ⟨overdrafts, firstDayEq⟩
    rw [accountOn_startDate, firstDayEq, Date.daysUpTo_of_le le_rfl]
    rfl
  · intro date inside isEarlier dayAfter ih
    have notLast := lt_of_lt_of_le isEarlier day.le_greatest
    rw [dayAfter.balanceDays, ih, contributed_accountOn counted inside notLast,
      Date.daysUpTo_next inside notLast, List.map_append, List.map_singleton,
      Arithmetic.sum_append_singleton]

theorem zipWith_append_singleton {β : Type} (combine : Date → Date → β) (first last : Date)
    (dates : List Date) :
    List.zipWith combine (first :: (dates ++ [last])) (dates ++ [last]) =
      List.zipWith combine (first :: dates) dates ++ [combine (dates.getLastD first) last] := by
  induction dates generalizing first with
  | nil => rfl
  | cons date dates ih =>
      rw [List.cons_append, List.zipWith_cons_cons, ih date, List.zipWith_cons_cons,
        List.getLastD_cons]
      rfl

/-- The payments on payout dates after a first date, each for the days since the one before. -/
def paymentsOn (conditions : Conditions α) (outcome : Outcome α) (dates : List Date) : List α :=
  List.zipWith (conditions.paymentFor outcome) (conditions.startDate :: dates) dates

/-- At the end of a day, all payments are what they have to be, and the interest since the last one
is accrued. -/
structure PaysInFull (conditions : Conditions α) (day : Date) (account : Account α) : Prop where
  payments : account.payments.toList =
    conditions.paymentsOn conditions.simulate (conditions.payoutDatesUpTo day)
  accrued : account.accrued = Arithmetic.sum
    (((conditions.lastPayout day).daysUpTo day).map (conditions.interestOn conditions.simulate))

theorem firstDay_paysInFull (counted : firstMarch ≤ conditions.startDate)
    (isLater : conditions.startDate < conditions.finishDate) :
    conditions.PaysInFull conditions.startDate conditions.firstDay := by
  have nonePaid := (firstDay_paysOnTime counted isLater).dates
  rcases conditions.firstDay_eq with ⟨overdrafts, firstDayEq⟩
  rw [firstDayEq] at nonePaid ⊢
  have noDates : conditions.payoutDatesUpTo conditions.startDate = [] := nonePaid.symm
  constructor
  · rw [noDates]
    rfl
  · rw [lastPayout, noDates, List.getLastD_nil, Date.daysUpTo_of_le le_rfl]
    rfl

/-- Going to the next day, the interest of that day is added, and what is accrued then is paid. -/
theorem PaysInFull.next {day : Date} {before after : Account α}
    (notBefore : conditions.startDate ≤ day) (notLast : day < greatest)
    (inFull : conditions.PaysInFull day before)
    (earned : before.balance * conditions.dailyRate =
      conditions.interestOn conditions.simulate day.next)
    (onTimeBefore : conditions.PaysOnTime day before)
    (onTimeAfter : conditions.PaysOnTime day.next after)
    (dayAfter : Account.IsDayAfter conditions.capitalization conditions.dailyRate before after)
    (dateEq : after.date = day.next) : conditions.PaysInFull day.next after := by
  have accrued : before.accrued + before.balance * conditions.dailyRate = Arithmetic.sum
      (((conditions.lastPayout day).daysUpTo day.next).map
        (conditions.interestOn conditions.simulate)) := by
    rw [Date.daysUpTo_next (lastPayout_le notBefore) notLast, List.map_append, List.map_singleton,
      Arithmetic.sum_append_singleton, inFull.accrued, earned]
  rcases dayAfter.payout with paysOut | paysNothing
  · have oneMore : conditions.payoutDatesUpTo day.next =
        conditions.payoutDatesUpTo day ++ [day.next] := by
      rw [← onTimeAfter.dates, ← onTimeBefore.dates, paysOut.payouts, Array.toList_push,
        List.map_append, dateEq]
      rfl
    constructor
    · rw [paysOut.payments_eq, inFull.payments, accrued, oneMore, paymentsOn, paymentsOn,
        zipWith_append_singleton]
      rfl
    · rw [paysOut.accrued, lastPayout, oneMore, List.getLastD_concat, Date.daysUpTo_of_le le_rfl]
      rfl
  · have noMore : conditions.payoutDatesUpTo day.next = conditions.payoutDatesUpTo day := by
      rw [← onTimeAfter.dates, ← onTimeBefore.dates, paysNothing.payouts]
    constructor
    · rw [paysNothing.payments, inFull.payments, noMore]
    · rw [paysNothing.accrued, accrued, lastPayout, lastPayout, noMore]

theorem accountOn_paysInFull (counted : firstMarch ≤ conditions.startDate)
    (isLater : conditions.startDate < conditions.finishDate) :
    conditions.PaysInFull conditions.finishDate (conditions.accountOn conditions.finishDate) := by
  refine accountOn_induction counted (motive := conditions.PaysInFull) le_rfl (le_of_lt isLater)
    ?_ ?_
  · rw [accountOn_startDate]
    exact firstDay_paysInFull counted isLater
  · intro date inside isEarlier dayAfter inFull
    have notLast := lt_of_lt_of_le isEarlier conditions.finishDate.le_greatest
    have nextInside := le_trans inside (le_of_lt (Date.lt_next notLast))
    exact inFull.next inside notLast (balance_mul_dailyRate counted inside isEarlier)
      (accountOn_paysOnTime counted isLater inside)
      (accountOn_paysOnTime counted isLater nextInside) dayAfter (date_accountOn counted nextInside)

/-- A deposit pays interest out on every payout date and on no other. Each payment is the interest
of the days since the payment before, or since the start, added from left to right and rounded to
whole cents, where a day earns the daily rate of the sum, all transactions before it and, with
capitalization, all payments before it. -/
theorem simulate_pays_interest (conditions : Conditions α)
    (counted : firstMarch ≤ conditions.startDate)
    (isLater : conditions.startDate < conditions.finishDate) :
    let outcome := conditions.simulate
    outcome.payouts.map Entry.date = outcome.payoutDates ∧
      outcome.payments = outcome.payouts.map Entry.amount ∧
      outcome.payments =
        List.zipWith
          (fun previous payout => Arithmetic.roundCents (Arithmetic.sum
            ((previous.daysUpTo payout).map fun day =>
              (outcome.contributedBefore conditions.sum day +
                outcome.capitalizedBefore conditions.capitalization day) *
              (conditions.rate / Nat.cast 100 / Nat.cast 365))))
          (outcome.startDate :: outcome.payoutDates) outcome.payoutDates := by
  have onTime := accountOn_paysOnTime counted isLater (le_of_lt isLater)
  have inFull := accountOn_paysInFull counted isLater
  have allDates := payoutDatesUpTo_finishDate counted isLater
  refine ⟨?_, payments_simulate counted, ?_⟩
  · have dates := onTime.dates
    rw [allDates] at dates
    exact dates
  · have payments := inFull.payments
    rw [allDates] at payments
    exact payments

/-- Both days over the leap day are payout dates. -/
theorem simulate_pays_interest_over_leap_day :
    firstMarch ≤ overLeapDay.startDate ∧ overLeapDay.startDate < overLeapDay.finishDate ∧
      overLeapDay.simulate.payouts.map Entry.date =
        [overLeapDay.startDate.next, overLeapDay.startDate.next.next] := by
  have counted : firstMarch ≤ overLeapDay.startDate := by decide
  have isLater : overLeapDay.startDate < overLeapDay.finishDate := by decide
  have dates : overLeapDay.simulate.payoutDates =
      [overLeapDay.startDate.next, overLeapDay.startDate.next.next] := by
    decide +kernel
  refine ⟨counted, isLater, ?_⟩
  rw [← dates]
  exact (simulate_pays_interest overLeapDay counted isLater).1

end Conditions

end Deposit

end Reckoner
