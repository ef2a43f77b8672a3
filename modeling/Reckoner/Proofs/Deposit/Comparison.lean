import Reckoner.Proofs.Deposit.Payments

/-!
# Two deposits side by side

Whether a day of a deposit is a payout date decides what the day changes. So two deposits that start
on the same day and have the same payout dates up to a day can be followed up to that day side by
side: on each day both pay interest out, or neither does.
-/

namespace Reckoner

namespace Deposit

open Date (firstMarch greatest)

variable {α : Type} [Arithmetic α]

namespace Conditions

variable {conditions : Conditions α}

/-- Interest is paid out on the payout dates and on no other day. -/
theorem accountOn_payout_cases (counted : firstMarch ≤ conditions.startDate)
    (isLater : conditions.startDate < conditions.finishDate) {day : Date}
    (notBefore : conditions.startDate ≤ day) (notLast : day < greatest) :
    (day.next ∈ conditions.payoutDates ∧
        Account.PaysOut conditions.capitalization conditions.dailyRate (conditions.accountOn day)
          (conditions.accountOn day.next)) ∨
      (day.next ∉ conditions.payoutDates ∧
        Account.PaysNothing conditions.dailyRate (conditions.accountOn day)
          (conditions.accountOn day.next)) := by
  have nextInside := le_trans notBefore (le_of_lt (Date.lt_next notLast))
  have onTime := accountOn_paysOnTime counted isLater notBefore
  have onTimeNext := accountOn_paysOnTime counted isLater nextInside
  have dayAfter := Account.nextDay_isDayAfter conditions.dailyRate conditions.capitalization
    conditions.finishDate (conditions.accountOn day)
  rw [← accountOn_next counted notBefore notLast] at dayAfter
  rcases dayAfter.payout with paysOut | paysNothing
  · left
    have isAhead : day.next ∈ (conditions.accountOn day).payoutsAhead := by
      rw [paysOut.payoutsAhead, date_accountOn counted nextInside]
      exact List.mem_cons_self
    rw [onTime.payoutsAhead] at isAhead
    exact ⟨(List.mem_filter.mp isAhead).1, paysOut⟩
  · right
    refine ⟨?_, paysNothing⟩
    intro member
    have isPaid : day.next ∈ conditions.payoutDatesUpTo day.next :=
      List.mem_filter.mpr ⟨member, decide_eq_true le_rfl⟩
    rw [← onTimeNext.dates, paysNothing.payouts, onTime.dates] at isPaid
    have notLater := of_decide_eq_true (List.mem_filter.mp isPaid).2
    exact absurd (Date.lt_next notLast) (not_lt.mpr notLater)

/-- A deposit that ends on the day it starts on pays nothing out. -/
theorem payouts_simulate_of_not_later (counted : firstMarch ≤ conditions.startDate)
    (notLater : ¬conditions.startDate < conditions.finishDate) :
    conditions.simulate.payouts = [] := by
  have notBefore : conditions.startDate ≤ conditions.finishDate := le_finishDate counted _ _
  have sameDay := le_antisymm (not_lt.mp notLater) notBefore
  rcases conditions.firstDay_eq with ⟨overdrafts, firstDayEq⟩
  have noPayouts : (conditions.accountOn conditions.finishDate).payouts.toList = [] := by
    rw [sameDay, accountOn_startDate, firstDayEq]
    rfl
  exact noPayouts

theorem payments_simulate_of_not_later (counted : firstMarch ≤ conditions.startDate)
    (notLater : ¬conditions.startDate < conditions.finishDate) :
    conditions.simulate.payments = [] := by
  rw [payments_simulate counted, payouts_simulate_of_not_later counted notLater, List.map_nil]

variable {first second : Conditions α}

/-- What holds of two accounts on the first day, and is kept by days on which both pay interest out
and by days on which neither does, holds on every later day up to which the payout dates agree. -/
theorem accountOn_induction₂ (countedFirst : firstMarch ≤ first.startDate)
    (sameStart : second.startDate = first.startDate)
    (firstLater : first.startDate < first.finishDate)
    (secondLater : second.startDate < second.finishDate)
    {last : Date} (notBefore : first.startDate ≤ last)
    (sameDates : ∀ day ≤ last, day ∈ first.payoutDates ↔ day ∈ second.payoutDates)
    {motive : Date → Account α → Account α → Prop}
    (base : motive first.startDate first.firstDay second.firstDay)
    (pays : ∀ day, first.startDate ≤ day → day < last →
      Account.PaysOut first.capitalization first.dailyRate (first.accountOn day)
        (first.accountOn day.next) →
      Account.PaysOut second.capitalization second.dailyRate (second.accountOn day)
        (second.accountOn day.next) →
      motive day (first.accountOn day) (second.accountOn day) →
      motive day.next (first.accountOn day.next) (second.accountOn day.next))
    (paysNothing : ∀ day, first.startDate ≤ day → day < last →
      Account.PaysNothing first.dailyRate (first.accountOn day) (first.accountOn day.next) →
      Account.PaysNothing second.dailyRate (second.accountOn day) (second.accountOn day.next) →
      motive day (first.accountOn day) (second.accountOn day) →
      motive day.next (first.accountOn day.next) (second.accountOn day.next)) :
    motive last (first.accountOn last) (second.accountOn last) := by
  have countedSecond : firstMarch ≤ second.startDate := by rwa [sameStart]
  refine Date.next_induction
    (motive := fun day => motive day (first.accountOn day) (second.accountOn day)) ?_ ?_ notBefore
  · have startEq : second.accountOn first.startDate = second.firstDay := by
      rw [← sameStart, accountOn_startDate]
    rw [accountOn_startDate, startEq]
    exact base
  · intro day inside isEarlier holds
    have notLast := lt_of_lt_of_le isEarlier last.le_greatest
    have insideSecond : second.startDate ≤ day := by rwa [sameStart]
    have sameDate := sameDates day.next ((Date.next_le_iff notLast last).mpr isEarlier)
    rcases accountOn_payout_cases countedFirst firstLater inside notLast with
      ⟨isPayout, firstPays⟩ | ⟨noPayout, firstPaysNothing⟩
    · rcases accountOn_payout_cases countedSecond secondLater insideSecond notLast with
        ⟨_, secondPays⟩ | ⟨noPayout, _⟩
      · exact pays day inside isEarlier firstPays secondPays holds
      · exact absurd (sameDate.mp isPayout) noPayout
    · rcases accountOn_payout_cases countedSecond secondLater insideSecond notLast with
        ⟨isPayout, _⟩ | ⟨_, secondPaysNothing⟩
      · exact absurd (sameDate.mpr isPayout) noPayout
      · exact paysNothing day inside isEarlier firstPaysNothing secondPaysNothing holds

end Conditions

end Deposit

end Reckoner
