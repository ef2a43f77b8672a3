import Reckoner.Proofs.Deposit.Walk

/-!
# Money is conserved

The totals of an account are the sums of what has been listed: of the payouts and of the taxes.
Since the walk through the days applies every transaction once, in the order of the list, the total
of a deposit is the sum and all transactions, plus all interest paid out, less all tax.
-/

namespace Reckoner

namespace Deposit

open Date (firstMarch greatest)

variable {α : Type} [Arithmetic α]

namespace Account

/-- The payments of an account are the amounts of its payouts, and its totals are the sums of what
it lists. -/
structure Balances (capitalization : Bool) (account : Account α) : Prop where
  payments : account.payments.toList = account.payouts.toList.map Entry.amount
  interestTotal : account.interestTotal = Arithmetic.sum account.payments.toList
  capitalized : account.capitalized =
    if capitalization then Arithmetic.sum account.payments.toList else Nat.cast 0
  taxTotal : account.taxTotal = Arithmetic.sum account.taxes.toList

theorem PaysOut.payments_eq {capitalization : Bool} {dailyRate : α} {before after : Account α}
    (paysOut : PaysOut capitalization dailyRate before after) :
    after.payments.toList = before.payments.toList ++
      [Arithmetic.roundCents (before.accrued + before.balance * dailyRate)] := by
  rw [paysOut.payments, Array.toList_push]

theorem Balances.next {capitalization : Bool} {dailyRate : α} {before after : Account α}
    (balances : before.Balances capitalization)
    (dayAfter : IsDayAfter capitalization dailyRate before after) :
    after.Balances capitalization := by
  have taxTotal : after.taxTotal = Arithmetic.sum after.taxes.toList := by
    rcases dayAfter.tax with ⟨taxes, total⟩ | ⟨tax, taxes, total⟩
    · rw [taxes, total, balances.taxTotal]
    · rw [taxes, total, balances.taxTotal, Array.toList_push, Arithmetic.sum_append_singleton]
  rcases dayAfter.payout with paysOut | paysNothing
  · refine ⟨?_, ?_, ?_, taxTotal⟩
    · rw [paysOut.payments_eq, balances.payments, paysOut.payouts, Array.toList_push,
        List.map_append]
      rfl
    · rw [paysOut.interestTotal, balances.interestTotal, paysOut.payments_eq,
        Arithmetic.sum_append_singleton]
    · rw [paysOut.capitalized, balances.capitalized, paysOut.payments_eq,
        Arithmetic.sum_append_singleton]
      cases capitalization with
      | false => rfl
      | true => rfl
  · refine ⟨?_, ?_, ?_, taxTotal⟩
    · rw [paysNothing.payments, balances.payments, paysNothing.payouts]
    · rw [paysNothing.interestTotal, balances.interestTotal, paysNothing.payments]
    · rw [paysNothing.capitalized, balances.capitalized, paysNothing.payments]

end Account

namespace Conditions

variable {conditions : Conditions α}

/-- On every day the totals are the sums of what has been listed. -/
theorem accountOn_balances (counted : firstMarch ≤ conditions.startDate) {day : Date}
    (notBefore : conditions.startDate ≤ day) :
    (conditions.accountOn day).Balances conditions.capitalization := by
  refine accountOn_induction counted
    (motive := fun _ account => account.Balances conditions.capitalization) le_rfl notBefore ?_ ?_
  · rcases conditions.firstDay_eq with ⟨overdrafts, firstDayEq⟩
    rw [accountOn_startDate, firstDayEq]
    exact ⟨rfl, rfl, (ite_self _).symm, rfl⟩
  · intro date _ _ dayAfter balances
    exact balances.next dayAfter

/-- The payments that an outcome lists are the amounts of its payouts. -/
theorem payments_simulate (counted : firstMarch ≤ conditions.startDate) :
    conditions.simulate.payments = conditions.simulate.payouts.map Entry.amount :=
  (accountOn_balances counted (le_finishDate counted _ _)).payments

/-- By the end of the deposit, all transactions are due. -/
theorem filter_entries_finishDate :
    (conditions.entries.filter fun entry => decide (entry.date ≤ conditions.finishDate)) =
      conditions.entries := by
  rw [List.filter_eq_self]
  intro entry member
  exact decide_eq_true (mem_expand member).2

theorem contributedUpTo_finishDate :
    conditions.contributedUpTo conditions.finishDate =
      (conditions.entries.map Entry.amount).foldl (· + ·) conditions.sum := by
  rw [contributedUpTo, filter_entries_finishDate]

/-- The total of a deposit is the sum and the dated transactions in their order, plus the interest,
less the tax, and interest and tax are the sums of what is paid. -/
theorem simulate_conserves_money (conditions : Conditions α)
    (counted : firstMarch ≤ conditions.startDate) :
    let outcome := conditions.simulate
    outcome.interestTotal = Arithmetic.sum outcome.payments ∧
      outcome.taxTotal = Arithmetic.sum outcome.taxes ∧
      outcome.total =
        (outcome.entries.map Entry.amount).foldl (· + ·) conditions.sum +
          Arithmetic.sum outcome.payments - Arithmetic.sum outcome.taxes := by
  have notBefore : conditions.startDate ≤ conditions.finishDate := le_finishDate counted _ _
  have keepsUp := accountOn_keepsUp counted notBefore
  have balances := accountOn_balances counted notBefore
  refine ⟨balances.interestTotal, balances.taxTotal, ?_⟩
  have contributed := keepsUp.contributed
  rw [contributedUpTo_finishDate] at contributed
  have totals : conditions.simulate.total =
      (conditions.accountOn conditions.finishDate).contributed +
        (conditions.accountOn conditions.finishDate).interestTotal -
        (conditions.accountOn conditions.finishDate).taxTotal := rfl
  rw [totals, contributed, balances.interestTotal, balances.taxTotal]
  rfl

/-- Two days that begin before a leap day, with one thousand paid in on the leap day. -/
def overLeapDay : Conditions Float where
  sum := 10000.0
  rate := 36.5
  term := 2
  termUnit := .day
  capitalization := true
  payoutFrequency := .daily
  taxRate := 13.0
  keyRate := 0.0
  nonTaxableRemainder := 0.0
  startDate := Date.leapDayEve
  funds := [⟨⟨Date.leapDay, 1000.0⟩, .once⟩]
  withdrawals := []

/-- The thousand that is paid in is part of the total. -/
theorem simulate_conserves_money_over_leap_day :
    firstMarch ≤ overLeapDay.startDate ∧
      overLeapDay.simulate.total = 11000.0 + Arithmetic.sum overLeapDay.simulate.payments -
        Arithmetic.sum overLeapDay.simulate.taxes := by
  have counted : firstMarch ≤ overLeapDay.startDate := by decide
  have total := (simulate_conserves_money overLeapDay counted).2.2
  have entriesEq : overLeapDay.simulate.entries = [⟨overLeapDay.startDate.next, 1.0 * 1000.0⟩] := by
    rw [← List.mergeSort_singleton (⟨overLeapDay.startDate.next, 1.0 * 1000.0⟩ : Entry Float)
      (r := fun earlier later => decide (earlier.date ≤ later.date))]
    rfl
  have contributed : (overLeapDay.simulate.entries.map Entry.amount).foldl (· + ·) overLeapDay.sum =
      11000.0 := by
    rw [entriesEq]
    decide +kernel
  rw [contributed] at total
  exact ⟨counted, total⟩

end Conditions

end Deposit

end Reckoner
