import Reckoner.Proofs.Deposit.Payments

/-!
# A fund on the first day is principal

The transactions of the first day are in effect from the first day that earns interest. So a fund
that comes first among them might as well have been part of the sum: it stays in front of all other
transactions, and once it is applied the account is the one of the greater sum. The two accounts
differ only in what has been recorded about overdrafts before, and no step of the simulation looks
at that.
-/

namespace Reckoner

namespace Deposit

open Date (firstMarch)

variable {α : Type} [Arithmetic α]

namespace Account

/-! ## Earlier records -/

/-- The account with overdrafts recorded before its own. -/
def recordedAfter (earlier : Array (Overdraft α)) (account : Account α) : Account α :=
  { account with overdrafts := earlier ++ account.overdrafts }

variable (earlier : Array (Overdraft α)) (account : Account α)

theorem apply_recordedAfter (entry : Entry α) :
    (account.recordedAfter earlier).apply entry = (account.apply entry).recordedAfter earlier := by
  simp only [apply_eq, recordedAfter]
  split
  · simp
  · rfl

theorem foldl_apply_recordedAfter (entries : List (Entry α)) :
    entries.foldl apply (account.recordedAfter earlier) =
      (entries.foldl apply account).recordedAfter earlier := by
  induction entries generalizing account with
  | nil => rfl
  | cons entry entries ih => rw [List.foldl_cons, apply_recordedAfter, ih, List.foldl_cons]

theorem applyWhile_recordedAfter (isDue : Date → Bool) :
    (account.recordedAfter earlier).applyWhile isDue =
      (account.applyWhile isDue).recordedAfter earlier := by
  have isTaken : ((account.recordedAfter earlier).applyWhile isDue) =
      (account.entriesAhead.takeWhile fun entry => isDue entry.date).foldl apply
        (recordedAfter earlier
          { account with
            entriesAhead := account.entriesAhead.dropWhile fun entry => isDue entry.date }) := rfl
  rw [isTaken, foldl_apply_recordedAfter, applyWhile]

theorem payOut_recordedAfter (capitalization : Bool) :
    (account.recordedAfter earlier).payOut capitalization =
      (account.payOut capitalization).recordedAfter earlier := by
  have payoutsAhead : (account.recordedAfter earlier).payoutsAhead = account.payoutsAhead := rfl
  have date : (account.recordedAfter earlier).date = account.date := rfl
  rw [payOut, payOut, payoutsAhead, date]
  cases account.payoutsAhead with
  | nil => rfl
  | cons payout ahead =>
      by_cases isToday : payout = account.date
      · simp only [if_pos isToday]
        rfl
      · simp only [if_neg isToday]

theorem closePeriod_recordedAfter (finish : Date) :
    (account.recordedAfter earlier).closePeriod finish =
      (account.closePeriod finish).recordedAfter earlier := by
  have date : (account.recordedAfter earlier).date = account.date := rfl
  have allowance : (account.recordedAfter earlier).allowance = account.allowance := rfl
  have periodInterest :
      (account.recordedAfter earlier).periodInterest = account.periodInterest := rfl
  rw [closePeriod, closePeriod, date, allowance, periodInterest]
  split
  · rcases account.allowance.closePeriod account.periodInterest with ⟨tax, left⟩
    by_cases isDue : Arithmetic.isPositive tax = true
    · simp only [if_pos isDue]
      rfl
    · simp only [if_neg isDue]
      rfl
  · rfl

/-- What has been recorded before makes no difference to a day. -/
theorem nextDay_recordedAfter (dailyRate : α) (capitalization : Bool) (finish : Date) :
    (account.recordedAfter earlier).nextDay dailyRate capitalization finish =
      (account.nextDay dailyRate capitalization finish).recordedAfter earlier := by
  have accrued : (account.recordedAfter earlier).accrue dailyRate =
      (account.accrue dailyRate).recordedAfter earlier := rfl
  have date (paid : Account α) : (paid.recordedAfter earlier).date = paid.date := rfl
  simp only [nextDay, applyDue, accrued, payOut_recordedAfter, date, applyWhile_recordedAfter,
    closePeriod_recordedAfter]

end Account

/-! ## The first fund -/

/-- A fund that happens once, on the first day, and comes before all others, comes first among the
dated transactions. -/
theorem expand_cons_startDate {start finish : Date} (notLater : start ≤ finish) (amount : α)
    (funds withdrawals : List (Transaction α)) :
    expand start finish (⟨⟨start, amount⟩, .once⟩ :: funds) withdrawals =
      ⟨start, Nat.cast 1 * amount⟩ :: expand start finish funds withdrawals := by
  have onFirstDay : entriesOf start finish ⟨⟨start, amount⟩, .once⟩ (Nat.cast 1 * amount) =
      [⟨start, Nat.cast 1 * amount⟩] := by
    simp [entriesOf, occurrences, occurrencesUpTo, Recurrence.months, notLater]
  simp only [expand, List.flatMap_cons, onFirstDay, List.cons_append, List.nil_append]
  apply Date.mergeSort_cons_of_le
  intro entry member
  have isExpanded : entry ∈ expand start finish funds withdrawals := by
    simpa [expand] using member
  exact (mem_expand isExpanded).1

namespace Conditions

/-- The deposit with a fund of the first day made part of its sum, and the other funds left. -/
def withPrincipal (conditions : Conditions α) (amount : α) (others : List (Transaction α)) :
    Conditions α :=
  { conditions with sum := conditions.sum + Nat.cast 1 * amount, funds := others }

/-- What is recorded of a fund of the first day: an overdraft, if the balance is below zero even
so. -/
def firstOverdrafts (conditions : Conditions α) (amount : α) : List (Overdraft α) :=
  let balance := conditions.sum + Nat.cast 1 * amount + Nat.cast 0
  if Arithmetic.lt balance (Nat.cast 0) then
    [⟨⟨conditions.startDate, Nat.cast 1 * amount⟩, balance⟩]
  else []

variable {conditions : Conditions α} {amount : α} {others : List (Transaction α)}

theorem entries_of_firstFund (counted : firstMarch ≤ conditions.startDate)
    (firstFund : conditions.funds = ⟨⟨conditions.startDate, amount⟩, .once⟩ :: others) :
    conditions.entries = ⟨conditions.startDate, Nat.cast 1 * amount⟩ ::
      (conditions.withPrincipal amount others).entries := by
  rw [entries, firstFund]
  exact expand_cons_startDate (le_finishDate counted _ _) amount others conditions.withdrawals

/-- Once the fund has been applied, the account is that of the greater sum. -/
theorem firstDay_of_firstFund (counted : firstMarch ≤ conditions.startDate)
    (firstFund : conditions.funds = ⟨⟨conditions.startDate, amount⟩, .once⟩ :: others) :
    conditions.firstDay =
      (conditions.withPrincipal amount others).firstDay.recordedAfter
        (conditions.firstOverdrafts amount).toArray := by
  have applied (ahead : List (Entry α)) :
      Account.apply { conditions.opening with entriesAhead := ahead }
          ⟨conditions.startDate, Nat.cast 1 * amount⟩ =
        Account.recordedAfter (conditions.firstOverdrafts amount).toArray
          { (conditions.withPrincipal amount others).opening with entriesAhead := ahead } := by
    simp only [Account.apply_eq, Account.recordedAfter, firstOverdrafts, opening]
    split
    · rfl
    · rfl
  have entriesAhead : conditions.opening.entriesAhead =
      ⟨conditions.startDate, Nat.cast 1 * amount⟩ ::
        (conditions.withPrincipal amount others).opening.entriesAhead :=
    entries_of_firstFund counted firstFund
  rw [firstDay, Account.applyWhile, entriesAhead]
  simp only [List.takeWhile_cons, List.dropWhile_cons, le_refl, decide_true, if_true,
    List.foldl_cons, applied, Account.foldl_apply_recordedAfter]
  rfl

theorem accountAfter_of_firstFund (counted : firstMarch ≤ conditions.startDate)
    (firstFund : conditions.funds = ⟨⟨conditions.startDate, amount⟩, .once⟩ :: others)
    (days : Nat) :
    conditions.accountAfter days =
      ((conditions.withPrincipal amount others).accountAfter days).recordedAfter
        (conditions.firstOverdrafts amount).toArray := by
  induction days with
  | zero => exact firstDay_of_firstFund counted firstFund
  | succ days ih =>
      have day (deposit : Conditions α) : deposit.accountAfter (days + 1) =
          (deposit.accountAfter days).nextDay deposit.dailyRate deposit.capitalization
            deposit.finishDate := rfl
      rw [day, day, ih, Account.nextDay_recordedAfter]
      rfl

theorem simulate_of_firstFund (counted : firstMarch ≤ conditions.startDate)
    (firstFund : conditions.funds = ⟨⟨conditions.startDate, amount⟩, .once⟩ :: others) :
    conditions.simulate =
      { (conditions.withPrincipal amount others).simulate with
        entries := ⟨conditions.startDate, Nat.cast 1 * amount⟩ ::
          (conditions.withPrincipal amount others).simulate.entries
        overdrafts := conditions.firstOverdrafts amount ++
          (conditions.withPrincipal amount others).simulate.overdrafts } := by
  have account := accountAfter_of_firstFund counted firstFund conditions.days
  have entriesEq := entries_of_firstFund counted firstFund
  rw [simulate, account, entriesEq]
  simp only [Account.recordedAfter, Array.toList_append]
  rfl

/-- A fund that is paid in once, on the first day, and comes first among the funds, is principal: a
deposit with a sum that is greater by the fund, and without the fund, pays and taxes the same on the
same dates. Only its transactions lack the fund, which comes first among the others, and with it the
overdraft that the fund may be recorded as. -/
theorem simulate_first_fund_is_principal (conditions : Conditions α)
    (counted : firstMarch ≤ conditions.startDate) (amount : α) (others : List (Transaction α))
    (firstFund : conditions.funds = ⟨⟨conditions.startDate, amount⟩, .once⟩ :: others) :
    let outcome := conditions.simulate
    let merged :=
      { conditions with sum := conditions.sum + Nat.cast 1 * amount, funds := others }.simulate
    outcome.payouts = merged.payouts ∧
      outcome.payoutDates = merged.payoutDates ∧
      outcome.payments = merged.payments ∧
      outcome.taxes = merged.taxes ∧
      outcome.finishDate = merged.finishDate ∧
      outcome.effectiveRate = merged.effectiveRate ∧
      outcome.interestTotal = merged.interestTotal ∧
      outcome.taxTotal = merged.taxTotal ∧
      outcome.total = merged.total ∧
      outcome.entries = ⟨conditions.startDate, Nat.cast 1 * amount⟩ :: merged.entries ∧
      outcome.overdrafts = conditions.firstOverdrafts amount ++ merged.overdrafts := by
  intro outcome merged
  have same : outcome = _ := simulate_of_firstFund counted firstFund
  rw [same]
  exact ⟨rfl, rfl, rfl, rfl, rfl, rfl, rfl, rfl, rfl, rfl, rfl⟩

/-- Two days over a leap day, with two funds and a withdrawal on the day before them. -/
def fundedOnFirstDay : Conditions Float :=
  { overLeapDay with
    funds := [⟨⟨Date.leapDayEve, 5000.0⟩, .once⟩, ⟨⟨Date.leapDayEve, 250.0⟩, .monthly⟩]
    withdrawals := [⟨⟨Date.leapDayEve, 100.0⟩, .once⟩] }

/-- The first fund adds to the sum of ten thousand, the second one stays a fund. -/
theorem simulate_first_fund_is_principal_before_leap_day :
    let merged := { fundedOnFirstDay with
      sum := fundedOnFirstDay.sum + Nat.cast 1 * 5000.0
      funds := [⟨⟨Date.leapDayEve, 250.0⟩, .monthly⟩] }
    firstMarch ≤ fundedOnFirstDay.startDate ∧
      fundedOnFirstDay.funds =
        [⟨⟨fundedOnFirstDay.startDate, 5000.0⟩, .once⟩, ⟨⟨Date.leapDayEve, 250.0⟩, .monthly⟩] ∧
      merged.sum = 15000.0 ∧
      fundedOnFirstDay.simulate.payouts = merged.simulate.payouts ∧
      fundedOnFirstDay.simulate.total = merged.simulate.total := by
  intro merged
  have counted : firstMarch ≤ fundedOnFirstDay.startDate := by decide
  have ⟨payouts, _, _, _, _, _, _, _, total, _⟩ := simulate_first_fund_is_principal
    fundedOnFirstDay counted 5000.0 [⟨⟨Date.leapDayEve, 250.0⟩, .monthly⟩] rfl
  exact ⟨counted, rfl, by decide +kernel, payouts, total⟩

end Conditions

end Deposit

end Reckoner
