import Reckoner.Deposit.Allowance
import Reckoner.Deposit.Timetable

/-!
# Simulation of a deposit

A deposit is simulated day by day. Every day the balance accrues interest, which is rounded and paid
out on the payout dates and then, with capitalization, added to the balance. Transactions take
effect after the accrual of their day, those of the first day at once. On the last day of a calendar
year and of the deposit the interest of the tax period is taxed.

The account may be overdrawn. Nothing is refused then, but every transaction that leaves a negative
balance is recorded.
-/

namespace Reckoner

namespace Deposit

variable {α : Type} [Arithmetic α]

/-- A transaction that left a negative balance. -/
structure Overdraft (α : Type) where
  entry : Entry α
  balance : α

/-- What is known at the end of a day. -/
structure Account (α : Type) where
  date : Date
  /-- The sum and the transactions so far. -/
  contributed : α
  /-- The interest that was added to the balance. -/
  capitalized : α
  /-- The interest since the last payout, not rounded. -/
  accrued : α
  /-- The interest paid out in the current tax period. -/
  periodInterest : α
  interestTotal : α
  taxTotal : α
  /-- The contributed balances of all days, added up. -/
  balanceDays : α
  allowance : Allowance α
  /-- The payout dates that lie ahead. -/
  payoutsAhead : List Date
  /-- The transactions that lie ahead. -/
  entriesAhead : List (Entry α)
  payouts : Array (Entry α)
  /-- The amounts of interest paid out. -/
  payments : Array α
  taxes : Array α
  overdrafts : Array (Overdraft α)

namespace Account

/-- The balance that interest accrues on. -/
def balance (account : Account α) : α := account.contributed + account.capitalized

/-- Applies one transaction. -/
def apply (account : Account α) (entry : Entry α) : Account α :=
  let applied := { account with contributed := account.contributed + entry.amount }
  if Arithmetic.lt applied.balance (Nat.cast 0) then
    { applied with overdrafts := applied.overdrafts.push ⟨entry, applied.balance⟩ }
  else applied

/-- Applies the transactions ahead as long as their dates pass the test. -/
def applyWhile (account : Account α) (isDue : Date → Bool) : Account α :=
  let due := account.entriesAhead.takeWhile fun entry => isDue entry.date
  let ahead := account.entriesAhead.dropWhile fun entry => isDue entry.date
  due.foldl apply { account with entriesAhead := ahead }

/-- Moves to the next day and accrues its interest. -/
def accrue (dailyRate : α) (account : Account α) : Account α :=
  { account with
    date := account.date.addDays 1
    accrued := account.accrued + account.balance * dailyRate
    balanceDays := account.balanceDays + account.contributed }

/-- Pays the interest out if the day is the next payout date. -/
def payOut (capitalization : Bool) (account : Account α) : Account α :=
  match account.payoutsAhead with
  | [] => account
  | payout :: ahead =>
      if payout = account.date then
        let amount := Arithmetic.roundCents account.accrued
        { account with
          payoutsAhead := ahead
          accrued := Nat.cast 0
          payouts := account.payouts.push ⟨account.date, amount⟩
          payments := account.payments.push amount
          interestTotal := account.interestTotal + amount
          periodInterest := account.periodInterest + amount
          capitalized :=
            if capitalization then account.capitalized + amount else account.capitalized }
      else account

/-- Applies the transactions of the day. -/
def applyDue (account : Account α) : Account α :=
  account.applyWhile fun date => decide (date = account.date)

/-- Taxes the interest of the tax period if the day closes it. -/
def closePeriod (finish : Date) (account : Account α) : Account α :=
  if account.date.isLastDayOfYear || decide (account.date = finish) then
    let (tax, allowance) := account.allowance.closePeriod account.periodInterest
    let closed := { account with allowance, periodInterest := Nat.cast 0 }
    if Arithmetic.isPositive tax then
      { closed with taxes := closed.taxes.push tax, taxTotal := closed.taxTotal + tax }
    else closed
  else account

/-- The account one day later. -/
def nextDay (dailyRate : α) (capitalization : Bool) (finish : Date) (account : Account α) :
    Account α :=
  (((account.accrue dailyRate).payOut capitalization).applyDue).closePeriod finish

end Account

/-- The outcome of a deposit. -/
structure Outcome (α : Type) where
  startDate : Date
  finishDate : Date
  /-- The interest paid out. -/
  payouts : List (Entry α)
  /-- The timetable of payouts. -/
  payoutDates : List Date
  /-- The amounts of interest paid out. -/
  payments : List α
  /-- The tax of every tax period in which tax is due. -/
  taxes : List α
  /-- The dated transactions, withdrawals negative. -/
  entries : List (Entry α)
  overdrafts : List (Overdraft α)
  /-- The interest in percent a year of the average contributed balance. -/
  effectiveRate : α
  interestTotal : α
  taxTotal : α
  /-- The sum, the transactions and the interest, less the tax. -/
  total : α

namespace Conditions

/-- The last day of the deposit. -/
def finishDate (conditions : Conditions α) : Date :=
  Deposit.finishDate conditions.startDate conditions.term conditions.termUnit

/-- The payout dates of the deposit. -/
def payoutDates (conditions : Conditions α) : List Date :=
  Deposit.payoutDates conditions.startDate conditions.finishDate conditions.payoutFrequency

/-- The dated transactions of the deposit. -/
def entries (conditions : Conditions α) : List (Entry α) :=
  expand conditions.startDate conditions.finishDate conditions.funds conditions.withdrawals

/-- The interest of one day as a fraction of the balance. -/
def dailyRate (conditions : Conditions α) : α :=
  conditions.rate / Nat.cast 100 / Nat.cast TermUnit.daysInAverageYear

/-- The number of days that the deposit runs. -/
def days (conditions : Conditions α) : Nat :=
  (conditions.startDate.daysBetween conditions.finishDate).toNat

/-- The account on the first day, before the transactions of that day. -/
def opening (conditions : Conditions α) : Account α where
  date := conditions.startDate
  contributed := conditions.sum
  capitalized := Nat.cast 0
  accrued := Nat.cast 0
  periodInterest := Nat.cast 0
  interestTotal := Nat.cast 0
  taxTotal := Nat.cast 0
  balanceDays := Nat.cast 0
  allowance :=
    .initial conditions.keyRate conditions.nonTaxableRemainder conditions.taxRate
  payoutsAhead := conditions.payoutDates
  entriesAhead := conditions.entries
  payouts := #[]
  payments := #[]
  taxes := #[]
  overdrafts := #[]

/-- The account at the end of the first day. -/
def firstDay (conditions : Conditions α) : Account α :=
  conditions.opening.applyWhile fun date => decide (date ≤ conditions.startDate)

/-- The account at the end of a day, counted from the first day as day 0. -/
def accountAfter (conditions : Conditions α) (days : Nat) : Account α :=
  Nat.repeat
    (Account.nextDay conditions.dailyRate conditions.capitalization conditions.finishDate) days
    conditions.firstDay

/-- The interest of all days in percent a year of the average contributed balance, if that is
positive. -/
def effectiveRate (days : Nat) (account : Account α) : α :=
  if 0 < days ∧ Arithmetic.isPositive account.balanceDays then
    account.interestTotal * Nat.cast TermUnit.daysInAverageYear * Nat.cast 100 / account.balanceDays
  else Nat.cast 0

/-- Simulates the deposit from its first to its last day. -/
def simulate (conditions : Conditions α) : Outcome α :=
  let account := conditions.accountAfter conditions.days
  { startDate := conditions.startDate
    finishDate := conditions.finishDate
    payouts := account.payouts.toList
    payoutDates := conditions.payoutDates
    payments := account.payments.toList
    taxes := account.taxes.toList
    entries := conditions.entries
    overdrafts := account.overdrafts.toList
    effectiveRate := effectiveRate conditions.days account
    interestTotal := account.interestTotal
    taxTotal := account.taxTotal
    total := account.contributed + account.interestTotal - account.taxTotal }

end Conditions

end Deposit

end Reckoner
