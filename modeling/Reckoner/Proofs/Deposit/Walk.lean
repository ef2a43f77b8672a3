import Reckoner.Deposit.Simulation
import Reckoner.Proofs.Calendar.Dated
import Reckoner.Proofs.Deposit.Timetable

/-!
# The walk through the days of a deposit

The simulation visits every day of the deposit once. What happens on a day is stated once, for all
results about the days of a deposit. On each day exactly the transactions of that day are applied,
so at the end of a day those up to that day have been applied and those ahead are later.
-/

namespace Reckoner

namespace Deposit

open Date (firstMarch greatest)

variable {α : Type} [Arithmetic α]

namespace Account

/-! ## What a day changes -/

/-- A transaction adds its amount, and is recorded if it leaves a balance below zero. -/
theorem apply_eq (account : Account α) (entry : Entry α) :
    account.apply entry =
      { account with
        contributed := account.contributed + entry.amount
        overdrafts :=
          if Arithmetic.lt (account.contributed + entry.amount + account.capitalized)
              (Nat.cast 0) then
            account.overdrafts.push
              ⟨entry, account.contributed + entry.amount + account.capitalized⟩
          else account.overdrafts } := by
  by_cases isOverdrawn : Arithmetic.lt
      (account.contributed + entry.amount + account.capitalized) (Nat.cast 0) = true
  · rw [if_pos isOverdrawn]
    exact if_pos isOverdrawn
  · rw [if_neg isOverdrawn]
    exact if_neg isOverdrawn

/-- Transactions change what is contributed and which overdrafts are recorded, nothing else. -/
theorem foldl_apply_eq (entries : List (Entry α)) (account : Account α) :
    ∃ overdrafts, entries.foldl apply account =
      { account with
        contributed := (entries.map Entry.amount).foldl (· + ·) account.contributed
        overdrafts } := by
  induction entries generalizing account with
  | nil => exact ⟨account.overdrafts, rfl⟩
  | cons entry entries ih =>
      rw [List.foldl_cons, List.map_cons, List.foldl_cons, apply_eq]
      exact ih _

theorem applyWhile_eq (account : Account α) (isDue : Date → Bool) :
    ∃ overdrafts, account.applyWhile isDue =
      { account with
        contributed :=
          ((account.entriesAhead.takeWhile fun entry => isDue entry.date).map Entry.amount).foldl
            (· + ·) account.contributed
        entriesAhead := account.entriesAhead.dropWhile fun entry => isDue entry.date
        overdrafts } :=
  foldl_apply_eq _ _

/-- Closing a period changes the taxes and what the next period starts from, nothing else. -/
theorem closePeriod_eq (finish : Date) (account : Account α) :
    ∃ allowance periodInterest taxes taxTotal,
      account.closePeriod finish = { account with allowance, periodInterest, taxes, taxTotal } ∧
        ((taxes = account.taxes ∧ taxTotal = account.taxTotal) ∨
          ∃ tax, taxes = account.taxes.push tax ∧ taxTotal = account.taxTotal + tax) := by
  rw [closePeriod]
  split
  · split
    next tax allowance closed =>
    simp only
    split
    · exact ⟨_, _, _, _, rfl, Or.inr ⟨tax, rfl, rfl⟩⟩
    · exact ⟨_, _, _, _, rfl, Or.inl ⟨rfl, rfl⟩⟩
  · exact ⟨_, _, _, _, rfl, Or.inl ⟨rfl, rfl⟩⟩

/-- A payout is made if its date is the next payout date, and nothing changes otherwise. -/
theorem payOut_cases (capitalization : Bool) (account : Account α) :
    (∃ ahead, account.payoutsAhead = account.date :: ahead ∧
      account.payOut capitalization =
        { account with
          payoutsAhead := ahead
          accrued := Nat.cast 0
          payouts := account.payouts.push ⟨account.date, Arithmetic.roundCents account.accrued⟩
          payments := account.payments.push (Arithmetic.roundCents account.accrued)
          interestTotal := account.interestTotal + Arithmetic.roundCents account.accrued
          periodInterest := account.periodInterest + Arithmetic.roundCents account.accrued
          capitalized :=
            if capitalization then account.capitalized + Arithmetic.roundCents account.accrued
            else account.capitalized }) ∨
      (account.payoutsAhead.head? ≠ some account.date ∧
        account.payOut capitalization = account) := by
  cases nextPayout : account.payoutsAhead with
  | nil =>
      right
      simp only [payOut, nextPayout]
      exact ⟨by simp, trivial⟩
  | cons payout ahead =>
      by_cases isToday : payout = account.date
      · left
        refine ⟨ahead, by rw [isToday], ?_⟩
        simp only [payOut, nextPayout, if_pos isToday]
      · right
        simp only [payOut, nextPayout, if_neg isToday]
        exact ⟨by simpa using isToday, trivial⟩

/-- What a payout of a day changes. -/
structure PaysOut (capitalization : Bool) (dailyRate : α) (before after : Account α) : Prop where
  payoutsAhead : before.payoutsAhead = after.date :: after.payoutsAhead
  payouts : after.payouts = before.payouts.push
    ⟨after.date, Arithmetic.roundCents (before.accrued + before.balance * dailyRate)⟩
  payments : after.payments =
    before.payments.push (Arithmetic.roundCents (before.accrued + before.balance * dailyRate))
  accrued : after.accrued = Nat.cast 0
  interestTotal : after.interestTotal =
    before.interestTotal + Arithmetic.roundCents (before.accrued + before.balance * dailyRate)
  capitalized : after.capitalized =
    if capitalization then
      before.capitalized + Arithmetic.roundCents (before.accrued + before.balance * dailyRate)
    else before.capitalized

/-- What a day without a payout changes. -/
structure PaysNothing (dailyRate : α) (before after : Account α) : Prop where
  payoutsAhead_head : before.payoutsAhead.head? ≠ some after.date
  payoutsAhead : after.payoutsAhead = before.payoutsAhead
  payouts : after.payouts = before.payouts
  payments : after.payments = before.payments
  accrued : after.accrued = before.accrued + before.balance * dailyRate
  interestTotal : after.interestTotal = before.interestTotal
  capitalized : after.capitalized = before.capitalized

/-- What a day changes. -/
structure IsDayAfter (capitalization : Bool) (dailyRate : α) (before after : Account α) : Prop where
  date : after.date = before.date.addDays 1
  entriesAhead : after.entriesAhead =
    before.entriesAhead.dropWhile fun entry => decide (entry.date = after.date)
  contributed : after.contributed =
    ((before.entriesAhead.takeWhile fun entry => decide (entry.date = after.date)).map
      Entry.amount).foldl (· + ·) before.contributed
  balanceDays : after.balanceDays = before.balanceDays + before.contributed
  payout : PaysOut capitalization dailyRate before after ∨ PaysNothing dailyRate before after
  tax : (after.taxes = before.taxes ∧ after.taxTotal = before.taxTotal) ∨
    ∃ tax, after.taxes = before.taxes.push tax ∧ after.taxTotal = before.taxTotal + tax

theorem nextDay_isDayAfter (dailyRate : α) (capitalization : Bool) (finish : Date)
    (account : Account α) :
    IsDayAfter capitalization dailyRate account
      (account.nextDay dailyRate capitalization finish) := by
  rw [nextDay]
  rcases closePeriod_eq finish (((account.accrue dailyRate).payOut capitalization).applyDue) with
    ⟨allowance, periodInterest, taxes, taxTotal, closed, tax⟩
  rcases applyWhile_eq ((account.accrue dailyRate).payOut capitalization)
    (fun date => decide (date = ((account.accrue dailyRate).payOut capitalization).date)) with
    ⟨overdrafts, applied⟩
  rw [closed]
  rw [applyDue, applied] at tax ⊢
  rcases payOut_cases capitalization (account.accrue dailyRate) with
    ⟨ahead, isNext, paid⟩ | ⟨notNext, notPaid⟩
  · rw [paid] at tax ⊢
    exact ⟨rfl, rfl, rfl, rfl, Or.inl ⟨isNext, rfl, rfl, rfl, rfl, rfl⟩, tax⟩
  · rw [notPaid] at tax ⊢
    exact ⟨rfl, rfl, rfl, rfl, Or.inr ⟨notNext, rfl, rfl, rfl, rfl, rfl, rfl⟩, tax⟩

end Account

namespace Conditions

variable {conditions : Conditions α}

/-! ## Day by day -/

/-- The account at the end of a day of the deposit. -/
def accountOn (conditions : Conditions α) (day : Date) : Account α :=
  conditions.accountAfter (conditions.startDate.daysBetween day).toNat

theorem accountOn_startDate : conditions.accountOn conditions.startDate = conditions.firstDay := by
  rw [accountOn, Date.daysBetween, Int.sub_self]
  rfl

theorem accountOn_next (counted : firstMarch ≤ conditions.startDate) {day : Date}
    (notBefore : conditions.startDate ≤ day) (notLast : day < greatest) :
    conditions.accountOn day.next =
      (conditions.accountOn day).nextDay conditions.dailyRate conditions.capitalization
        conditions.finishDate := by
  have dayCount := Date.dayNumber_eq_add_length counted notBefore
  have oneMore : (conditions.startDate.daysBetween day.next).toNat =
      (conditions.startDate.daysBetween day).toNat + 1 := by
    simp only [Date.daysBetween, Date.dayNumber_next (le_trans counted notBefore) notLast]
    omega
  rw [accountOn, oneMore]
  rfl

/-- What holds on a day of the deposit and is kept by what a day changes holds on every later day.
-/
theorem accountOn_induction (counted : firstMarch ≤ conditions.startDate) {first last : Date}
    {motive : Date → Account α → Prop} (inside : conditions.startDate ≤ first)
    (notAfter : first ≤ last)
    (base : motive first (conditions.accountOn first))
    (step : ∀ day, first ≤ day → day < last →
      Account.IsDayAfter conditions.capitalization conditions.dailyRate (conditions.accountOn day)
        (conditions.accountOn day.next) →
      motive day (conditions.accountOn day) → motive day.next (conditions.accountOn day.next)) :
    motive last (conditions.accountOn last) := by
  refine Date.next_induction (motive := fun day => motive day (conditions.accountOn day)) base ?_
    notAfter
  intro day notBefore isEarlier holds
  refine step day notBefore isEarlier ?_ holds
  have notLast := lt_of_lt_of_le isEarlier last.le_greatest
  rw [accountOn_next counted (le_trans inside notBefore) notLast]
  exact Account.nextDay_isDayAfter _ _ _ _

/-- The sum and the amounts up to a day, added from left to right. -/
def contributedUpTo (conditions : Conditions α) (day : Date) : α :=
  ((conditions.entries.filter fun entry => decide (entry.date ≤ day)).map Entry.amount).foldl
    (· + ·) conditions.sum

/-- At the end of a day, the account has that date and the transactions up to it, and those ahead
are later. -/
structure KeepsUp (conditions : Conditions α) (day : Date) (account : Account α) : Prop where
  date : account.date = day
  contributed : account.contributed = conditions.contributedUpTo day
  entriesAhead : account.entriesAhead =
    conditions.entries.filter fun entry => decide (day < entry.date)

theorem sorted_entries (conditions : Conditions α) :
    conditions.entries.Pairwise fun earlier later => earlier.date ≤ later.date :=
  pairwise_expand _ _ _ _

/-- The first day applies what is dated on it, and nothing is dated earlier. -/
theorem firstDay_eq (conditions : Conditions α) :
    ∃ overdrafts, conditions.firstDay =
      { conditions.opening with
        contributed := conditions.contributedUpTo conditions.startDate
        entriesAhead :=
          conditions.entries.filter fun entry => decide (conditions.startDate < entry.date)
        overdrafts } := by
  have parts := Date.takeWhile_le_eq_filter conditions.sorted_entries conditions.startDate
  rcases Account.applyWhile_eq conditions.opening
    fun date => decide (date ≤ conditions.startDate) with ⟨overdrafts, applied⟩
  refine ⟨overdrafts, ?_⟩
  rw [firstDay, applied]
  simp only [opening, parts.1, parts.2, contributedUpTo]

theorem KeepsUp.next {day : Date} {before after : Account α} (counted : firstMarch ≤ day)
    (notLast : day < greatest) (keepsUp : conditions.KeepsUp day before)
    (dayAfter : Account.IsDayAfter conditions.capitalization conditions.dailyRate before after) :
    conditions.KeepsUp day.next after := by
  have dateEq : after.date = day.next := by
    rw [dayAfter.date, keepsUp.date, Date.addDays_one counted notLast]
  have due := Date.takeWhile_eq_next conditions.sorted_entries notLast
  refine ⟨dateEq, ?_, ?_⟩
  · rw [dayAfter.contributed, dateEq, keepsUp.entriesAhead, keepsUp.contributed, due.1]
    rw [contributedUpTo, contributedUpTo,
      Date.filter_le_next_eq_append conditions.sorted_entries notLast, List.map_append,
      List.foldl_append]
  · rw [dayAfter.entriesAhead, dateEq, keepsUp.entriesAhead, due.2]

theorem accountOn_keepsUp (counted : firstMarch ≤ conditions.startDate) {day : Date}
    (notBefore : conditions.startDate ≤ day) :
    conditions.KeepsUp day (conditions.accountOn day) := by
  refine accountOn_induction counted (motive := conditions.KeepsUp) le_rfl notBefore ?_ ?_
  · rcases conditions.firstDay_eq with ⟨overdrafts, firstDayEq⟩
    rw [accountOn_startDate, firstDayEq]
    exact ⟨rfl, rfl, rfl⟩
  · intro date inside isEarlier dayAfter keepsUp
    have notLast := lt_of_lt_of_le isEarlier day.le_greatest
    exact keepsUp.next (le_trans counted inside) notLast dayAfter

theorem date_accountOn (counted : firstMarch ≤ conditions.startDate) {day : Date}
    (notBefore : conditions.startDate ≤ day) : (conditions.accountOn day).date = day :=
  (accountOn_keepsUp counted notBefore).date

end Conditions

end Deposit

end Reckoner
