import Reckoner.Proofs.Deposit.Monotonicity

/-!
# Overdrafts are recorded exactly

A transaction is recorded as an overdraft if it leaves a balance below zero. That balance is told
without the simulation: the sum and the amounts up to and with the transaction, plus what has been
added to the balance by its date. The interest of a day is paid out before the transactions of that
day, so a payout on the date of a transaction counts. All transactions of one day find the same
interest in the balance, so what a day records is told with a constant in place of the payouts.
-/

namespace Reckoner

namespace Deposit

open Date (firstMarch greatest)

variable {α : Type} [Arithmetic α]

/-! ## Balances after transactions -/

/-- Each transaction with the balance after it, for a sum to begin with and what is capitalized by
each date. -/
def balancesAfter (capitalized : Date → α) (sum : α) (entries : List (Entry α)) :
    List (Overdraft α) :=
  entries.mapIdx fun index entry =>
    ⟨entry, ((entries.take (index + 1)).map Entry.amount).foldl (· + ·) sum +
      capitalized entry.date⟩

/-- The transactions that leave a balance below zero, each with that balance. -/
def overdraftsOf (capitalized : Date → α) (sum : α) (entries : List (Entry α)) :
    List (Overdraft α) :=
  (balancesAfter capitalized sum entries).filter fun after =>
    Arithmetic.lt after.balance (Nat.cast 0)

variable {capitalized other : Date → α}

theorem balancesAfter_cons (sum : α) (entry : Entry α) (entries : List (Entry α)) :
    balancesAfter capitalized sum (entry :: entries) =
      ⟨entry, sum + entry.amount + capitalized entry.date⟩ ::
        balancesAfter capitalized (sum + entry.amount) entries := by
  simp only [balancesAfter, List.mapIdx_cons]
  rfl

theorem overdraftsOf_append (sum : α) (earlier later : List (Entry α)) :
    overdraftsOf capitalized sum (earlier ++ later) =
      overdraftsOf capitalized sum earlier ++
        overdraftsOf capitalized ((earlier.map Entry.amount).foldl (· + ·) sum) later := by
  have balances : balancesAfter capitalized sum (earlier ++ later) =
      balancesAfter capitalized sum earlier ++
        balancesAfter capitalized ((earlier.map Entry.amount).foldl (· + ·) sum) later := by
    induction earlier generalizing sum with
    | nil => rfl
    | cons entry earlier ih => simp [balancesAfter_cons, ih]
  simp only [overdraftsOf, balances, List.filter_append]

theorem overdraftsOf_congr {sum : α} {entries : List (Entry α)}
    (same : ∀ entry ∈ entries, capitalized entry.date = other entry.date) :
    overdraftsOf capitalized sum entries = overdraftsOf other sum entries := by
  have balances : balancesAfter capitalized sum entries = balancesAfter other sum entries := by
    apply List.mapIdx_eq_mapIdx_iff.mpr
    intro index isIndex
    simp only [same entries[index] (List.getElem_mem isIndex)]
  simp only [overdraftsOf, balances]

namespace Account

/-! ## What a day records -/

/-- Transactions are recorded one after the other, beside what is capitalized at that time. -/
theorem overdrafts_foldl_apply (entries : List (Entry α)) (account : Account α) :
    (entries.foldl apply account).overdrafts.toList =
      account.overdrafts.toList ++
        overdraftsOf (fun _ => account.capitalized) account.contributed entries := by
  induction entries generalizing account with
  | nil => simp [overdraftsOf, balancesAfter]
  | cons entry entries ih =>
      simp only [List.foldl_cons, ih, overdraftsOf, balancesAfter_cons, apply_eq]
      split
      · next isOverdrawn => simp [isOverdrawn]
      · next notOverdrawn => simp [notOverdrawn]

/-- Neither the transactions nor the tax of a day change its date and what is capitalized. -/
theorem overdrafts_closePeriod_applyDue (finish : Date) (account : Account α) :
    let after := account.applyDue.closePeriod finish
    after.overdrafts.toList =
      account.overdrafts.toList ++
        overdraftsOf (fun _ => after.capitalized) account.contributed
          (account.entriesAhead.takeWhile fun entry => decide (entry.date = after.date)) := by
  intro after
  rcases closePeriod_eq finish account.applyDue with ⟨_, _, _, _, closed, _⟩
  rcases applyWhile_eq account fun date => decide (date = account.date) with ⟨_, applied⟩
  have capitalized : after.capitalized = account.capitalized := by
    simp only [after, closed, applyDue, applied]
  have date : after.date = account.date := by
    simp only [after, closed, applyDue, applied]
  have overdrafts : after.overdrafts = account.applyDue.overdrafts := by
    simp only [after, closed]
  rw [capitalized, date, overdrafts]
  exact overdrafts_foldl_apply _ _

/-- A day records its own transactions, after its interest has been paid out. -/
theorem overdrafts_nextDay (dailyRate : α) (capitalization : Bool) (finish : Date)
    (account : Account α) :
    let after := account.nextDay dailyRate capitalization finish
    after.overdrafts.toList =
      account.overdrafts.toList ++
        overdraftsOf (fun _ => after.capitalized) account.contributed
          (account.entriesAhead.takeWhile fun entry => decide (entry.date = after.date)) := by
  have recorded := overdrafts_closePeriod_applyDue finish
    ((account.accrue dailyRate).payOut capitalization)
  have ⟨overdrafts, contributed, entriesAhead⟩ :
      ((account.accrue dailyRate).payOut capitalization).overdrafts = account.overdrafts ∧
        ((account.accrue dailyRate).payOut capitalization).contributed = account.contributed ∧
        ((account.accrue dailyRate).payOut capitalization).entriesAhead = account.entriesAhead := by
    rcases payOut_cases capitalization (account.accrue dailyRate) with ⟨_, _, paid⟩ | ⟨_, notPaid⟩
    · rw [paid]
      exact ⟨rfl, rfl, rfl⟩
    · rw [notPaid]
      exact ⟨rfl, rfl, rfl⟩
  rw [overdrafts, contributed, entriesAhead] at recorded
  exact recorded

end Account

namespace Conditions

variable {conditions : Conditions α}

/-! ## Day by day -/

/-- Whether or not the deposit has a day, what its account has added to the balance is what the
outcome lists. -/
theorem capitalized_accountOn_of_le (counted : firstMarch ≤ conditions.startDate) {day : Date}
    (notBefore : conditions.startDate ≤ day) (notAfter : day ≤ conditions.finishDate) :
    (conditions.accountOn day).capitalized =
      conditions.simulate.capitalizedUpTo conditions.capitalization day := by
  by_cases isLater : conditions.startDate < conditions.finishDate
  · exact capitalized_accountOn_upTo counted isLater notBefore notAfter
  · have noPayouts := payouts_simulate_of_not_later counted isLater
    have isStart : day = conditions.startDate :=
      le_antisymm (le_trans notAfter (not_lt.mp isLater)) notBefore
    rcases conditions.firstDay_eq with ⟨overdrafts, firstDayEq⟩
    rw [isStart, accountOn_startDate, firstDayEq, Outcome.capitalizedUpTo, noPayouts]
    exact (ite_self _).symm

/-- On the first day, the overdrafts are those of the transactions dated on it, since nothing is
dated before. -/
theorem overdrafts_firstDay (counted : firstMarch ≤ conditions.startDate) :
    conditions.firstDay.overdrafts.toList =
      overdraftsOf (conditions.simulate.capitalizedUpTo conditions.capitalization) conditions.sum
        (conditions.entries.filter fun entry => decide (entry.date ≤ conditions.startDate)) := by
  have notBefore : conditions.startDate ≤ conditions.finishDate := le_finishDate counted _ _
  have capitalized := capitalized_accountOn_of_le counted le_rfl notBefore
  rcases conditions.firstDay_eq with ⟨overdrafts, firstDayEq⟩
  rw [accountOn_startDate, firstDayEq] at capitalized
  have recorded : conditions.firstDay.overdrafts.toList = [] ++ overdraftsOf _ _ _ :=
    Account.overdrafts_foldl_apply _ _
  have parts := Date.takeWhile_le_eq_filter conditions.sorted_entries conditions.startDate
  rw [recorded, List.nil_append]
  simp only [opening, parts.1]
  apply overdraftsOf_congr
  intro entry member
  rw [List.mem_filter] at member
  have dated : entry.date = conditions.startDate :=
    le_antisymm (of_decide_eq_true member.2) (mem_expand member.1).1
  rw [dated, ← capitalized]
  rfl

/-- At the end of a day, the overdrafts are those of the transactions up to it. -/
theorem overdrafts_accountOn (counted : firstMarch ≤ conditions.startDate) {day : Date}
    (notBefore : conditions.startDate ≤ day) (notAfter : day ≤ conditions.finishDate) :
    (conditions.accountOn day).overdrafts.toList =
      overdraftsOf (conditions.simulate.capitalizedUpTo conditions.capitalization) conditions.sum
        (conditions.entries.filter fun entry => decide (entry.date ≤ day)) := by
  refine Date.next_induction
    (motive := fun day => (conditions.accountOn day).overdrafts.toList =
      overdraftsOf (conditions.simulate.capitalizedUpTo conditions.capitalization) conditions.sum
        (conditions.entries.filter fun entry => decide (entry.date ≤ day))) ?_ ?_ notBefore
  · rw [accountOn_startDate]
    exact overdrafts_firstDay counted
  · intro date inside isEarlier ih
    have notLast := lt_of_lt_of_le isEarlier day.le_greatest
    have nextInside := le_trans inside (le_of_lt (Date.lt_next notLast))
    have nextNotAfter := le_trans ((Date.next_le_iff notLast day).mpr isEarlier) notAfter
    have keepsUp := accountOn_keepsUp counted inside
    have recorded := Account.overdrafts_nextDay conditions.dailyRate conditions.capitalization
      conditions.finishDate (conditions.accountOn date)
    simp only [← accountOn_next counted inside notLast] at recorded
    rw [recorded, ih, date_accountOn counted nextInside, keepsUp.entriesAhead,
      (Date.takeWhile_eq_next conditions.sorted_entries notLast).1,
      Date.filter_le_next_eq_append conditions.sorted_entries notLast, overdraftsOf_append,
      keepsUp.contributed]
    congr 1
    apply overdraftsOf_congr
    intro entry member
    have dated := of_decide_eq_true (List.mem_filter.mp member).2
    rw [dated]
    exact capitalized_accountOn_of_le counted nextInside nextNotAfter

/-- The overdrafts of a deposit are, in order, exactly the dated transactions after which the
balance is below zero, each with that balance: the sum and the amounts up to and with it, added from
left to right, and with capitalization the payouts up to its date. Nothing is cut off at zero, so
interest accrues on the same balance. -/
theorem simulate_reports_overdrafts (conditions : Conditions α)
    (counted : firstMarch ≤ conditions.startDate) :
    let outcome := conditions.simulate
    let balances : List (Overdraft α) := outcome.entries.mapIdx fun index entry =>
      ⟨entry, ((outcome.entries.take (index + 1)).map Entry.amount).foldl (· + ·) conditions.sum +
        outcome.capitalizedUpTo conditions.capitalization entry.date⟩
    outcome.overdrafts =
        (balances.filter fun after => Arithmetic.lt after.balance (Nat.cast 0)) ∧
      ∀ day, conditions.startDate ≤ day → day ≤ conditions.finishDate →
        (conditions.accountOn day).balance =
          ((outcome.entries.filter fun entry => decide (entry.date ≤ day)).map Entry.amount).foldl
              (· + ·) conditions.sum +
            outcome.capitalizedUpTo conditions.capitalization day := by
  have notBefore : conditions.startDate ≤ conditions.finishDate := le_finishDate counted _ _
  constructor
  · have recorded := overdrafts_accountOn counted notBefore le_rfl
    rw [filter_entries_finishDate] at recorded
    exact recorded
  · intro day inside notAfter
    rw [Account.balance, (accountOn_keepsUp counted inside).contributed,
      capitalized_accountOn_of_le counted inside notAfter]
    rfl

/-- The payout on the leap day and the fund come before the withdrawal, which is more than both and
the sum. -/
theorem simulate_reports_overdrafts_on_leap_day :
    firstMarch ≤ overdrawn.startDate ∧
      (overdrawn.simulate.overdrafts.map fun overdraft =>
        (overdraft.entry.date, overdraft.entry.amount, overdraft.balance)) =
          [(Date.leapDay, -1500, 1000 + 100 - 1500 + 1)] := by
  have counted : firstMarch ≤ overdrawn.startDate := by decide
  have entriesEq : overdrawn.entries =
      [⟨Date.leapDay, 1 * 100⟩, ⟨Date.leapDay, -1 * 1500⟩] :=
    List.mergeSort_of_pairwise (by decide)
  have reports := (simulate_reports_overdrafts overdrawn counted).1
  refine ⟨counted, ?_⟩
  rw [reports]
  simp only [simulate, accountAfter, firstDay, opening, entriesEq]
  decide +kernel

end Conditions

end Deposit

end Reckoner
