import Mathlib.Data.List.Forall2
import Reckoner.Proofs.Deposit.Comparison
import Reckoner.Proofs.Rational

/-!
# Depositing more never pays less

Over exact rationals a greater balance never earns less, overdrawn or not, and rounding to whole
cents keeps the order of payments. So of two deposits that differ in amounts only, the one with the
greater sum, the greater funds and the smaller withdrawals is ahead on every day: in what has been
contributed, in what is accrued and in what has been added to the balance.
-/

namespace Reckoner

namespace Deposit

open Date (firstMarch greatest)

/-! ## Schedules that differ in amounts -/

/-- Sorting keeps lists related entry by entry, if the order cannot tell related entries apart: both
lists are sorted by sorting the pairs of their entries. -/
theorem forall₂_mergeSort {β γ : Type} {relation : β → γ → Prop} {first : List β} {second : List γ}
    {firstOrder : β → β → Bool} {secondOrder : γ → γ → Bool}
    (sameOrder : ∀ {a b c d}, relation a c → relation b d → firstOrder a b = secondOrder c d)
    (related : List.Forall₂ relation first second) :
    List.Forall₂ relation (first.mergeSort firstOrder) (second.mergeSort secondOrder) := by
  rcases List.forall₂_iff_zip.mp related with ⟨sameLength, relatedPairs⟩
  have firstSorted : ((first.zip second).mergeSort fun earlier later =>
      firstOrder earlier.1 later.1).map Prod.fst = first.mergeSort firstOrder := by
    rw [List.map_mergeSort (s := firstOrder) fun _ _ _ _ => rfl,
      List.map_fst_zip (le_of_eq sameLength)]
  have secondSorted : ((first.zip second).mergeSort fun earlier later =>
      firstOrder earlier.1 later.1).map Prod.snd = second.mergeSort secondOrder := by
    rw [List.map_mergeSort (s := secondOrder) fun _ earlier _ later =>
        sameOrder (relatedPairs earlier) (relatedPairs later),
      List.map_snd_zip (le_of_eq sameLength.symm)]
  rw [← firstSorted, ← secondSorted, List.forall₂_map_left_iff, List.forall₂_map_right_iff,
    List.forall₂_same]
  intro pair member
  exact relatedPairs (List.mem_mergeSort.mp member)

/-- The same date, and an amount that is at most the other one. -/
structure Entry.AtMost (less more : Entry ℚ) : Prop where
  date : more.date = less.date
  amount : less.amount ≤ more.amount

/-- The same dates, and an amount that is at most the other one. -/
structure Transaction.AtMost (less more : Transaction ℚ) : Prop where
  entry : less.entry.AtMost more.entry
  recurrence : more.recurrence = less.recurrence

theorem forall₂_entriesOf {start finish : Date} {first second : Transaction ℚ}
    (date : second.entry.date = first.entry.date)
    (recurrence : second.recurrence = first.recurrence) {firstAmount secondAmount : ℚ}
    (isLe : firstAmount ≤ secondAmount) :
    List.Forall₂ Entry.AtMost (entriesOf start finish first firstAmount)
      (entriesOf start finish second secondAmount) := by
  rw [entriesOf, entriesOf, date, recurrence, List.forall₂_map_left_iff,
    List.forall₂_map_right_iff, List.forall₂_same]
  intro date _
  exact ⟨rfl, isLe⟩

/-- Greater funds and smaller withdrawals give the same dated transactions with greater amounts,
since withdrawals count as negative. -/
theorem forall₂_expand {start finish : Date}
    {lessFunds moreFunds lessWithdrawals moreWithdrawals : List (Transaction ℚ)}
    (funds : List.Forall₂ Transaction.AtMost lessFunds moreFunds)
    (withdrawals : List.Forall₂ Transaction.AtMost moreWithdrawals lessWithdrawals) :
    List.Forall₂ Entry.AtMost (expand start finish lessFunds lessWithdrawals)
      (expand start finish moreFunds moreWithdrawals) := by
  have sameOrder {a b c d : Entry ℚ} (first : a.AtMost c) (second : b.AtMost d) :
      decide (a.date ≤ b.date) = decide (c.date ≤ d.date) := by
    rw [first.date, second.date]
  refine forall₂_mergeSort sameOrder (List.rel_append ?_ ?_)
  · refine List.rel_flatMap funds ?_
    intro less more atMost
    exact forall₂_entriesOf atMost.entry.date atMost.recurrence
      (mul_le_mul_of_nonneg_left atMost.entry.amount (by norm_num))
  · refine List.rel_flatMap (R := fun less more => Transaction.AtMost more less) withdrawals.flip ?_
    intro less more atMost
    exact forall₂_entriesOf atMost.entry.date.symm atMost.recurrence.symm
      (mul_le_mul_of_nonpos_left atMost.entry.amount (by norm_num))

namespace Conditions

variable {less more : Conditions ℚ}

/-- Two deposits with the same dates and terms of interest. The second one begins with at least the
sum of the first one, is paid at least the funds and gives out at most the withdrawals. Payments are
before tax, so the terms of tax may differ. -/
structure DepositsAtMost (less more : Conditions ℚ) : Prop where
  rate : more.rate = less.rate
  term : more.term = less.term
  termUnit : more.termUnit = less.termUnit
  capitalization : more.capitalization = less.capitalization
  payoutFrequency : more.payoutFrequency = less.payoutFrequency
  startDate : more.startDate = less.startDate
  sum : less.sum ≤ more.sum
  funds : List.Forall₂ Transaction.AtMost less.funds more.funds
  withdrawals : List.Forall₂ Transaction.AtMost more.withdrawals less.withdrawals

theorem DepositsAtMost.finishDate (atMost : DepositsAtMost less more) :
    more.finishDate = less.finishDate := by
  rw [Conditions.finishDate, Conditions.finishDate, atMost.startDate, atMost.term, atMost.termUnit]

theorem DepositsAtMost.payoutDates (atMost : DepositsAtMost less more) :
    more.payoutDates = less.payoutDates := by
  rw [Conditions.payoutDates, Conditions.payoutDates, atMost.startDate, atMost.finishDate,
    atMost.payoutFrequency]

theorem DepositsAtMost.dailyRate (atMost : DepositsAtMost less more) :
    more.dailyRate = less.dailyRate := by
  rw [Conditions.dailyRate, Conditions.dailyRate, atMost.rate]

theorem DepositsAtMost.contributedUpTo (atMost : DepositsAtMost less more) (day : Date) :
    less.contributedUpTo day ≤ more.contributedUpTo day := by
  have entries : List.Forall₂ Entry.AtMost less.entries more.entries := by
    rw [Conditions.entries, Conditions.entries, atMost.startDate, atMost.finishDate]
    exact forall₂_expand atMost.funds atMost.withdrawals
  have due : List.Forall₂ Entry.AtMost
      (less.entries.filter fun entry => decide (entry.date ≤ day))
      (more.entries.filter fun entry => decide (entry.date ≤ day)) := by
    refine List.rel_filter ?_ entries
    intro lessEntry moreEntry entryAtMost
    simp only [entryAtMost.date]
  have amounts : List.Forall₂ (· ≤ ·)
      ((less.entries.filter fun entry => decide (entry.date ≤ day)).map Entry.amount)
      ((more.entries.filter fun entry => decide (entry.date ≤ day)).map Entry.amount) :=
    List.rel_map (fun _ _ entryAtMost => entryAtMost.amount) due
  refine List.rel_foldl ?_ atMost.sum amounts
  intro _ _ sum _ _ amount
  exact add_le_add sum amount

theorem dailyRate_nonneg {conditions : Conditions ℚ} (nonneg : 0 ≤ conditions.rate) :
    0 ≤ conditions.dailyRate :=
  div_nonneg (div_nonneg nonneg (Nat.cast_nonneg 100)) (Nat.cast_nonneg 365)

/-! ## Day by day -/

/-- At the end of a day, one account has paid out at most what the other one has, payment by
payment, and has at most the interest to go on with. -/
structure EarnsAtMost (less more : Account ℚ) : Prop where
  payments : List.Forall₂ (· ≤ ·) less.payments.toList more.payments.toList
  accrued : less.accrued ≤ more.accrued
  capitalized : less.capitalized ≤ more.capitalized

/-- Each day adds at most as much interest to the one account as to the other, so the one earns at
most what the other does. -/
theorem accountOn_earnsAtMost (counted : firstMarch ≤ less.startDate) (nonneg : 0 ≤ less.rate)
    (atMost : DepositsAtMost less more) (isLater : less.startDate < less.finishDate) {day : Date}
    (notBefore : less.startDate ≤ day) :
    EarnsAtMost (less.accountOn day) (more.accountOn day) := by
  have countedMore : firstMarch ≤ more.startDate := by rwa [atMost.startDate]
  have isLaterMore : more.startDate < more.finishDate := by
    rwa [atMost.startDate, atMost.finishDate]
  have sameDates : ∀ date ≤ day, date ∈ less.payoutDates ↔ date ∈ more.payoutDates := by
    intro date _
    rw [atMost.payoutDates]
  have accruedNext (date : Date) (inside : less.startDate ≤ date)
      (earns : EarnsAtMost (less.accountOn date) (more.accountOn date)) :
      (less.accountOn date).accrued + (less.accountOn date).balance * less.dailyRate ≤
        (more.accountOn date).accrued + (more.accountOn date).balance * more.dailyRate := by
    have insideMore : more.startDate ≤ date := by rwa [atMost.startDate]
    have contributed := atMost.contributedUpTo date
    rw [← (accountOn_keepsUp counted inside).contributed,
      ← (accountOn_keepsUp countedMore insideMore).contributed] at contributed
    have balance : (less.accountOn date).balance ≤ (more.accountOn date).balance :=
      add_le_add contributed earns.capitalized
    rw [atMost.dailyRate]
    exact add_le_add earns.accrued (mul_le_mul_of_nonneg_right balance (dailyRate_nonneg nonneg))
  refine accountOn_induction₂ counted atMost.startDate isLater isLaterMore notBefore sameDates
    (motive := fun _ => EarnsAtMost) ?_ ?_ ?_
  · rcases less.firstDay_eq with ⟨_, lessEq⟩
    rcases more.firstDay_eq with ⟨_, moreEq⟩
    rw [lessEq, moreEq]
    exact ⟨List.Forall₂.nil, le_rfl, le_rfl⟩
  · intro date inside _ lessPays morePays earns
    have payment := Arithmetic.roundCents_mono (accruedNext date inside earns)
    refine ⟨?_, ?_, ?_⟩
    · rw [lessPays.payments_eq, morePays.payments_eq]
      exact List.rel_append earns.payments (List.Forall₂.cons payment List.Forall₂.nil)
    · rw [lessPays.accrued, morePays.accrued]
    · rw [lessPays.capitalized, morePays.capitalized, atMost.capitalization]
      split
      · exact add_le_add earns.capitalized payment
      · exact earns.capitalized
  · intro date inside _ lessPaysNothing morePaysNothing earns
    refine ⟨?_, ?_, ?_⟩
    · rw [lessPaysNothing.payments, morePaysNothing.payments]
      exact earns.payments
    · rw [lessPaysNothing.accrued, morePaysNothing.accrued]
      exact accruedNext date inside earns
    · rw [lessPaysNothing.capitalized, morePaysNothing.capitalized]
      exact earns.capitalized

/-- A deposit with a greater sum, greater funds and smaller withdrawals pays as often, and never
less, as long as the rate is not negative. -/
theorem simulate_pays_no_less (less more : Conditions ℚ) (counted : firstMarch ≤ less.startDate)
    (nonneg : 0 ≤ less.rate) (atMost : DepositsAtMost less more) :
    List.Forall₂ (· ≤ ·) less.simulate.payments more.simulate.payments := by
  by_cases isLater : less.startDate < less.finishDate
  · have earns := accountOn_earnsAtMost counted nonneg atMost isLater (le_of_lt isLater)
    have payments : List.Forall₂ (· ≤ ·) less.simulate.payments
        (more.accountOn less.finishDate).payments.toList := earns.payments
    rw [← atMost.finishDate] at payments
    exact payments
  · have neverLater : ¬more.startDate < more.finishDate := by
      rwa [atMost.startDate, atMost.finishDate]
    have countedMore : firstMarch ≤ more.startDate := by rwa [atMost.startDate]
    rw [payments_simulate_of_not_later counted isLater,
      payments_simulate_of_not_later countedMore neverLater]
    exact List.Forall₂.nil

/-- Three days over a leap day, on which more is taken out than there is. -/
def overdrawn : Conditions ℚ where
  sum := 1000
  rate := 73 / 2
  term := 3
  termUnit := .day
  capitalization := true
  payoutFrequency := .daily
  taxRate := 13
  keyRate := 0
  nonTaxableRemainder := 0
  startDate := Date.leapDayEve
  funds := [⟨⟨Date.leapDay, 100⟩, .once⟩]
  withdrawals := [⟨⟨Date.leapDay, 1500⟩, .once⟩]

/-- The same days with a greater sum and fund and a smaller withdrawal. -/
def lessOverdrawn : Conditions ℚ :=
  { overdrawn with
    sum := 1200
    funds := [⟨⟨Date.leapDay, 150⟩, .once⟩]
    withdrawals := [⟨⟨Date.leapDay, 1400⟩, .once⟩] }

/-- Both are overdrawn from the leap day on, and the payments after it are negative. -/
theorem simulate_pays_no_less_when_overdrawn :
    firstMarch ≤ overdrawn.startDate ∧ 0 ≤ overdrawn.rate ∧
      DepositsAtMost overdrawn lessOverdrawn ∧
      List.Forall₂ (· ≤ ·) overdrawn.simulate.payments lessOverdrawn.simulate.payments := by
  have counted : firstMarch ≤ overdrawn.startDate := by decide
  have nonneg : 0 ≤ overdrawn.rate := by
    rw [overdrawn]
    norm_num
  have funds : List.Forall₂ Transaction.AtMost overdrawn.funds lessOverdrawn.funds :=
    List.Forall₂.cons ⟨⟨rfl, by norm_num⟩, rfl⟩ List.Forall₂.nil
  have withdrawals :
      List.Forall₂ Transaction.AtMost lessOverdrawn.withdrawals overdrawn.withdrawals :=
    List.Forall₂.cons ⟨⟨rfl, by norm_num⟩, rfl⟩ List.Forall₂.nil
  have sum : overdrawn.sum ≤ lessOverdrawn.sum := by
    rw [overdrawn, lessOverdrawn]
    norm_num
  have atMost : DepositsAtMost overdrawn lessOverdrawn :=
    ⟨rfl, rfl, rfl, rfl, rfl, rfl, sum, funds, withdrawals⟩
  exact ⟨counted, nonneg, atMost,
    simulate_pays_no_less overdrawn lessOverdrawn counted nonneg atMost⟩

end Conditions

end Deposit

end Reckoner
