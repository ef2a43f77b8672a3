import Reckoner.Proofs.Deposit.Monotonicity

/-!
# Capitalization never lowers interest

The same deposit is simulated twice over exact rationals: once its interest is added to the balance,
once it is not. Both runs have the same transactions and the same payout dates. As long as the
balance of the first run is not negative where it accrues interest, that run never pays a negative
amount, so what it adds to its balance is never negative either, and it is never behind the other
run.
-/

namespace Reckoner

namespace Deposit

open Date (firstMarch greatest)

namespace Conditions

section

variable {α : Type}

/-- The same deposit with its interest added to the balance. -/
def capitalizing (conditions : Conditions α) : Conditions α :=
  { conditions with capitalization := true }

/-- The same deposit with its interest given out. -/
def payingOut (conditions : Conditions α) : Conditions α :=
  { conditions with capitalization := false }

end

variable {conditions : Conditions ℚ}

/-- An effective rate grows with the interest, if the balances of the days are the same. -/
theorem effectiveRate_mono {days : ℕ} {less more : Account ℚ}
    (sameDays : more.balanceDays = less.balanceDays)
    (interest : less.interestTotal ≤ more.interestTotal) :
    effectiveRate days less ≤ effectiveRate days more := by
  simp only [effectiveRate, sameDays]
  split
  · next isPositive =>
    have balanceDays : 0 < less.balanceDays := by
      simpa [Arithmetic.isPositive, Arithmetic.lt] using isPositive.2
    apply div_le_div_of_nonneg_right _ (le_of_lt balanceDays)
    apply mul_le_mul_of_nonneg_right _ (Nat.cast_nonneg 100)
    exact mul_le_mul_of_nonneg_right interest (Nat.cast_nonneg 365)
  · exact le_rfl

/-- At the end of a day, the run that gives its interest out is behind the other one, which is owed
no negative interest. -/
structure StaysBehind (plain compounding : Account ℚ) : Prop where
  earns : EarnsAtMost plain compounding
  accrued_nonneg : 0 ≤ compounding.accrued

/-- A day adds at most as much interest to the one account as to the other, and no negative one. -/
theorem StaysBehind.accrue {dailyRate : ℚ} {plain compounding : Account ℚ}
    (behind : StaysBehind plain compounding) (nonneg : 0 ≤ dailyRate)
    (sameContributed : plain.contributed = compounding.contributed)
    (notOverdrawn : 0 ≤ compounding.balance) :
    plain.accrued + plain.balance * dailyRate ≤
        compounding.accrued + compounding.balance * dailyRate ∧
      0 ≤ compounding.accrued + compounding.balance * dailyRate := by
  constructor
  · have balance : plain.balance ≤ compounding.balance :=
      add_le_add (le_of_eq sameContributed) behind.earns.capitalized
    exact add_le_add behind.earns.accrued (mul_le_mul_of_nonneg_right balance nonneg)
  · exact add_nonneg behind.accrued_nonneg (mul_nonneg notOverdrawn nonneg)

/-- The deposit that gives its interest out stays behind, since the transactions of a day do not
depend on what happens to the interest. -/
theorem accountOn_staysBehind (counted : firstMarch ≤ conditions.startDate)
    (nonneg : 0 ≤ conditions.rate) (isLater : conditions.startDate < conditions.finishDate)
    (notOverdrawn : ∀ day, conditions.startDate ≤ day → day < conditions.finishDate →
      0 ≤ (conditions.capitalizing.accountOn day).balance) :
    StaysBehind (conditions.payingOut.accountOn conditions.finishDate)
      (conditions.capitalizing.accountOn conditions.finishDate) := by
  have countedPlain : firstMarch ≤ conditions.payingOut.startDate := counted
  have countedCompounding : firstMarch ≤ conditions.capitalizing.startDate := counted
  have sameStart : conditions.capitalizing.startDate = conditions.payingOut.startDate := rfl
  have sameContributed (day : Date) (inside : conditions.startDate ≤ day) :
      (conditions.payingOut.accountOn day).contributed =
        (conditions.capitalizing.accountOn day).contributed := by
    rw [(accountOn_keepsUp countedPlain inside).contributed,
      (accountOn_keepsUp countedCompounding inside).contributed]
    rfl
  refine accountOn_induction₂ countedPlain sameStart isLater isLater (le_of_lt isLater)
    (fun _ _ => Iff.rfl) (motive := fun _ => StaysBehind) ?_ ?_ ?_
  · rcases conditions.payingOut.firstDay_eq with ⟨_, plainEq⟩
    rcases conditions.capitalizing.firstDay_eq with ⟨_, compoundingEq⟩
    rw [plainEq, compoundingEq]
    exact ⟨⟨List.Forall₂.nil, le_rfl, le_rfl⟩, le_rfl⟩
  · intro day inside isEarlier plainPays compoundingPays behind
    have accrued := behind.accrue (dailyRate_nonneg nonneg) (sameContributed day inside)
      (notOverdrawn day inside isEarlier)
    have payment := Arithmetic.roundCents_mono accrued.1
    refine ⟨⟨?_, ?_, ?_⟩, ?_⟩
    · rw [plainPays.payments_eq, compoundingPays.payments_eq]
      exact List.rel_append behind.earns.payments (List.Forall₂.cons payment List.Forall₂.nil)
    · rw [plainPays.accrued, compoundingPays.accrued]
    · rw [plainPays.capitalized, compoundingPays.capitalized]
      have added := Arithmetic.roundCents_nonneg accrued.2
      have capitalized := behind.earns.capitalized
      exact le_add_of_le_of_nonneg capitalized added
    · rw [compoundingPays.accrued]
      exact le_rfl
  · intro day inside isEarlier plainPaysNothing compoundingPaysNothing behind
    have accrued := behind.accrue (dailyRate_nonneg nonneg) (sameContributed day inside)
      (notOverdrawn day inside isEarlier)
    refine ⟨⟨?_, ?_, ?_⟩, ?_⟩
    · rw [plainPaysNothing.payments, compoundingPaysNothing.payments]
      exact behind.earns.payments
    · rw [plainPaysNothing.accrued, compoundingPaysNothing.accrued]
      exact accrued.1
    · rw [plainPaysNothing.capitalized, compoundingPaysNothing.capitalized]
      exact behind.earns.capitalized
    · rw [compoundingPaysNothing.accrued]
      exact accrued.2

theorem payments_le_of_capitalizing (counted : firstMarch ≤ conditions.startDate)
    (nonneg : 0 ≤ conditions.rate)
    (notOverdrawn : ∀ day ∈ conditions.startDate.daysUpTo conditions.finishDate,
      0 ≤ conditions.capitalizing.simulate.contributedBefore conditions.sum day +
        conditions.capitalizing.simulate.capitalizedBefore true day) :
    List.Forall₂ (· ≤ ·) conditions.payingOut.simulate.payments
      conditions.capitalizing.simulate.payments := by
  have countedPlain : firstMarch ≤ conditions.payingOut.startDate := counted
  have countedCompounding : firstMarch ≤ conditions.capitalizing.startDate := counted
  by_cases isLater : conditions.startDate < conditions.finishDate
  · have balance (day : Date) (inside : conditions.startDate ≤ day)
        (isEarlier : day < conditions.finishDate) :
        0 ≤ (conditions.capitalizing.accountOn day).balance := by
      have notLast := lt_of_lt_of_le isEarlier conditions.finishDate.le_greatest
      rw [Account.balance, contributed_accountOn countedCompounding inside notLast,
        capitalized_accountOn countedCompounding inside isEarlier]
      apply notOverdrawn
      rw [Date.mem_daysUpTo, Date.next_le_iff notLast]
      exact ⟨lt_of_le_of_lt inside (Date.lt_next notLast), isEarlier⟩
    exact (accountOn_staysBehind counted nonneg isLater balance).earns.payments
  · rw [payments_simulate_of_not_later countedPlain isLater,
      payments_simulate_of_not_later countedCompounding isLater]
    exact List.Forall₂.nil

/-- As long as the rate is not negative, and no balance that interest accrues on is, a deposit that
adds its interest to the balance pays as often as one that gives it out, and never less. So its
interest as a whole and its effective rate are at least those of the other one. -/
theorem capitalizing_pays_no_less (conditions : Conditions ℚ)
    (counted : firstMarch ≤ conditions.startDate) (nonneg : 0 ≤ conditions.rate)
    (notOverdrawn : ∀ day ∈ conditions.startDate.daysUpTo conditions.finishDate,
      0 ≤ conditions.capitalizing.simulate.contributedBefore conditions.sum day +
        conditions.capitalizing.simulate.capitalizedBefore true day) :
    let plain := conditions.payingOut.simulate
    let compounding := conditions.capitalizing.simulate
    List.Forall₂ (· ≤ ·) plain.payments compounding.payments ∧
      plain.interestTotal ≤ compounding.interestTotal ∧
      plain.effectiveRate ≤ compounding.effectiveRate := by
  have countedPlain : firstMarch ≤ conditions.payingOut.startDate := counted
  have countedCompounding : firstMarch ≤ conditions.capitalizing.startDate := counted
  have inside : conditions.startDate ≤ conditions.finishDate := le_finishDate counted _ _
  have payments := payments_le_of_capitalizing counted nonneg notOverdrawn
  have interest : conditions.payingOut.simulate.interestTotal ≤
      conditions.capitalizing.simulate.interestTotal := by
    have plain := (accountOn_balances countedPlain inside).interestTotal
    have compounding := (accountOn_balances countedCompounding inside).interestTotal
    exact le_of_eq_of_le plain (le_of_le_of_eq (Arithmetic.sum_le_sum payments) compounding.symm)
  have sameDays : (conditions.capitalizing.accountOn conditions.finishDate).balanceDays =
      (conditions.payingOut.accountOn conditions.finishDate).balanceDays := by
    rw [balanceDays_accountOn countedPlain inside, balanceDays_accountOn countedCompounding inside]
    rfl
  exact ⟨payments, interest, effectiveRate_mono sameDays interest⟩

/-- Three days over a leap day with a payout each, and a fund on the leap day. -/
def threeDays : Conditions ℚ where
  sum := 10000
  rate := 73 / 2
  term := 3
  termUnit := .day
  capitalization := false
  payoutFrequency := .daily
  taxRate := 13
  keyRate := 0
  nonTaxableRemainder := 0
  startDate := Date.leapDayEve
  funds := [⟨⟨Date.leapDay, 1000⟩, .once⟩]
  withdrawals := []

/-- The first payment is the same in both runs, the other two are greater if the first is kept. -/
theorem capitalizing_pays_no_less_over_leap_day :
    firstMarch ≤ threeDays.startDate ∧ 0 ≤ threeDays.rate ∧
      threeDays.payingOut.simulate.payments = [10, 11, 11] ∧
      threeDays.capitalizing.simulate.payments = [10, 1101 / 100, 1102 / 100] ∧
      List.Forall₂ (· ≤ ·) threeDays.payingOut.simulate.payments
        threeDays.capitalizing.simulate.payments ∧
      threeDays.payingOut.simulate.effectiveRate ≤
        threeDays.capitalizing.simulate.effectiveRate := by
  have counted : firstMarch ≤ threeDays.startDate := by decide
  have nonneg : 0 ≤ threeDays.rate := by decide +kernel
  have notOverdrawn : ∀ day ∈ threeDays.startDate.daysUpTo threeDays.finishDate,
      0 ≤ threeDays.capitalizing.simulate.contributedBefore threeDays.sum day +
        threeDays.capitalizing.simulate.capitalizedBefore true day := by
    decide +kernel
  have pays := capitalizing_pays_no_less threeDays counted nonneg notOverdrawn
  exact ⟨counted, nonneg, by decide +kernel, by decide +kernel, pays.1, pays.2.2⟩

end Conditions

end Deposit

end Reckoner
