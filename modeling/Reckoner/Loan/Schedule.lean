import Reckoner.Loan.Conditions

/-!
# Repayment schedules

A loan is repaid month by month. Each payment covers the interest on what is owed and a portion of
the principal. The two kinds of amortization differ in which of the two parts is derived from the
other: an annuity fixes the payment, a differentiated loan fixes the portion of the principal.
-/

namespace Reckoner

namespace Loan

variable {α : Type} [Arithmetic α]

/-- One monthly payment. -/
structure Instalment (α : Type) where
  /-- The number of the payment, counted from 1. -/
  number : Nat
  payment : α
  principal : α
  interest : α
  /-- What is owed after the payment. -/
  remaining : α

/-- The payments of a loan in order, their total, and the part of the total beyond the sum lent. -/
structure Schedule (α : Type) where
  total : α
  overpay : α
  /-- The amounts paid. -/
  payments : List α
  instalments : List (Instalment α)

/-- The factor by which a debt grows in a number of months. -/
def growth (monthlyRate : α) (months : Nat) : α :=
  Arithmetic.power (Nat.cast 1 + monthlyRate) months

/-- What the annuity formula divides by. -/
def annuityDivisor (monthlyRate : α) (months : Nat) : α := growth monthlyRate months - Nat.cast 1

/-- The equal payment of an annuity in whole cents; without interest the sum is divided evenly and
not rounded. -/
def annuityPayment (sum monthlyRate : α) (months : Nat) : α :=
  if months = 0 then Nat.cast 0
  else if Arithmetic.beq monthlyRate (Nat.cast 0) then sum / Nat.cast months
  else
    let factor := monthlyRate * growth monthlyRate months / annuityDivisor monthlyRate months
    Arithmetic.roundCents (sum * factor)

/-- How a payment is split, given the interest that is due. -/
structure Split (α : Type) where
  payment : α
  principal : α

/-- The split of an equal payment: what is left after the interest repays the principal. -/
def Split.ofPayment (payment interest : α) : Split α := ⟨payment, payment - interest⟩

/-- The split of an equal portion of the principal: the interest is paid on top. -/
def Split.ofPrincipal (principal interest : α) : Split α := ⟨principal + interest, principal⟩

/-- What is owed, and what has been paid so far. -/
structure Progress (α : Type) where
  remaining : α
  /-- The amounts paid, added up. -/
  paid : α
  /-- The amounts paid. -/
  payments : Array α
  instalments : Array (Instalment α)

/-- One more payment. -/
def Progress.pay (split : α → Split α) (monthlyRate : α) (progress : Progress α) (number : Nat) :
    Progress α :=
  let interest := progress.remaining * monthlyRate
  let parts := split interest
  let remaining := progress.remaining - parts.principal
  { remaining
    paid := progress.paid + parts.payment
    payments := progress.payments.push parts.payment
    instalments :=
      progress.instalments.push ⟨number, parts.payment, parts.principal, interest, remaining⟩ }

/-- The payments of a number of months, beginning with the whole sum owed. -/
def repay (split : α → Split α) (sum monthlyRate : α) (months : Nat) : Progress α :=
  (List.range' 1 months).foldl (Progress.pay split monthlyRate) ⟨sum, Nat.cast 0, #[], #[]⟩

namespace Conditions

/-- The schedule of an annuity. -/
def annuitySchedule (conditions : Conditions α) : Schedule α :=
  let payment := annuityPayment conditions.sum conditions.monthlyRate conditions.months
  let progress :=
    repay (Split.ofPayment payment) conditions.sum conditions.monthlyRate conditions.months
  let total := payment * Nat.cast conditions.months
  { total
    overpay := total - conditions.sum
    payments := progress.payments.toList
    instalments := progress.instalments.toList }

/-- The schedule of a differentiated loan. -/
def differentiatedSchedule (conditions : Conditions α) : Schedule α :=
  let principal := conditions.sum / Nat.cast conditions.months
  let progress :=
    repay (Split.ofPrincipal principal) conditions.sum conditions.monthlyRate conditions.months
  { total := progress.paid
    overpay := progress.paid - conditions.sum
    payments := progress.payments.toList
    instalments := progress.instalments.toList }

/-- The repayment schedule of a loan. -/
def schedule (conditions : Conditions α) : Schedule α :=
  match conditions.amortization with
  | .annuity => conditions.annuitySchedule
  | .differentiated => conditions.differentiatedSchedule

end Conditions

end Loan

end Reckoner
