import Reckoner.Arithmetic

/-!
# Tax on interest

The interest of a tax period is free of tax up to the interest that one million earns at the key
rate. What is left over from earlier periods extends that amount until it is used up. A tax period
is a calendar year or the part of it in which the deposit runs.
-/

namespace Reckoner

namespace Deposit

variable {α : Type} [Arithmetic α]

/-- The sum whose interest at the key rate is free of tax. -/
def exemptPrincipal : Nat := 1000000

/-- The interest of a period that is free of tax, for a key rate in percent. -/
def baseExemption (keyRate : α) : α := keyRate * Nat.cast exemptPrincipal / Nat.cast 100

/-- What is free of tax: in every period, and once. -/
structure Allowance (α : Type) where
  base : α
  remainder : α
  taxRate : α

namespace Allowance

/-- The allowance at the start of a deposit; a remainder that is not above zero counts as zero. -/
def initial (keyRate remainder taxRate : α) : Allowance α where
  base := baseExemption keyRate
  remainder := if Arithmetic.isPositive remainder then remainder else Nat.cast 0
  taxRate := taxRate

/-- What the remainder covers of an excess: the lesser of both, or the one of them that is a
number. -/
def covered (allowance : Allowance α) (excess : α) : α :=
  if Arithmetic.isNaN excess then allowance.remainder
  else if Arithmetic.lt allowance.remainder excess then allowance.remainder
  else excess

/-- Closes a tax period: the tax that is due in whole cents, and the allowance that is left. -/
def closePeriod (allowance : Allowance α) (interest : α) : α × Allowance α :=
  let excess := interest - allowance.base
  if Arithmetic.le excess (Nat.cast 0) then (Nat.cast 0, allowance)
  else
    let covered := allowance.covered excess
    let left := { allowance with remainder := allowance.remainder - covered }
    let taxable := excess - covered
    if Arithmetic.le taxable (Nat.cast 0) then (Nat.cast 0, left)
    else (Arithmetic.round (taxable * allowance.taxRate) / Nat.cast 100, left)

end Allowance

end Deposit

end Reckoner
