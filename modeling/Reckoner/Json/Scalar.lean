import Reckoner.Json.Number
import Reckoner.Record.Reading

/-!
# Scalars of JSON texts

The scalars of JSON and how a record reads them. Nothing is converted between kinds: a number in
quotes is a text. Quotes around half of a surrogate pair hold no text; what is read is then no
scalar, which does no harm as long as nobody asks for it.
-/

namespace Reckoner

namespace Json

/-- A scalar of a JSON text. -/
inductive Scalar where
  | null
  | flag (value : Bool)
  | number (value : Number)
  | text (value : String)
  deriving DecidableEq

namespace Scalar

/-- The float of a number. -/
def real? : Scalar → Option Float
  | number value => value.toFloat?
  | _ => none

/-- The natural number of a number that is written as one. -/
def natural? : Scalar → Option Nat
  | number value => value.toNat?
  | _ => none

/-- The value of `true` and `false`. -/
def flag? : Scalar → Option Bool
  | flag value => some value
  | _ => none

/-- The characters of a text in quotes. -/
def text? : Scalar → Option String
  | text value => some value
  | _ => none

end Scalar

/-- How records are written in JSON. -/
def dialect : Dialect (Option Scalar) where
  real? value? := value?.bind Scalar.real?
  natural? value? := value?.bind Scalar.natural?
  flag? value? := value?.bind Scalar.flag?
  text? value? := value?.bind Scalar.text?
  isNull value? := value? == some .null
  listsAreRecords := true
  nullIsEmptyList := false

end Json

end Reckoner
