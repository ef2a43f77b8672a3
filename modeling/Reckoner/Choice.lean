/-!
# Choices

A choice is one of a closed list of alternatives. Each alternative has a name, by which records
refer to it, and a fixed integer code, by which other programs refer to it.
-/

namespace Reckoner

/-- A type with a closed list of named and numbered values. -/
class Choice (α : Type) where
  /-- All values, in the order in which they are listed. -/
  all : List α
  name : α → String
  code : α → Int

namespace Choice

variable {α : Type} [Choice α]

/-- The value of a name. -/
def ofName? (text : String) : Option α := (all : List α).find? fun value => name value == text

/-- The value of a code. -/
def ofCode? (number : Int) : Option α := (all : List α).find? fun value => code value == number

end Choice

instance : Choice Bool where
  all := [false, true]
  name
    | false => "false"
    | true => "true"
  code
    | false => 0
    | true => 1

end Reckoner
