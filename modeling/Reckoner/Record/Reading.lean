import Reckoner.Choice
import Reckoner.Record.Document

/-!
# Reading records

A record is read from the named fields of a document. Fields may stand in any order; unknown fields
are ignored, but their names must be texts. A field that is named twice is refused, and a field with
a default may be left out.

Formats differ in how scalars are read, in whether a record may also be written as the list of its
fields in order, and in whether an empty scalar stands for an empty list. A `Dialect` says so.
-/

namespace Reckoner

/-- How a format writes the parts of records. -/
structure Dialect (Scalar : Type) where
  real? : Scalar → Option Float
  natural? : Scalar → Option Nat
  flag? : Scalar → Option Bool
  text? : Scalar → Option String
  isNull : Scalar → Bool
  /-- Whether a record may be the list of its fields in order. -/
  listsAreRecords : Bool
  /-- Whether the empty scalar may stand for the empty list. -/
  nullIsEmptyList : Bool

namespace Record

variable {Scalar : Type}

/-- The fields of a record as far as they are written. -/
abbrev Slots (Scalar : Type) := List (String × Document Scalar)

/-- The name of a field, which is a text and does not stand for nothing. -/
def name? (dialect : Dialect Scalar) : Document Scalar → Option String
  | .scalar value => if dialect.isNull value then none else dialect.text? value
  | _ => none

/-- A field with its name. -/
def slot? (dialect : Dialect Scalar) (entry : Document Scalar × Document Scalar) :
    Option (String × Document Scalar) :=
  (name? dialect entry.1).map fun name => (name, entry.2)

/-- Whether no known field is named twice. -/
def namesOnce (names : List String) (entries : Slots Scalar) : Bool :=
  names.all fun name => decide ((entries.filter fun entry => entry.1 == name).length ≤ 1)

/-- The fields of a record whose fields have the given names, in the order of its definition. -/
def slots? (dialect : Dialect Scalar) (names : List String) :
    Document Scalar → Option (Slots Scalar)
  | .scalar _ => none
  | .list items =>
      if dialect.listsAreRecords && decide (items.length ≤ names.length) then some (names.zip items)
      else none
  | .fields entries =>
      (entries.mapM (slot? dialect)).filter fun slots => namesOnce names slots

/-- A reader of one part of a record. -/
abbrev Part (Scalar α : Type) := Document Scalar → Option α

/-- A field that must be written. -/
def required {α : Type} (slots : Slots Scalar) (name : String) (read : Part Scalar α) : Option α :=
  (slots.lookup name).bind read

/-- A field that may be left out. -/
def optional {α : Type} (slots : Slots Scalar) (name : String) (read : Part Scalar α)
    (otherwise : α) : Option α :=
  match slots.lookup name with
  | some document => read document
  | none => some otherwise

/-- A part that is a scalar. -/
def scalar {α : Type} (read : Scalar → Option α) : Part Scalar α
  | .scalar value => read value
  | _ => none

/-- A real number. -/
def real (dialect : Dialect Scalar) : Part Scalar Float := scalar dialect.real?

/-- A natural number of at most 32 bits. -/
def natural (dialect : Dialect Scalar) : Part Scalar Nat :=
  scalar fun value => (dialect.natural? value).filter fun number => decide (number < Nat.pow 2 32)

/-- A truth value. -/
def flag (dialect : Dialect Scalar) : Part Scalar Bool := scalar dialect.flag?

/-- The name of a choice, alone or as the only field, which then is empty. -/
def choice {α : Type} [Choice α] (dialect : Dialect Scalar) : Part Scalar α
  | .scalar value => (dialect.text? value).bind Choice.ofName?
  | .fields [(name, .scalar value)] =>
      if dialect.isNull value then (name? dialect name).bind Choice.ofName? else none
  | _ => none

/-- A list of parts. -/
def listOf {α : Type} (dialect : Dialect Scalar) (read : Part Scalar α) : Part Scalar (List α)
  | .list items => items.mapM read
  | .scalar value => if dialect.nullIsEmptyList && dialect.isNull value then some [] else none
  | .fields _ => none

end Record

end Reckoner
