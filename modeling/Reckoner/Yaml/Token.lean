import Reckoner.Yaml.Scalar

/-!
# Tokens of YAML texts

A text is a row of tokens: scalars, the indicators between them, and the starts and ends of lists
and fields that are told by indentation alone.
-/

namespace Reckoner

namespace Yaml

/-- A token of a text. -/
inductive Token where
  | scalar (value : Scalar)
  /-- The name of a field follows. -/
  | name
  /-- The value of a field follows. -/
  | value
  /-- An item of a list by indentation follows. -/
  | item
  | comma
  | openList
  | closeList
  | openFields
  | closeFields
  /-- A list by indentation starts. -/
  | listStart
  /-- Fields by indentation start. -/
  | fieldsStart
  /-- A list or fields by indentation end. -/
  | blockEnd
  | directive (isVersion : Bool)
  | documentStart
  | documentEnd
  | textEnd
  deriving DecidableEq

end Yaml

end Reckoner
