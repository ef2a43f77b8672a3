/-!
# Documents

A structured text is a scalar, a list, or named fields in the order in which they are written. What
scalars there are depends on the format of the text. The name of a field is a document of its own:
in most formats it is a text, but some formats let any document stand there.
-/

namespace Reckoner

/-- A structured text with scalars of a given kind. -/
inductive Document (Scalar : Type) where
  | scalar (value : Scalar)
  | list (items : List (Document Scalar))
  | fields (entries : List (Document Scalar × Document Scalar))

end Reckoner
