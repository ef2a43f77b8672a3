/-!
# Blank characters

The characters of white space in every script: the controls that move a line or a column, the spaces
of all widths, and the separators of lines and paragraphs. Texts are trimmed and cut into words at
them.
-/

namespace Reckoner

namespace Text

/-- The code points of white space as ranges, each with its first and its last one. -/
def blankRanges : List (Nat × Nat) :=
  [(0x09, 0x0D), (0x20, 0x20), (0x85, 0x85), (0xA0, 0xA0), (0x1680, 0x1680), (0x2000, 0x200A),
    (0x2028, 0x2029), (0x202F, 0x202F), (0x205F, 0x205F), (0x3000, 0x3000)]

/-- Whether a character is white space. -/
def isBlank (letter : Char) : Bool :=
  blankRanges.any fun (first, last) => decide (first ≤ letter.toNat ∧ letter.toNat ≤ last)

/-- A text without white space at its end. -/
def trimEnd (text : List Char) : List Char := (text.reverse.dropWhile isBlank).reverse

/-- A text without white space at its ends. -/
def trim (text : List Char) : List Char := trimEnd (text.dropWhile isBlank)

/-- The second word of a text, if it has two. -/
def secondWord? (text : List Char) : Option (List Char) :=
  let behindFirst := (text.dropWhile isBlank).dropWhile (!isBlank ·)
  match (behindFirst.dropWhile isBlank).takeWhile (!isBlank ·) with
  | [] => none
  | word => some word

end Text

end Reckoner
