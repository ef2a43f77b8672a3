import Reckoner.Yaml.Folding
import Reckoner.Yaml.Token

/-!
# Layout of YAML texts

What indentation and brackets mean while the tokens of a text are found one after another. A layout
knows the columns at which lists and fields by indentation stand, the brackets that are open, and
the token that turns out to start the name of a field if a colon follows.

Such a candidate waits on its line, and for a limited way only, unless brackets are open. Where a
field has to start, a candidate without colon is an error.
-/

namespace Reckoner

namespace Yaml

/-- A column that later lines are measured against. -/
structure Level where
  column : Nat
  /-- Whether a list or fields stand at the column. Otherwise it is a column that what follows has
  to reach. -/
  isBlock : Bool
  deriving DecidableEq

/-- A token that may turn out to start a name. -/
structure Candidate where
  line : Nat
  column : Nat
  offset : Nat
  /-- The number of tokens before it. -/
  number : Nat
  /-- Whether it has to be a name. -/
  isRequired : Bool
  deriving DecidableEq

/-- What is known at a place of a text. -/
structure Layout where
  cursor : Cursor
  /-- The tokens so far, last token first. -/
  tokens : List Token
  /-- The columns that lines are measured against, the innermost first. -/
  levels : List Level
  /-- Whether a name may start here. -/
  allowsName : Bool
  candidate? : Option Candidate
  /-- The candidates before each open bracket, the innermost first. -/
  outer : List (Option Candidate)
  /-- The offset at which a colon needs nothing behind it, since a quote or bracket ends there. -/
  adjacentOffset : Nat
  /-- For each open list the number of open brackets at which a field without braces stands in
  it. -/
  pairs : List (Option Nat)
  /-- Whether a name was announced, so that a colon in a list does not start a field without
  braces. -/
  isAnnounced : Bool

namespace Layout

/-- The layout at the start of a text. -/
def start (text : List Char) : Layout where
  cursor := .start text
  tokens := []
  levels := []
  allowsName := true
  candidate? := none
  outer := []
  adjacentOffset := 0
  pairs := []
  isAnnounced := false

/-- The number of open brackets. -/
def depth (layout : Layout) : Nat := layout.outer.length

/-- Whether brackets are open. -/
def isBracketed (layout : Layout) : Bool := !layout.outer.isEmpty

/-- The least column of what belongs to the innermost level. -/
def innerColumn (layout : Layout) : Nat :=
  match layout.levels with
  | [] => 0
  | level :: _ => level.column + 1

/-- Adds a token. -/
def emit (token : Token) (layout : Layout) : Layout :=
  { layout with tokens := token :: layout.tokens }

/-- Adds a token behind so many of the tokens so far. -/
def emitAt (number : Nat) (token : Token) (layout : Layout) : Layout :=
  let later := layout.tokens.length - number
  { layout with tokens := layout.tokens.take later ++ token :: layout.tokens.drop later }

/-! ## Levels -/

/-- Closes the levels at a column and to the right of it. -/
def closeFrom (column : Nat) (layout : Layout) : Layout :=
  if layout.isBracketed then layout
  else
    let closed := layout.levels.takeWhile fun level => column ≤ level.column
    { layout with
      levels := layout.levels.drop closed.length
      tokens := (closed.filter Level.isBlock).map (fun _ => Token.blockEnd) ++ layout.tokens }

/-- Forgets columns at which nothing stands, up to the innermost list or fields. -/
def dropMargins (layout : Layout) : Layout :=
  { layout with levels := layout.levels.dropWhile (!·.isBlock) }

/-- Asks what follows to stand to the right of the innermost list or fields. -/
def addMargin (layout : Layout) : Layout :=
  if !layout.isBracketed && (layout.levels.head?.map Level.isBlock).getD false then
    { layout with levels := ⟨layout.innerColumn, false⟩ :: layout.levels }
  else layout

/-- Starts a list or fields at a column with a token behind so many tokens, unless they have started
there. -/
def openAt (column : Nat) (number : Nat) (token : Token) (layout : Layout) : Layout :=
  if layout.isBracketed then layout
  else
    let levels :=
      match layout.levels with
      | level :: levels =>
          if !level.isBlock && decide (level.column ≤ column) then levels else level :: levels
      | [] => []
    let trimmed := { layout with levels }
    if trimmed.innerColumn ≤ column then
      { trimmed with levels := ⟨column, true⟩ :: levels }.emitAt number token
    else trimmed

/-! ## Candidates -/

/-- How far behind its start a candidate may find its colon. -/
def greatestNameSize : Nat := 1024

/-- Takes what starts here for a candidate if a name may start here. -/
def addCandidate (layout : Layout) : Layout :=
  let cursor := layout.cursor
  if layout.allowsName then
    { layout with
      candidate? := some {
        line := cursor.line
        column := cursor.column
        offset := cursor.offset
        number := layout.tokens.length
        isRequired :=
          !layout.isBracketed && layout.levels.head? == some ⟨cursor.column, true⟩ } }
  else layout

/-- Forgets the candidate, which must not be required. -/
def dropCandidate? (layout : Layout) : Option Layout :=
  if (layout.candidate?.map Candidate.isRequired).getD false then none
  else some { layout with candidate? := none }

/-- Forgets the candidate if it has waited too long. -/
def expire? (layout : Layout) : Option Layout :=
  let isExpired (candidate : Candidate) : Bool :=
    candidate.line < layout.cursor.line ||
      candidate.offset + greatestNameSize < layout.cursor.offset
  if !layout.isBracketed && (layout.candidate?.map isExpired).getD false then layout.dropCandidate?
  else some layout

/-- The tokens that nothing can be put before any more. -/
def settledTokens (layout : Layout) : List Token :=
  let current := (layout.expire?).getD layout
  let waiting := (current.candidate? :: current.outer).filterMap (·.map Candidate.number)
  current.tokens.reverse.take (waiting.foldl min current.tokens.length)

/-! ## Between tokens -/

/-- The place of the next token. Where no brackets are open, a name may start on a new line. A line
that starts with a tab before the innermost level has nothing on it, except perhaps a comment. -/
def toNext? : (fuel : Nat) → Layout → Option Layout
  | 0, _ => none
  | fuel + 1, layout =>
      let cursor := layout.cursor
      match cursor.rest with
      | [] => some layout
      | letter :: _ =>
          if letter = '\t' ∧ !layout.levels.isEmpty ∧ cursor.isFresh ∧
              cursor.column + 1 < layout.innerColumn then
            match cursor.passComment? with
            | some next =>
                if next.isAtBreak then toNext? fuel { layout with cursor := next } else none
            | none => none
          else if isBlank letter then toNext? fuel { layout with cursor := cursor.passBlank }
          else if isBreak letter then
            toNext? fuel { layout with
              cursor := cursor.breakLine
              allowsName := layout.allowsName || !layout.isBracketed }
          else if letter = '#' then toNext? fuel { layout with cursor := cursor.passLine }
          else some layout

/-- The place of the next token. -/
def next? (layout : Layout) : Option Layout := layout.toNext? (layout.cursor.rest.length + 1)

/-- Passes so many characters, and blanks and a comment behind them. -/
def passToken? (count : Nat) (layout : Layout) : Option Layout :=
  ((layout.cursor.pass count).passComment?).map fun cursor => { layout with cursor }

end Layout

end Yaml

end Reckoner
