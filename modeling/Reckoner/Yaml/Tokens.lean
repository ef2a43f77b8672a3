import Reckoner.Yaml.Layout

/-!
# The tokens of a text

Each step takes one token at a place, together with the starts and ends that its column brings
about. The steps stop at the end of the text or where a token cannot be taken; then only the tokens
are known that nothing can be put before any more.

Anchors, references, tags and blocks of text are no tokens here, nor are directives other than the
version understood; unknown ones are passed.
-/

namespace Reckoner

namespace Yaml

namespace Layout

/-- The greatest number of open brackets. -/
def greatestDepth : Nat := 255

/-! ## Brackets -/

/-- Opens a bracket, which may start a name. -/
def openBracket? (token : Token) (layout : Layout) : Option Layout :=
  let noted := layout.addCandidate.addMargin
  if greatestDepth ≤ noted.depth then none
  else
    let isList := token == .openList
    { noted with
      outer := noted.candidate? :: noted.outer
      candidate? := none
      allowsName := true
      pairs := if isList then none :: noted.pairs else noted.pairs
      isAnnounced := noted.isAnnounced || !isList }.passToken? 1 |>.map (emit token)

/-- Ends a field without braces if one stands directly in so many open brackets. -/
def endPair (depth : Nat) (layout : Layout) : Layout :=
  match layout.pairs with
  | some started :: pairs =>
      if started = depth then
        { layout with pairs := none :: pairs, isAnnounced := false }.emit .closeFields
      else layout
  | _ => layout

/-- Closes a bracket, of which one must be open. -/
def closeBracket? (token : Token) (layout : Layout) : Option Layout := do
  let dropped ← layout.dropCandidate?
  match dropped.outer with
  | [] => none
  | candidate? :: outer =>
      let closed := { dropped with candidate?, outer, allowsName := false }
      let ended :=
        if token = .closeList then
          let pairEnded := closed.endPair dropped.depth
          { pairEnded with pairs := pairEnded.pairs.drop 1 }
        else closed
      let passed ← ended.passToken? 1
      let offset := if passed.isBracketed then passed.cursor.offset else passed.adjacentOffset
      return { passed with adjacentOffset := offset }.emit token

/-- Takes a comma. -/
def comma? (layout : Layout) : Option Layout := do
  let dropped ← layout.dropCandidate?
  let passed ← ({ dropped with allowsName := true }.endPair dropped.depth).passToken? 1
  return passed.emit .comma

/-! ## Indicators -/

/-- Takes the hyphen of an item, which must not have a tab between it and a hyphen of another
one. -/
def item? (layout : Layout) : Option Layout :=
  if layout.isBracketed || !layout.allowsName then none
  else do
    let column := layout.cursor.column
    let blanks := (layout.cursor.pass 1).blanks
    let started := layout.openAt column layout.tokens.length .listStart
    let passed ← started.passToken? 1
    let isItemNext :=
      match passed.cursor.rest with
      | '-' :: rest => startsApart rest
      | _ => false
    if blanks.contains '\t' && isItemNext then none
    else
      let startsMark :=
        match passed.cursor.rest with
        | first :: _ => isBreak first || isMark first
        | [] => false
      let margined := if startsMark then passed.addMargin else passed
      let dropped ← margined.dropCandidate?
      return { dropped with allowsName := true }.emit .item

/-- The place behind spaces, ends of lines and comments. -/
def passSpace : (fuel : Nat) → Layout → Layout
  | 0, layout => layout
  | fuel + 1, layout =>
      match layout.cursor.rest with
      | [] => layout
      | letter :: _ =>
          if letter = ' ' then passSpace fuel { layout with cursor := layout.cursor.passBlank }
          else if isBreak letter then
            passSpace fuel { layout with
              cursor := layout.cursor.breakLine
              allowsName := layout.allowsName || !layout.isBracketed }
          else if letter = '#' then passSpace fuel { layout with cursor := layout.cursor.passLine }
          else layout

/-- Takes the question mark that announces a name, which must have a space or an end of a line
behind it and no tab before the name. -/
def announce? (layout : Layout) : Option Layout :=
  if !layout.isBracketed && !layout.allowsName then none
  else do
    let column := layout.cursor.column
    let started :=
      if layout.isBracketed then { layout with isAnnounced := true }
      else layout.openAt column layout.tokens.length .fieldsStart
    let dropped ← started.dropCandidate?
    let cursor := dropped.cursor.pass 1
    let isApart :=
      match cursor.rest with
      | first :: _ => first == ' ' || isBreak first
      | [] => false
    let passed :=
      passSpace (cursor.rest.length + 1) { dropped with cursor, allowsName := !dropped.isBracketed }
    if !isApart || passed.cursor.rest.head? == some '\t' then none else return passed.emit .name

/-- Whether a colon has only tabs between it and a letter, a digit, a hyphen or an underscore. -/
def hasTabOnly (text : List Char) : Bool :=
  let blanks := text.takeWhile isBlank
  let startsWord :=
    match text.dropWhile isBlank with
    | first :: _ => first.isAlphanum || first == '-' || first == '_'
    | [] => false
  !blanks.isEmpty && !blanks.contains ' ' && startsWord

/-- Passes the colon before a value. Tabs are passed with it. -/
def passColon? (layout : Layout) : Option Layout :=
  let behind := layout.cursor.pass 1
  if hasTabOnly behind.rest then none
  else if behind.rest.head? = some '\t' then
    behind.passComment?.map fun cursor => { layout with cursor }
  else some { layout with cursor := behind }

/-- Takes the colon before a value. The candidate becomes the name; if there is none, the name is
announced or left out. In a list between brackets a colon may start a field without braces, whose
name then stands on the line of the colon. -/
def value? (layout : Layout) : Option Layout := do
  let line := layout.cursor.line
  let column := layout.cursor.column
  let isPair := !layout.pairs.isEmpty && !layout.isAnnounced
  let paired :=
    if isPair then { layout with pairs := some layout.depth :: layout.pairs.drop 1 } else layout
  let passed ← paired.passColon?
  match layout.candidate? with
  | some candidate =>
      if isPair && decide (candidate.line < line) then none
      else
        let named := passed.emitAt candidate.number .name
        let opened := if isPair then named.emitAt candidate.number .openFields else named
        let started := (opened.openAt candidate.column candidate.number .fieldsStart).addMargin
        return { started with candidate? := none, allowsName := false }.emit .value
  | none =>
      let opened := if isPair then passed.emit .openFields else passed
      if layout.isBracketed then return { opened with allowsName := false }.emit .value
      else if !layout.allowsName then none
      else
        let started := (opened.openAt column opened.tokens.length .fieldsStart).addMargin
        return { started with allowsName := true }.emit .value

/-- Takes a colon between brackets that has no blank behind it. An opening bracket may follow only
where the name ends in a quote or a bracket. -/
def adjacentValue? (layout : Layout) : Option Layout :=
  let isOpening :=
    match layout.cursor.rest.drop 1 with
    | first :: _ => first == '[' || first == '\x7b'
    | [] => false
  if isOpening && layout.cursor.offset != layout.adjacentOffset then none else layout.value?

/-! ## Scalars -/

/-- Takes a plain scalar. -/
def plain? (layout : Layout) : Option Layout := do
  let noted := layout.addCandidate.dropMargins
  let column := noted.innerColumn
  if noted.isBracketed && decide (noted.cursor.column < column) then none
  else
    let read ← Yaml.plain? noted.isBracketed column noted.cursor
    return { noted with
      cursor := read.cursor
      allowsName := read.cursor.isFresh }.emit (.scalar ⟨read.content, false⟩)

/-- Takes a scalar in quotes. What follows on its line is a comment, a mark between brackets or the
colon of a value; outside of brackets a name does not go over several lines. -/
def quoted? (quote : Char) (layout : Layout) : Option Layout := do
  let noted := { layout.addCandidate with allowsName := false }
  let read ← Yaml.quoted? quote noted.isBracketed noted.innerColumn noted.cursor
  let behind ← read.cursor.passComment?
  let isFine :=
    match behind.rest with
    | [] => true
    | first :: _ =>
        isBreak first ||
          (noted.isBracketed && (first == ',' || first == ']' || first == '\x7d')) ||
          (first == ':' && (noted.isBracketed || noted.cursor.line == behind.line))
  if !isFine then none
  else
    let next ← { noted with cursor := behind }.next?
    return { next with adjacentOffset := next.cursor.offset }.emit (.scalar ⟨read.content, true⟩)

/-! ## Documents -/

/-- Closes everything before a mark of documents. -/
def endBlocks? (layout : Layout) : Option Layout :=
  (layout.closeFrom 0).dropCandidate?.map fun dropped => { dropped with allowsName := false }

/-- Takes the mark of the start of a document. -/
def documentStart? (layout : Layout) : Option Layout :=
  layout.endBlocks?.map fun ended =>
    { ended with cursor := ended.cursor.pass Cursor.startMark.length }.emit .documentStart

/-- Takes the mark of the end of a document, which stands alone on its line. -/
def documentEnd? (layout : Layout) : Option Layout := do
  let ended ← layout.endBlocks?
  let passed ← ended.passToken? Cursor.endMark.length
  if passed.cursor.isAtBreak then return passed.emit .documentEnd else none

/-- What follows a number of a version, which has at most nine digits. -/
def passVersionNumber? (text : List Char) : Option (List Char) :=
  let length := (text.takeWhile Char.isDigit).length
  if 1 ≤ length ∧ length ≤ 9 then some (text.drop length) else none

/-- What follows a version. -/
def passVersion? (text : List Char) : Option (List Char) :=
  match passVersionNumber? (text.dropWhile isBlank) with
  | some ('.' :: rest) => passVersionNumber? rest
  | _ => none

/-- Takes a directive: the version, or one that is unknown. -/
def directive? (layout : Layout) : Option Layout := do
  let ended ← layout.endBlocks?
  let text := ended.cursor.rest.drop 1
  let isNameLetter (letter : Char) : Bool :=
    letter.isAlphanum || letter == '-' || letter == '_'
  let name := String.ofList (text.takeWhile isNameLetter)
  let rest := text.dropWhile isNameLetter
  let isVersion := name == "YAML"
  let behind ←
    if name.isEmpty || name == "TAG" || !startsApart rest then none
    else if isVersion then passVersion? rest
    else some (rest.dropWhile (!isBreak ·))
  let passed ← ended.passToken? (ended.cursor.rest.length - behind.length)
  match passed.cursor.rest with
  | [] => return passed.emit (.directive isVersion)
  | first :: _ =>
      if isBreak first then
        return { passed with cursor := passed.cursor.breakLine }.emit (.directive isVersion)
      else none

/-- Takes the end of the text. -/
def textEnd? (layout : Layout) : Option Layout :=
  let isRequired (candidate? : Option Candidate) : Bool :=
    (candidate?.map Candidate.isRequired).getD false
  if isRequired layout.candidate? || layout.outer.any isRequired then none
  else
    some (({ layout with
      candidate? := none
      outer := layout.outer.map fun _ => none }.closeFrom 0).emit .textEnd)

/-! ## All tokens -/

/-- Whether what starts with a character is no token here. -/
def isRefused (isBracketed : Bool) (first : Char) : Bool :=
  ['%', '@', '\x60', '&', '*', '!'].contains first ||
    (!isBracketed && (first == '|' || first == '>'))

/-- Takes the token that starts with a character at the place. -/
def token? (first : Char) (layout : Layout) : Option Layout :=
  let following := layout.cursor.rest.drop 1
  let isApart := startsApart following
  if first = '[' then layout.openBracket? .openList
  else if first = '\x7b' then layout.openBracket? .openFields
  else if first = ']' then layout.closeBracket? .closeList
  else if first = '\x7d' then layout.closeBracket? .closeFields
  else if first = ',' then layout.comma?
  else if first = '-' ∧ isApart then layout.item?
  else if first = '?' ∧ isApart then layout.announce?
  else if first = ':' ∧ isApart then layout.value?
  else if first = ':' ∧ layout.isBracketed ∧
      ((following.head?.map isMark).getD false ∨ layout.cursor.offset = layout.adjacentOffset) then
    layout.adjacentValue?
  else if isRefused layout.isBracketed first then none
  else if first = '\'' ∨ first = '"' then layout.quoted? first
  else layout.plain?

/-- Takes the next token. Between brackets only closing ones may stand before the innermost
level. -/
def step? (layout : Layout) : Option Layout := do
  let next ← layout.next?
  let current ← next.expire?
  let cursor := current.cursor
  let closed := current.closeFrom (cursor.column + 1)
  match cursor.rest with
  | [] => closed.textEnd?
  | first :: _ =>
      if cursor.column = 0 ∧ first = '%' then closed.directive?
      else if cursor.isAt Cursor.startMark then closed.documentStart?
      else if cursor.isAt Cursor.endMark then closed.documentEnd?
      else if cursor.column + 1 < closed.innerColumn ∧ first ≠ ']' ∧ first ≠ '\x7d' then none
      else closed.token? first

/-- The tokens from a place to the end of the text or to the first place where there is none. -/
def tokensFrom : (fuel : Nat) → Layout → List Token
  | 0, layout => layout.settledTokens
  | fuel + 1, layout =>
      match layout.step? with
      | none => layout.settledTokens
      | some next =>
          if next.tokens.head? = some .textEnd then next.tokens.reverse else tokensFrom fuel next

end Layout

/-- The tokens of a text, as far as there are any. The last one is the end of the text if all of it
is made of tokens. -/
def Token.ofText (text : List Char) : List Token :=
  (Layout.start text).tokensFrom (text.length + 1)

end Yaml

end Reckoner
