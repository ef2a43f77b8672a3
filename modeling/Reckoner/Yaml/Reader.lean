import Reckoner.Yaml.Tokens

/-!
# Reading YAML texts

A text is one document with fields and lists by indentation or between brackets. Any document may
stand where a name stands; names of the same fields must differ from each other. A field of the name
`<<` stands for the fields of its value, or of the items of its value, as far as their names are not
taken.

What follows the document is looked at only as far as it shows that there is a second document,
which is refused. Other remains are ignored.

The reader goes down into documents with a bound on its steps. Every step takes at least one token
or goes from a document to its first part, so a bound in proportion to the number of tokens is never
reached.
-/

namespace Reckoner

namespace Yaml

namespace Reader

/-- The document of a scalar that is not there. -/
def absent : Document Scalar := .scalar .absent

/-- How deep documents may lie within each other. -/
def greatestDepth : Nat := 2000

/-! ## Fields -/

mutual

/-- Whether two documents are written with the same scalars. -/
def same : Document Scalar → Document Scalar → Bool
  | .scalar first, .scalar second => first.content == second.content
  | .list first, .list second => sameItems first second
  | .fields first, .fields second => sameEntries first second
  | _, _ => false

/-- Whether the items of two lists are the same. -/
def sameItems : List (Document Scalar) → List (Document Scalar) → Bool
  | [], [] => true
  | first :: firsts, second :: seconds => same first second && sameItems firsts seconds
  | _, _ => false

/-- Whether the fields of two documents are the same. -/
def sameEntries : List (Document Scalar × Document Scalar) →
    List (Document Scalar × Document Scalar) → Bool
  | [], [] => true
  | (firstName, firstValue) :: firsts, (secondName, secondValue) :: seconds =>
      same firstName secondName && same firstValue secondValue && sameEntries firsts seconds
  | _, _ => false

end

/-- A field with its name. -/
abbrev Entry := Document Scalar × Document Scalar

/-- Whether a name is taken by fields. -/
def isTaken (entries : List Entry) (name : Document Scalar) : Bool :=
  entries.any fun entry => same entry.1 name

/-- Whether a field stands for the fields of its value. -/
def isMerge (entry : Entry) : Bool :=
  match entry.1 with
  | .scalar name => name == ⟨['<', '<'], false⟩
  | _ => false

mutual

/-- The fields that a value stands for: its own, or those of its items, the last item first. -/
def mergedEntries? : Document Scalar → Option (List Entry)
  | .scalar value => if value.isNull then some [] else none
  | .list items => mergedItems? [] items
  | .fields entries => some entries

/-- The fields that items stand for, before those of the items that were looked at. -/
def mergedItems? (taken : List Entry) : List (Document Scalar) → Option (List Entry)
  | [] => some taken
  | item :: items =>
      match mergedEntries? item with
      | some entries => mergedItems? (entries ++ taken) items
      | none => none

end

/-- Adds a field unless its name is taken. -/
def addEntry (entries : List Entry) (entry : Entry) : List Entry :=
  if isTaken entries entry.1 then entries else entries ++ [entry]

/-- The document of fields. No name is written twice; merged fields come last and take no name that
is there. -/
def fields? (written : List Entry) : Option (Document Scalar) :=
  let own := written.filter (!isMerge ·)
  let merges := written.filter isMerge
  let distinct := own.foldl addEntry []
  if distinct.length < own.length then none
  else
    (mergedItems? [] (merges.map Prod.snd)).map fun merged =>
      .fields (merged.foldl addEntry distinct)

/-! ## Documents in tokens -/

/-- What was read from tokens, and the tokens behind it. -/
abbrev Read := Option (Document Scalar × List Token)

/-- A field that was read from tokens, and the tokens behind it. -/
abbrev ReadEntry := Option (Entry × List Token)

/-- The document that is made of fields, and the tokens behind it. -/
def closeFields (taken : List Entry) (tokens : List Token) : Read :=
  (fields? taken.reverse).map fun document => (document, tokens)

mutual

/-- A document, and the tokens behind it. It may be told by indentation only if that is allowed, and
a list at the column of the field that it belongs to only in a field. -/
def document? : (fuel depth : Nat) → (allowsBlock isField : Bool) → List Token → Read
  | 0, _, _, _, _ => none
  | _, _, _, _, .scalar value :: rest => some (.scalar value, rest)
  | fuel + 1, depth + 1, allowsBlock, isField, token :: rest =>
      match token with
      | .openList => flowItems? fuel depth [] true rest
      | .openFields => flowFields? fuel depth [] true rest
      | .listStart => if allowsBlock then blockItems? fuel depth [] rest else none
      | .fieldsStart => if allowsBlock then blockFields? fuel depth [] rest else none
      | .item => if isField then fieldItems? fuel depth [] (token :: rest) else none
      | _ => none
  | _, _, _, _, _ => none

/-- The items of a list by indentation, and the tokens behind it. -/
def blockItems? : (fuel depth : Nat) → (taken : List (Document Scalar)) → List Token → Read
  | fuel + 1, depth, taken, .item :: rest =>
      match rest with
      | .item :: _ | .blockEnd :: _ => blockItems? fuel depth (absent :: taken) rest
      | _ =>
          match document? fuel depth true false rest with
          | some (item, behind) => blockItems? fuel depth (item :: taken) behind
          | none => none
  | _, _, taken, .blockEnd :: rest => some (.list taken.reverse, rest)
  | _, _, _, _ => none

/-- The items of a list at the column of the field that it belongs to, and the tokens behind it. -/
def fieldItems? : (fuel depth : Nat) → (taken : List (Document Scalar)) → List Token → Read
  | fuel + 1, depth, taken, .item :: rest =>
      match rest with
      | .item :: _ | .name :: _ | .value :: _ | .blockEnd :: _ =>
          fieldItems? fuel depth (absent :: taken) rest
      | _ =>
          match document? fuel depth true false rest with
          | some (item, behind) => fieldItems? fuel depth (item :: taken) behind
          | none => none
  | 0, _, _, _ | _, _, _, [] => none
  | _, _, taken, tokens => some (.list taken.reverse, tokens)

/-- Fields by indentation, and the tokens behind them. -/
def blockFields? : (fuel depth : Nat) → (taken : List Entry) → List Token → Read
  | 0, _, _, _ => none
  | fuel + 1, depth, taken, .name :: rest =>
      match blockPart? fuel depth rest with
      | none => none
      | some (name, behindName) =>
          match blockValue? fuel depth behindName with
          | some (value, behind) => blockFields? fuel depth ((name, value) :: taken) behind
          | none => none
  | fuel + 1, depth, taken, .value :: rest =>
      match blockValue? fuel depth (.value :: rest) with
      | some (value, behind) => blockFields? fuel depth ((absent, value) :: taken) behind
      | none => none
  | _, _, taken, .blockEnd :: rest => closeFields taken rest
  | _, _, _, _ => none

/-- A name or a value of fields by indentation, which may not be there, and the tokens behind it. -/
def blockPart? : (fuel depth : Nat) → List Token → Read
  | 0, _, _ => none
  | fuel + 1, depth, tokens =>
      match tokens with
      | .name :: _ | .value :: _ | .blockEnd :: _ => some (absent, tokens)
      | _ => document? fuel depth true true tokens

/-- The value behind a name of fields by indentation, and the tokens behind it. -/
def blockValue? : (fuel depth : Nat) → List Token → Read
  | 0, _, _ | _, _, [] => none
  | fuel + 1, depth, .value :: rest => blockPart? fuel depth rest
  | _, _, tokens => some (absent, tokens)

/-- The items of a list up to its closing bracket, and the tokens behind it. -/
def flowItems? : (fuel depth : Nat) → (taken : List (Document Scalar)) → (isFirst : Bool) →
    List Token → Read
  | 0, _, _, _, _ => none
  | _, _, taken, _, .closeList :: rest => some (.list taken.reverse, rest)
  | fuel + 1, depth, taken, true, tokens =>
      match flowItem? fuel depth tokens with
      | some (item, behind) => flowItems? fuel depth (item :: taken) false behind
      | none => none
  | _, _, taken, false, .comma :: .closeList :: rest => some (.list taken.reverse, rest)
  | fuel + 1, depth, taken, false, .comma :: rest =>
      match flowItem? fuel depth rest with
      | some (item, behind) => flowItems? fuel depth (item :: taken) false behind
      | none => none
  | _, _, _, _, _ => none

/-- An item of a list between brackets, which may be a field without braces, and the tokens behind
it. -/
def flowItem? : (fuel depth : Nat) → List Token → Read
  | fuel + 1, depth + 1, .name :: rest =>
      let named :=
        match rest with
        | .value :: left | .comma :: left | .closeList :: left => some (absent, left)
        | _ => document? fuel depth false false rest
      match named with
      | none => none
      | some (name, behindName) =>
          match flowValue? fuel depth behindName with
          | some (value, behind) => closeFields [(name, value)] behind
          | none => none
  | fuel + 1, depth, tokens => document? fuel depth false false tokens
  | 0, _, _ => none

/-- Fields up to their closing brace, and the tokens behind it. -/
def flowFields? : (fuel depth : Nat) → (taken : List Entry) → (isFirst : Bool) → List Token → Read
  | 0, _, _, _, _ => none
  | _, _, taken, _, .closeFields :: rest => closeFields taken rest
  | fuel + 1, depth, taken, true, tokens =>
      match flowEntry? fuel depth tokens with
      | some (entry, behind) => flowFields? fuel depth (entry :: taken) false behind
      | none => none
  | _, _, taken, false, .comma :: .closeFields :: rest => closeFields taken rest
  | fuel + 1, depth, taken, false, .comma :: rest =>
      match flowEntry? fuel depth rest with
      | some (entry, behind) => flowFields? fuel depth (entry :: taken) false behind
      | none => none
  | _, _, _, _, _ => none

/-- A field between brackets, and the tokens behind it. A name that nothing announces has no
value. -/
def flowEntry? : (fuel depth : Nat) → List Token → ReadEntry
  | 0, _, _ => none
  | fuel + 1, depth, .name :: rest =>
      let named :=
        match rest with
        | .value :: _ | .comma :: _ | .closeFields :: _ => some (absent, rest)
        | _ => document? fuel depth false false rest
      match named with
      | none => none
      | some (name, behindName) =>
          (flowValue? fuel depth behindName).map fun (value, behind) => ((name, value), behind)
  | fuel + 1, depth, .value :: rest =>
      (flowValue? fuel depth (.value :: rest)).map fun (value, behind) => ((absent, value), behind)
  | fuel + 1, depth, tokens =>
      (document? fuel depth false false tokens).map fun (name, behind) => ((name, absent), behind)

/-- The value behind a name between brackets, and the tokens behind it. -/
def flowValue? : (fuel depth : Nat) → List Token → Read
  | 0, _, _ | _, _, [] => none
  | fuel + 1, depth, .value :: rest =>
      match rest with
      | .comma :: _ | .closeList :: _ | .closeFields :: _ => some (absent, rest)
      | _ => document? fuel depth false false rest
  | _, _, tokens => some (absent, tokens)

end

/-! ## Texts of one document -/

/-- The tokens behind directives, of which at most one gives the version. Directives need the mark
of the start of a document. -/
def passDirectives? (hasVersion : Bool) : List Token → Option (List Token)
  | .directive isVersion :: rest =>
      if hasVersion && isVersion then none else passDirectives? (hasVersion || isVersion) rest
  | .documentStart :: rest => some rest
  | _ => none

/-- Whether tokens show no document at their start. -/
def isVoid : List Token → Bool
  | .directive _ :: _ | .documentStart :: _ | .documentEnd :: _ | .textEnd :: _ => true
  | _ => false

/-- Whether tokens start a document that is there. -/
def startsDocument : List Token → Bool
  | token :: _ =>
      match token with
      | .scalar _ | .openList | .openFields | .listStart | .fieldsStart => true
      | _ => false
  | [] => false

/-- The tokens behind marks of the end of a document. -/
def passEnds : List Token → List Token
  | .documentEnd :: rest => passEnds rest
  | tokens => tokens

/-- Whether the tokens behind a document show a second one. After the mark of the end it need not
have the mark of its start. -/
def hasSecond (isEnded : Bool) (tokens : List Token) : Bool :=
  match passEnds tokens with
  | .directive isVersion :: rest =>
      match passDirectives? false (.directive isVersion :: rest) with
      | some content => isVoid content || startsDocument content
      | none => false
  | .documentStart :: content => isVoid content || startsDocument content
  | content => isEnded && startsDocument content

/-- The document that starts with tokens, and the tokens behind it. -/
def first? (tokens : List Token) : Read :=
  let content? :=
    match passEnds tokens with
    | .textEnd :: _ => none
    | .directive isVersion :: rest => passDirectives? false (.directive isVersion :: rest)
    | .documentStart :: content => some content
    | content => some content
  match content? with
  | none => none
  | some content =>
      if isVoid content then some (absent, content)
      else document? (4 * tokens.length + 4) greatestDepth true false content

/-- The only document in tokens. A directive behind it needs the mark of the end between them. -/
def only? (tokens : List Token) : Option (Document Scalar) :=
  match first? tokens with
  | none | some (_, []) | some (_, .directive _ :: _) => none
  | some (document, behind) =>
      let isEnded := behind.head? == some .documentEnd
      if hasSecond isEnded behind then none else some document

end Reader

/-- A text without the mark of its encoding, if it starts with it. -/
def withoutByteOrderMark : List Char → List Char
  | '\ufeff' :: rest => rest
  | text => text

/-- The document of a YAML text, which ends before the first null character. -/
def parse? (text : List Char) : Option (Document Scalar) :=
  Reader.only? (Token.ofText ((withoutByteOrderMark text).takeWhile (· != '\x00')))

end Yaml

end Reckoner
