import Reckoner.Log.Event
import Reckoner.Text.Parts

/-!
# Filters of log events

A filter decides by source and level which events are written to the log. It is written as
directives with commas between them, each of which lets events of sources whose names start in a
certain way pass up to a level. Of the directives that speak of a source the one with the longest
name decides, and of equal names the last one. A directive that cannot be read is ignored.
-/

namespace Reckoner

namespace Log

/-- The limit that a filter sets for sources. -/
structure Directive where
  /-- How the names of the sources start. -/
  target : List Char
  /-- The rank up to which events pass. -/
  greatestRank : Nat
  deriving DecidableEq, Repr

namespace Directive

/-- The rank of a numeral, which may have a plus sign. -/
def rankOfNumeral? (text : List Char) : Option Nat :=
  let digits :=
    match text with
    | '+' :: rest => rest
    | _ => text
  if digits ≠ [] ∧ digits.all Char.isDigit then
    let value := Nat.ofDigitChars 10 digits 0
    if value ≤ Level.trace.rank then some value else none
  else none

/-- The rank up to which a level lets events pass. Levels are named in either case or counted, where
zero and `off` let nothing pass. -/
def rankOfLevel? (text : List Char) : Option Nat :=
  match rankOfNumeral? text with
  | some rank => some rank
  | none =>
      let name := String.ofList (text.map Char.toUpper)
      if name = "OFF" then some 0
      else (Level.all.find? fun level => level.name == name).map Level.rank

/-- The directive of a text: a target with a level behind an equals sign, a level for all sources,
or a target all of whose events pass. An empty level lets all events pass, but a target before an
equals sign is not empty. A level for all sources has no sign. -/
def ofText? (text : List Char) : Option Directive :=
  let target := text.takeWhile (· != '=')
  match text.dropWhile (· != '=') with
  | [] =>
      match rankOfLevel? text with
      | some rank => if text.head? = some '+' then none else some ⟨[], rank⟩
      | none => some ⟨text, Level.trace.rank⟩
  | _ :: level =>
      if target.isEmpty then none
      else if level.isEmpty then some ⟨target, Level.trace.rank⟩
      else (rankOfLevel? level).map fun rank => ⟨target, rank⟩

/-- Whether a directive speaks of a source. -/
def speaksOf (directive : Directive) (source : Source) : Bool :=
  directive.target.isPrefixOf source.name.toList

end Directive

/-- The directives of a run. -/
structure Filter where
  directives : List Directive
  deriving DecidableEq, Repr

namespace Filter

/-- The filter of a text. Nothing between two commas is no directive. -/
def ofText (text : List Char) : Filter where
  directives := ((Text.parts ',' text).filter (!·.isEmpty)).filterMap Directive.ofText?

/-- The level for the engine. It stays at warnings unless a level for debugging is asked for. -/
def engineLevel (level : String) : String :=
  if level = "debug" ∨ level = "trace" then level else "warn"

/-- The filter of a run with a level for the command line. -/
def ofLevel (level : String) : Filter :=
  let directive (name level : String) : String := name ++ "=" ++ level
  ofText
    (directive Source.commandLineName level ++ "," ++
      directive Source.engineName (engineLevel level)).toList

/-- The rank up to which events of a source pass. -/
def limit (filter : Filter) (source : Source) : Nat :=
  let speaking := filter.directives.filter fun directive => directive.speaksOf source
  let deciding? := speaking.foldl
    (fun best? directive =>
      match best? with
      | none => some directive
      | some best =>
          if best.target.length ≤ directive.target.length then some directive else some best)
    (none : Option Directive)
  (deciding?.map Directive.greatestRank).getD 0

/-- Whether an event is written. -/
def passes (filter : Filter) (event : Event) : Bool :=
  decide (event.level.rank ≤ filter.limit event.source)

end Filter

end Log

end Reckoner
