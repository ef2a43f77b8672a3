/-!
# Trimming the log

A log file that outgrows a limit is cut down to its most recent lines, with a marker line in front
of them. Only whole lines are kept, so the first line that survives starts behind a line feed; a
tail without any line feed is kept as it is.
-/

namespace Reckoner

namespace Log

/-- When a log file is trimmed and how much of it survives, in bytes. -/
structure Rotation where
  /-- The greatest size that is left alone. -/
  greatestSize : Nat
  /-- The number of recent bytes that are looked at for lines to keep. -/
  keptSize : Nat
  deriving DecidableEq, Repr

namespace Rotation

/-- Beyond five mebibytes about the last mebibyte is kept. -/
def standard : Rotation := ⟨5 * 1024 * 1024, 1024 * 1024⟩

/-- The line that stands for the entries that were cut off. -/
def marker : List UInt8 :=
  "--- smartcalc: earlier log entries trimmed ---\n".toUTF8.toList

/-- The byte that ends a line. -/
def lineFeed : UInt8 := 10

/-- The bytes that survive a trim: the recent ones, without a first line that was cut into. -/
def kept (policy : Rotation) (content : List UInt8) : List UInt8 :=
  let cut := content.length - policy.keptSize
  let tail := content.drop cut
  if 0 < cut ∧ lineFeed ∈ tail then (tail.dropWhile (· != lineFeed)).drop 1 else tail

/-- Trims a log if it is over the limit, and says whether it was. -/
def apply (policy : Rotation) (content : List UInt8) : Bool × List UInt8 :=
  if content.length ≤ policy.greatestSize then (false, content)
  else (true, marker ++ policy.kept content)

/-- Trims a log file that may not exist. -/
def applyToFile (policy : Rotation) : Option (List UInt8) → Bool × Option (List UInt8)
  | none => (false, none)
  | some content =>
      let (trimmed, after) := policy.apply content
      (trimmed, some after)

end Rotation

end Log

end Reckoner
