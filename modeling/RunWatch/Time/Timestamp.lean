import RunWatch.Json.Basic
import RunWatch.Number.Numeral
import RunWatch.Text.Blank
import RunWatch.Time.Rfc3339

/-!
# Lenient timestamps

Whoever reports an event may give its time as a text with date and time, or as a count since
1970-01-01 in seconds or milliseconds, as a number or as a text. `Instant.ofJson?` reads all of
these; whatever else stands there is no time, and no error.
-/

namespace RunWatch.Instant

open Text

/-- Counts of a smaller magnitude are seconds, all others milliseconds. -/
def secondsCutoff : Binary64 := .ofInt 100000000000

/-- The milliseconds of a count: the count itself from `10 ^ 11` on, a thousand times the count
below it. A fraction is dropped. -/
def millisOfCount (x : Binary64) : Int :=
  if x.rank < secondsCutoff.rank then (x.scale 1000 1).truncated else x.truncated

/-- The instant of a count of seconds or milliseconds, if it is finite and in range. -/
def ofCount? (x : Binary64) : Option Instant :=
  if x.isFinite then ofMillis? (millisOfCount x) else none

/-- The instant of a text: date and time, or else a numeral with any blanks around it. -/
def ofText? (s : String) : Option Instant :=
  match ofRfc3339? s.toList with
  | some t => some t
  | none => (readNumeral (trimChars s.toList)).bind fun n => ofCount? n.nearest

/-- The instant that a value stands for. -/
def ofJson? : Json → Option Instant
  | .string s => ofText? s
  | .number n => ofCount? n.toBinary64
  | _ => none

end RunWatch.Instant
