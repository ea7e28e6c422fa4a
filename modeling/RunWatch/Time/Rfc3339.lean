import RunWatch.Number.Binary64
import RunWatch.Time.Instant

/-!
# Reading date and time

`Instant.ofRfc3339?` reads a date, a `T`, `t` or space, a time of day and an offset: four digits for
the year, two for each other number, any digits of a second of which nine count, second 60 for a
leap second, and `Z`, `z` or a signed offset below 24 hours. Nothing may stand before or after it.
-/

namespace RunWatch.Instant

open Text

/-- Reads a number of exactly so many digits. -/
def takeFixed : Nat → List Char → Option (Nat × List Char)
  | width, cs =>
    let ds := cs.take width
    if ds.length = width ∧ ds.all isDigit = true then
      some (ofDigits (ds.filterMap digit?), cs.drop width)
    else none

/-- Reads one given character. -/
def takeChar (c : Char) : List Char → Option (List Char)
  | d :: rest => if d = c then some rest else none
  | [] => none

/-- Reads one of the characters between date and time. -/
def takeSeparator : List Char → Option (List Char)
  | c :: rest => if c = 'T' ∨ c = 't' ∨ c = ' ' then some rest else none
  | [] => none

/-- The nanoseconds of digits behind a point: nine digits count. -/
def nanosOfDigits (ds : List Nat) : Nat :=
  ofDigits (ds.take 9) * tenTo (9 - (ds.take 9).length : Nat)

/-- Reads the digits of a second, if a point stands there. -/
def takeNanos : List Char → Option (Nat × List Char)
  | '.' :: rest =>
    match takeDigits rest with
    | ([], _) => none
    | (ds, after) => some (nanosOfDigits ds, after)
  | cs => some (0, cs)

/-- Reads an offset from UTC, in minutes. -/
def takeOffset : List Char → Option (Int × List Char)
  | [] => none
  | c :: rest =>
    if c = 'Z' ∨ c = 'z' then some (0, rest)
    else if c = '+' ∨ c = '-' ∨ c = '\u2212' then do
      let (hours, rest) ← takeFixed 2 rest
      let rest ← takeChar ':' rest
      let (minutes, rest) ← takeFixed 2 rest
      if hours ≤ 23 ∧ minutes ≤ 59 then
        let offset : Int := hours * 60 + minutes
        return (if c = '+' then offset else -offset, rest)
      else none
    else none

/-- The instant of a date, a time of day and an offset in minutes, if all of them exist. -/
def ofCivil? (d : Date) (hour minute second nanos : Nat) (offset : Int) : Option Instant :=
  if d.IsValid ∧ hour ≤ 23 ∧ minute ≤ 59 ∧ second ≤ 60 then
    let whole := min second 59
    let nanos := if second = 60 then nanos + 1000000000 else nanos
    of? (d.toDays * 86400 + hour * 3600 + minute * 60 + whole - offset * 60) nanos
  else none

/-- Reads an instant. -/
def ofRfc3339? (cs : List Char) : Option Instant := do
  let (year, cs) ← takeFixed 4 cs
  let cs ← takeChar '-' cs
  let (month, cs) ← takeFixed 2 cs
  let cs ← takeChar '-' cs
  let (day, cs) ← takeFixed 2 cs
  let cs ← takeSeparator cs
  let (hour, cs) ← takeFixed 2 cs
  let cs ← takeChar ':' cs
  let (minute, cs) ← takeFixed 2 cs
  let cs ← takeChar ':' cs
  let (second, cs) ← takeFixed 2 cs
  let (nanos, cs) ← takeNanos cs
  let (offset, cs) ← takeOffset cs
  if cs.isEmpty then ofCivil? ⟨year, month, day⟩ hour minute second nanos offset else none

end RunWatch.Instant
