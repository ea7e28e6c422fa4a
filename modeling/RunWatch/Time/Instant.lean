import RunWatch.Text.Digits
import RunWatch.Time.Calendar

/-!
# Instants

An `Instant` is a number of seconds since 1970-01-01 in UTC and of nanoseconds within the second.
From `10 ^ 9` nanoseconds on it lies in a leap second, which follows the last second of a minute.
Instants range from the first second of the year -262143 to the last one of the year 262142.

`Instant.text` writes an instant with `Z` and the fewest of 0, 3, 6 or 9 digits of a second.
-/

namespace RunWatch

/-- The first second of the year -262143. -/
def Instant.leastSecond : Int := -8334601228800

/-- The last second of the year 262142. -/
def Instant.mostSecond : Int := 8210266876799

/-- A point in time. -/
structure Instant where
  seconds : Int
  nanos : Nat
  nanos_lt : nanos < 2000000000
  leap : 1000000000 ≤ nanos → seconds % 60 = 59
  least : Instant.leastSecond ≤ seconds
  most : seconds ≤ Instant.mostSecond
  deriving DecidableEq

namespace Instant

/-- The instant with given seconds and nanoseconds, if there is one. -/
def of? (seconds : Int) (nanos : Nat) : Option Instant :=
  if h : nanos < 2000000000 ∧ (1000000000 ≤ nanos → seconds % 60 = 59) ∧
      leastSecond ≤ seconds ∧ seconds ≤ mostSecond then
    some ⟨seconds, nanos, h.1, h.2.1, h.2.2.1, h.2.2.2⟩
  else none

/-- The instant a number of milliseconds after 1970-01-01, if it is in range. -/
def ofMillis? (millis : Int) : Option Instant :=
  of? (millis / 1000) ((millis % 1000).toNat * 1000000)

/-- The milliseconds since 1970-01-01, rounded down; those of a leap second count on. -/
def millis (t : Instant) : Int := t.seconds * 1000 + (t.nanos / 1000000 : Nat)

/-- The date of an instant. -/
def date (t : Instant) : Date := .ofDays (t.seconds / 86400)

/-! ### Text -/

open Text

/-- A year: four digits up to 9999, and a sign and at least four digits outside of these. -/
def yearText (year : Int) : List Char :=
  if 0 ≤ year ∧ year ≤ 9999 then padded 4 year.toNat
  else (if year < 0 then '-' else '+') :: padded 4 year.natAbs

/-- The digits of a second behind a point; no point when there are none. -/
def fractionText (nanos : Nat) : List Char :=
  if nanos = 0 then []
  else if nanos % 1000000 = 0 then '.' :: padded 3 (nanos / 1000000)
  else if nanos % 1000 = 0 then '.' :: padded 6 (nanos / 1000)
  else '.' :: padded 9 nanos

/-- The text of an instant; a leap second is written as second 60. -/
def textChars (t : Instant) : List Char :=
  let d := t.date
  let inDay := (t.seconds % 86400).toNat
  let inLeap := 1000000000 ≤ t.nanos
  let second := if inLeap then inDay % 60 + 1 else inDay % 60
  let nanos := if inLeap then t.nanos - 1000000000 else t.nanos
  yearText d.year ++ '-' :: padded 2 d.month ++ '-' :: padded 2 d.day ++
    'T' :: padded 2 (inDay / 3600) ++ ':' :: padded 2 (inDay / 60 % 60) ++
    ':' :: padded 2 second ++ fractionText nanos ++ ['Z']

/-- The text of an instant. -/
def text (t : Instant) : String := String.ofList t.textChars

end Instant

end RunWatch
