/-!
# The Gregorian calendar

Dates of the proleptic Gregorian calendar and their number of days since 1970-01-01. Both directions
count from the first of March, so that a leap day is the last day of its year:
`Date.toDays` adds up years, months and days, and `Date.ofDays` splits a number of days into periods
of 400, 100, 4 and 1 years.
-/

namespace RunWatch

/-- A date; month and day count from one. -/
structure Date where
  year : Int
  month : Nat
  day : Nat
  deriving DecidableEq

namespace Date

/-- Whether a year has a leap day. -/
def isLeapYear (year : Int) : Bool := year % 4 == 0 && (year % 100 != 0 || year % 400 == 0)

/-- The number of days of a month. -/
def daysInMonth (year : Int) (month : Nat) : Nat :=
  if month = 2 then (if isLeapYear year then 29 else 28)
  else if month = 4 ∨ month = 6 ∨ month = 9 ∨ month = 11 then 30
  else 31

/-- Whether month and day exist. -/
def IsValid (d : Date) : Prop :=
  1 ≤ d.month ∧ d.month ≤ 12 ∧ 1 ≤ d.day ∧ d.day ≤ daysInMonth d.year d.month

instance (d : Date) : Decidable d.IsValid := by unfold IsValid; infer_instance

/-- The days before 1970-01-01 of the calendar that starts at the first of March of the year 0. -/
def epochOffset : Int := 719468

/-- The number of days since 1970-01-01. -/
def toDays (d : Date) : Int :=
  let year := if d.month ≤ 2 then d.year - 1 else d.year
  let month : Int := if d.month ≤ 2 then d.month + 9 else d.month - 3
  365 * year + year / 4 - year / 100 + year / 400 + (153 * month + 2) / 5 + d.day - 1 - epochOffset

/-- The date a number of days after 1970-01-01. -/
def ofDays (days : Int) : Date :=
  let n := days + epochOffset
  let era := n / 146097
  let inEra := n % 146097
  let century := min 3 (inEra / 36524)
  let inCentury := inEra - 36524 * century
  let cycle := inCentury / 1461
  let inCycle := inCentury % 1461
  let yearOfCycle := min 3 (inCycle / 365)
  let dayOfYear := inCycle - 365 * yearOfCycle
  let year := 400 * era + 100 * century + 4 * cycle + yearOfCycle
  let month := (5 * dayOfYear + 2) / 153
  let day := dayOfYear - (153 * month + 2) / 5 + 1
  { year := if month < 10 then year else year + 1
    month := (if month < 10 then month + 3 else month - 9).toNat
    day := day.toNat }

end Date

end RunWatch
