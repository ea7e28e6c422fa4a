import RunWatch.Number.Binary64
import RunWatch.Text.Digits

/-!
# Shortest decimal text

A finite number is written with the fewest digits that read back to it; of several such texts the
one nearest to the number is taken, and a tie goes to the even last digit. `shortest` finds the
digits, `Binary64.text` lays them out: with a point for magnitudes from `1e-5` up to `1e16`, and
with a power of ten beyond these.
-/

namespace RunWatch

open Text

namespace Binary64

/-- The greatest `k` with `10 ^ k` at most the quotient of two positive numbers. -/
def floorLog10 (num den : Nat) : Int :=
  if den ≤ num then (digitCount (num / den) : Int) - 1 else -(digitCount ((den - 1) / num) : Int)

/-- Whether `c * 10 ^ k` reads back to a positive number. -/
def readsBack (x : Binary64) (c : Nat) (k : Int) : Bool :=
  (ofRatio false (c * tenTo k) (tenTo (-k))).rank == x.rank

/-- The multiple of `10 ^ k` that stands for a number, as its factor: one of the two neighbours of
the number on this grid, if it reads back, and the nearer one if both do. -/
def onGrid? (x : Binary64) (k : Int) : Option Nat :=
  let num := x.numerator * tenTo (-k)
  let den := x.denominator * tenTo k
  let low := num / den
  match readsBack x low k, readsBack x (low + 1) k with
  | true, false => some low
  | false, true => some (low + 1)
  | true, true => some (roundDiv num den)
  | false, false => none

/-- The first hit on the grids of `count`, `count + 1`, ... digits, within `fuel` grids. -/
def shortestFrom (x : Binary64) (top : Int) : (fuel count : Nat) → Nat × Int
  | 0, _ => (0, 0)
  | fuel + 1, count =>
    let k := top - count + 1
    match onGrid? x k with
    | some c => (c, k)
    | none => shortestFrom x top fuel (count + 1)

/-- The shortest decimal `c * 10 ^ k` that reads back to a finite number that is not zero. A number
has one of at most 17 digits. -/
def shortest (x : Binary64) : Nat × Int :=
  shortestFrom x (floorLog10 x.numerator x.denominator) 17 1

/-! ### Layout -/

/-- Takes the zeros off the end of a list of digits. -/
def dropEndZeros (ds : List Char) : List Char := (ds.reverse.dropWhile (· == '0')).reverse

/-- Digits with the decimal point after `place` of them; zeros fill the gaps, and there is a digit
on either side of the point. -/
def withPoint (ds : List Char) (place : Int) : List Char :=
  if place ≤ 0 then '0' :: '.' :: (List.replicate (-place).toNat '0' ++ ds)
  else
    let n := place.toNat
    let tail := ds.drop n
    ds.take n ++ List.replicate (n - ds.length) '0' ++ '.' :: (if tail.isEmpty then ['0'] else tail)

/-- Digits with the point after the first one, and a signed power of ten. -/
def withPower (ds : List Char) (power : Int) : List Char :=
  let mark := if power < 0 then ['e', '-'] else ['e', '+']
  let body := match ds with
    | d :: d' :: rest => d :: '.' :: d' :: rest
    | _ => ds
  body ++ mark ++ digitsOf power.natAbs

/-- The text of a magnitude that is finite. -/
def magnitudeText (x : Binary64) : List Char :=
  if x.isZero then ['0', '.', '0']
  else
    let (c, k) := shortest x
    let all := digitsOf c
    let top := k + all.length - 1
    let ds := dropEndZeros all
    if -5 ≤ top ∧ top < 16 then withPoint ds (top + 1) else withPower ds top

/-- The text of a finite number, always recognisable as one with a fraction. -/
def text (x : Binary64) : List Char :=
  if x.negative then '-' :: magnitudeText x else magnitudeText x

end Binary64

end RunWatch
