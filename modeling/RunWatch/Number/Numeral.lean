import RunWatch.Number.Binary64
import RunWatch.Text.Digits

/-!
# Decimal numerals

A `Numeral` is a decimal number as written: a sign, the digits before and after the point, and a
power of ten. Two rules turn it into a number:

* `Numeral.nearest` is the value nearest to the written one;
* `Numeral.scaled` reads as many digits as fit 64 bits, takes the nearest value of these and
  multiplies or divides it by a power of ten. It rounds twice, and refuses what becomes infinite.

`readNumeral` reads the loose spelling of numerals, in which either side of the point may be empty.
-/

namespace RunWatch

open Text

/-- A decimal number as written. -/
structure Numeral where
  negative : Bool
  whole : List Nat
  fraction : List Nat
  exponent : Int
  deriving DecidableEq

namespace Numeral

/-- All digits as one number. -/
def digits (n : Numeral) : Nat := ofDigits (n.whole ++ n.fraction)

/-- The power of ten that belongs to `digits`. -/
def power (n : Numeral) : Int := n.exponent - n.fraction.length

/-! ### The nearest value -/

/-- The value nearest to `m * 10 ^ k`. Numbers from `10 ^ 309` on are infinite and numbers below
`10 ^ (-324)` are zero, so no large power is computed for them. -/
def nearestScaled (negative : Bool) (m : Nat) (k : Int) : Binary64 :=
  if m = 0 then .ofRank negative 0
  else if 309 < (digitCount m : Int) + k then .ofRank negative Binary64.infinityRank
  else if (digitCount m : Int) + k ≤ -324 then .ofRank negative 0
  else .ofRatio negative (m * tenTo k) (tenTo (-k))

/-- The value nearest to a numeral. -/
def nearest (n : Numeral) : Binary64 := nearestScaled n.negative n.digits n.power

/-! ### Scaling in steps -/

/-- Takes digits from the front as long as the number that they make fits 64 bits: that number,
and how many digits were taken. -/
def absorb (n : Nat) : List Nat → Nat × Nat
  | [] => (n, 0)
  | d :: rest =>
    if 10 * n + d ≤ mostWord64 then
      let (m, taken) := absorb (10 * n + d) rest
      (m, taken + 1)
    else (n, 0)

/-- The number that the digits make which fit 64 bits, and the power of ten that belongs to it. A
digit before the point that does not fit counts as a place, one after the point is dropped. -/
def absorbed (n : Numeral) : Nat × Int :=
  let (m, taken) := absorb 0 n.whole
  let (m', taken') := absorb m n.fraction
  (m', n.exponent + (n.whole.length - taken : Nat) - (taken' : Nat))

/-- The value nearest to a power of ten. -/
def powerOfTen (k : Nat) : Binary64 := .ofRatio false (tenTo k) 1

/-- The product with a power of ten of at most 308. -/
def timesTen (x : Binary64) (k : Nat) : Binary64 :=
  x.scale (powerOfTen k).numerator (powerOfTen k).denominator

/-- The quotient by a power of ten of at most 308. -/
def overTen (x : Binary64) (k : Nat) : Binary64 :=
  x.scale (powerOfTen k).denominator (powerOfTen k).numerator

/-- The quotient by any power of ten, 308 places at a time; a zero stays. -/
def shrink (x : Binary64) (k : Nat) : Binary64 :=
  if k ≤ 308 then overTen x k
  else if x.isZero then x
  else shrink (overTen x 308) (k - 308)
  termination_by k

/-- The product with any power of ten, unless it is infinite. -/
def grow? (x : Binary64) (k : Nat) : Option Binary64 :=
  if k ≤ 308 then
    let y := timesTen x k
    if y.isFinite then some y else none
  else if x.isZero then some x else none

/-- The value of a numeral by scaling in steps; `none` when it is beyond every finite value. -/
def scaled (n : Numeral) : Option Binary64 :=
  let (m, k) := n.absorbed
  let x := Binary64.ofRatio n.negative m 1
  if 0 ≤ k then grow? x k.toNat else some (shrink x (-k).toNat)

end Numeral

/-! ### Reading -/

/-- Splits a sign off. -/
def readSign : List Char → Bool × List Char
  | '-' :: rest => (true, rest)
  | '+' :: rest => (false, rest)
  | cs => (false, cs)

/-- Reads what follows the digits of a numeral: nothing, or a mark and a power of ten. -/
def readPower : List Char → Option Int
  | [] => some 0
  | c :: rest =>
    if c = 'e' ∨ c = 'E' then
      let (negative, body) := readSign rest
      match takeDigits body with
      | (d :: ds, []) => some (if negative then -(ofDigits (d :: ds) : Int) else ofDigits (d :: ds))
      | _ => none
    else none

/-- Reads a numeral with an optional sign, digits on at least one side of an optional point, and an
optional power of ten. -/
def readNumeral (cs : List Char) : Option Numeral :=
  let (negative, body) := readSign cs
  let (whole, afterWhole) := takeDigits body
  let (fraction, rest) := match afterWhole with
    | '.' :: tail => takeDigits tail
    | _ => ([], afterWhole)
  if whole.isEmpty && fraction.isEmpty then none
  else (readPower rest).map fun exponent => { negative, whole, fraction, exponent }

end RunWatch
