/-!
# Binary floating-point numbers of 64 bits

A `Binary64` is a sign and a rank: the place of its magnitude among the non-negative values in
ascending order, zero having rank 0 and infinity the last one. There is no value that is not a
number. Two neighbours in rank are neighbours in value, so order is order of ranks.

A finite magnitude is `mantissa * 2 ^ exponent` (`mantissa`, `exponent`), and infinity is read by
the same rule as `2 ^ 1024`. `ofRatio` gives the value nearest to a quotient of natural numbers, a
tie going to the even mantissa; every operation here is an exact one followed by `ofRatio`.

A power with an integer exponent is a quotient of natural numbers: `twoTo e / twoTo (-e)` is two to
the power `e`, and `tenTo e / tenTo (-e)` is ten to the power `e`.
-/

namespace RunWatch

/-! ### Powers and words -/

/-- The power of two with an exponent, and one for a negative exponent. -/
def twoTo (e : Int) : Nat := Nat.pow 2 e.toNat

/-- The power of ten with an exponent, and one for a negative exponent. -/
def tenTo (e : Int) : Nat := Nat.pow 10 e.toNat

theorem twoTo_pos (e : Int) : 0 < twoTo e := Nat.pow_pos (by decide)

/-- The largest word of 32 bits. -/
def mostWord32 : Nat := 0xFFFFFFFF

/-- The largest word of 64 bits. -/
def mostWord64 : Nat := 0xFFFFFFFFFFFFFFFF

/-- The least word of 64 bits with a sign. -/
def leastWord64 : Int := -0x8000000000000000

/-! ### Floating-point numbers -/

/-- The rank of infinity. -/
def Binary64.infinityRank : Nat := 0x7FF0000000000000

/-- A binary floating-point number: a sign and the rank of the magnitude. -/
structure Binary64 where
  negative : Bool
  rank : Nat
  rank_le : rank ≤ Binary64.infinityRank
  deriving DecidableEq

namespace Binary64

/-- A number with a given rank, the largest one being infinity. -/
def ofRank (negative : Bool) (rank : Nat) : Binary64 where
  negative := negative
  rank := min rank infinityRank
  rank_le := Nat.min_le_right _ _

/-- Positive zero. -/
def zero : Binary64 := ofRank false 0

instance : Inhabited Binary64 := ⟨zero⟩

/-- Whether a number is not infinite. -/
def isFinite (x : Binary64) : Bool := decide (x.rank < infinityRank)

/-- Whether a number is positive or negative zero. -/
def isZero (x : Binary64) : Bool := x.rank == 0

/-- The least mantissa with all its digits, `2 ^ 52`: so many values share an exponent. -/
def leadingDigit : Nat := 0x10000000000000

/-- The integer factor of the magnitude. -/
def mantissa (x : Binary64) : Nat :=
  if x.rank < leadingDigit then x.rank else leadingDigit + x.rank % leadingDigit

/-- The power of two of the magnitude. -/
def exponent (x : Binary64) : Int := (max (x.rank / leadingDigit) 1 : Nat) - 1075

/-- The numerator of the magnitude as a quotient. -/
def numerator (x : Binary64) : Nat := x.mantissa * twoTo x.exponent

/-- The denominator of the magnitude as a quotient. -/
def denominator (x : Binary64) : Nat := twoTo (-x.exponent)

/-- The number, with positive zero for negative zero. -/
def withoutSignedZero (x : Binary64) : Binary64 := if x.isZero then ofRank false 0 else x

/-! ### Rounding -/

/-- The natural number nearest to a quotient; a tie goes to the even neighbour. -/
def roundDiv (num den : Nat) : Nat :=
  let q := num / den
  let r := num % den
  if 2 * r < den then q else if den < 2 * r then q + 1 else q + q % 2

/-- The greatest `k` with `2 ^ k` at most the quotient of two positive numbers. -/
def floorLog2 (num den : Nat) : Int :=
  let k : Int := (Nat.log2 num : Int) - Nat.log2 den
  if num * twoTo (-k) < den * twoTo k then k - 1 else k

/-- The exponent of the last place that a value near a quotient has room for. -/
def placeExponent (num den : Nat) : Int := max (floorLog2 num den - 52) (-1074)

/-- The value nearest to a quotient, with a sign. -/
def ofRatio (negative : Bool) (num den : Nat) : Binary64 :=
  if num = 0 then ofRank negative 0
  else
    let e := placeExponent num den
    let m := roundDiv (num * twoTo (-e)) (den * twoTo e)
    ofRank negative ((e + 1074).toNat * leadingDigit + m)

/-- The value nearest to an integer. -/
def ofInt (n : Int) : Binary64 := ofRatio (decide (n < 0)) n.natAbs 1

/-- The value nearest to a product with a quotient of natural numbers; infinity is kept. -/
def scale (x : Binary64) (num den : Nat) : Binary64 :=
  if x.isFinite then ofRatio x.negative (x.numerator * num) (x.denominator * den) else x

/-! ### Order and conversion to integers -/

/-- The signed rank: numbers compare as their keys, so the two zeros are equal. -/
def key (x : Binary64) : Int := if x.negative then -(x.rank : Int) else x.rank

/-- Whether one number is less than another. -/
def less (x y : Binary64) : Bool := decide (x.key < y.key)

/-- The magnitude without its fraction. -/
def truncatedMagnitude (x : Binary64) : Nat := x.numerator / x.denominator

/-- The number without its fraction; infinity counts as `2 ^ 1024`. -/
def truncated (x : Binary64) : Int :=
  if x.negative then -(x.truncatedMagnitude : Int) else x.truncatedMagnitude

end Binary64

end RunWatch
