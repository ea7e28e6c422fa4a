import RunWatch.Text.Split

/-!
# Punycode

A text of any characters in letters, digits and hyphens of ASCII. The characters of ASCII come
first, then a hyphen if there are any, and then one number for each of the others, in the order of
their code points. A number says how far to go on from the place of the last character: over the
places of the text so far, and after its end over those again with the next code point.

Numbers are written in base 36, the least digit first. A digit below the threshold of its place is
the last one of its number; thresholds follow a bias, which adapts to the numbers seen so far
(`threshold`, `adapt`).
-/

namespace RunWatch.Text.Punycode

/-! ### Digits -/

/-- The digit with a value below 36: the letters come before the decimal digits. -/
def digitChar (d : Nat) : Char := Char.ofNat (if d < 26 then 97 + d else 22 + d)

/-- The value of a digit; a capital counts as its small letter. -/
def digitValue? (c : Char) : Option Nat :=
  if 'a' ≤ c ∧ c ≤ 'z' then some (c.toNat - 97)
  else if 'A' ≤ c ∧ c ≤ 'Z' then some (c.toNat - 65)
  else if '0' ≤ c ∧ c ≤ '9' then some (c.toNat - 22)
  else none

/-- The threshold at a position: a digit below it is the last one of its number. The first digit of
a number is at position 36, and each one after it 36 further. -/
def threshold (bias position : Nat) : Nat := max 1 (min 26 (position - bias))

theorem threshold_pos (bias position : Nat) : 1 ≤ threshold bias position := by
  simp only [threshold]; omega

/-- The bias for a distance: `bias` grows by 36 for each time that 35 goes into the distance until
455 is left at most. -/
def biasOf (bias distance : Nat) : Nat :=
  if h : 455 < distance then biasOf (bias + 36) (distance / 35)
  else bias + 36 * distance / (distance + 38)
termination_by distance
decreasing_by exact Nat.div_lt_self (by omega) (by omega)

/-- The bias after a number, when there are `count` characters. -/
def adapt (number count : Nat) (isFirst : Bool) : Nat :=
  let distance := number / if isFirst then 700 else 2
  biasOf 0 (distance + distance / count)

/-- A number from the digit at a position on. -/
def numberDigits (bias position number : Nat) : List Char :=
  let t := threshold bias position
  if number < t then [digitChar number]
  else
    digitChar (t + (number - t) % (36 - t)) ::
      numberDigits bias (position + 36) ((number - t) / (36 - t))
termination_by number
decreasing_by
  have h := threshold_pos bias position
  calc (number - threshold bias position) / (36 - threshold bias position)
      ≤ number - threshold bias position := Nat.div_le_self _ _
    _ < number := by omega

/-! ### Writing -/

/-- The state of writing. -/
structure Encoder where
  /-- The digits so far. -/
  written : List Char
  /-- How many places were passed since the last number. -/
  passed : Nat
  bias : Nat
  /-- How many characters have a place. -/
  count : Nat
  /-- Whether no number has been written. -/
  isFirst : Bool

namespace Encoder

/-- Goes over one character while those with a given code point get their places. -/
def visit (code : Nat) (e : Encoder) (c : Char) : Encoder :=
  if c.toNat < code then { e with passed := e.passed + 1 }
  else if c.toNat = code then
    { written := e.written ++ numberDigits e.bias 36 e.passed
      passed := 0
      bias := adapt e.passed (e.count + 1) e.isFirst
      count := e.count + 1
      isFirst := false }
  else e

/-- Goes over a text for each of some code points, in ascending order. The code points from `next`
on have no places yet. -/
def run (cs : List Char) (next : Nat) (e : Encoder) : List Nat → Encoder
  | [] => e
  | code :: codes =>
    let start := { e with passed := e.passed + (code - next) * (e.count + 1) }
    let done := cs.foldl (visit code) start
    run cs (code + 1) { done with passed := done.passed + 1 } codes

end Encoder

/-- Whether a character is one of ASCII. -/
def isBasic (c : Char) : Bool := c.toNat < 128

/-- Puts a number in its place in an ascending list that has each number once. -/
def insertOnce (n : Nat) : List Nat → List Nat
  | [] => [n]
  | m :: ms => if n < m then n :: m :: ms else if n = m then m :: ms else m :: insertOnce n ms

/-- A text in Punycode. -/
def encode (cs : List Char) : List Char :=
  let basic := cs.filter isBasic
  let codes := ((cs.filter (!isBasic ·)).map Char.toNat).foldr insertOnce []
  let numbers := (Encoder.run cs 128 ⟨[], 0, 72, basic.length, true⟩ codes).written
  if basic.isEmpty then numbers else basic ++ '-' :: numbers

/-! ### Reading -/

/-- The state of reading. -/
structure Decoder where
  /-- The text so far. -/
  text : List Char
  /-- The code point of the last character that got its place. -/
  code : Nat
  /-- The place from which the next number counts. -/
  place : Nat
  bias : Nat
  /-- The value of the digits of a number so far. -/
  number : Nat
  /-- What a digit of the number counts. -/
  weight : Nat
  /-- The position of the next digit. -/
  position : Nat

namespace Decoder

/-- The state before the first number. -/
def start (basic : List Char) : Decoder := ⟨basic, 128, 0, 72, 0, 1, 36⟩

/-- Gives a character its place after the last digit of a number. -/
def insert? (d : Decoder) (number : Nat) : Option Decoder :=
  let count := d.text.length + 1
  let code := d.code + (d.place + number) / count
  let place := (d.place + number) % count
  if code.isValidChar then
    some {
      text := d.text.insertIdx place (Char.ofNat code)
      code
      place := place + 1
      bias := adapt number count (d.place == 0)
      number := 0
      weight := 1
      position := 36 }
  else none

/-- Reads one digit. -/
def step? (d : Decoder) (c : Char) : Option Decoder := do
  let digit ← digitValue? c
  let number := d.number + digit * d.weight
  let t := threshold d.bias d.position
  if digit < t then d.insert? number
  else
    some { d with
      number
      weight := d.weight * (36 - t)
      position := d.position + 36 }

end Decoder

/-- The text that a text in Punycode stands for. -/
def decode? (cs : List Char) : Option (List Char) := do
  let (basic, numbers) := match splitLast? '-' cs with
    | some (c :: basic, numbers) => (c :: basic, numbers)
    | _ => ([], cs)
  if basic.all isBasic then
    let d ← numbers.foldlM Decoder.step? (.start basic)
    if d.weight = 1 then some d.text else none
  else none

end RunWatch.Text.Punycode
