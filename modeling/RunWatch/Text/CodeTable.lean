import RunWatch.Text.Digits
import RunWatch.Text.Split

/-!
# Tables of code points

A property of characters is a list of the ranges of code points that have it, both ends included and
in ascending order (`inRanges`).

What many characters stand for is a list of rows of entries with a space between them (`CodeBlock`).
An entry gives the texts of successive code points in hexadecimal: in `b2:32,33` the first two stand
for one character each, and a text of several characters is written `31+2044+32`.
-/

namespace RunWatch.Text

/-- Whether a character is in one of some ranges. -/
def inRanges (ranges : List (Nat × Nat)) (c : Char) : Bool :=
  ranges.any fun r => r.1 ≤ c.toNat && c.toNat ≤ r.2

/-- The texts that the code points from one on stand for. -/
structure CodeBlock where
  first : Nat
  texts : List (List Char)
  deriving DecidableEq

namespace CodeBlock

/-- The number that hexadecimal digits stand for. -/
def number (cs : List Char) : Nat := (cs.filterMap hexDigit?).foldl (fun n d => 16 * n + d) 0

/-- Reads a text of an entry. -/
def textOf (cs : List Char) : List Char :=
  (splitOn (· == '+') cs).map fun part => Char.ofNat (number part)

/-- Reads an entry. -/
def ofEntry (cs : List Char) : CodeBlock :=
  ⟨number (cs.takeWhile (· != ':')),
    (splitOn (· == ',') ((cs.dropWhile (· != ':')).drop 1)).map textOf⟩

/-- The blocks of a table. -/
def listOf (rows : List String) : List CodeBlock :=
  rows.flatMap fun row => (splitOn (· == ' ') row.toList).map ofEntry

/-- What a character stands for. -/
def text? (b : CodeBlock) (c : Char) : Option (List Char) :=
  if b.first ≤ c.toNat then b.texts[c.toNat - b.first]? else none

/-- The character that stands for a text. -/
def char? (b : CodeBlock) (text : List Char) : Option Char :=
  (b.texts.findIdx? (· == text)).map fun i => Char.ofNat (b.first + i)

end CodeBlock

end RunWatch.Text
