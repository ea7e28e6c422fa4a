import RunWatch.Text.Composite
import RunWatch.Text.Mark

/-!
# Canonical texts

Texts that look the same may be written in several ways: a letter with a mark as one character or as
two, and two marks in either order. `canonical` writes them in one way. Composites are taken apart,
marks are put in order, and then characters are put together as far as that goes (`compose`): a
character joins the last one that others stand on unless a character of at least its own order
stands between them.
-/

namespace RunWatch.Text

/-- The characters of which a composite is made; its first part may be one again, `depth` times. -/
def decomposed : (depth : Nat) → Char → List Char
  | 0, c => [c]
  | depth + 1, c =>
    match parts? c with
    | some (a, b) => decomposed depth a ++ [b]
    | none => [c]

/-- How often a first part is a composite again, at most. -/
def compositeDepth : Nat := 3

/-- Puts a character before a text, behind the marks that come before it. -/
def placeMark (c : Char) : List Char → List Char
  | [] => [c]
  | d :: rest =>
    if 0 < markOrder d ∧ markOrder d < markOrder c then d :: placeMark c rest else c :: d :: rest

/-- A text with its marks in order. -/
def withOrderedMarks (cs : List Char) : List Char := cs.foldr placeMark []

/-- Whether no character can join the base of some marks, of which `marks` has the last one
first. -/
def isBlocked (marks : List Char) (c : Char) : Bool :=
  match marks with
  | [] => false
  | mark :: _ => markOrder c ≤ markOrder mark

/-- Puts characters together, from a base on, with the marks that did not join it, last first. -/
def composeFrom (base : Char) (marks : List Char) : List Char → List Char
  | [] => base :: marks.reverse
  | c :: rest =>
    match if isBlocked marks c then none else whole? base c with
    | some joined => composeFrom joined marks rest
    | none =>
      if markOrder c = 0 then base :: marks.reverse ++ composeFrom c [] rest
      else composeFrom base (c :: marks) rest

/-- A text whose characters are put together. -/
def compose : List Char → List Char
  | [] => []
  | c :: rest => composeFrom c [] rest

/-- The canonical form of a text. No mark is below 300 in hexadecimal, so that nothing changes in a
text without a character from there on. -/
def canonical (cs : List Char) : List Char :=
  if cs.all (·.toNat < 0x300) then cs
  else compose (withOrderedMarks (cs.flatMap (decomposed compositeDepth)))

end RunWatch.Text
