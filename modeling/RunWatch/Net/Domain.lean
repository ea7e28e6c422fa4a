import RunWatch.Net.Domain.Spelling
import RunWatch.Text.Canonical
import RunWatch.Text.Direction
import RunWatch.Text.Joining
import RunWatch.Text.Punycode

/-!
# Domains

The names of hosts: labels with dots between them, of letters in any script. A domain is written in
ASCII, where a label with other characters is `xn--` and its Punycode (`Domain.ofText?`). A text is
no domain if one of these rules does not hold:

* each character has a spelling in domains (`Domain.spell?`);
* a label that is given in Punycode stands for a text that is not of ASCII only, is already spelled
  in the way of domains, and is canonical;
* a label does not start with a combining mark, and invisible characters that join letters stand
  only where they show (`Domain.isSound`);
* if a label has a part that is written from the right, all labels read in one way only;
* no character of ASCII stands in it that means something else in a URL, nor a blank or a control.
-/

namespace RunWatch.Domain

open Text

/-- What is in front of a label in Punycode. -/
def codeMark : List Char := ['x', 'n', '-', '-']

/-- The characters of ASCII, other than blanks and controls, that stand in no domain. -/
def forbiddenMarks : List Char :=
  ['%', '#', '/', ':', '<', '>', '?', '@', '[', '\\', ']', '^', '|']

/-- Whether a character of ASCII stands in no domain. -/
def isForbidden (c : Char) : Bool := c.toNat ≤ 0x20 || c.toNat == 0x7f || forbiddenMarks.contains c

/-- The characters that a label of spelled and canonical characters stands for. -/
def decodeLabel? (cs : List Char) : Option (List Char) :=
  if codeMark.isPrefixOf cs then do
    let decoded ← Punycode.decode? (cs.drop codeMark.length)
    if !decoded.all Punycode.isBasic && decoded.all isPlain && canonical decoded == decoded then
      some decoded
    else none
  else some cs

/-- A label in ASCII. -/
def encodeLabel (cs : List Char) : List Char :=
  if cs.all Punycode.isBasic then cs else codeMark ++ Punycode.encode cs

/-- Whether the marks and the invisible characters of a label stand on letters. -/
def isSound (cs : List Char) : Bool := !cs.head?.any isMark && joinersFit [] cs

/-- Whether some labels read in one way only. -/
def areOrdered (labels : List (List Char)) : Bool :=
  !labels.any (·.any Direction.turns) || labels.all Direction.isOrdered

/-- The labels of a domain, in the characters that they stand for. -/
def labels? (cs : List Char) : Option (List (List Char)) := do
  let spelled ← cs.mapM spell?
  let labels ← (splitOn (· == '.') (canonical spelled.flatten)).mapM decodeLabel?
  if labels.all isSound && areOrdered labels then some labels else none

/-- The written form of the domain that a text is. -/
def ofText? (cs : List Char) : Option (List Char) := do
  let labels ← labels? cs
  let written := ['.'].intercalate (labels.map encodeLabel)
  if written.any isForbidden then none else some written

end RunWatch.Domain
