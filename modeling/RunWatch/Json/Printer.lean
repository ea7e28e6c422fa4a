import RunWatch.Json.Basic
import RunWatch.Number.Shortest

/-!
# Compact JSON text

A value is written without blanks, members in the order in which they stand. `Json.write` puts the
text of a value in front of more text, and `Json.compact` is the text alone.

A text stands between double quotes (`Quoted.encode`): a quote, a backslash and every control
character below the space are escaped, and all else stands for itself.
-/

namespace RunWatch.Text.Quoted

/-- A digit of a hexadecimal number in lower case. -/
def hexDigit (n : Nat) : Char := Nat.digitChar n

/-- A character inside quotes. -/
def encodeChar (c : Char) : List Char :=
  if c = '"' then ['\\', '"']
  else if c = '\\' then ['\\', '\\']
  else if c = '\n' then ['\\', 'n']
  else if c = '\r' then ['\\', 'r']
  else if c = '\t' then ['\\', 't']
  else if c.toNat = 8 then ['\\', 'b']
  else if c.toNat = 12 then ['\\', 'f']
  else if c.toNat < 0x20 then
    ['\\', 'u', '0', '0', hexDigit (c.toNat / 16), hexDigit (c.toNat % 16)]
  else [c]

/-- A text between quotes, with more text after it. -/
def encode (cs : List Char) (rest : List Char) : List Char :=
  '"' :: cs.foldr (fun c tail => encodeChar c ++ tail) ('"' :: rest)

end RunWatch.Text.Quoted

namespace RunWatch.Json

open Text

/-- The text of a number. -/
def Number.text : Number → List Char
  | .integer n => if n.value < 0 then '-' :: digitsOf n.value.natAbs else digitsOf n.value.natAbs
  | .float x => if x.isFinite then x.text else ['n', 'u', 'l', 'l']

mutual

/-- The text of a value, with more text after it. -/
def write : Json → List Char → List Char
  | null, rest => 'n' :: 'u' :: 'l' :: 'l' :: rest
  | bool true, rest => 't' :: 'r' :: 'u' :: 'e' :: rest
  | bool false, rest => 'f' :: 'a' :: 'l' :: 's' :: 'e' :: rest
  | number n, rest => n.text ++ rest
  | string s, rest => Quoted.encode s.toList rest
  | array [], rest => '[' :: ']' :: rest
  | array (v :: vs), rest => '[' :: write v (writeItems vs (']' :: rest))
  | object [], rest => '\x7b' :: '\x7d' :: rest
  | object ((k, v) :: ms), rest =>
    '\x7b' :: Quoted.encode k.toList (':' :: write v (writeMembers ms ('\x7d' :: rest)))

/-- The text of the items after the first one, each behind a comma. -/
def writeItems : List Json → List Char → List Char
  | [], rest => rest
  | v :: vs, rest => ',' :: write v (writeItems vs rest)

/-- The text of the members after the first one, each behind a comma. -/
def writeMembers : List (String × Json) → List Char → List Char
  | [], rest => rest
  | (k, v) :: ms, rest =>
    ',' :: Quoted.encode k.toList (':' :: write v (writeMembers ms rest))

end

/-- The text of a value. -/
def compact (v : Json) : String := String.ofList (write v [])

end RunWatch.Json
