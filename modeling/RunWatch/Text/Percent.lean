import RunWatch.Text.Digits

/-!
# Percent encoding

The form of a text inside a URL. A character that may not stand there is written as the bytes of its
UTF-8 encoding, each as a percent sign with two hexadecimal digits in upper case
(`Percent.encode`). Reading takes digits of both cases, leaves a percent sign without two digits as
it is, and fails when the bytes are not UTF-8 (`Percent.decode?`).
-/

namespace RunWatch.Text.Percent

/-- A byte as a percent sign with two digits. -/
def encodeByte (b : UInt8) : List Char :=
  ['%', upperHexDigit (b.toNat / 16), upperHexDigit (b.toNat % 16)]

/-- A character as the bytes of its UTF-8 encoding. -/
def encodeChar (c : Char) : List Char := (String.utf8EncodeChar c).flatMap encodeByte

/-- Whether a character is one of ASCII and no control. -/
def isVisible (c : Char) : Bool := 0x20 ≤ c.toNat && c.toNat < 0x7f

/-- A text in which only the characters that pass a test stand for themselves. -/
def encode (keep : Char → Bool) (cs : List Char) : List Char :=
  cs.flatMap fun c => if keep c then [c] else encodeChar c

/-- The bytes that a text stands for. -/
def bytesOf : List Char → List UInt8
  | [] => []
  | '%' :: a :: b :: rest =>
    match hexDigit? a, hexDigit? b with
    | some h, some l => UInt8.ofNat (16 * h + l) :: bytesOf rest
    | _, _ => '%'.val.toUInt8 :: bytesOf (a :: b :: rest)
  | c :: rest => String.utf8EncodeChar c ++ bytesOf rest

/-- The text that a text stands for, unless its bytes are no UTF-8. -/
def decode? (s : String) : Option String := String.fromUTF8? ⟨(bytesOf s.toList).toArray⟩

end RunWatch.Text.Percent
