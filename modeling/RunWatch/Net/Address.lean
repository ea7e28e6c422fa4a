import RunWatch.Number.Binary64
import RunWatch.Text.Digits

/-!
# Network addresses

Internet addresses of both versions and socket addresses, with their written forms.

An address of version 4 is four decimal numbers without zeros in front. An address of version 6 is
eight hexadecimal numbers, of which the last two may be written as an address of version 4, and one
run of zeros as two colons. `Ipv6.text` writes the longest run of at least two zeros that way, and
the first of several.
-/

namespace RunWatch

open Text

/-! ### Numbers -/

/-- The digits at the front of a text in a base, and what follows them. -/
def leadingDigits (digit? : Char → Option Nat) : List Char → List Nat × List Char
  | [] => ([], [])
  | c :: rest =>
    match digit? c with
    | some d => let (ds, after) := leadingDigits digit? rest; (d :: ds, after)
    | none => ([], c :: rest)

/-- Reads a decimal number of at most `most`, with any zeros in front. -/
def readNumber? (most : Nat) (cs : List Char) : Option (Nat × List Char) :=
  match leadingDigits digit? cs with
  | ([], _) => none
  | (ds, rest) => if ofDigits ds ≤ most then some (ofDigits ds, rest) else none

/-- Reads a byte in decimal, without zeros in front. -/
def readOctet? (cs : List Char) : Option (Nat × List Char) :=
  match leadingDigits digit? cs with
  | ([], _) => none
  | (0 :: _ :: _, _) => none
  | (ds, rest) => if ofDigits ds ≤ 255 then some (ofDigits ds, rest) else none

/-- Reads a hexadecimal number of at most four digits. -/
def readGroup? (cs : List Char) : Option (Nat × List Char) :=
  match leadingDigits hexDigit? cs with
  | ([], _) => none
  | (ds, rest) =>
    if ds.length ≤ 4 then some (ds.foldl (fun n d => 16 * n + d) 0, rest) else none

/-- Reads what stands after a character. -/
def readAfter? {α : Type} (c : Char) (read? : List Char → Option (α × List Char)) :
    List Char → Option (α × List Char)
  | d :: rest => if c = d then read? rest else none
  | [] => none

/-! ### Version 4 -/

/-- An address of version 4. -/
structure Ipv4 where
  a : Nat
  b : Nat
  c : Nat
  d : Nat
  deriving DecidableEq

namespace Ipv4

/-- Reads an address. -/
def read? (cs : List Char) : Option (Ipv4 × List Char) := do
  let (a, cs) ← readOctet? cs
  let (b, cs) ← readAfter? '.' readOctet? cs
  let (c, cs) ← readAfter? '.' readOctet? cs
  let (d, cs) ← readAfter? '.' readOctet? cs
  return (⟨a, b, c, d⟩, cs)

/-- An address in words of 16 bits. -/
def groups (x : Ipv4) : List Nat := [256 * x.a + x.b, 256 * x.c + x.d]

/-- The address that two words stand for. -/
def ofGroups (g h : Nat) : Ipv4 := ⟨g / 256, g % 256, h / 256, h % 256⟩

/-- The written form of an address. -/
def text (x : Ipv4) : List Char :=
  digitsOf x.a ++ '.' :: digitsOf x.b ++ '.' :: digitsOf x.c ++ '.' :: digitsOf x.d

end Ipv4

/-! ### Version 6 -/

/-- An address of version 6: eight words of 16 bits. -/
structure Ipv6 where
  groups : List Nat
  deriving DecidableEq

namespace Ipv6

/-- What follows a separator; no separator stands before the first group. -/
def separated? {α : Type} (first : Bool) (read? : List Char → Option (α × List Char))
    (cs : List Char) : Option (α × List Char) :=
  if first then read? cs else readAfter? ':' read? cs

/-- Reads at most `room` groups; an address of version 4 stands for the last two of them. The flag
says that there was one. -/
def readGroups : (room : Nat) → (first : Bool) → List Char → List Nat × Bool × List Char
  | 0, _, cs => ([], false, cs)
  | room + 1, first, cs =>
    match if room = 0 then none else separated? first Ipv4.read? cs with
    | some (x, rest) => (x.groups, true, rest)
    | none =>
      match separated? first readGroup? cs with
      | none => ([], false, cs)
      | some (g, rest) =>
        let (gs, embedded, rest) := readGroups room false rest
        (g :: gs, embedded, rest)

/-- Reads an address. -/
def read? (cs : List Char) : Option (Ipv6 × List Char) :=
  let (head, embedded, rest) := readGroups 8 true cs
  if head.length = 8 then some (⟨head⟩, rest)
  else if embedded then none
  else match rest with
    | ':' :: ':' :: rest =>
      let (tail, _, rest) := readGroups (7 - head.length) true rest
      some (⟨head ++ List.replicate (8 - head.length - tail.length) 0 ++ tail⟩, rest)
    | _ => none

/-- A group in hexadecimal. -/
def groupText (g : Nat) : List Char := Nat.toDigits 16 g

/-- Groups between colons. -/
def groupsText (gs : List Nat) : List Char := [':'].intercalate (gs.map groupText)

/-- The start and length of the longest run of zeros, the first one of several. -/
def longestZeros (gs : List Nat) : Nat × Nat :=
  (List.range gs.length).foldl (fun best i =>
    let run := ((gs.drop i).takeWhile (· == 0)).length
    if best.2 < run then (i, run) else best) (0, 0)

/-- The written form of an address in groups only. -/
def groupForm (x : Ipv6) : List Char :=
  let (start, length) := longestZeros x.groups
  if length < 2 then groupsText x.groups
  else
    groupsText (x.groups.take start) ++ "::".toList ++ groupsText (x.groups.drop (start + length))

/-- The written form of an address; one that stands for an address of version 4 shows it. -/
def text (x : Ipv6) : List Char :=
  match x.groups with
  | [0, 0, 0, 0, 0, 0xffff, g, h] => "::ffff:".toList ++ (Ipv4.ofGroups g h).text
  | _ => x.groupForm

end Ipv6

/-! ### Socket addresses -/

/-- An address of a host. One of version 6 has a scope, which is 0 if none is given. -/
inductive HostAddress where
  | v4 (address : Ipv4)
  | v6 (address : Ipv6) (scope : Nat)
  deriving DecidableEq

/-- An address of a host with the number of an endpoint there. -/
structure SocketAddress where
  host : HostAddress
  endpoint : Nat
  deriving DecidableEq

namespace SocketAddress

/-- Reads a host of version 6 between brackets. -/
def readBracketed? (cs : List Char) : Option (HostAddress × List Char) := do
  let (x, cs) ← readAfter? '[' Ipv6.read? cs
  match cs with
  | '%' :: rest => do
    let (scope, rest) ← readNumber? mostWord32 rest
    let (_, rest) ← readAfter? ']' (fun rest => some ((), rest)) rest
    return (.v6 x scope, rest)
  | ']' :: rest => return (.v6 x 0, rest)
  | _ => none

/-- Reads a host. -/
def readHost? (cs : List Char) : Option (HostAddress × List Char) :=
  ((Ipv4.read? cs).map fun r => (HostAddress.v4 r.1, r.2)).or (readBracketed? cs)

/-- The address that a text is. -/
def parse? (s : String) : Option SocketAddress := do
  let (host, rest) ← readHost? s.toList
  let (endpoint, rest) ← readAfter? ':' (readNumber? 65535) rest
  if rest.isEmpty then return ⟨host, endpoint⟩ else none

/-- The written form of a host. -/
def hostText : HostAddress → List Char
  | .v4 x => x.text
  | .v6 x 0 => '[' :: x.text ++ [']']
  | .v6 x scope => '[' :: x.text ++ '%' :: digitsOf scope ++ [']']

/-- The written form of an address. -/
def text (x : SocketAddress) : String :=
  String.ofList (hostText x.host ++ ':' :: digitsOf x.endpoint)

end SocketAddress

end RunWatch
