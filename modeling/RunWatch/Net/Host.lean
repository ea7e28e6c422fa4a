import RunWatch.Net.Address
import RunWatch.Net.Domain
import RunWatch.Text.Percent

/-!
# Hosts

The part of a URL that says where something is: an address between brackets, the address of version
4 that some numbers are, or a name. What a name may be depends on the scheme. In most of them it is
a domain, given with or without percent encoding (`Host.ofDomain`); in others it is any text without
characters that mean something else (`Host.ofName`).

An address of version 4 has up to four numbers in decimal, in octal after a zero, or in hexadecimal
after `0x`; the last number fills all the bytes that are left (`Ipv4.ofParts?`). A domain whose last
label is a number has to be such an address.
-/

namespace RunWatch

open Text

/-! ### Addresses of version 4 in numbers -/

namespace Ipv4

/-- The number that digits stand for in a base; no digits stand for zero. -/
def wholeNumber? (base : Nat) (cs : List Char) : Option Nat :=
  match leadingDigits (fun c => (hexDigit? c).filter (· < base)) cs with
  | (ds, []) => some (ds.foldl (fun n d => base * n + d) 0)
  | (_, _ :: _) => none

/-- The number that a part of an address is. -/
def number? : List Char → Option Nat
  | [] => none
  | '0' :: 'x' :: cs => wholeNumber? 16 cs
  | '0' :: c :: cs => wholeNumber? 8 (c :: cs)
  | cs => wholeNumber? 10 cs

/-- The address that a word of 32 bits is. -/
def ofWord (n : Nat) : Ipv4 := ⟨n / 0x1000000, n / 0x10000 % 0x100, n / 0x100 % 0x100, n % 0x100⟩

/-- The address that some numbers are: the last one fills the bytes that the others leave. -/
def ofNumbers? : List Nat → Option Ipv4
  | [n] => if n < 0x100000000 then some (ofWord n) else none
  | [a, n] => if a < 0x100 ∧ n < 0x1000000 then some (ofWord (0x1000000 * a + n)) else none
  | [a, b, n] =>
    if a < 0x100 ∧ b < 0x100 ∧ n < 0x10000 then some (ofWord (0x1000000 * a + 0x10000 * b + n))
    else none
  | [a, b, c, d] =>
    if a < 0x100 ∧ b < 0x100 ∧ c < 0x100 ∧ d < 0x100 then some ⟨a, b, c, d⟩ else none
  | _ => none

/-- The parts of a name between its dots; a dot at its end does not count. -/
def partsOf (cs : List Char) : List (List Char) :=
  let parts := splitOn (· == '.') cs
  if 1 < parts.length ∧ parts.getLast? = some [] then parts.dropLast else parts

/-- The address that the parts of a name are. -/
def ofParts? (parts : List (List Char)) : Option Ipv4 := (parts.mapM number?).bind ofNumbers?

/-- Whether a name can only be an address: its last part is a number, or digits at least. -/
def endsInNumber (parts : List (List Char)) : Bool :=
  parts.getLast?.any fun part => (!part.isEmpty && part.all isDigit) || (number? part).isSome

end Ipv4

/-! ### Hosts -/

/-- Where something is. -/
inductive Host where
  /-- A name, or no host if it is empty. -/
  | name (text : String)
  | v4 (address : Ipv4)
  | v6 (address : Ipv6)
  deriving DecidableEq

/-- Why a text is no host. -/
inductive HostFault where
  | empty
  | domain
  | addressV4
  | addressV6
  | character
  deriving DecidableEq

namespace HostFault

/-- The fault in words. -/
def message : HostFault → String
  | empty => "empty host"
  | domain => "invalid international domain name"
  | addressV4 => "invalid IPv4 address"
  | addressV6 => "invalid IPv6 address"
  | character => "invalid domain character"

end HostFault

namespace Host

/-- The host that a name without brackets is, where names are domains. -/
def ofDomain (cs : List Char) : Except HostFault Host :=
  match (Percent.decode? (String.ofList cs)).bind fun s => Domain.ofText? s.toList with
  | none => .error .domain
  | some [] => .error .empty
  | some written =>
    let parts := Ipv4.partsOf written
    if Ipv4.endsInNumber parts then
      match Ipv4.ofParts? parts with
      | some x => .ok (.v4 x)
      | none => .error .addressV4
    else .ok (.name (String.ofList written))

/-- The characters that no name has where names are any text. -/
def nameMarks : List Char :=
  ['\x00', '\t', '\n', '\r', ' ', '#', '/', ':', '<', '>', '?', '@', '[', '\\', ']', '^', '|']

/-- The host that a text without brackets is, where names are any text. -/
def ofName (cs : List Char) : Except HostFault Host :=
  if cs.any nameMarks.contains then .error .character
  else .ok (.name (String.ofList (Percent.encode Percent.isVisible cs)))

/-- The host that a text is, where names are domains or any text. -/
def parse (isDomain : Bool) (cs : List Char) : Except HostFault Host :=
  match cs with
  | '[' :: rest =>
    match Ipv6.read? rest with
    | some (x, [']']) => .ok (.v6 x)
    | _ => .error .addressV6
  | _ => if isDomain then ofDomain cs else ofName cs

/-- The written form of a host. -/
def text : Host → String
  | name s => s
  | v4 x => String.ofList x.text
  | v6 x => String.ofList ('[' :: x.groupForm ++ [']'])

end Host

end RunWatch
