import RunWatch.Number.Numeral

/-!
# Tokens of JSON

`Token.scan` cuts a text into tokens with a machine that takes one character at a time. What is no
token ends the list with `stray`. A string with the escape of half a surrogate pair is a token
without a text: it has its extent, but no text can be read from it.
A number with a zero in front of another digit is no token.
-/

namespace RunWatch.Json

open Text

/-- A token of JSON. A number is `plain` when it is written with neither point nor power of ten. -/
inductive Token where
  | beginArray
  | endArray
  | beginObject
  | endObject
  | comma
  | colon
  | null
  | bool (b : Bool)
  | number (n : Numeral) (plain : Bool)
  | text (t : Option String)
  | stray
  deriving DecidableEq

namespace Token

/-- How far a number has come. -/
inductive NumberPhase where
  | sign
  | zero
  | whole
  | point
  | fraction
  | mark
  | markSign
  | power
  deriving DecidableEq

/-- A number of which some characters were read, the digits last first. -/
structure NumberScan where
  phase : NumberPhase
  negative : Bool
  whole : List Nat
  fraction : List Nat
  powerNegative : Bool
  power : List Nat

/-- The token of a number that may end here. -/
def NumberScan.token? (s : NumberScan) : Option Token :=
  match s.phase with
  | .zero | .whole | .fraction | .power =>
    let p := ofDigits s.power.reverse
    let n : Numeral :=
      { negative := s.negative
        whole := s.whole.reverse
        fraction := s.fraction.reverse
        exponent := if s.powerNegative then -(p : Int) else p }
    some (.number n (s.phase = .zero || s.phase = .whole))
  | _ => none

/-- The number with one more character, if the character continues it. -/
def NumberScan.push (s : NumberScan) (c : Char) : Option NumberScan :=
  match s.phase, digit? c with
  | .sign, some d => some { s with phase := if d = 0 then .zero else .whole, whole := [d] }
  | .whole, some d => some { s with whole := d :: s.whole }
  | .point, some d => some { s with phase := .fraction, fraction := [d] }
  | .fraction, some d => some { s with fraction := d :: s.fraction }
  | .mark, some d => some { s with phase := .power, power := [d] }
  | .markSign, some d => some { s with phase := .power, power := [d] }
  | .power, some d => some { s with power := d :: s.power }
  | .zero, none | .whole, none =>
    if c = '.' then some { s with phase := .point }
    else if c = 'e' ∨ c = 'E' then some { s with phase := .mark } else none
  | .fraction, none => if c = 'e' ∨ c = 'E' then some { s with phase := .mark } else none
  | .mark, none =>
    if c = '+' then some { s with phase := .markSign }
    else if c = '-' then some { s with phase := .markSign, powerNegative := true } else none
  | _, _ => none

/-- Where in a string the machine stands. -/
inductive TextPhase where
  | plain
  | escape
  | hex (left : Nat) (unit : Nat)

/-- A string of which some characters were read, last first. `high` is the first half of a surrogate
pair that waits for the second, and `torn` says that a half without its other half was met. -/
structure TextScan where
  phase : TextPhase
  chars : List Char
  high : Option Nat
  torn : Bool

/-- The string with one more character. A half of a pair that still waits is torn off. -/
def TextScan.push (s : TextScan) (c : Char) : TextScan :=
  { phase := .plain, chars := c :: s.chars, high := none, torn := s.torn || s.high.isSome }

/-- The string with one more 16-bit unit. -/
def TextScan.pushUnit (s : TextScan) (unit : Nat) : TextScan :=
  if 0xD800 ≤ unit ∧ unit < 0xDC00 then
    { s with phase := .plain, high := some unit, torn := s.torn || s.high.isSome }
  else if 0xDC00 ≤ unit ∧ unit < 0xE000 then
    match s.high with
    | some high =>
      { s with
        phase := .plain
        chars := Char.ofNat (0x10000 + (high - 0xD800) * 0x400 + (unit - 0xDC00)) :: s.chars
        high := none }
    | none => { s with phase := .plain, torn := true }
  else s.push (Char.ofNat unit)

/-- The token of a string that ends here. -/
def TextScan.token (s : TextScan) : Token :=
  .text (if s.torn || s.high.isSome then none else some (String.ofList s.chars.reverse))

/-- The character that a letter behind a backslash stands for. -/
def unescape? (c : Char) : Option Char :=
  if c = '"' ∨ c = '\\' ∨ c = '/' then some c
  else if c = 'b' then some (Char.ofNat 8)
  else if c = 'f' then some (Char.ofNat 12)
  else if c = 'n' then some '\n'
  else if c = 'r' then some '\r'
  else if c = 't' then some '\t'
  else none

/-- What the machine is in the middle of. -/
inductive Mode where
  | between
  | word (left : List Char) (token : Token)
  | number (s : NumberScan)
  | text (s : TextScan)
  | stopped

/-- The machine: the tokens so far, last first, and what it is in the middle of. -/
structure Scanner where
  tokens : List Token
  mode : Mode

/-- Stops at something that is no token. -/
def Scanner.stop (s : Scanner) : Scanner := ⟨.stray :: s.tokens, .stopped⟩

/-- Adds a token. -/
def Scanner.add (s : Scanner) (t : Token) : Scanner := ⟨t :: s.tokens, .between⟩

/-- The machine after a character between tokens. -/
def Scanner.start (s : Scanner) (c : Char) : Scanner :=
  let number (phase : NumberPhase) (negative : Bool) (whole : List Nat) : Scanner :=
    { s with mode := .number ⟨phase, negative, whole, [], false, []⟩ }
  if c = ' ' ∨ c = '\n' ∨ c = '\t' ∨ c = '\r' then { s with mode := .between }
  else if c = '[' then s.add .beginArray
  else if c = ']' then s.add .endArray
  else if c = '\x7b' then s.add .beginObject
  else if c = '\x7d' then s.add .endObject
  else if c = ',' then s.add .comma
  else if c = ':' then s.add .colon
  else if c = 'n' then { s with mode := .word ['u', 'l', 'l'] .null }
  else if c = 't' then { s with mode := .word ['r', 'u', 'e'] (.bool true) }
  else if c = 'f' then { s with mode := .word ['a', 'l', 's', 'e'] (.bool false) }
  else if c = '"' then { s with mode := .text ⟨.plain, [], none, false⟩ }
  else if c = '-' then number .sign true []
  else match digit? c with
    | some 0 => number .zero false [0]
    | some d => number .whole false [d]
    | none => s.stop

/-- The machine after a character inside a string. -/
def Scanner.inText (s : Scanner) (t : TextScan) (c : Char) : Scanner :=
  match t.phase with
  | .plain =>
    if c = '"' then s.add t.token
    else if c = '\\' then { s with mode := .text { t with phase := .escape } }
    else if c.toNat < 0x20 then s.stop
    else { s with mode := .text (t.push c) }
  | .escape =>
    if c = 'u' then { s with mode := .text { t with phase := .hex 3 0 } }
    else match unescape? c with
      | some d => { s with mode := .text (t.push d) }
      | none => s.stop
  | .hex left unit =>
    match hexDigit? c with
    | none => s.stop
    | some h =>
      match left with
      | 0 => { s with mode := .text (t.pushUnit (16 * unit + h)) }
      | left + 1 => { s with mode := .text { t with phase := .hex left (16 * unit + h) } }

/-- The machine after one more character. -/
def Scanner.step (s : Scanner) (c : Char) : Scanner :=
  match s.mode with
  | .stopped => s
  | .between => s.start c
  | .word [] t => (s.add t).start c
  | .word (d :: left) t =>
    if c = d then (if left.isEmpty then s.add t else { s with mode := .word left t }) else s.stop
  | .text t => s.inText t c
  | .number n =>
    match n.push c with
    | some n' => { s with mode := .number n' }
    | none =>
      if n.phase = .zero ∧ (digit? c).isSome then s.stop else
      match n.token? with
      | some t => (s.add t).start c
      | none => s.stop

/-- All tokens once the text has ended. -/
def Scanner.finish (s : Scanner) : List Token :=
  match s.mode with
  | .stopped | .between => s.tokens.reverse
  | .number n => ((n.token?.getD .stray) :: s.tokens).reverse
  | _ => s.stop.tokens.reverse

/-- The tokens of a text. -/
def scan (cs : List Char) : List Token := (cs.foldl Scanner.step ⟨[], .between⟩).finish

end Token

end RunWatch.Json
