import RunWatch.Json.Basic
import RunWatch.Json.Token

/-!
# Documents as written

A `Draft` is what stands in a text that is meant to be JSON: members in the order of writing, with
repetitions, and everything up to the place where the text stops being JSON. There stands a
`broken` value, or a container that is not `closed`. So a reader that goes through a draft in order
meets the first fault of the text first, whether it is one of grammar or one of shape.

* `Draft.parse` builds the draft of a text, however deep its containers are nested.
* `Draft.toJson?` is the value of a draft without faults that nests no more containers than there is
  room for; `Json.parse?` is that of a whole text.
-/

namespace RunWatch.Json

/-- A document as written. A number without a value is beyond every finite one, and a string without
a text holds half a surrogate pair. -/
inductive Draft where
  | null
  | bool (b : Bool)
  | number (n : Option Number)
  | text (t : Option String)
  | array (items : List Draft) (closed : Bool)
  | object (members : List (Option String × Draft)) (closed : Bool)
  | broken

namespace Draft

/-- The value of a numeral: an integer if it is written as one that fits 64 bits and is not minus
zero, and a floating-point number otherwise. -/
def numberOf (plain : Bool) (n : Numeral) : Option Number :=
  let magnitude : Int := n.digits
  let value := if n.negative then -magnitude else magnitude
  match plain && !(n.negative && magnitude == 0), WideInt.ofInt? value with
  | true, some w => some (.integer w)
  | _, _ => n.scaled.map .float

/-- An open container with what it holds so far, last first; an object may have a key that waits for
its value. -/
inductive Frame where
  | array (items : List Draft)
  | object (members : List (Option String × Draft)) (key : Option (Option String))

/-- What may come next. -/
inductive Expect where
  | value
  | firstItem
  | afterItem
  | firstKey
  | key
  | colon
  | afterMember
  | done

/-- A draft in the making. `result` is the whole draft once it stands, and `excess` says that more
followed it. -/
structure Builder where
  frames : List Frame
  expect : Expect
  result : Option Draft
  excess : Bool

/-- Puts a finished value where it belongs. -/
def Builder.place (b : Builder) (d : Draft) : Builder :=
  match b.frames with
  | [] => { b with expect := .done, result := some d }
  | .array items :: rest => { b with frames := .array (d :: items) :: rest, expect := .afterItem }
  | .object members key :: rest =>
    { b with
      frames := .object ((key.getD none, d) :: members) none :: rest
      expect := .afterMember }

/-- The whole draft when nothing more can follow: every open container stays open. -/
def abandon (inner : Option Draft) : List Frame → Draft
  | [] => inner.getD .broken
  | .array items :: rest => abandon (some (.array (items.reverse ++ inner.toList) false)) rest
  | .object members key :: rest =>
    let last := match key, inner with
      | some k, some d => [(k, d)]
      | _, _ => []
    abandon (some (.object (members.reverse ++ last) false)) rest

/-- Stops at a token that cannot come next. -/
def Builder.stop (b : Builder) : Builder :=
  let inner := match b.expect with
    | .value | .firstItem => some Draft.broken
    | .colon => some Draft.broken
    | _ => none
  { frames := [], expect := .done, result := some (abandon inner b.frames), excess := true }

/-- Opens a container. -/
def Builder.openFrame (b : Builder) (f : Frame) (e : Expect) : Builder :=
  { b with frames := f :: b.frames, expect := e }

/-- Closes the innermost container. -/
def Builder.close (b : Builder) : Builder :=
  match b.frames with
  | .array items :: rest => { b with frames := rest }.place (.array items.reverse true)
  | .object members _ :: rest => { b with frames := rest }.place (.object members.reverse true)
  | [] => b.stop

/-- Takes a token where a value is wanted. -/
def Builder.value (b : Builder) : Token → Builder
  | .beginArray => b.openFrame (.array []) .firstItem
  | .beginObject => b.openFrame (.object [] none) .firstKey
  | .null => b.place .null
  | .bool t => b.place (.bool t)
  | .number n plain => b.place (.number (numberOf plain n))
  | .text t => b.place (.text t)
  | _ => b.stop

/-- Takes a token where a key is wanted. -/
def Builder.key (b : Builder) (t : Token) : Builder :=
  match t, b.frames with
  | .text k, .object members _ :: rest =>
    { b with frames := .object members (some k) :: rest, expect := .colon }
  | _, _ => b.stop

/-- The builder after one more token. -/
def Builder.step (b : Builder) (t : Token) : Builder :=
  match b.expect, t with
  | .done, _ => { b with excess := true }
  | .firstItem, .endArray => b.close
  | .afterItem, .endArray => b.close
  | .afterItem, .comma => { b with expect := .value }
  | .firstKey, .endObject => b.close
  | .afterMember, .endObject => b.close
  | .afterMember, .comma => { b with expect := .key }
  | .colon, .colon => { b with expect := .value }
  | .value, t => b.value t
  | .firstItem, t => b.value t
  | .firstKey, t => b.key t
  | .key, t => b.key t
  | _, _ => b.stop

/-- The draft of a text, and whether more follows it or it has faults of grammar. -/
def parse (cs : List Char) : Draft × Bool :=
  let b := (Token.scan cs).foldl Builder.step ⟨[], .value, none, false⟩
  match b.result with
  | some d => (d, b.excess)
  | none => (b.stop.result.getD .broken, true)

/-- Whether a draft of a text is grammatical, whatever its numbers and strings stand for: a text
stops being JSON only where a container stays open. -/
def isGrammatical : Draft → Bool
  | broken => false
  | array _ closed | object _ closed => closed
  | _ => true

mutual

/-- The value of a draft without faults that nests at most `room` containers. -/
def toJson? (room : Nat) : Draft → Option Json
  | null => some .null
  | bool b => some (.bool b)
  | number n => n.map .number
  | text t => t.map .string
  | array items closed =>
    if closed && room != 0 then (itemsToJson? (room - 1) items).map .array else none
  | object members closed =>
    if closed && room != 0 then (membersToJson? (room - 1) members).map ofMembers else none
  | broken => none

/-- The values of a list of drafts, each of which has one. -/
def itemsToJson? (room : Nat) : List Draft → Option (List Json)
  | [] => some []
  | d :: ds => do
    let v ← toJson? room d
    let vs ← itemsToJson? room ds
    return v :: vs

/-- The members of a list of drafts, each of which has a value. -/
def membersToJson? (room : Nat) : List (Option String × Draft) → Option (List (String × Json))
  | [] => some []
  | (k, d) :: ds => do
    let key ← k
    let v ← toJson? room d
    let vs ← membersToJson? room ds
    return (key, v) :: vs

end

/-- The most containers that a text nests. -/
def depthLimit : Nat := 127

end Draft

/-- The value of a text that is JSON and nothing more. -/
def parse? (s : String) : Option Json :=
  match Draft.parse s.toList with
  | (d, false) => d.toJson? Draft.depthLimit
  | (_, true) => none

end RunWatch.Json
