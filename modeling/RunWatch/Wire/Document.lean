import RunWatch.Json.Draft
import RunWatch.Wire.Control

/-!
# Documents read in order

A document that is read as it comes in has the fault that is met first: of grammar (`malformed`), or
of shape (`misshapen`). A value of the wrong kind is a fault of shape as soon as it begins, whatever
follows; what no field names only has to be grammatical, and may be nested to any depth; and more
text after the value is a fault of grammar, unless the value has a fault itself.

* `Document.record` reads a record with given fields, as an object or as an array of the fields.
* `Document.message` reads a control message.
-/

namespace RunWatch

open Json Wire

/-- What is wrong with a document. -/
inductive DocumentFault where
  | malformed
  | misshapen
  deriving DecidableEq

namespace Json.Draft

/-- How many containers the value of a field may nest: the record is one itself. -/
def fieldRoom : Nat := depthLimit - 1

/-- The fault of a draft that is of the wrong kind. -/
def unlike : Draft → DocumentFault
  | broken | number none | text none => .malformed
  | _ => .misshapen

/-- The fault of a list of drafts, each with a fault of its own, in a container. -/
def containerFault? (faults : List (Option DocumentFault)) (closed : Bool) : Option DocumentFault :=
  (faults.findSome? id).or (if closed then none else some .malformed)

/-- The fault of a draft where any value may stand that nests at most `room` containers. -/
def valueFault? (room : Nat) (d : Draft) : Option DocumentFault :=
  if (d.toJson? room).isSome then none else some .malformed

/-- The fault of a draft where a text is wanted. -/
def textFault? : Draft → Option DocumentFault
  | text (some _) => none
  | d => some d.unlike

/-- The fault of a draft against a kind. -/
def kindFault? : Kind → Draft → Option DocumentFault
  | .anything, d => d.valueFault? fieldRoom
  | .text, d => d.textFault?
  | .flag, bool _ => none
  | .texts, array items closed => containerFault? (items.map textFault?) closed
  | .anythings, array items closed =>
    containerFault? (items.map (valueFault? (fieldRoom - 1))) closed
  | .textTable, object members closed =>
    containerFault? (members.map fun m => if m.1.isNone then some .malformed else m.2.textFault?)
      closed
  | .float, number (some _) => none
  | .count, number (some n) => if n.toCount?.isSome then none else some .misshapen
  | .size, number (some n) => if n.toCount?.isSome then none else some .misshapen
  | _, d => some d.unlike

/-- The fault of a draft in a field. -/
def fieldFault? (f : Field) (d : Draft) : Option DocumentFault :=
  match f.nullable, d with
  | true, null => none
  | _, _ => kindFault? f.kind d

end Json.Draft

namespace Document

/-! ### Records -/

/-- The first fault among the members of an object, `seen` being the fields met before. -/
def memberFault? (fields : List Field) (seen : List String) :
    List (Option String × Draft) → Option DocumentFault
  | [] => none
  | (none, _) :: _ => some .malformed
  | (some key, d) :: rest =>
    match Shape.field? fields key with
    | none => if d.isGrammatical then memberFault? fields seen rest else some .malformed
    | some f =>
      if seen.contains f.name then some .misshapen
      else match Draft.fieldFault? f d with
        | some fault => some fault
        | none => memberFault? fields (f.name :: seen) rest

/-- Whether some members lack a required field. -/
def lacksField (fields : List Field) (names : List String) : Bool :=
  fields.any fun f => f.required && !(names.any f.isNamed)

/-- The members of an object that fields name. -/
def knownMembers (fields : List Field) (members : List (Option String × Draft)) : Members :=
  members.filterMap fun m => do
    let key ← m.1
    let _ ← Shape.field? fields key
    let v ← m.2.toJson? Draft.fieldRoom
    return (key, v)

/-- Reads an object as a record. -/
def ofObject (fields : List Field) (members : List (Option String × Draft)) (closed : Bool) :
    Except DocumentFault Members :=
  match memberFault? fields [] members with
  | some fault => .error fault
  | none =>
    if !closed then .error .malformed
    else if lacksField fields (members.filterMap Prod.fst) then .error .misshapen
    else .ok (knownMembers fields members)

/-- Reads an array as a record: the fields in order, of which the last may be missing. -/
def ofArray (fields : List Field) (items : List Draft) (closed : Bool) :
    Except DocumentFault Members :=
  match (fields.zip items).findSome? fun p => Draft.fieldFault? p.1 p.2 with
  | some fault => .error fault
  | none =>
    let names := (fields.map Field.name).take items.length
    if !closed then .error .malformed
    else if lacksField fields names then .error .misshapen
    else if fields.length < items.length then .error .malformed
    else
      .ok ((names.zip items).filterMap fun p =>
        (p.2.toJson? Draft.fieldRoom).map fun v => (p.1, v))

/-- Reads a draft as a record. -/
def ofDraft (fields : List Field) : Draft → Except DocumentFault Members
  | .object members closed => ofObject fields members closed
  | .array items closed => ofArray fields items closed
  | d => .error d.unlike

/-- Reads a whole text, with nothing after the value. -/
def read {α : Type} (ofDraft : Draft → Except DocumentFault α) (s : String) :
    Except DocumentFault α := do
  let (d, excess) := Draft.parse s.toList
  let a ← ofDraft d
  if excess then .error .malformed else .ok a

/-- Reads a record with given fields. -/
def record (fields : List Field) (s : String) : Except DocumentFault Members :=
  read (ofDraft fields) s

/-! ### Control messages -/

/-- The type that a draft names. -/
def typeOf : Draft → Except DocumentFault String
  | .text (some s) => if ControlMessage.typeNames.contains s then .ok s else .error .misshapen
  | d => .error d.unlike

/-- Reads the members of a message: its type, and the others in order. -/
def messageMembers (name : Option String) :
    List (Option String × Draft) → Except DocumentFault (Option String × List (String × Draft))
  | [] => .ok (name, [])
  | (none, _) :: _ => .error .malformed
  | (some "type", d) :: rest =>
    if name.isSome then .error .misshapen
    else do messageMembers (some (← typeOf d)) rest
  | (some key, d) :: rest =>
    match d.valueFault? Draft.fieldRoom with
    | some fault => .error fault
    | none => do
      let (name, ms) ← messageMembers name rest
      return (name, (key, d) :: ms)

/-- The fields of a message of a type. -/
def messageFields : String → List String
  | "run" => ["input_data"]
  | "resume" => ["response"]
  | _ => ["action", "run_id"]

/-- Whether a field of a message stands among its members twice. -/
def repeatsField (name : String) (ms : List (String × Draft)) : Bool :=
  (messageFields name).any fun field => decide (1 < (ms.filter fun m => m.1 == field).length)

/-- Whether a draft is an object with more than one member, the keys being the same or not. -/
def hasSeveralMembers : Draft → Bool
  | .object members _ => decide (1 < members.length)
  | _ => false

/-- Whether the action of a message is an object with more than one member. -/
def spoilsAction (name : String) (ms : List (String × Draft)) : Bool :=
  name == "control" && ms.any fun m => m.1 == "action" && hasSeveralMembers m.2

/-- A message, or a fault of shape. -/
def shaped : Except Fault ControlMessage → Except DocumentFault ControlMessage
  | .ok message => .ok message
  | .error _ => .error .misshapen

/-- Reads a draft as a control message. -/
def messageOf : Draft → Except DocumentFault ControlMessage
  | .object members closed => do
    let (name, ms) ← messageMembers none members
    match closed, name with
    | false, _ => .error .malformed
    | true, none => .error .misshapen
    | true, some name =>
      if repeatsField name ms || spoilsAction name ms then .error .misshapen
      else shaped (ControlMessage.decodeMembers
        (ms.filterMap fun m => (m.2.toJson? Draft.fieldRoom).map fun v => (m.1, v)) name)
  | .array [] closed => .error (if closed then .misshapen else .malformed)
  | .array (d :: items) closed => do
    let name ← typeOf d
    match closed, Draft.itemsToJson? Draft.fieldRoom items with
    | true, some values =>
      if name == "control" && items.head?.any hasSeveralMembers then .error .misshapen
      else shaped (ControlMessage.decodeItems values name)
    | _, _ => .error .malformed
  | d => .error d.unlike

/-- Reads a control message. -/
def message (s : String) : Except DocumentFault ControlMessage := read messageOf s

end Document

end RunWatch
