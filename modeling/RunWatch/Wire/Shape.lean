import RunWatch.Wire.Fault

/-!
# Shapes of records

A record is an object with named fields, or an array of its fields in order. A `Field` says what may
stand under a name; `Shape.fault?` is the first fault of a list of members against a list of fields,
in the order of the members. What no field names is ignored.

The readers `text`, `text?`, ... take the value of a field out of members without a fault. A field
that is missing and one that is `null` read the same.
-/

namespace RunWatch.Wire

/-- What may stand in a field. -/
inductive Kind where
  /-- Any value. -/
  | anything
  | text
  | flag
  | texts
  /-- A list of any values. -/
  | anythings
  /-- An object with texts under its keys. -/
  | textTable
  | float
  | count
  | size
  deriving DecidableEq

/-- A field of a record. A nullable field may be `null`, and a required one may not be missing. -/
structure Field where
  name : String
  kind : Kind
  nullable : Bool
  required : Bool
  otherNames : List String

/-- A field that may be missing or `null`. -/
def Field.optional (name : String) (kind : Kind) : Field := ⟨name, kind, true, false, []⟩

/-- A field that may be missing, but not `null`. -/
def Field.defaulted (name : String) (kind : Kind) : Field := ⟨name, kind, false, false, []⟩

/-- A field that must be there. -/
def Field.needed (name : String) (kind : Kind) : Field := ⟨name, kind, false, true, []⟩

/-- Whether a key is a name of the field. -/
def Field.isNamed (f : Field) (key : String) : Bool := f.name == key || f.otherNames.contains key

/-- The fault of a value of the wrong kind. -/
def unlike (v : Json) (expected : Expected) : Fault := .wrongType (.ofJson v) expected

/-- The fault of a value where a natural number is wanted. -/
def natFault? (v : Json) (expected : Expected) : Option Fault :=
  match v with
  | .number (.integer n) =>
    if n.value < 0 then some (.wrongValue (.integer n.value) expected) else none
  | _ => some (unlike v expected)

/-- The fault of a value where a text is wanted. -/
def textFault? : Json → Option Fault
  | .string _ => none
  | v => some (unlike v .text)

/-- The fault of a value against a kind. -/
def Kind.fault? : Kind → Json → Option Fault
  | .anything, _ => none
  | .text, v => textFault? v
  | .flag, .bool _ => none
  | .flag, v => some (unlike v .boolean)
  | .texts, .array items => items.findSome? textFault?
  | .texts, v => some (unlike v .sequence)
  | .anythings, .array _ => none
  | .anythings, v => some (unlike v .sequence)
  | .textTable, .object ms => ms.findSome? fun m => textFault? m.2
  | .textTable, v => some (unlike v .map)
  | .float, .number _ => none
  | .float, v => some (unlike v .float)
  | .count, v => natFault? v .count
  | .size, v => natFault? v .size

/-- The fault of a value in a field. -/
def Field.fault? (f : Field) (v : Json) : Option Fault :=
  if f.nullable && v.isNull then none else f.kind.fault? v

namespace Shape

/-- The field that a key names. -/
def field? (fields : List Field) (key : String) : Option Field :=
  fields.find? fun f => f.isNamed key

/-- The first fault among the members, `seen` being the fields met before. -/
def memberFault? (fields : List Field) (seen : List String) :
    List (String × Json) → Option Fault
  | [] => none
  | (key, v) :: rest =>
    match field? fields key with
    | none => memberFault? fields seen rest
    | some f =>
      if seen.contains f.name then some (.repeatedField f.name)
      else match f.fault? v with
        | some fault => some fault
        | none => memberFault? fields (f.name :: seen) rest

/-- The first required field that no member has. -/
def missing? (fields : List Field) (members : List (String × Json)) : Option Fault :=
  (fields.find? fun f => f.required && !(members.any fun m => f.isNamed m.1)).map
    fun f => .missingField f.name

/-- The first fault of members against fields: of a member, or else a missing field. -/
def fault? (fields : List Field) (members : List (String × Json)) : Option Fault :=
  (memberFault? fields [] members).or (missing? fields members)

/-- The members of a record, under the names of its fields: an object, or an array of the fields in
order, which may end early. -/
def members (name : String) (fields : List Field) (v : Json) :
    Except Fault (List (String × Json)) :=
  match v with
  | .object ms =>
    match fault? fields ms with
    | some fault => .error fault
    | none => .ok ms
  | .array items =>
    let ms := (fields.map Field.name).zip items
    match fault? fields ms with
    | some fault => .error fault
    | none =>
      if fields.length < items.length then .error (.wrongLength items.length .fewerItems)
      else .ok ms
  | _ => .error (unlike v (.record name))

end Shape

/-! ### Reading fields -/

/-- Members of a record, to read fields from. -/
abbrev Members := List (String × Json)

namespace Members

/-- The value of the first of some names, unless it is `null`. -/
def value? (ms : Members) (name : String) : Option Json :=
  (Json.member? name ms).filter fun v => !v.isNull

/-- A text that may be missing. -/
def text? (ms : Members) (name : String) : Option String := (ms.value? name).bind Json.toText?

/-- A text, empty when it is missing. -/
def text (ms : Members) (name : String) : String := (ms.text? name).getD ""

/-- A flag, false when it is missing. -/
def flag (ms : Members) (name : String) : Bool :=
  ((ms.value? name).bind Json.toBool?).getD false

/-- A list, empty when it is missing. -/
def items (ms : Members) (name : String) : List Json :=
  ((ms.value? name).bind Json.toItems?).getD []

/-- A list of texts that may be missing. -/
def texts? (ms : Members) (name : String) : Option (List String) :=
  ((ms.value? name).bind Json.toItems?).map fun vs => vs.filterMap Json.toText?

/-- A list of texts, empty when it is missing. -/
def texts (ms : Members) (name : String) : List String := (ms.texts? name).getD []

/-- A natural number that may be missing. -/
def count? (ms : Members) (name : String) : Option Nat := (ms.value? name).bind Json.toCount?

/-- A floating-point number that may be missing. -/
def float? (ms : Members) (name : String) : Option Binary64 :=
  (ms.value? name).bind Json.toBinary64?

end Members

end RunWatch.Wire
