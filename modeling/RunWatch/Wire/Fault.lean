import RunWatch.Json.Printer
import RunWatch.Text.Literal

/-!
# Faults of decoding

Why a JSON value is not the form of what it is meant to be: a value of the wrong kind, one outside
the allowed values, a list of the wrong length, a missing or repeated field, or an unknown name.
`Fault.message` holds the wording.
-/

namespace RunWatch.Wire

/-- What was found in place of something else. -/
inductive Found where
  | boolean (b : Bool)
  | integer (n : Int)
  | float (x : Binary64)
  | text (s : String)
  | null
  | sequence
  | map
  deriving DecidableEq

/-- What was expected in a place. -/
inductive Expected where
  | text
  | boolean
  | sequence
  | map
  | float
  | count
  | size
  | nothing
  | variantName
  | textOrMap
  | singleKeyMap
  | record (name : String)
  | tagged (name : String)
  | variant (type name : String) (fields : Nat)
  | fewerItems
  | items (n : Nat)
  deriving DecidableEq

/-- Why a value cannot be decoded. -/
inductive Fault where
  | wrongType (found : Found) (expected : Expected)
  | wrongValue (found : Found) (expected : Expected)
  | wrongLength (length : Nat) (expected : Expected)
  | missingField (name : String)
  | repeatedField (name : String)
  | unknownVariant (name : String) (known : List String)
  deriving DecidableEq

/-- What a value is, for a message. -/
def Found.ofJson : Json → Found
  | .null => .null
  | .bool b => .boolean b
  | .number (.integer n) => .integer n.value
  | .number (.float x) => .float x
  | .string s => .text s
  | .array _ => .sequence
  | .object _ => .map

/-- What was found, in words. -/
def Found.message : Found → String
  | .boolean b => "boolean `" ++ (if b then "true" else "false") ++ "`"
  | .integer n => "integer `" ++ (Json.ofInt n).compact ++ "`"
  | .float x => "floating point `" ++ (Json.ofBinary64 x).compact ++ "`"
  | .text s => "string " ++ Text.literal s
  | .null => "null"
  | .sequence => "sequence"
  | .map => "map"

/-- A number of things, in words. -/
def countOf (n : Nat) (noun : String) : String :=
  String.ofList (Text.digitsOf n) ++ " " ++ noun ++ (if n = 1 then "" else "s")

/-- What was expected, in words. -/
def Expected.message : Expected → String
  | .text => "a string"
  | .boolean => "a boolean"
  | .sequence => "a sequence"
  | .map => "a map"
  | .float => "f64"
  | .count => "u64"
  | .size => "usize"
  | .nothing => "unit"
  | .variantName => "variant identifier"
  | .textOrMap => "string or map"
  | .singleKeyMap => "map with a single key"
  | .record name => "struct " ++ name
  | .tagged name => "internally tagged enum " ++ name
  | .variant type name fields =>
    "struct variant " ++ type ++ "::" ++ name ++ " with " ++ countOf fields "element"
  | .fewerItems => "fewer elements in array"
  | .items n => countOf n "element" ++ " in sequence"

/-- A list of names, each between backquotes. -/
def quotedNames (names : List String) : String :=
  String.intercalate ", " (names.map fun n => "`" ++ n ++ "`")

/-- A fault in words. -/
def Fault.message : Fault → String
  | .wrongType found expected =>
    "invalid type: " ++ found.message ++ ", expected " ++ expected.message
  | .wrongValue found expected =>
    "invalid value: " ++ found.message ++ ", expected " ++ expected.message
  | .wrongLength length expected =>
    "invalid length " ++ String.ofList (Text.digitsOf length) ++ ", expected " ++ expected.message
  | .missingField name => "missing field `" ++ name ++ "`"
  | .repeatedField name => "duplicate field `" ++ name ++ "`"
  | .unknownVariant name known =>
    "unknown variant `" ++ name ++ "`, expected one of " ++ quotedNames known

end RunWatch.Wire
