import RunWatch.Control
import RunWatch.Wire.Shape

/-!
# Control messages as JSON

A message is an object with its type under `type`, or an array of the type and the fields in order.
An action is a name, or an object with the name as its only key and nothing under it.
-/

namespace RunWatch

open Wire

namespace ControlAction

/-- The action with a name, or the fault that there is none. -/
def named (s : String) : Except Fault ControlAction :=
  match ofName? s with
  | some a => .ok a
  | none => .error (.unknownVariant s (all.map name))

/-- Reads an action. -/
def decode : Json → Except Fault ControlAction
  | .string s => named s
  | .object [(s, v)] => do
    let action ← named s
    match v with
    | .null | .object [] => return action
    | v => .error (unlike v .nothing)
  | .object _ => .error (.wrongValue .map .singleKeyMap)
  | v => .error (unlike v .textOrMap)

/-- An action as JSON. -/
def toJson (a : ControlAction) : Json := .string a.name

end ControlAction

namespace ControlMessage

/-- The types of messages. -/
def typeNames : List String := ["run", "resume", "control"]

/-- The type that a value names. -/
def typeOf : Json → Except Fault String
  | .string s => if typeNames.contains s then .ok s else .error (.unknownVariant s typeNames)
  | v => .error (unlike v .variantName)

/-- The value under a key, or `null`. -/
def valueOf (ms : Members) (key : String) : Json := (Json.member? key ms).getD .null

/-- Reads the members of a message that acts on a run, in the order in which they stand. -/
def decodeControl : Members → Option ControlAction → Option String → Except Fault ControlMessage
  | [], none, _ => .error (.missingField "action")
  | [], some _, none => .error (.missingField "run_id")
  | [], some action, some runId => .ok (.control action runId)
  | ("action", v) :: rest, _, runId => do
    let action ← ControlAction.decode v
    decodeControl rest (some action) runId
  | ("run_id", .string s) :: rest, action, _ => decodeControl rest action (some s)
  | ("run_id", v) :: _, _, _ => .error (unlike v .text)
  | _ :: rest, action, runId => decodeControl rest action runId

/-- Reads the members of a message of a type, the type among them or not. -/
def decodeMembers (ms : Members) : String → Except Fault ControlMessage
  | "run" => .ok (.run (valueOf ms "input_data"))
  | "resume" => .ok (.resume (valueOf ms "response"))
  | _ => decodeControl ms none none

/-- The message with one value as its only field, given as an array. -/
def decodeSingle (message : Json → ControlMessage) : List Json → Except Fault ControlMessage
  | [] => .ok (message .null)
  | [v] => .ok (message v)
  | items => .error (.wrongLength items.length (.items 1))

/-- Reads the fields of a message of a type, given as an array. -/
def decodeItems (items : List Json) : String → Except Fault ControlMessage
  | "run" => decodeSingle .run items
  | "resume" => decodeSingle .resume items
  | _ =>
    match items with
    | [] => .error (.wrongLength 0 (.variant "ControlMessage" "Control" 2))
    | a :: rest => do
      let action ← ControlAction.decode a
      match rest with
      | [] => .error (.wrongLength 1 (.variant "ControlMessage" "Control" 2))
      | .string s :: more =>
        if more.isEmpty then return .control action s
        else .error (.wrongLength items.length (.items 2))
      | v :: _ => .error (unlike v .text)

/-- Reads a message. -/
def decode : Json → Except Fault ControlMessage
  | .object ms =>
    match Json.member? "type" ms with
    | none => .error (.missingField "type")
    | some v => do
      let name ← typeOf v
      decodeMembers ms name
  | .array [] => .error (.missingField "type")
  | .array (v :: items) => do
    let name ← typeOf v
    decodeItems items name
  | v => .error (unlike v (.tagged "ControlMessage"))

/-- A message as JSON. -/
def toJson : ControlMessage → Json
  | run input => .ofMembers [("type", .string "run"), ("input_data", input)]
  | resume response => .ofMembers [("type", .string "resume"), ("response", response)]
  | control action runId =>
    .ofMembers [("type", .string "control"), ("action", action.toJson), ("run_id", .string runId)]

end ControlMessage

end RunWatch
