import RunWatch.Event
import RunWatch.Time.Timestamp
import RunWatch.Wire.Shape

/-!
# Events as JSON

An event is an object with its type under `type`. Every other field may be missing or `null`: a
missing identifier is empty, and a time that cannot be read is no time. A type that is not known
makes the unknown event.

* `Event.decode` reads an event, and `EventFault` says why it is none.
* `Event.toJson` writes it, leaving out what is missing.
* `decodeEvents` reads a batch and counts what it had to skip.
-/

namespace RunWatch

open Wire

/-- Why a value is no event. -/
inductive EventFault where
  | notAnObject
  | undecodable (reason : String)
  deriving DecidableEq

/-- The fault in words. -/
def EventFault.message : EventFault → String
  | .notAnObject => "event is not a JSON object"
  | .undecodable reason => "decode failed: " ++ reason

namespace Event

/-- The fields of an event of a given type. A time has no field here, since it is never a fault. -/
def fields : String → List Field
  | "flow_start" => [.optional "run_id" .text, .optional "parent_run_id" .text]
  | "flow_complete" => [.optional "run_id" .text]
  | "flow_cancelled" => [.optional "run_id" .text]
  | "node_start" =>
    [.optional "run_id" .text, .optional "node_id" .text, .optional "node_type" .text]
  | "node_complete" =>
    [.optional "run_id" .text, .optional "node_id" .text, .optional "node_type" .text]
  | "flow_waiting" =>
    [.optional "run_id" .text, .optional "node_id" .text, .optional "prompt" .text,
      .optional "choices" .texts, .optional "allow_free_text" .flag, .optional "wait_key" .text,
      .optional "reason" .text]
  | "flow_error" => [.optional "run_id" .text, .optional "node_id" .text]
  | "subworkflow_update" =>
    [.optional "run_id" .text, .optional "node_id" .text, .optional "sub_run_id" .text]
  | "trace_update" =>
    [.optional "run_id" .text, .optional "node_id" .text, .optional "parent_run_id" .text,
      .optional "steps" .anythings]
  | _ => []

/-- The time among the members of an event. -/
def timeOf (ms : Members) : Option Instant := (ms.value? "ts").bind Instant.ofJson?

/-- The event of a type with given members, which have no fault. -/
def ofMembers (ms : Members) : String → Event
  | "flow_start" => .flowStart (ms.text "run_id") (ms.text? "parent_run_id") (timeOf ms)
  | "flow_complete" => .flowComplete (ms.text "run_id") (ms.value? "meta") (timeOf ms)
  | "flow_cancelled" => .flowCancelled (ms.text "run_id") (timeOf ms)
  | "node_start" =>
    .nodeStart (ms.text "run_id") (ms.text "node_id") (ms.text? "node_type") (timeOf ms)
  | "node_complete" =>
    .nodeComplete (ms.text "run_id") (ms.text "node_id") (ms.text? "node_type")
      (ms.value? "result") (ms.value? "meta") (timeOf ms)
  | "flow_waiting" =>
    .flowWaiting (ms.text "run_id") (ms.text? "node_id")
      { prompt := ms.text? "prompt"
        choices := ms.texts "choices"
        allowFreeText := ms.flag "allow_free_text"
        waitKey := ms.text? "wait_key"
        reason := ms.text? "reason" } (timeOf ms)
  | "flow_error" =>
    .flowError (ms.text "run_id") (ms.text? "node_id") (ms.value? "error") (timeOf ms)
  | "subworkflow_update" =>
    .subworkflowUpdate (ms.text "run_id") (ms.text "node_id") (ms.text "sub_run_id")
  | "trace_update" =>
    .traceUpdate (ms.text "run_id") (ms.text "node_id") (ms.text? "parent_run_id")
      (ms.items "steps")
  | _ => .unknown

/-- The type that the members of an event name. -/
def typeOf (ms : Members) : Except Fault String :=
  match Json.member? "type" ms with
  | none => .error (.missingField "type")
  | some (.string name) => .ok name
  | some v => .error (unlike v .variantName)

/-- The members without the type. -/
def withoutType (ms : Members) : Members := ms.filter fun m => m.1 != "type"

/-- Reads the members of an event. -/
def decodeMembers (ms : Members) : Except Fault Event := do
  let name ← typeOf ms
  match Shape.fault? (fields name) (withoutType ms) with
  | some fault => .error fault
  | none => .ok (ofMembers (withoutType ms) name)

/-- Reads an event. -/
def decode : Json → Except EventFault Event
  | .object ms => (decodeMembers ms).mapError fun fault => .undecodable fault.message
  | _ => .error .notAnObject

/-! ### Writing -/

/-- A text field. -/
def textField (name s : String) : String × Option Json := (name, some (.string s))

/-- A text field that may be missing. -/
def textField? (name : String) (s : Option String) : String × Option Json := (name, s.map .string)

/-- The field of a time that may be missing. -/
def timeField? (ts : Option Instant) : String × Option Json :=
  ("ts", ts.map fun t => .string t.text)

/-- The fields of an event, those that are missing without a value. -/
def toFields : Event → List (String × Option Json)
  | flowStart runId parentRunId ts =>
    [textField "run_id" runId, textField? "parent_run_id" parentRunId, timeField? ts]
  | flowComplete runId details ts => [textField "run_id" runId, ("meta", details), timeField? ts]
  | flowCancelled runId ts => [textField "run_id" runId, timeField? ts]
  | nodeStart runId nodeId nodeType ts =>
    [textField "run_id" runId, textField "node_id" nodeId, textField? "node_type" nodeType,
      timeField? ts]
  | nodeComplete runId nodeId nodeType result details ts =>
    [textField "run_id" runId, textField "node_id" nodeId, textField? "node_type" nodeType,
      ("result", result), ("meta", details), timeField? ts]
  | flowWaiting runId nodeId waiting ts =>
    [textField "run_id" runId, textField? "node_id" nodeId, textField? "prompt" waiting.prompt,
      ("choices", some (.array (waiting.choices.map .string))),
      ("allow_free_text", some (.bool waiting.allowFreeText)),
      textField? "wait_key" waiting.waitKey, textField? "reason" waiting.reason, timeField? ts]
  | flowError runId nodeId error ts =>
    [textField "run_id" runId, textField? "node_id" nodeId, ("error", error), timeField? ts]
  | subworkflowUpdate runId nodeId subRunId =>
    [textField "run_id" runId, textField "node_id" nodeId, textField "sub_run_id" subRunId]
  | traceUpdate runId nodeId parentRunId steps =>
    [textField "run_id" runId, textField "node_id" nodeId,
      textField? "parent_run_id" parentRunId, ("steps", some (.array steps))]
  | unknown => []

/-- An event as JSON. -/
def toJson (e : Event) : Json := .ofFields (textField "type" e.kind :: e.toFields)

end Event

/-- The events of a batch, and the number of values that were none. -/
def decodeEvents (values : List Json) : List Event × Nat :=
  let events := values.filterMap fun v => (Event.decode v).toOption
  (events, values.length - events.length)

end RunWatch
