import RunWatch.Json.Printer
import RunWatch.Text.Blank
import RunWatch.Time.Instant

/-!
# Execution events

What a workflow runtime reports while it runs: runs that start and end, nodes that start, end, wait
or fail within a run, and links from a node to the run that it spawned. An identifier that is empty
counts as missing (`Event.runId?`, `Event.nodeId?`).
-/

namespace RunWatch

/-- What a paused node asks for. -/
structure WaitingInfo where
  prompt : Option String
  choices : List String
  allowFreeText : Bool
  waitKey : Option String
  reason : Option String
  deriving DecidableEq

/-- An event of a workflow runtime. -/
inductive Event where
  /-- A run began; a run below another one names its parent. -/
  | flowStart (runId : String) (parentRunId : Option String) (ts : Option Instant)
  /-- A run finished, with details such as its metrics. -/
  | flowComplete (runId : String) (details : Option Json) (ts : Option Instant)
  /-- A run was cancelled by the operator. -/
  | flowCancelled (runId : String) (ts : Option Instant)
  /-- A node began. -/
  | nodeStart (runId nodeId : String) (nodeType : Option String) (ts : Option Instant)
  /-- A node finished. -/
  | nodeComplete (runId nodeId : String) (nodeType : Option String) (result details : Option Json)
      (ts : Option Instant)
  /-- A node, or the run, is paused for input. -/
  | flowWaiting (runId : String) (nodeId : Option String) (waiting : WaitingInfo)
      (ts : Option Instant)
  /-- A node, or the run, failed. -/
  | flowError (runId : String) (nodeId : Option String) (error : Option Json) (ts : Option Instant)
  /-- A node spawned a child run. -/
  | subworkflowUpdate (runId nodeId subRunId : String)
  /-- The run of an agent that a node of the parent run started, with its small steps. -/
  | traceUpdate (runId nodeId : String) (parentRunId : Option String) (steps : List Json)
  /-- An event of an unknown type. -/
  | unknown
  deriving DecidableEq

namespace Event

open Text

/-- The name of the type of an event. -/
def kind : Event → String
  | flowStart .. => "flow_start"
  | flowComplete .. => "flow_complete"
  | flowCancelled .. => "flow_cancelled"
  | nodeStart .. => "node_start"
  | nodeComplete .. => "node_complete"
  | flowWaiting .. => "flow_waiting"
  | flowError .. => "flow_error"
  | subworkflowUpdate .. => "subworkflow_update"
  | traceUpdate .. => "trace_update"
  | unknown => "unknown"

/-- The run an event belongs to. -/
def runId? : Event → Option String
  | flowStart runId .. | flowComplete runId .. | flowCancelled runId .. | nodeStart runId ..
  | nodeComplete runId .. | flowWaiting runId .. | flowError runId .. | subworkflowUpdate runId ..
  | traceUpdate runId .. => full? runId
  | unknown => none

/-- The node an event refers to. -/
def nodeId? : Event → Option String
  | nodeStart _ nodeId .. | nodeComplete _ nodeId .. | subworkflowUpdate _ nodeId ..
  | traceUpdate _ nodeId .. => full? nodeId
  | flowWaiting _ nodeId .. | flowError _ nodeId .. => nodeId.bind full?
  | _ => none

/-- Whether an event starts a run that names no parent. -/
def isRootStart : Event → Bool
  | flowStart runId parentRunId _ => runId != "" && (parentRunId.bind full?).isNone
  | _ => false

/-- What an error says: its text, or the text under `message`, or else the value itself. -/
def errorText : Option Json → String
  | none | some .null => "unknown error"
  | some (.string s) => s
  | some v => ((v.get? "message").bind Json.toText?).getD v.compact

/-- What an event of failure says. -/
def errorMessage? : Event → Option String
  | flowError _ _ error _ => some (errorText error)
  | _ => none

end Event

end RunWatch
