import RunWatch.Event
import RunWatch.Metrics
import RunWatch.Text.Digits

/-!
# Steps

A step is one invocation of a node within a run. Its identifier is made of the run, the node and the
place in the stream of the event that created it (`Step.id`).

A step runs first, may wait, and completes or fails. The functions `Step.pause`, `Step.complete`,
`Step.merge` and `Step.fail` say what the events of these kinds write into it.
-/

namespace RunWatch

/-- A node within a run. -/
structure NodeKey where
  runId : String
  nodeId : String
  deriving DecidableEq

/-- A node key in words. -/
def NodeKey.text (k : NodeKey) : String := k.runId ++ ":" ++ k.nodeId

/-! ### Status -/

/-- How far a step has come. -/
inductive StepStatus where
  | running
  | completed
  | waiting
  | failed
  deriving DecidableEq

namespace StepStatus

/-- The name of a status. -/
def name : StepStatus → String
  | running => "running"
  | completed => "completed"
  | waiting => "waiting"
  | failed => "failed"

/-- All statuses. -/
def all : List StepStatus := [running, completed, waiting, failed]

/-- The status with a name. -/
def ofName? (s : String) : Option StepStatus := all.find? fun a => a.name == s

/-- What is said of a name that no status has. -/
def unknownMessage (s : String) : String := "unknown step status: '" ++ s ++ "'"

/-- Whether a step can still complete or fail. -/
def isOpen : StepStatus → Bool
  | running | waiting => true
  | completed | failed => false

theorem ofName?_name (s : StepStatus) : ofName? s.name = some s := by cases s <;> decide

end StepStatus

/-! ### Steps -/

/-- One invocation of a node. -/
structure Step where
  runId : String
  nodeId : String
  /-- The place in the stream of the event that created the step. -/
  arrival : Nat
  kind : Option String
  status : StepStatus
  output : Option Json
  error : Option String
  waiting : Option WaitingInfo
  metrics : Option Metrics
  provider : Option String
  model : Option String
  startedAt : Option Instant
  endedAt : Option Instant
  deriving DecidableEq

/-- The identifier of the step that an event of a node creates. -/
def stepId (runId nodeId : String) (arrival : Nat) : String :=
  runId ++ ":" ++ nodeId ++ ":" ++ String.ofList (Text.digitsOf arrival)

/-- The text under `sub_run_id` at the top of an output, unless it is empty. -/
def subRunIdOf? (output : Json) : Option String := (output.get? "sub_run_id").bind Json.toFullText?

/-- What an event of completion reports. -/
structure Completion where
  output : Option Json
  metrics : Option Metrics
  provider : Option String
  model : Option String
  endedAt : Option Instant

/-- The report of a completion with a result, details and a time. -/
def Completion.of (result details : Option Json) (ts : Option Instant) : Completion where
  output := result
  metrics := details.bind Metrics.ofDetails?
  provider := (providerModel details).1
  model := (providerModel details).2
  endedAt := ts

namespace Step

/-- The identifier of a step. -/
def id (s : Step) : String := stepId s.runId s.nodeId s.arrival

/-- The node that a step invokes. -/
def key (s : Step) : NodeKey := ⟨s.runId, s.nodeId⟩

/-- A step that has begun. -/
def running (key : NodeKey) (arrival : Nat) (kind : Option String) (startedAt : Option Instant) :
    Step where
  runId := key.runId
  nodeId := key.nodeId
  arrival := arrival
  kind := kind
  status := .running
  output := none
  error := none
  waiting := none
  metrics := none
  provider := none
  model := none
  startedAt := startedAt
  endedAt := none

/-- Whether two steps say the same; the two zeros are equal. -/
def agrees (s t : Step) : Bool :=
  let plain (s : Step) : Step :=
    { s with
      output := s.output.map Json.withoutSignedZeros
      metrics := s.metrics.map Metrics.withoutSignedZeros }
  plain s == plain t

/-- The child run that the output of a step names at its top. -/
def outputSubRunId? (s : Step) : Option String := s.output.bind subRunIdOf?

/-- The step waits. -/
def pause (s : Step) (waiting : WaitingInfo) : Step :=
  { s with status := .waiting, waiting := some waiting }

/-- The step completes with a report, which replaces what it held; a kind is taken if there is
none. -/
def complete (s : Step) (c : Completion) (kind : Option String) : Step :=
  { s with
    status := .completed
    kind := s.kind.or kind
    output := c.output
    metrics := c.metrics
    provider := c.provider
    model := c.model
    endedAt := c.endedAt }

/-- The completed step takes in another report on the same work: what the report lacks stays. -/
def merge (s : Step) (c : Completion) : Step :=
  { s with
    output := c.output.or s.output
    metrics := mergeMetrics s.metrics c.metrics
    provider := c.provider.or s.provider
    model := c.model.or s.model
    endedAt := c.endedAt.or s.endedAt }

/-- The step fails with a message. -/
def fail (s : Step) (message : String) (endedAt : Option Instant) : Step :=
  { s with status := .failed, error := some message, endedAt := endedAt }

/-- The failure of a whole run meets the step: the message is noted, and an open step fails. -/
def blame (s : Step) (message : String) (endedAt : Option Instant) : Step :=
  if s.status.isOpen then s.fail message (endedAt.or s.endedAt)
  else { s with error := some message }

end Step

end RunWatch
