import RunWatch.Json.Basic
import RunWatch.Metrics
import RunWatch.Time.Instant

/-!
# Runs

What is known of a run as a whole, beside its steps: its parent, whether it has ended and how, and
what was reported at its end.
-/

namespace RunWatch

/-- How far a run has come. -/
inductive RunStatus where
  | running
  | completed
  | failed
  | cancelled
  deriving DecidableEq

/-- The name of a status. -/
def RunStatus.name : RunStatus → String
  | running => "running"
  | completed => "completed"
  | failed => "failed"
  | cancelled => "cancelled"

/-- Whether a run has ended. -/
def RunStatus.isTerminal : RunStatus → Bool
  | running => false
  | completed | failed | cancelled => true

/-- What is known of a run as a whole. -/
structure RunSummary where
  runId : String
  parentRunId : Option String
  status : RunStatus
  details : Option Json
  metrics : Option Metrics
  error : Option String
  startedAt : Option Instant
  endedAt : Option Instant
  deriving DecidableEq

namespace RunSummary

/-- A run of which nothing is known but that it exists. -/
def fresh (runId : String) : RunSummary := ⟨runId, none, .running, none, none, none, none, none⟩

/-- Whether two summaries say the same; the two zeros are equal. -/
def agrees (s t : RunSummary) : Bool :=
  let plain (s : RunSummary) : RunSummary :=
    { s with
      details := s.details.map Json.withoutSignedZeros
      metrics := s.metrics.map Metrics.withoutSignedZeros }
  plain s == plain t

/-- The run starts, below a parent if there is one. -/
def start (s : RunSummary) (parentRunId : Option String) (ts : Option Instant) : RunSummary :=
  { s with parentRunId := parentRunId.or s.parentRunId, startedAt := ts.or s.startedAt }

/-- The run finishes with details. -/
def complete (s : RunSummary) (details : Option Json) (ts : Option Instant) : RunSummary :=
  { s with
    status := .completed
    details := details
    metrics := details.bind Metrics.ofDetails?
    endedAt := ts.or s.endedAt }

/-- The run is cancelled. -/
def cancel (s : RunSummary) (ts : Option Instant) : RunSummary :=
  { s with status := .cancelled, endedAt := ts.or s.endedAt }

/-- The run fails with a message. -/
def fail (s : RunSummary) (message : String) (ts : Option Instant) : RunSummary :=
  { s with status := .failed, error := some message, endedAt := ts.or s.endedAt }

end RunSummary

end RunWatch
