import RunWatch.Session
import RunWatch.Wire.Config

/-!
# Views as JSON

Steps, runs, trees, previews and whole views, as a panel receives them. A step and a run have all of
their fields, with `null` for what is missing; the links of a step and the parts of a preview are
left out when they are missing.
-/

namespace RunWatch

namespace Wire

/-- A text that may be missing, with `null` in its place. -/
def orNull (s : Option String) : Json := .ofOption .string s

/-- A time that may be missing, with `null` in its place. -/
def timeOrNull (t : Option Instant) : Json := .ofOption (fun t => .string t.text) t

end Wire

open Wire

/-- What a paused node asks for, as JSON. -/
def WaitingInfo.toJson (w : WaitingInfo) : Json :=
  .ofMembers
    [("prompt", orNull w.prompt), ("choices", .array (w.choices.map .string)),
      ("allow_free_text", .bool w.allowFreeText), ("wait_key", orNull w.waitKey),
      ("reason", orNull w.reason)]

namespace Step

/-- The fields of a step. -/
def toFields (s : Step) : List (String × Option Json) :=
  [("id", some (.string s.id)), ("run_id", some (.string s.runId)),
    ("node_id", some (.string s.nodeId)), ("node_kind", some (orNull s.kind)),
    ("status", some (.string s.status.name)), ("output", some (s.output.getD .null)),
    ("error", some (orNull s.error)), ("waiting", some (.ofOption WaitingInfo.toJson s.waiting)),
    ("metrics", some (.ofOption Metrics.toJson s.metrics)), ("provider", some (orNull s.provider)),
    ("model", some (orNull s.model)), ("started_at", some (timeOrNull s.startedAt)),
    ("ended_at", some (timeOrNull s.endedAt))]

/-- A step as JSON. -/
def toJson (s : Step) : Json := .ofFields s.toFields

end Step

/-- What is known of a run, as JSON. -/
def RunSummary.toJson (s : RunSummary) : Json :=
  .ofMembers
    [("run_id", .string s.runId), ("parent_run_id", orNull s.parentRunId),
      ("status", .string s.status.name), ("meta", s.details.getD .null),
      ("metrics", .ofOption Metrics.toJson s.metrics), ("error", orNull s.error),
      ("started_at", timeOrNull s.startedAt), ("ended_at", timeOrNull s.endedAt)]

/-- A step with its links as JSON. -/
def StepView.toJson (s : StepView) : Json :=
  .ofFields
    (s.step.toFields ++
      [("child_run_id", s.childRunId.map .string), ("agent_run_id", s.agentRunId.map .string)])

mutual

/-- A row with the rows below it as JSON. -/
def TreeNode.toJson : TreeNode → Json
  | .mk stepId depth children childRunId =>
    .ofFields
      [("step_id", some (.string stepId)), ("depth", some (.ofNat depth)),
        ("children", some (.array (forestToJson children))),
        ("child_run_id", childRunId.map .string)]

/-- Rows with the rows below them as JSON. -/
def forestToJson : List TreeNode → List Json
  | [] => []
  | t :: ts => t.toJson :: forestToJson ts

end

/-- A view as JSON. -/
def RunView.toJson (v : RunView) : Json :=
  .ofMembers
    [("root_run_id", orNull v.rootRunId), ("status", .string v.status.name),
      ("summary", .ofOption RunSummary.toJson v.summary),
      ("steps", .array (v.steps.map StepView.toJson)), ("tree", .array (forestToJson v.tree)),
      ("event_count", .ofNat v.eventCount)]

/-! ### Previews -/

/-- Counts of tokens as JSON. -/
def TokenUsage.toJson (u : TokenUsage) : Json :=
  .ofFields
    [("input_tokens", u.inputTokens.map .ofNat), ("output_tokens", u.outputTokens.map .ofNat),
      ("total_tokens", u.totalTokens.map .ofNat)]

/-- A benchmark record as JSON. -/
def BenchmarkRecord.toJson (b : BenchmarkRecord) : Json :=
  .ofFields
    [("mode", some (.string b.mode)), ("prompt_id", some (.string b.promptId)),
      ("correct", b.correct.map .bool), ("signature", b.signature.map .string),
      ("metrics", b.metrics), ("raw_answer", b.rawAnswer.map .string)]

/-- A preview as JSON. -/
def Preview.toJson (p : Preview) : Json :=
  .ofFields
    [("task", p.task.map .string), ("preview_text", p.previewText.map .string),
      ("scratchpad", p.scratchpad), ("provider", p.provider.map .string),
      ("model", p.model.map .string), ("usage", p.usage.map TokenUsage.toJson),
      ("benchmark", p.benchmark.map BenchmarkRecord.toJson),
      ("sub_run_id", p.subRunId.map .string), ("artifact_id", p.artifactId.map .string)]

/-! ### Sessions -/

/-- The state of a connection as JSON. -/
def Connection.toJson (c : Connection) : Json :=
  .ofFields [("connected", some (.bool c.connected)), ("error", c.error.map .string)]

/-- The totals of a batch as JSON. -/
def IngestTotals.toJson (t : IngestTotals) : Json :=
  .ofMembers
    [("accepted", .ofNat t.accepted), ("rejected", .ofNat t.rejected), ("resets", .ofNat t.resets)]

end RunWatch
