import RunWatch.Catalog
import RunWatch.Config
import RunWatch.Metrics
import RunWatch.Wire.Shape

/-!
# Configuration, catalogs and metrics as JSON

The configuration of a ledger and the metrics of a step are records whose fields may all be missing;
a catalog is an object from nodes to kinds.
-/

namespace RunWatch

open Wire

namespace LedgerConfig

/-- The fields of a configuration. -/
def fields : List Field :=
  [.defaulted "max_depth" .size, .defaulted "dedup_kinds" .texts, .defaulted "agent_kinds" .texts]

/-- Reads a configuration. -/
def decode (v : Json) : Except Fault LedgerConfig := do
  let ms ← Shape.members "LedgerConfig" fields v
  return {
    maxDepth := (Members.count? ms "max_depth").getD standard.maxDepth
    dedupKinds := (Members.texts? ms "dedup_kinds").getD standard.dedupKinds
    agentKinds := (Members.texts? ms "agent_kinds").getD standard.agentKinds }

/-- A configuration as JSON. -/
def toJson (c : LedgerConfig) : Json :=
  .ofMembers
    [("max_depth", .ofNat c.maxDepth), ("dedup_kinds", .array (c.dedupKinds.map .string)),
      ("agent_kinds", .array (c.agentKinds.map .string))]

end LedgerConfig

namespace Catalog

/-- The catalog of an object, whose values are texts. -/
def ofJson (v : Json) : Catalog :=
  .ofList ((v.toMembers?.getD []).map fun m => (m.1, m.2.toText?.getD ""))

/-- Reads a catalog. -/
def decode (v : Json) : Except Fault Catalog :=
  match Kind.textTable.fault? v with
  | some fault => .error fault
  | none => .ok (ofJson v)

end Catalog

namespace Metrics

/-- The fields of metrics; token counts have a second name. -/
def fields : List Field :=
  [.optional "duration_ms" .float,
    { Field.optional "input_tokens" .count with otherNames := ["prompt_tokens"] },
    { Field.optional "output_tokens" .count with otherNames := ["completion_tokens"] },
    .optional "total_tokens" .count, .optional "cost" .float]

/-- Reads metrics. -/
def decode (v : Json) : Except Fault Metrics := do
  let ms ← Shape.members "StepMetrics" fields v
  return {
    durationMs := Members.float? ms "duration_ms"
    inputTokens := (Members.count? ms "input_tokens").or (Members.count? ms "prompt_tokens")
    outputTokens := (Members.count? ms "output_tokens").or (Members.count? ms "completion_tokens")
    totalTokens := Members.count? ms "total_tokens"
    cost := Members.float? ms "cost" }

/-- Metrics as JSON, without what is missing. -/
def toJson (m : Metrics) : Json :=
  .ofFields
    [("duration_ms", m.durationMs.map .ofBinary64), ("input_tokens", m.inputTokens.map .ofNat),
      ("output_tokens", m.outputTokens.map .ofNat), ("total_tokens", m.totalTokens.map .ofNat),
      ("cost", m.cost.map .ofBinary64)]

end Metrics

end RunWatch
