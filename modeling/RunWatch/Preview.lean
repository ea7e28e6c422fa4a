import RunWatch.Json.Printer
import RunWatch.Text.Blank

/-!
# Previews of outputs

The parts of a step's output that a panel shows. Nodes of different kinds put them in different
places, so each part has a list of places, and the first one with a usable value gives it.
`Preview.ofOutput?` is `none` when no place has any.
-/

namespace RunWatch

/-- A place in a value: the keys that lead to it. -/
abbrev Place := List String

namespace Json

/-- The text at a place, unless it is empty. -/
def fullTextAt? (v : Json) (place : Place) : Option String := (v.at? place).bind toFullText?

/-- The first text among some places that is there and not empty. -/
def firstText? (v : Json) (places : List Place) : Option String :=
  places.findSome? v.fullTextAt?

end Json

/-! ### Token usage -/

/-- Counts of tokens. -/
structure TokenUsage where
  inputTokens : Option Nat
  outputTokens : Option Nat
  totalTokens : Option Nat
  deriving DecidableEq

namespace TokenUsage

/-- The first count under some keys. -/
def countUnder? (v : Json) (keys : List String) : Option Nat :=
  keys.findSome? fun key => (v.get? key).bind Json.toCount?

/-- The counts in a value, if there is one. -/
def ofJson? (v : Json) : Option TokenUsage :=
  let usage : TokenUsage :=
    { inputTokens := countUnder? v ["input_tokens", "prompt_tokens"]
      outputTokens := countUnder? v ["output_tokens", "completion_tokens"]
      totalTokens := countUnder? v ["total_tokens"] }
  if usage.inputTokens.isNone && usage.outputTokens.isNone && usage.totalTokens.isNone then none
  else some usage

end TokenUsage

/-! ### Benchmark records -/

/-- The output of a node that evaluates a benchmark. -/
structure BenchmarkRecord where
  mode : String
  promptId : String
  correct : Option Bool
  signature : Option String
  metrics : Option Json
  rawAnswer : Option String
  deriving DecidableEq

/-- The record in a value: it has a mode and a prompt, and one of metrics, a verdict and a
signature, of whatever kind. -/
def BenchmarkRecord.ofJson? (v : Json) : Option BenchmarkRecord := do
  let mode ← (v.get? "mode").bind Json.toText?
  let promptId ← (v.get? "prompt_id").bind Json.toText?
  if ["metrics", "correct", "signature"].any fun key => (v.get? key).isSome then
    return {
      mode
      promptId
      correct := (v.get? "correct").bind Json.toBool?
      signature := (v.get? "signature").bind Json.toText?
      metrics := v.get? "metrics"
      rawAnswer := (v.at? ["debug", "raw_answer"]).bind Json.toText? }
  else none

/-! ### Previews -/

/-- What a panel shows of an output. -/
structure Preview where
  task : Option String
  previewText : Option String
  scratchpad : Option Json
  provider : Option String
  model : Option String
  usage : Option TokenUsage
  benchmark : Option BenchmarkRecord
  subRunId : Option String
  artifactId : Option String
  deriving DecidableEq

namespace Preview

/-- Whether nothing is shown. -/
def isEmpty (p : Preview) : Bool :=
  p.task.isNone && p.previewText.isNone && p.scratchpad.isNone && p.provider.isNone &&
    p.model.isNone && p.usage.isNone && p.benchmark.isNone && p.subRunId.isNone &&
    p.artifactId.isNone

/-- The places of the text that is shown first. -/
def textPlaces : List Place :=
  [["result", "result"], ["result", "message"], ["result", "response"], ["message"], ["response"],
    ["result"]]

/-- The places of what stands beside a result: at the top, under `result` and under `raw`. -/
def besideResult (key : String) : List Place := [[key], ["result", key], ["raw", key]]

/-- The places of the task. -/
def taskPlaces : List Place := [["task"], ["result", "task"], ["input", "task"]]

/-- The places of an identifier: at the top and under `result`. -/
def idPlaces (key : String) : List Place := [[key], ["result", key]]

/-- The benchmark record of an output, at the top or under `result`. -/
def benchmarkOf? (output : Json) : Option BenchmarkRecord :=
  (BenchmarkRecord.ofJson? output).or ((output.get? "result").bind BenchmarkRecord.ofJson?)

/-- The scratchpad of an output. One that is `null` at the first place hides one at the second. -/
def scratchpadOf? (output : Json) : Option Json :=
  ((output.get? "scratchpad").or (output.at? ["result", "scratchpad"])).filter fun v => !v.isNull

/-- The last entry of a scratchpad that calls a language model. -/
def lastModelCall? (scratchpad : Json) : Option Json := do
  let entries ← (scratchpad.get? "steps").bind Json.toItems?
  entries.reverse.find? fun entry => decide (entry.get? "type" = some (.string "llm_call"))

/-- A name that an output gives for the model or its provider: beside the result, or else with the
last call. -/
def nameOf? (output : Json) (call : Option Json) (key : String) : Option String :=
  (output.firstText? (besideResult key)).or
    (call.bind fun c => c.firstText? [[key], ["meta", key]])

/-- The counts of tokens of an output: beside the result, or else with the last call. -/
def usageOf? (output : Json) (call : Option Json) : Option TokenUsage :=
  ((besideResult "usage").findSome? fun place => (output.at? place).bind TokenUsage.ofJson?).or
    (call.bind fun c => ((c.get? "usage").or (c.at? ["meta", "usage"])).bind TokenUsage.ofJson?)

/-- The text of a task: an empty one is none, and a value that is no text is written out. -/
def taskText? : Json → Option String
  | .string s => Text.full? s
  | v => some v.compact

/-- The task of an output: the first value that is not `null`. -/
def taskOf? (output : Json) : Option String :=
  (taskPlaces.findSome? fun place => (output.at? place).filter fun v => !v.isNull).bind taskText?

/-- The preview of an output. -/
def ofOutput? (output : Json) : Option Preview :=
  let benchmark := benchmarkOf? output
  let scratchpad := scratchpadOf? output
  let call := scratchpad.bind lastModelCall?
  let preview : Preview :=
    { task := taskOf? output
      previewText := (output.firstText? textPlaces).or (benchmark.bind BenchmarkRecord.rawAnswer)
      scratchpad
      provider := nameOf? output call "provider"
      model := nameOf? output call "model"
      usage := usageOf? output call
      benchmark
      subRunId := output.firstText? (idPlaces "sub_run_id")
      artifactId := output.firstText? (idPlaces "artifact_id") }
  if preview.isEmpty then none else some preview

end Preview

end RunWatch
