import Mathlib.Tactic.MkIffOfInductiveProp
import RunWatch.Proofs.FirstHit

/-!
# Where a preview finds its parts

Each part of a preview has a list of places, and the first of them where something usable stands
gives it. `Preview.Follows` says so for all nine parts, and `Preview.ofOutput?_follows` to what
extent it holds of `Preview.ofOutput?`. Three of the searches stop at the first place where there is
something, and only then ask whether that is of use, so that it may hide what stands after it:

* the search for a scratchpad stops at any value, also at `null`;
* the search for a task stops at any value but `null`, also at an empty text;
* the search for the usage of a call stops at any value, also at one that counts nothing.

Besides, a raw answer is shown where no other text is, even if it is empty.
-/

namespace RunWatch

/-! ### Usable values -/

namespace Json

/-- The value is a text. -/
def IsText (v : Json) (s : String) : Prop := v = .string s

/-- The value is a text that is not empty. -/
def IsFullText (v : Json) (s : String) : Prop := v = .string s ∧ s ≠ ""

/-- The value is a boolean. -/
def IsBool (v : Json) (b : Bool) : Prop := v = .bool b

/-- The value is a count: an integer that is not negative. -/
def IsCount (v : Json) (n : Nat) : Prop := ∃ m : WideInt, v = .number (.integer m) ∧ m.value = n

/-- The value is not `null`, and stands for itself. -/
def IsShown (v w : Json) : Prop := v ≠ .null ∧ w = v

theorem toText?_eq_some_iff (v : Json) (s : String) : v.toText? = some s ↔ v.IsText s := by
  cases v <;> simp [toText?, IsText]

theorem toFullText?_eq_some_iff (v : Json) (s : String) :
    v.toFullText? = some s ↔ v.IsFullText s := by
  rw [toFullText?, Option.filter_eq_some_iff, toText?_eq_some_iff, decide_eq_true_iff]
  rfl

theorem toBool?_eq_some_iff (v : Json) (b : Bool) : v.toBool? = some b ↔ v.IsBool b := by
  cases v <;> simp [toBool?, IsBool]

theorem toCount?_eq_some_iff (v : Json) (n : Nat) : v.toCount? = some n ↔ v.IsCount n := by
  cases v with
  | number num =>
    cases num with
    | integer m =>
      rw [toCount?, Number.toCount?, Option.ite_none_right_eq_some, Option.some.injEq]
      constructor
      · rintro ⟨hm, rfl⟩
        exact ⟨m, rfl, (Int.toNat_of_nonneg hm).symm⟩
      · rintro ⟨m', hm', hn⟩
        cases hm'
        omega
    | float x => simp [toCount?, Number.toCount?, IsCount]
  | null | bool | string | array | object => simp [toCount?, IsCount]

/-- The value, unless it is `null`. -/
def shown? (v : Json) : Option Json := if v.isNull then none else some v

theorem shown?_eq_some_iff (v w : Json) : v.shown? = some w ↔ v.IsShown w := by
  cases v <;> simp [shown?, isNull, IsShown, eq_comm]

theorem filter_not_isNull (found : Option Json) :
    (found.filter fun v => !v.isNull) = found.bind shown? := by
  cases found with
  | none => rfl
  | some v =>
    rw [Option.filter_some, Option.bind_some, shown?]
    cases v.isNull <;> rfl

end Json

/-! ### Token usage -/

namespace TokenUsage

/-- Usage holds what a value counts: of each count the first usable one, and at least one of
them. -/
@[mk_iff]
structure ReadFrom (v : Json) (u : TokenUsage) : Prop where
  inputTokens : FirstHit (v.Holds Json.IsCount) [["input_tokens"], ["prompt_tokens"]] u.inputTokens
  outputTokens :
    FirstHit (v.Holds Json.IsCount) [["output_tokens"], ["completion_tokens"]] u.outputTokens
  totalTokens : FirstHit (v.Holds Json.IsCount) [["total_tokens"]] u.totalTokens
  counted : u ≠ ⟨none, none, none⟩

theorem firstHit_count_iff {v : Json} (keys : List String) {found : Option Nat} :
    FirstHit (v.Holds Json.IsCount) (keys.map fun key => [key]) found ↔
      countUnder? v keys = found := by
  rw [firstHit_iff (Json.bind_at?_eq_some_iff Json.toCount?_eq_some_iff), List.findSome?_map]
  simp only [Function.comp_def, Json.at?_singleton, countUnder?]

theorem ofJson?_eq_some_iff (v : Json) (u : TokenUsage) : ofJson? v = some u ↔ ReadFrom v u := by
  have hread : ReadFrom v u ↔
      countUnder? v ["input_tokens", "prompt_tokens"] = u.inputTokens ∧
      countUnder? v ["output_tokens", "completion_tokens"] = u.outputTokens ∧
      countUnder? v ["total_tokens"] = u.totalTokens ∧ u ≠ ⟨none, none, none⟩ := by
    rw [← firstHit_count_iff, ← firstHit_count_iff, ← firstHit_count_iff]
    exact readFrom_iff v u
  obtain ⟨inputTokens, outputTokens, totalTokens⟩ := u
  rw [hread, ofJson?]
  simp only [Option.ite_none_left_eq_some, Option.some.injEq, mk.injEq, Bool.and_eq_true,
    Option.isNone_iff_eq_none, and_assoc, ne_eq]
  constructor
  · rintro ⟨hsome, rfl, rfl, rfl⟩
    exact ⟨rfl, rfl, rfl, hsome⟩
  · rintro ⟨rfl, rfl, rfl, hsome⟩
    exact ⟨hsome, rfl, rfl, rfl⟩

end TokenUsage

/-! ### Benchmark records -/

namespace BenchmarkRecord

/-- The keys of which a benchmark record has one. -/
def resultKeys : List String := ["metrics", "correct", "signature"]

/-- A record holds what stands in a value that has a mode and a prompt, and one of the results. -/
@[mk_iff]
structure ReadFrom (v : Json) (r : BenchmarkRecord) : Prop where
  mode : v.Holds Json.IsText ["mode"] r.mode
  promptId : v.Holds Json.IsText ["prompt_id"] r.promptId
  result : ∃ key ∈ resultKeys, v.get? key ≠ none
  correct : FirstHit (v.Holds Json.IsBool) [["correct"]] r.correct
  signature : FirstHit (v.Holds Json.IsText) [["signature"]] r.signature
  metrics : v.get? "metrics" = r.metrics
  rawAnswer : FirstHit (v.Holds Json.IsText) [["debug", "raw_answer"]] r.rawAnswer

theorem ofJson?_eq_some_iff (v : Json) (r : BenchmarkRecord) :
    ofJson? v = some r ↔ ReadFrom v r := by
  have hread : ReadFrom v r ↔
      (v.get? "mode").bind Json.toText? = some r.mode ∧
      (v.get? "prompt_id").bind Json.toText? = some r.promptId ∧
      (resultKeys.any fun key => (v.get? key).isSome) = true ∧
      (v.get? "correct").bind Json.toBool? = r.correct ∧
      (v.get? "signature").bind Json.toText? = r.signature ∧
      v.get? "metrics" = r.metrics ∧
      (v.at? ["debug", "raw_answer"]).bind Json.toText? = r.rawAnswer := by
    have htext (key : String) (s : String) :
        (v.get? key).bind Json.toText? = some s ↔ v.Holds Json.IsText [key] s := by
      rw [← Json.at?_singleton, Json.bind_at?_eq_some_iff Json.toText?_eq_some_iff]
    rw [htext, htext, List.any_eq_true, ← Json.at?_singleton v "correct",
      ← Json.at?_singleton v "signature", ← Json.firstHit_singleton_iff Json.toBool?_eq_some_iff,
      ← Json.firstHit_singleton_iff Json.toText?_eq_some_iff,
      ← Json.firstHit_singleton_iff Json.toText?_eq_some_iff]
    simp only [Option.isSome_iff_ne_none]
    exact readFrom_iff v r
  obtain ⟨mode, promptId, correct, signature, metrics, rawAnswer⟩ := r
  rw [hread, ofJson?]
  simp only [Option.bind_eq_bind, Option.pure_def, Option.bind_eq_some_iff,
    Option.ite_none_right_eq_some, Option.some.injEq, mk.injEq, resultKeys]
  constructor
  · rintro ⟨mode', hmode, promptId', hprompt, hresult, rfl, rfl, hrest⟩
    exact ⟨hmode, hprompt, hresult, hrest⟩
  · rintro ⟨hmode, hprompt, hresult, hrest⟩
    exact ⟨mode, hmode, promptId, hprompt, hresult, rfl, rfl, hrest⟩

end BenchmarkRecord

/-! ### Spots -/

namespace Preview

/-- Somewhere to look: a place in a value that may be missing. -/
abbrev Spot := Option Json × Place

/-- Some places in an output, and after them some in another value. -/
def spots (output : Json) (places : List Place) (other : Option Json)
    (otherPlaces : List Place) : List Spot :=
  places.map (some output, ·) ++ otherPlaces.map (other, ·)

/-- Whether something usable stands in a spot, and what it is used as. -/
def Stands {α : Type} (uses : Json → α → Prop) (spot : Spot) (a : α) : Prop :=
  ∃ v, spot.1 = some v ∧ v.Holds uses spot.2 a

/-- What stands in a spot. -/
def peek (spot : Spot) : Option Json := spot.1.bind fun v => v.at? spot.2

section

variable {α : Type} {read : Json → Option α} {uses : Json → α → Prop}

theorem bind_peek_eq_some_iff (hread : ∀ v a, read v = some a ↔ uses v a) (spot : Spot) (a : α) :
    (peek spot).bind read = some a ↔ Stands uses spot a := by
  rw [peek, Option.bind_assoc, Option.bind_eq_some_iff]
  simp only [Json.bind_at?_eq_some_iff hread, Stands]

theorem findSome?_spots (output : Json) (places : List Place) (other : Option Json)
    (otherPlaces : List Place) :
    (spots output places other otherPlaces).findSome? (fun spot => (peek spot).bind read) =
      (places.findSome? fun place => (output.at? place).bind read).or
        (other.bind fun v => otherPlaces.findSome? fun place => (v.at? place).bind read) := by
  rw [spots, List.findSome?_append, List.findSome?_map, List.findSome?_map]
  cases other with
  | none =>
    have hnone : (otherPlaces.findSome? fun place => (peek (none, place)).bind read) = none :=
      List.findSome?_eq_none_iff.2 fun _ _ => rfl
    simp only [Function.comp_def, hnone]
    rfl
  | some v => rfl

end

/-! ### The last call -/

/-- The entries of a scratchpad. -/
def entriesOf (scratchpad : Option Json) : List Json :=
  ((scratchpad.bind fun v => v.get? "steps").bind Json.toItems?).getD []

/-- The entry is a call of a language model, and stands for itself. -/
def CallsModel (entry call : Json) : Prop :=
  entry.get? "type" = some (.string "llm_call") ∧ call = entry

/-- The last call in a scratchpad, if there is one: seen from the end it is the first. -/
def LastCall (scratchpad call : Option Json) : Prop :=
  FirstHit CallsModel (entriesOf scratchpad).reverse call

theorem lastCall_iff {scratchpad call : Option Json} :
    LastCall scratchpad call ↔ scratchpad.bind lastModelCall? = call := by
  have hread : ∀ entry c : Json, (Option.guard (fun entry : Json =>
      decide (entry.get? "type" = some (.string "llm_call"))) entry) = some c ↔
        CallsModel entry c := fun entry c => by
    rw [Option.guard_eq_some_iff, decide_eq_true_iff, CallsModel, eq_comm, and_comm]
  have hfind : scratchpad.bind lastModelCall? = (entriesOf scratchpad).reverse.find? fun entry =>
      decide (entry.get? "type" = some (.string "llm_call")) := by
    cases scratchpad with
    | none => rfl
    | some v =>
      show ((v.get? "steps").bind Json.toItems?).bind _ = _
      rw [entriesOf, Option.bind_some]
      cases (v.get? "steps").bind Json.toItems? <;> rfl
  rw [LastCall, firstHit_iff hread, List.findSome?_guard, hfind]

/-! ### The rule -/

/-- The value is that of a task, and how the task is written: a text that is not empty as it stands,
and any other value but `null` as JSON. -/
inductive IsTask : Json → String → Prop where
  | text {s : String} (h : s ≠ "") : IsTask (.string s) s
  | other {v : Json} (hnull : v ≠ .null) (htext : ∀ s, v ≠ .string s) : IsTask v v.compact

/-- The places that are searched for those parts that a search may miss. -/
structure Search where
  task : List Place
  scratchpad : List Place
  /-- The places of the usage in a call. -/
  callUsage : List Place

/-- All of these places. -/
def everywhere : Search where
  task := [["task"], ["result", "task"], ["input", "task"]]
  scratchpad := [["scratchpad"], ["result", "scratchpad"]]
  callUsage := [["usage"], ["meta", "usage"]]

/-- These places as far as they are searched: up to the first where there is something, of whatever
kind; a task that is `null` is passed over. -/
def searched (output : Json) (call : Option Json) : Search where
  task := upTo (fun place => (output.at? place).filter fun v => !v.isNull) everywhere.task
  scratchpad := upTo output.at? everywhere.scratchpad
  callUsage := upTo (fun place => call.bind fun c => c.at? place) everywhere.callUsage

/-- The spots of a name: beside the result, and then with the last call. -/
def nameSpots (output : Json) (call : Option Json) (key : String) : List Spot :=
  spots output [[key], ["result", key], ["raw", key]] call [[key], ["meta", key]]

/-- The spots of the usage, those in the last call being given. -/
def usageSpots (output : Json) (call : Option Json) (callUsage : List Place) : List Spot :=
  spots output [["usage"], ["result", "usage"], ["raw", "usage"]] call callUsage

/-- The spots of the text that is shown: in the output, and then the raw answer of the benchmark
record. -/
def textSpots (output : Json) (benchmark : Option BenchmarkRecord) : List Spot :=
  spots output [["result", "result"], ["result", "message"], ["result", "response"], ["message"],
    ["response"], ["result"]] (benchmark.bind fun b => b.rawAnswer.map Json.string) [[]]

/-- A preview shows what stands in an output: each part is the first usable value in its places. The
call is the last one in the scratchpad that is shown. -/
@[mk_iff]
structure Follows (search : Search) (output : Json) (call : Option Json) (p : Preview) :
    Prop where
  lastCall : LastCall p.scratchpad call
  task : FirstHit (output.Holds IsTask) search.task p.task
  previewText : FirstHit (Stands Json.IsFullText) (textSpots output p.benchmark) p.previewText
  scratchpad : FirstHit (output.Holds Json.IsShown) search.scratchpad p.scratchpad
  provider : FirstHit (Stands Json.IsFullText) (nameSpots output call "provider") p.provider
  model : FirstHit (Stands Json.IsFullText) (nameSpots output call "model") p.model
  usage : FirstHit (Stands TokenUsage.ReadFrom) (usageSpots output call search.callUsage) p.usage
  benchmark : FirstHit (output.Holds BenchmarkRecord.ReadFrom) [[], ["result"]] p.benchmark
  subRunId :
    FirstHit (output.Holds Json.IsFullText) [["sub_run_id"], ["result", "sub_run_id"]] p.subRunId
  artifactId : FirstHit (output.Holds Json.IsFullText) [["artifact_id"], ["result", "artifact_id"]]
    p.artifactId

/-- A preview without any part. -/
def empty : Preview := ⟨none, none, none, none, none, none, none, none, none⟩

/-- The preview, unless it is empty. -/
def full? (p : Preview) : Option Preview := if p = empty then none else some p

/-- What is shown of an output when each part is the first usable value in all of its places. -/
def Documented (output : Json) (shown : Option Preview) : Prop :=
  ∃ call p, Follows everywhere output call p ∧ shown = p.full?

/-- The raw answer of the benchmark record. -/
def answer? (p : Preview) : Option String := p.benchmark.bind BenchmarkRecord.rawAnswer

/-- The preview with the raw answer for a text, where there is none. -/
def withAnswer (p : Preview) : Preview := { p with previewText := p.previewText.or p.answer? }

/-- The ways in which a part of an output is not shown as it should be: it is hidden by something
that is of no use, or it is an answer that is empty and nevertheless shown. -/
inductive Misses (output : Json) (call : Option Json) (p : Preview) : Prop where
  | task (h : Hidden (output.Holds IsTask) (searched output call).task everywhere.task)
  | scratchpad (h : Hidden (output.Holds Json.IsShown) (searched output call).scratchpad
      everywhere.scratchpad)
  | usage (h : Hidden (Stands TokenUsage.ReadFrom)
      (usageSpots output call (searched output call).callUsage)
      (usageSpots output call everywhere.callUsage))
  | answer (hnone : p.previewText = none) (hempty : p.answer? = some "")

/-! ### The search -/

/-- The text of a task, unless the value is `null`. -/
def taskIn? (v : Json) : Option String := v.shown?.bind taskText?

theorem taskIn?_eq_some_iff (v : Json) (s : String) : taskIn? v = some s ↔ IsTask v s := by
  cases v with
  | null =>
    constructor
    · intro h
      cases h
    · intro h
      cases h with
      | other hnull => exact absurd rfl hnull
  | string t =>
    show Text.full? t = some s ↔ _
    rw [Text.full?_eq_some_iff]
    constructor
    · rintro ⟨rfl, hne⟩
      exact .text hne
    · intro h
      cases h with
      | text hne => exact ⟨rfl, hne⟩
      | other _ htext => exact absurd rfl (htext t)
  | bool | number | array | object =>
    rw [show taskIn? _ = some (Json.compact _) from rfl, Option.some.injEq]
    constructor
    · rintro rfl
      exact .other (by simp) (by simp)
    · intro h
      cases h with
      | other => rfl

/-- The preview that searches through the places find, with the last call given. -/
def found (search : Search) (output : Json) (call : Option Json) : Preview where
  task := search.task.findSome? fun place => (output.at? place).bind taskIn?
  previewText := (textSpots output (benchmarkOf? output)).findSome? fun spot =>
    (peek spot).bind Json.toFullText?
  scratchpad := search.scratchpad.findSome? fun place => (output.at? place).bind Json.shown?
  provider := nameOf? output call "provider"
  model := nameOf? output call "model"
  usage := (usageSpots output call search.callUsage).findSome? fun spot =>
    (peek spot).bind TokenUsage.ofJson?
  benchmark := benchmarkOf? output
  subRunId := output.firstText? (idPlaces "sub_run_id")
  artifactId := output.firstText? (idPlaces "artifact_id")

section

variable {output : Json} {call : Option Json} {search : Search} {p : Preview}

theorem firstHit_id_iff {key : String} {text : Option String} :
    FirstHit (output.Holds Json.IsFullText) [[key], ["result", key]] text ↔
      output.firstText? (idPlaces key) = text :=
  firstHit_iff (Json.bind_at?_eq_some_iff Json.toFullText?_eq_some_iff)

theorem firstHit_name_iff {key : String} {name : Option String} :
    FirstHit (Stands Json.IsFullText) (nameSpots output call key) name ↔
      nameOf? output call key = name := by
  rw [firstHit_iff (bind_peek_eq_some_iff Json.toFullText?_eq_some_iff), nameSpots,
    findSome?_spots]
  rfl

theorem firstHit_benchmark_iff {benchmark : Option BenchmarkRecord} :
    FirstHit (output.Holds BenchmarkRecord.ReadFrom) [[], ["result"]] benchmark ↔
      benchmarkOf? output = benchmark := by
  rw [firstHit_iff (Json.bind_at?_eq_some_iff BenchmarkRecord.ofJson?_eq_some_iff),
    findSome?_pair, Json.at?_singleton]
  rfl

/-- The searches find what the rule says, and nothing else. -/
theorem follows_iff_found : Follows search output call p ↔
    found search output call = p ∧ p.scratchpad.bind lastModelCall? = call := by
  rw [follows_iff, lastCall_iff, firstHit_benchmark_iff, firstHit_name_iff, firstHit_name_iff,
    firstHit_id_iff, firstHit_id_iff,
    firstHit_iff (Json.bind_at?_eq_some_iff taskIn?_eq_some_iff),
    firstHit_iff (Json.bind_at?_eq_some_iff Json.shown?_eq_some_iff),
    firstHit_iff (bind_peek_eq_some_iff Json.toFullText?_eq_some_iff),
    firstHit_iff (bind_peek_eq_some_iff TokenUsage.ofJson?_eq_some_iff)]
  constructor
  · rintro ⟨hcall, htask, htext, hscratchpad, hprovider, hmodel, husage, hbenchmark, hsubRun,
      hartifact⟩
    refine ⟨?_, hcall⟩
    rw [found, htask, hscratchpad, hprovider, hmodel, husage, hbenchmark, htext, hsubRun,
      hartifact]
  · rintro ⟨rfl, hcall⟩
    exact ⟨hcall, rfl, rfl, rfl, rfl, rfl, rfl, rfl, rfl, rfl⟩

theorem isEmpty_iff : p.isEmpty = true ↔ p = empty := by
  obtain ⟨task, previewText, scratchpad, provider, model, usage, benchmark, subRunId,
    artifactId⟩ := p
  simp [isEmpty, empty, and_assoc]

theorem scratchpadOf?_eq (call : Option Json) : scratchpadOf? output =
    (searched output call).scratchpad.findSome? fun place =>
      (output.at? place).bind Json.shown? := by
  rw [searched, ← bind_findSome?_eq, everywhere, findSome?_pair, Json.at?_singleton,
    ← Json.filter_not_isNull]
  rfl

theorem taskOf?_eq (call : Option Json) : taskOf? output =
    (searched output call).task.findSome? fun place => (output.at? place).bind taskIn? := by
  have hread : (fun place => (output.at? place).bind taskIn?) = fun place =>
      ((output.at? place).filter fun v => !v.isNull).bind taskText? := by
    funext place
    rw [Json.filter_not_isNull, Option.bind_assoc]
    rfl
  rw [searched, hread, ← bind_findSome?_eq]
  rfl

theorem usageOf?_eq : usageOf? output call =
    (usageSpots output call (searched output call).callUsage).findSome? fun spot =>
      (peek spot).bind TokenUsage.ofJson? := by
  rw [usageSpots, findSome?_spots, usageOf?]
  congr 1
  cases call with
  | none => rfl
  | some c =>
    show _ = (upTo c.at? everywhere.callUsage).findSome? _
    rw [← bind_findSome?_eq, everywhere, findSome?_pair, Json.at?_singleton]
    rfl

theorem found_previewText : (found search output call).previewText =
    (output.firstText? textPlaces).or
      ((found search output call).answer?.filter fun s => s ≠ "") := by
  have hanswer (benchmark : Option BenchmarkRecord) :
      ((benchmark.bind fun b => b.rawAnswer.map Json.string).bind fun v =>
        [[]].findSome? fun place => (v.at? place).bind Json.toFullText?) =
      (benchmark.bind BenchmarkRecord.rawAnswer).filter fun s => s ≠ "" := by
    cases benchmark with
    | none => rfl
    | some b =>
      simp only [Option.bind_some, List.findSome?_singleton, Json.at?]
      cases b.rawAnswer <;> rfl
  refine (findSome?_spots output _ _ [[]]).trans ?_
  rw [hanswer]
  rfl

theorem withAnswer_found_previewText : (found search output call).withAnswer.previewText =
    (output.firstText? textPlaces).or ((benchmarkOf? output).bind BenchmarkRecord.rawAnswer) := by
  show (found search output call).previewText.or (found search output call).answer? = _
  rw [found_previewText, Option.or_assoc, answer?, found]
  congr 1
  cases (benchmarkOf? output).bind BenchmarkRecord.rawAnswer with
  | none => rfl
  | some s =>
    rw [Option.filter_some]
    split <;> rfl

/-- The preview is what the searches find, with the raw answer in any case. -/
theorem ofOutput?_eq (hcall : (scratchpadOf? output).bind lastModelCall? = call) :
    ofOutput? output = (found (searched output call) output call).withAnswer.full? := by
  have hpreview : ({
      task := taskOf? output
      previewText := (output.firstText? textPlaces).or
        ((benchmarkOf? output).bind BenchmarkRecord.rawAnswer)
      scratchpad := scratchpadOf? output
      provider := nameOf? output call "provider"
      model := nameOf? output call "model"
      usage := usageOf? output call
      benchmark := benchmarkOf? output
      subRunId := output.firstText? (idPlaces "sub_run_id")
      artifactId := output.firstText? (idPlaces "artifact_id") } : Preview) =
      (found (searched output call) output call).withAnswer := by
    rw [taskOf?_eq call, scratchpadOf?_eq call, usageOf?_eq, ← withAnswer_found_previewText]
    rfl
  rw [full?, ← hpreview]
  simp only [← isEmpty_iff]
  rw [← hcall]
  rfl

theorem full?_inj {q : Preview} : p.full? = q.full? ↔ p = q := ite_none_some_inj

/-! ### What is missed -/

theorem documented_iff {shown : Option Preview}
    (hcall : (found everywhere output call).scratchpad.bind lastModelCall? = call) :
    Documented output shown ↔ shown = (found everywhere output call).full? := by
  constructor
  · rintro ⟨call', p, hp, rfl⟩
    obtain ⟨rfl, hcall'⟩ := follows_iff_found.1 hp
    -- The scratchpad does not depend on the call, so there is only one call.
    have hsame : call' = call := hcall'.symm.trans hcall
    rw [hsame]
  · rintro rfl
    exact ⟨call, _, follows_iff_found.2 ⟨rfl, hcall⟩, rfl⟩

theorem withAnswer_found_previewText_eq_iff :
    (found search output call).withAnswer.previewText = (found search output call).previewText ↔
      ¬ ((found search output call).previewText = none ∧
        (found search output call).answer? = some "") := by
  show (found search output call).previewText.or (found search output call).answer? = _ ↔ _
  rw [found_previewText]
  cases output.firstText? textPlaces with
  | some s => simp
  | none =>
    cases (found search output call).answer? with
    | none => simp
    | some s => by_cases hs : s = "" <;> simp [Option.filter_some, hs]

theorem found_scratchpad_eq_iff {call' : Option Json} :
    (found (searched output call) output call).scratchpad =
      (found everywhere output call').scratchpad ↔
    ¬ Hidden (output.Holds Json.IsShown) (searched output call).scratchpad
      everywhere.scratchpad :=
  findSome?_eq_iff_not_hidden (Json.bind_at?_eq_some_iff Json.shown?_eq_some_iff)
    (upTo_isPrefix _ _)

theorem found_task_eq_iff : (found (searched output call) output call).task =
    (found everywhere output call).task ↔
      ¬ Hidden (output.Holds IsTask) (searched output call).task everywhere.task :=
  findSome?_eq_iff_not_hidden (Json.bind_at?_eq_some_iff taskIn?_eq_some_iff) (upTo_isPrefix _ _)

theorem found_usage_eq_iff : (found (searched output call) output call).usage =
    (found everywhere output call).usage ↔
      ¬ Hidden (Stands TokenUsage.ReadFrom)
        (usageSpots output call (searched output call).callUsage)
        (usageSpots output call everywhere.callUsage) := by
  have hpre : (searched output call).callUsage <+: everywhere.callUsage := upTo_isPrefix _ _
  exact findSome?_eq_iff_not_hidden (bind_peek_eq_some_iff TokenUsage.ofJson?_eq_some_iff)
    ((List.prefix_append_right_inj _).2 (hpre.map fun place => (call, place)))

/-- Nothing is missed when the searches through all places find the same. -/
theorem withAnswer_found_eq_iff : (found (searched output call) output call).withAnswer =
    found everywhere output call ↔
      ¬ Misses output call (found (searched output call) output call) := by
  have hparts : (found (searched output call) output call).withAnswer =
      found everywhere output call ↔
      (found (searched output call) output call).task = (found everywhere output call).task ∧
      (found (searched output call) output call).withAnswer.previewText =
        (found (searched output call) output call).previewText ∧
      (found (searched output call) output call).scratchpad =
        (found everywhere output call).scratchpad ∧
      (found (searched output call) output call).usage =
        (found everywhere output call).usage := by
    simp only [withAnswer, found, mk.injEq, true_and, and_true]
  rw [hparts, found_task_eq_iff, withAnswer_found_previewText_eq_iff, found_scratchpad_eq_iff,
    found_usage_eq_iff]
  constructor
  · rintro ⟨htask, hanswer, hscratchpad, husage⟩ h
    cases h with
    | task h => exact htask h
    | scratchpad h => exact hscratchpad h
    | usage h => exact husage h
    | answer hnone hempty => exact hanswer ⟨hnone, hempty⟩
  · intro h
    exact ⟨fun h' => h (.task h'), fun h' => h (.answer h'.1 h'.2), fun h' => h (.scratchpad h'),
      fun h' => h (.usage h')⟩

end

/-! ### Previews -/

/-- A preview is what is found in the places that are searched, with the raw answer for a text where
there is none. It is what stands in all of the places unless something is missed. -/
theorem ofOutput?_follows (output : Json) : ∃ call p, Follows (searched output call) output call p ∧
    ofOutput? output = p.withAnswer.full? ∧
    (Documented output (ofOutput? output) ↔ ¬ Misses output call p) := by
  obtain ⟨call, hcall⟩ : ∃ call, (scratchpadOf? output).bind lastModelCall? = call := ⟨_, rfl⟩
  have hpreview := ofOutput?_eq hcall
  have hfound : (found (searched output call) output call).scratchpad.bind lastModelCall? =
      call := by
    rw [← hcall, scratchpadOf?_eq call]
    rfl
  refine ⟨call, _, follows_iff_found.2 ⟨rfl, hfound⟩, hpreview, ?_⟩
  rw [hpreview]
  by_cases hhidden : Hidden (output.Holds Json.IsShown) (searched output call).scratchpad
      everywhere.scratchpad
  · -- The calls may differ too, but the scratchpads do so in any case.
    refine iff_of_false ?_ (not_not_intro (.scratchpad hhidden))
    rintro ⟨call', p, hp, hshown⟩
    obtain ⟨rfl, -⟩ := follows_iff_found.1 hp
    have hsame : (found (searched output call) output call).withAnswer.scratchpad =
        (found everywhere output call').scratchpad := congrArg scratchpad (full?_inj.1 hshown)
    exact found_scratchpad_eq_iff.1 hsame hhidden
  · have hsame : (found (searched output call) output call).scratchpad =
        (found everywhere output call).scratchpad := found_scratchpad_eq_iff.2 hhidden
    rw [hsame] at hfound
    rw [documented_iff hfound, full?_inj, withAnswer_found_eq_iff]

/-- Where a task is empty, a scratchpad `null` and the usage of a call without a count, nothing is
shown of those that stand after them. -/
theorem ofOutput?_of_unusable_values :
    let usage : Json := .object [("input_tokens", .ofNat 1)]
    let call : Json := .object [("meta", .object [("usage", usage)]), ("type", .string "llm_call"),
      ("usage", .object [])]
    let scratchpad : Json := .object [("steps", .array [call])]
    let output : Json := .object [("input", .object [("task", .string "t")]),
      ("result", .object [("scratchpad", scratchpad)]), ("scratchpad", .null), ("task", .string "")]
    let p : Preview := { empty with
      task := some "t", scratchpad := some scratchpad, usage := some ⟨some 1, none, none⟩ }
    ofOutput? output = none ∧ Documented output (some p) ∧
      ¬ Documented output (ofOutput? output) := by
  intro usage call scratchpad output p
  have hnone : ofOutput? output = none := by decide +kernel
  have hfound : found everywhere output (some call) = p := by decide +kernel
  have hcall : (found everywhere output (some call)).scratchpad.bind lastModelCall? =
      some call := by
    rw [hfound]
    decide +kernel
  have hfull : p.full? = some p := if_neg (by decide +kernel)
  refine ⟨hnone, ?_, ?_⟩
  · rw [documented_iff hcall, hfound, hfull]
  · rw [documented_iff hcall, hfound, hfull, hnone]
    exact (Option.some_ne_none p).symm

end Preview

end RunWatch
