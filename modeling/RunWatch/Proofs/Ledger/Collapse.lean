import RunWatch.Proofs.Ledger.Recognition

/-!
# Many completions of one agent

Completions that name one child run end up in one step, however many there are. The metrics are
joined two at a time, and a join prefers one of its two reports as a whole. So what a list of
reports leads to is told by the longest one, the latest among equals: the joined metrics are as long
as it is, and they have every value that it reports (`Metrics.exists_longest`). What it does not
report comes from some other report, if any has it.

* `Metrics.gathered`: reports joined in turn.
* `Step.gathers_foldl_merge`: what a step holds that has taken in some completions.
* `Ledger.completions_collapse`: completions of a closed node that name a new child run.
-/

namespace RunWatch

open Text

/-! ### Metrics -/

namespace Metrics

/-- What metrics may tell: the names of their fields. -/
inductive FieldName where
  | durationMs
  | inputTokens
  | outputTokens
  | totalTokens
  | cost

/-- What a field holds. -/
abbrev FieldName.Value : FieldName → Type
  | durationMs | cost => Binary64
  | inputTokens | outputTokens | totalTokens => Nat

/-- The value of a field, if it was reported. -/
def get? (m : Metrics) : (field : FieldName) → Option field.Value
  | .durationMs => m.durationMs
  | .inputTokens => m.inputTokens
  | .outputTokens => m.outputTokens
  | .totalTokens => m.totalTokens
  | .cost => m.cost

/-- The rank of metrics by their duration; a missing one counts as minus infinity. -/
def rank (m : Metrics) : Int :=
  (m.durationMs.getD (.ofRank true Binary64.infinityRank)).key

/-- No number is less than minus infinity. -/
theorem key_minus_infinity_le (x : Binary64) :
    (Binary64.ofRank true Binary64.infinityRank).key ≤ x.key := by
  have hrank := x.rank_le
  show -((min Binary64.infinityRank Binary64.infinityRank : Nat) : Int) ≤ x.key
  unfold Binary64.key
  split <;> omega

theorem rank_empty_le (m : Metrics) : empty.rank ≤ m.rank := by
  unfold rank
  exact key_minus_infinity_le _

section

variable (m n : Metrics) (field : FieldName)

theorem get?_orElse : (m.orElse n).get? field = (m.get? field).or (n.get? field) := by
  cases field <;> rfl

theorem longer_eq : longer m.durationMs n.durationMs = decide (n.rank < m.rank) := by
  unfold rank
  cases m.durationMs with
  | none =>
    rw [Option.getD_none, decide_eq_false (Int.not_lt.2 (key_minus_infinity_le _))]
    rfl
  | some x => cases n.durationMs <;> rfl

theorem isSome_get?_join :
    ((m.join n).get? field).isSome = ((m.get? field).isSome || (n.get? field).isSome) := by
  unfold join
  split
  · rw [get?_orElse, Option.isSome_or]
  · rw [get?_orElse, Option.isSome_or, Bool.or_comm]

end

section

variable {m n : Metrics} {field : FieldName} {v : field.Value}

theorem join_of_lt (h : n.rank < m.rank) : m.join n = m.orElse n := by
  rw [join, longer_eq, if_pos (decide_eq_true h)]

theorem join_of_le (h : m.rank ≤ n.rank) : m.join n = n.orElse m := by
  rw [join, longer_eq, if_neg (by simp [h])]

theorem get?_join_eq_some (h : (m.join n).get? field = some v) :
    m.get? field = some v ∨ n.get? field = some v := by
  unfold join at h
  split at h
  · rw [get?_orElse, Option.or_eq_some_iff] at h
    exact h.imp_right And.right
  · rw [get?_orElse, Option.or_eq_some_iff] at h
    exact (h.imp_right And.right).symm

/-- Metrics that are not the shorter ones keep their rank when they are completed. -/
theorem rank_orElse (h : n.rank ≤ m.rank) : (m.orElse n).rank = m.rank := by
  unfold rank orElse at *
  cases hm : m.durationMs with
  | some x => rfl
  | none =>
    rw [hm] at h
    exact Int.le_antisymm h (key_minus_infinity_le _)

theorem rank_join (m n : Metrics) : (m.join n).rank = max m.rank n.rank := by
  rcases Int.lt_or_le n.rank m.rank with hlt | hle
  · rw [join_of_lt hlt, rank_orElse (Int.le_of_lt hlt)]
    omega
  · rw [join_of_le hle, rank_orElse hle]
    omega

end

/-! ### Many reports -/

section

variable {α : Type*} (measured : α → Metrics)

/-- The metrics of some reports, joined in turn. -/
def gathered (reports : List α) : Metrics :=
  reports.foldl (fun m report => m.join (measured report)) empty

theorem gathered_append_singleton (reports : List α) (report : α) :
    gathered measured (reports ++ [report]) =
      (gathered measured reports).join (measured report) := by
  rw [gathered, List.foldl_append]
  rfl

/-- A field is there when some report has it. -/
theorem isSome_get?_gathered (field : FieldName) (reports : List α) :
    ((gathered measured reports).get? field).isSome =
      reports.any fun report => ((measured report).get? field).isSome := by
  induction reports using List.reverseRecOn with
  | nil => cases field <;> rfl
  | append_singleton reports report ih =>
    rw [gathered_append_singleton, isSome_get?_join, ih, List.any_append, List.any_cons,
      List.any_nil, Bool.or_false]

variable {reports : List α}

/-- A value comes from some report. -/
theorem exists_of_get?_gathered (field : FieldName) {v : field.Value}
    (h : (gathered measured reports).get? field = some v) :
    ∃ report ∈ reports, (measured report).get? field = some v := by
  induction reports using List.reverseRecOn with
  | nil => cases field <;> cases h
  | append_singleton reports report ih =>
    rw [gathered_append_singleton] at h
    rcases get?_join_eq_some h with hbefore | hlast
    · obtain ⟨earlier, hmem, hv⟩ := ih hbefore
      exact ⟨earlier, List.mem_append_left _ hmem, hv⟩
    · exact ⟨report, by simp, hlast⟩

theorem rank_le_gathered {report : α} (h : report ∈ reports) :
    (measured report).rank ≤ (gathered measured reports).rank := by
  induction reports using List.reverseRecOn with
  | nil => cases h
  | append_singleton reports last ih =>
    rw [gathered_append_singleton, rank_join]
    rcases List.mem_append.1 h with h | h
    · exact Int.le_trans (ih h) (Int.le_max_left _ _)
    · rw [List.mem_singleton.1 h]
      exact Int.le_max_right _ _

/-- No report has a longer duration than the joined metrics. -/
theorem exists_duration_gathered {report : α} (h : report ∈ reports) {d : Binary64}
    (hd : (measured report).durationMs = some d) :
    ∃ most, (gathered measured reports).durationMs = some most ∧ d.key ≤ most.key := by
  have hsome : ((gathered measured reports).get? .durationMs).isSome = true := by
    rw [isSome_get?_gathered, List.any_eq_true]
    exact ⟨report, h, Option.isSome_of_eq_some hd⟩
  obtain ⟨most, hmost⟩ := Option.isSome_iff_exists.1 hsome
  have hmost : (gathered measured reports).durationMs = some most := hmost
  refine ⟨most, hmost, ?_⟩
  have hrank := rank_le_gathered measured h
  rw [rank, rank, hd, hmost] at hrank
  exact hrank

/-- The longest report, the latest among equals, has the say: the joined metrics are as long, and
they have every value that it reports. -/
theorem exists_longest (hne : reports ≠ []) : ∃ before report after,
    reports = before ++ report :: after ∧
      (∀ other ∈ before, (measured other).rank ≤ (measured report).rank) ∧
      (∀ other ∈ after, (measured other).rank < (measured report).rank) ∧
      (gathered measured reports).rank = (measured report).rank ∧
      ∀ field v, (measured report).get? field = some v →
        (gathered measured reports).get? field = some v := by
  induction reports using List.reverseRecOn with
  | nil => exact absurd rfl hne
  | append_singleton reports last ih =>
    rw [gathered_append_singleton]
    rcases Int.lt_or_le (measured last).rank (gathered measured reports).rank with hlt | hle
    · -- The longest report so far is longer than the last one, and has the say still.
      have hreports : reports ≠ [] := by
        rintro rfl
        exact absurd hlt (Int.not_lt.2 (rank_empty_le _))
      obtain ⟨before, report, after, hsplit, hbefore, hafter, hrank, hsay⟩ := ih hreports
      refine ⟨before, report, after ++ [last], by simp [hsplit], hbefore, ?_, ?_, ?_⟩
      · intro other hother
        rcases List.mem_append.1 hother with hother | hother
        · exact hafter other hother
        · rw [List.mem_singleton.1 hother, ← hrank]
          exact hlt
      · rw [join_of_lt hlt, rank_orElse (Int.le_of_lt hlt), hrank]
      · intro field v hv
        rw [join_of_lt hlt, get?_orElse, hsay field v hv, Option.some_or]
    · refine ⟨reports, last, [], rfl, ?_, ?_, ?_, ?_⟩
      · intro other hother
        exact Int.le_trans (rank_le_gathered measured hother) hle
      · intro other hother
        cases hother
      · rw [join_of_le hle, rank_orElse hle]
      · intro field v hv
        rw [join_of_le hle, get?_orElse, hv, Option.some_or]

end

end Metrics

/-! ### A step that takes in completions -/

/-- The metrics that a completion reports. -/
def Completion.measured (c : Completion) : Metrics := c.metrics.getD .empty

namespace Step

/-- The metrics of a step. -/
def measured (s : Step) : Metrics := s.metrics.getD .empty

/-- A completed step of which nothing has been reported. -/
def finished (key : NodeKey) (place : Nat) (kind : Option String) : Step :=
  { running key place kind none with status := .completed }

theorem measured_merge (s : Step) (c : Completion) :
    (s.merge c).measured = s.measured.join c.measured := by
  show (mergeMetrics s.metrics c.metrics).getD .empty = _
  rw [mergeMetrics_eq, Metrics.getD_full?]
  rfl

/-- A step that completes at once takes in its completion. -/
theorem complete_running (key : NodeKey) (place : Nat) (kind : Option String) {c : Completion}
    (hmetrics : ∀ m, c.metrics = some m → m.isEmpty = false) :
    (running key place kind none).complete c kind = (finished key place kind).merge c := by
  simp [complete, merge, finished, running, mergeMetrics_none hmetrics]

theorem outputSubRunId?_merge (s : Step) {c : Completion} {subRun : String}
    (h : c.output.bind subRunIdOf? = some subRun) :
    (s.merge c).outputSubRunId? = some subRun := by
  obtain ⟨output, houtput, -⟩ := Option.bind_eq_some_iff.1 h
  rw [outputSubRunId?, s.output_merge (Option.isSome_of_eq_some houtput), h]

section

variable {β : Type*} {g : Step → Option β} {f : Completion → Option β}

/-- Where completions overwrite what they report, the last value stays. -/
theorem foldl_merge_eq_lastValue? (hg : ∀ s c, g (s.merge c) = (f c).or (g s)) {s : Step}
    (hnew : g s = none) (reports : List Completion) :
    g (reports.foldl merge s) = lastValue? f reports := by
  induction reports using List.reverseRecOn with
  | nil => exact hnew
  | append_singleton reports c ih =>
    rw [List.foldl_append, lastValue?_append_singleton, ← ih]
    exact hg _ c

theorem foldl_merge_of_fixed {g : Step → β} (hg : ∀ s c, g (s.merge c) = g s) (s : Step)
    (reports : List Completion) : g (reports.foldl merge s) = g s := by
  induction reports using List.reverseRecOn with
  | nil => rfl
  | append_singleton reports c ih =>
    rw [List.foldl_append, ← ih]
    exact hg _ c

end

theorem key_foldl_merge (key : NodeKey) (place : Nat) (kind : Option String)
    (reports : List Completion) : (reports.foldl merge (finished key place kind)).key = key :=
  foldl_merge_of_fixed (fun _ _ => rfl) _ reports

theorem status_foldl_merge (key : NodeKey) (place : Nat) (kind : Option String)
    (reports : List Completion) :
    (reports.foldl merge (finished key place kind)).status = .completed :=
  foldl_merge_of_fixed (fun _ _ => rfl) _ reports

theorem measured_foldl_merge (key : NodeKey) (place : Nat) (kind : Option String)
    (reports : List Completion) : (reports.foldl merge (finished key place kind)).measured =
      Metrics.gathered Completion.measured reports := by
  induction reports using List.reverseRecOn with
  | nil => rfl
  | append_singleton reports c ih =>
    rw [List.foldl_append, Metrics.gathered_append_singleton, ← ih]
    exact measured_merge _ c

/-- A step holds what a list of completions reports, with nothing lost. -/
structure Gathers (s : Step) (reports : List Completion) : Prop where
  output_eq (c : Completion) : reports.getLast? = some c → s.output = c.output
  /-- The duration is one of those reported. -/
  duration_reported (d : Binary64) : s.measured.durationMs = some d →
    ∃ c ∈ reports, c.measured.durationMs = some d
  /-- No reported duration is greater. -/
  duration_greatest (c : Completion) (d : Binary64) : c ∈ reports →
    c.measured.durationMs = some d → ∃ most, s.measured.durationMs = some most ∧ d.key ≤ most.key
  isSome_iff (field : Metrics.FieldName) : (s.measured.get? field).isSome = true ↔
    ∃ c ∈ reports, (c.measured.get? field).isSome = true
  /-- Every value of the longest report stays; of several ones, the latest. -/
  of_longest : ∃ before c after, reports = before ++ c :: after ∧
    (∀ other ∈ before, other.measured.rank ≤ c.measured.rank) ∧
    (∀ other ∈ after, other.measured.rank < c.measured.rank) ∧
    ∀ field v, c.measured.get? field = some v → s.measured.get? field = some v
  provider_eq : s.provider = lastValue? Completion.provider reports
  model_eq : s.model = lastValue? Completion.model reports
  endedAt_eq : s.endedAt = lastValue? Completion.endedAt reports

/-- A new step that takes in some completions, each with an output, holds what they report. -/
theorem gathers_foldl_merge (key : NodeKey) (place : Nat) (kind : Option String)
    {reports : List Completion} (hne : reports ≠ [])
    (houtput : ∀ c ∈ reports, c.output.isSome = true) :
    (reports.foldl merge (finished key place kind)).Gathers reports where
  output_eq c hc := by
    obtain ⟨init, rfl⟩ := List.getLast?_eq_some_iff.1 hc
    rw [List.foldl_append]
    exact output_merge _ (houtput c (by simp))
  duration_reported d hd := by
    rw [measured_foldl_merge] at hd
    exact Metrics.exists_of_get?_gathered Completion.measured .durationMs hd
  duration_greatest c d hc hd := by
    rw [measured_foldl_merge]
    exact Metrics.exists_duration_gathered Completion.measured hc hd
  isSome_iff field := by
    rw [measured_foldl_merge, Metrics.isSome_get?_gathered, List.any_eq_true]
  of_longest := by
    obtain ⟨before, c, after, hsplit, hbefore, hafter, -, hsay⟩ :=
      Metrics.exists_longest Completion.measured hne
    rw [measured_foldl_merge]
    exact ⟨before, c, after, hsplit, hbefore, hafter, hsay⟩
  provider_eq := foldl_merge_eq_lastValue? (fun _ _ => rfl) rfl reports
  model_eq := foldl_merge_eq_lastValue? (fun _ _ => rfl) rfl reports
  endedAt_eq := foldl_merge_eq_lastValue? (fun _ _ => rfl) rfl reports

end Step

/-! ### Events of completion -/

namespace Event

/-- What an event of completion reports. -/
def completion? : Event → Option Completion
  | nodeComplete _ _ _ result details ts => some (.of result details ts)
  | _ => none

/-- An event completes a node: it is of a kind whose completions are merged, and its result names a
child run. -/
structure CompletesWith (catalog : Catalog) (config : LedgerConfig) (key : NodeKey)
    (subRun : String) (e : Event) (c : Completion) : Prop where
  of_node : e.addresses key = true
  reports : e.completion? = some c
  merged : config.isDedupKind (catalog.resolve key.nodeId e.nodeType?) = true
  names_run : c.output.bind subRunIdOf? = some subRun

theorem isEmpty_of_completion? {e : Event} {c : Completion} (h : e.completion? = some c)
    (m : Metrics) (hm : c.metrics = some m) : m.isEmpty = false := by
  cases e with
  | nodeComplete run nodeId nodeType result details ts =>
    cases h
    obtain ⟨v, -, hv⟩ := Option.bind_eq_some_iff.1 hm
    exact Metrics.isEmpty_of_ofDetails? hv
  | _ => cases h

end Event

namespace Ledger

open History

section

variable {l : Ledger} {key : NodeKey} {subRun : String} {c : Completion}

theorem steps_apply_of_completion? {e : Event} (haddr : e.addresses key = true)
    (hc : e.completion? = some c) :
    (l.apply e).steps = (l.completeStep l.arrival key e.nodeType? c).steps := by
  cases Event.ofNode_of_addresses haddr with
  | complete nodeType result details ts hrun hnode =>
    cases hc
    rw [apply_nodeComplete hrun hnode]
    rfl
  | start | wait | error => cases hc

/-- A completion makes a step if its node is closed and no step completed with the child run that it
names. -/
theorem steps_completeStep_of_fresh (hl : l.Indexed) (hopen : l.openSteps.get? key = none)
    (hfresh : ∀ s ∈ l.steps, s.key = key → s.status = .completed →
      s.outputSubRunId? ≠ some subRun)
    (hsub : c.output.bind subRunIdOf? = some subRun) (n : Nat) (nodeType : Option String) :
    let kind := l.catalog.resolve key.nodeId nodeType
    (l.completeStep n key nodeType c).steps =
      l.steps ++ [(Step.running key n kind none).complete c kind] := by
  intro kind
  have hduplicate : l.duplicate? key (l.catalog.resolve key.nodeId nodeType) c = none := by
    rw [hl.duplicate?_eq, lastWhere?_eq_none_iff, List.any_eq_false]
    intro s hs hrepeats
    refine hfresh s hs (key_of_repeats l.config hrepeats) (status_of_repeats hrepeats) ?_
    simp only [repeats, hsub, Option.any_some, Bool.and_eq_true, beq_iff_eq] at hrepeats
    exact hrepeats.2.2
  simp only [completeStep, hopen, hduplicate]
  rfl

end

variable {catalog : Catalog} {config : LedgerConfig} {events : List Event} {key : NodeKey}
  {subRun : String}

/-- Completions of a closed node that name a new child run make one step, and it takes in their
reports in turn. -/
theorem steps_of_completions
    (hopen : (ofEvents catalog config events).openSteps.get? key = none)
    (hfresh : ∀ s ∈ (ofEvents catalog config events).steps, s.key = key →
      s.status = .completed → s.outputSubRunId? ≠ some subRun)
    {es : List Event} (hne : es ≠ [])
    (hes : ∀ e ∈ es, ∃ c, e.CompletesWith catalog config key subRun c) :
    ∃ kind s, s = (es.filterMap Event.completion?).foldl Step.merge
        (.finished key events.length kind) ∧
      (ofEvents catalog config (events ++ es)).steps =
        (ofEvents catalog config events).steps ++ [s] ∧
      s.outputSubRunId? = some subRun := by
  induction es using List.reverseRecOn with
  | nil => exact absurd rfl hne
  | append_singleton es e ih =>
    obtain ⟨c, he⟩ := hes e (by simp)
    have hl := indexed_ofEvents catalog config (events ++ es)
    obtain ⟨hcatalog, hconfig⟩ := catalog_config_ofEvents catalog config (events ++ es)
    rw [← List.append_assoc, ofEvents_append_singleton,
      steps_apply_of_completion? he.of_node he.reports, filterMap_append_singleton, he.reports,
      Option.toList_some]
    by_cases hfirst : es = []
    · subst hfirst
      rw [List.append_nil] at hl hcatalog ⊢
      rw [steps_completeStep_of_fresh hl hopen hfresh he.names_run, hcatalog, arrival_ofEvents,
        Step.complete_running _ _ _ (Event.isEmpty_of_completion? he.reports)]
      exact ⟨_, _, rfl, rfl, Step.outputSubRunId?_merge _ he.names_run⟩
    · have hbefore : ∀ e' ∈ es, ∃ c, e'.CompletesWith catalog config key subRun c := by
        intro e' he'
        exact hes e' (List.mem_append_left _ he')
      obtain ⟨kind, s, hs, hsteps, hsub⟩ := ih hfirst hbefore
      have hkey : s.key = key := hs ▸ Step.key_foldl_merge ..
      have hstatus : s.status = .completed := hs ▸ Step.status_foldl_merge ..
      have hnewest := NewestCompleted.of_last hsteps hkey hstatus hsub
      refine ⟨kind, s.merge c, ?_, ?_, s.outputSubRunId?_merge he.names_run⟩
      · rw [List.foldl_append, ← hs]
        rfl
      · rw [hnewest.steps_completeStep hl he.names_run, hcatalog, hconfig, if_pos he.merged, hsteps]
        simp

/-- Completions of a closed node, of kinds whose completions are merged, that all name a child run
which no completed step of the node names: however many follow one another, they make one step, and
it holds what they report with nothing lost. -/
theorem completions_collapse (catalog : Catalog) (config : LedgerConfig) (events : List Event)
    (key : NodeKey) (subRun : String) (es : List Event)
    (hopen : (ofEvents catalog config events).openStep? key = none)
    (hfresh : ∀ s ∈ (ofEvents catalog config events).steps, s.key = key →
      s.status = .completed → s.outputSubRunId? ≠ some subRun)
    (hne : es ≠ []) (hes : ∀ e ∈ es, ∃ c, e.CompletesWith catalog config key subRun c) :
    ∃ s, (es.foldl apply (ofEvents catalog config events)).steps =
        (ofEvents catalog config events).steps ++ [s] ∧
      s.key = key ∧ s.status = .completed ∧ s.Gathers (es.filterMap Event.completion?) := by
  have hl := indexed_ofEvents catalog config events
  have hreports : ∀ c ∈ es.filterMap Event.completion?, c.output.isSome = true := by
    intro c hc
    obtain ⟨e, he, hec⟩ := List.mem_filterMap.1 hc
    obtain ⟨c', he'⟩ := hes e he
    obtain rfl : c = c' := Option.some.inj (hec.symm.trans he'.reports)
    obtain ⟨output, houtput, -⟩ := Option.bind_eq_some_iff.1 he'.names_run
    exact Option.isSome_of_eq_some houtput
  have hsome : es.filterMap Event.completion? ≠ [] := by
    obtain ⟨e, he⟩ := List.exists_mem_of_ne_nil es hne
    obtain ⟨c, hc⟩ := hes e he
    exact List.ne_nil_of_mem (List.mem_filterMap.2 ⟨e, he, hc.reports⟩)
  obtain ⟨kind, s, rfl, hsteps, -⟩ :=
    steps_of_completions (hl.openSteps_eq_none hopen) hfresh hne hes
  rw [ofEvents, List.foldl_append] at hsteps
  exact ⟨_, hsteps, Step.key_foldl_merge .., Step.status_foldl_merge ..,
    Step.gathers_foldl_merge key events.length kind hsome hreports⟩

/-- Five reports of one agent: two of them are the longest ones, and two have no duration. -/
theorem completions_collapse_with_ties :
    let count (n : Nat) : Json := .number (.float (.ofInt n))
    let key : NodeKey := ⟨"r", "a"⟩
    let report (details : List (String × Json)) : Event := .nodeComplete "r" "a" (some "agent")
      (some (.object [("sub_run_id", .string "x")])) (some (.object details)) none
    let es := [[("input_tokens", count 3), ("model", .string "m")],
      [("duration_ms", count 9), ("output_tokens", count 7)],
      [("duration_ms", count 5), ("input_tokens", count 4), ("total_tokens", count 8)],
      [("duration_ms", count 9), ("output_tokens", count 6)],
      [("model", .string "n")]].map report
    let l := ofEvents .empty .standard [.nodeStart "r" "b" none none]
    (l.openStep? key = none ∧
      (∀ s ∈ l.steps, s.key = key → s.status = .completed → s.outputSubRunId? ≠ some "x") ∧
      es ≠ [] ∧ ∀ e ∈ es, ∃ c, e.CompletesWith .empty .standard key "x" c) ∧
      (∃ s, (es.foldl apply l).steps = l.steps ++ [s] ∧
        s.Gathers (es.filterMap Event.completion?)) ∧
      ((es.foldl apply l).steps.map fun s => (s.model, s.metrics)) = [(none, none),
        (some "n", some ⟨some (.ofInt 9), some 3, some 6, some 8, none⟩)] := by
  intro count key report es l
  have hopen : l.openStep? key = none := by decide +kernel
  have hfresh : ∀ s ∈ l.steps, s.key = key → s.status = .completed →
      s.outputSubRunId? ≠ some "x" := by
    decide +kernel
  have hes : ∀ e ∈ es, ∃ c, e.CompletesWith .empty .standard key "x" c := by
    intro e he
    obtain ⟨details, -, rfl⟩ := List.mem_map.1 he
    exact ⟨_, rfl, rfl, rfl, rfl⟩
  obtain ⟨s, hsteps, -, -, hgathers⟩ := completions_collapse .empty .standard _ key "x" es hopen
    hfresh (List.cons_ne_nil _ _) hes
  exact ⟨⟨hopen, hfresh, List.cons_ne_nil _ _, hes⟩, ⟨s, hsteps, hgathers⟩, by decide +kernel⟩

end Ledger

end RunWatch
