import RunWatch.Proofs.Ledger.Locality
import RunWatch.Proofs.Ledger.Payload

/-!
# Completions that come again

A runtime may report the completion of an agent more than once. The first report ends the open step
of the node, or is merged into the step that it repeats, or makes a step. In each case the last step
that the report repeats has taken it in then, and the node has no open step (`Ledger.Holds`), so the
same report is merged into this very step, which has nothing to gain from it
(`Ledger.Holds.completeStep_eq`).

* `Step.merge_merge`, `Step.merge_complete`: a report that a step has taken in changes it no more.
* `Ledger.holds_completeStep`: a completion leaves a ledger that holds its report.
* `Ledger.redelivery_idempotent`: a completion that comes again and again does what it did once.
-/

namespace RunWatch

open Text

/-! ### Metrics -/

namespace Metrics

variable (m n : Metrics)

theorem empty_orElse : empty.orElse m = m := by simp [orElse, empty]

theorem orElse_empty : m.orElse empty = m := by simp [orElse, empty]

/-- Two reports joined, before it is asked whether they are empty. -/
def join (prior next : Metrics) : Metrics :=
  if longer prior.durationMs next.durationMs then prior.orElse next else next.orElse prior

theorem longer_self (d : Option Binary64) : longer d d = false := by
  cases d <;> simp [longer, Binary64.less]

/-- What has the say beside a report has it no longer, once the report is joined in, unless it is
the longer one. -/
theorem longer_or {d e : Option Binary64} (h : longer d e = false) : longer (e.or d) e = false := by
  cases e with
  | none => exact h
  | some x => exact longer_self (some x)

theorem join_join : (m.join n).join n = m.join n := by
  by_cases h : longer m.durationMs n.durationMs = true
  · -- The earlier report has a duration, which stays and is the longer one again.
    have hduration : m.durationMs.or n.durationMs = m.durationMs := by
      cases hm : m.durationMs with
      | none => rw [hm] at h; cases h
      | some x => rfl
    have hlonger : longer (m.orElse n).durationMs n.durationMs = true := by
      rw [orElse, hduration, h]
    rw [join, join, if_pos h, if_pos hlonger]
    simp [orElse, Option.or_assoc]
  · have hshorter : longer (n.orElse m).durationMs n.durationMs = false :=
      longer_or (by simpa using h)
    rw [join, join, if_neg h, if_neg (by simp [hshorter])]
    simp [orElse, ← Option.or_assoc]

theorem getD_full? : m.full?.getD empty = m := by
  unfold full?
  split
  · next hempty =>
    cases m
    simp [isEmpty] at hempty
    simp [empty, hempty]
  · rfl

end Metrics

section

open Metrics

/-- Two reports are joined as metrics are, where a missing one counts as empty. -/
theorem mergeMetrics_eq (prior next : Option Metrics) :
    mergeMetrics prior next = ((prior.getD .empty).join (next.getD .empty)).full? := by
  cases prior with
  | none =>
    cases next with
    | none => rfl
    | some n =>
      show n.full? = (n.orElse .empty).full?
      rw [orElse_empty]
  | some p =>
    cases next with
    | none =>
      show p.full? = (p.join .empty).full?
      unfold join
      split
      · rw [orElse_empty]
      · rw [empty_orElse]
    | some n =>
      simp only [mergeMetrics, Option.getD_some, join]
      split <;> rfl

/-- Metrics that have taken in a report take in nothing from the same report. -/
theorem mergeMetrics_mergeMetrics (prior next : Option Metrics) :
    mergeMetrics (mergeMetrics prior next) next = mergeMetrics prior next := by
  rw [mergeMetrics_eq (mergeMetrics prior next), mergeMetrics_eq prior, getD_full?, join_join]

end

/-- The first report is taken as it is, unless there is nothing in it. -/
theorem mergeMetrics_none {metrics : Option Metrics}
    (h : ∀ m, metrics = some m → m.isEmpty = false) : mergeMetrics none metrics = metrics := by
  cases metrics with
  | none => rfl
  | some m =>
    show m.full? = some m
    rw [Metrics.full?, h m rfl, if_neg Bool.false_ne_true]

/-- Metrics joined with themselves stay, unless there is nothing in them. -/
theorem mergeMetrics_self {metrics : Option Metrics}
    (h : ∀ m, metrics = some m → m.isEmpty = false) : mergeMetrics metrics metrics = metrics := by
  have hagain := mergeMetrics_mergeMetrics none metrics
  rwa [mergeMetrics_none h] at hagain

/-! ### Steps -/

namespace Step

variable (s : Step) (c : Completion) (kind : Option String)

/-- A report with an output replaces the one before. -/
theorem output_merge {c : Completion} (h : c.output.isSome = true) :
    (s.merge c).output = c.output := by
  obtain ⟨output, houtput⟩ := Option.isSome_iff_exists.1 h
  rw [merge, houtput, Option.some_or]

theorem merge_merge : (s.merge c).merge c = s.merge c := by
  simp [merge, mergeMetrics_mergeMetrics, ← Option.or_assoc]

theorem merge_complete (hmetrics : ∀ m, c.metrics = some m → m.isEmpty = false) :
    (s.complete c kind).merge c = s.complete c kind := by
  simp [merge, complete, mergeMetrics_self hmetrics]

end Step

/-! ### Ledgers -/

theorem modify_of_fixed {α : Type*} {as : List α} {i : Nat} {f : α → α}
    (h : ∀ a, as[i]? = some a → f a = a) : as.modify i f = as := by
  refine List.ext_getElem? fun j => ?_
  rw [List.getElem?_modify]
  by_cases hij : i = j
  · subst hij
    cases ha : as[i]? with
    | none => rfl
    | some a => simp [h a ha]
  · simp [hij]

namespace Ledger

open History

/-- A ledger holds the report of a completion: the node has no open step, and the last step that the
completion repeats gains nothing from the report. -/
structure Holds (l : Ledger) (key : NodeKey) (kind : Option String) (c : Completion) : Prop where
  closed : l.openSteps.get? key = none
  taken : ∃ i s, lastWhere? (repeats l.config key kind c) l.steps = some i ∧
    l.steps[i]? = some s ∧ s.merge c = s

section

variable {l : Ledger} {key : NodeKey} {kind : Option String} {c : Completion} {i : Nat}

/-- A report that a ledger holds changes nothing. -/
theorem Holds.completeStep_eq {nodeType : Option String}
    (h : l.Holds key (l.catalog.resolve key.nodeId nodeType) c) (hl : l.Indexed) (place : Nat) :
    l.completeStep place key nodeType c = l := by
  obtain ⟨hclosed, i, s, hlast, hs, hmerge⟩ := h
  have hsteps : l.steps.modify i (fun s => s.merge c) = l.steps := by
    refine modify_of_fixed fun t ht => ?_
    obtain rfl : s = t := Option.some.inj (hs.symm.trans ht)
    exact hmerge
  simp only [completeStep, hclosed, hl.duplicate?_eq, hlast, modifyStep, hsteps]

variable (hkind : l.config.isDedupKind kind = true)
  (hsub : (c.output.bind subRunIdOf?).isSome = true)

include hkind hsub

/-- A completed step of the node with the output of a report is one that the report repeats. -/
theorem repeats_of_output {s : Step} (hkey : s.key = key) (hstatus : s.status = .completed)
    (houtput : s.output = c.output) : repeats l.config key kind c s = true := by
  obtain ⟨subRun, hsubRun⟩ := Option.isSome_iff_exists.1 hsub
  simp [repeats, hkind, hsubRun, hkey, hstatus, Step.outputSubRunId?, houtput]

/-- The report ends the open step of the node. This is the newest one, so no later step is
repeated. -/
theorem holds_closeStep (hl : l.Indexed) (hmetrics : ∀ m, c.metrics = some m → m.isEmpty = false)
    (hopen : l.openSteps.get? key = some i) :
    ((l.closeNode key).modifyStep i fun s => s.complete c kind).Holds key kind c := by
  obtain ⟨s, hs, hkey, -, hnewest⟩ := (hl.openSteps_get?_iff key i).1 hopen
  have hget : ((l.closeNode key).modifyStep i fun s => s.complete c kind).steps[i]? =
      some (s.complete c kind) := by
    simp [hs]
  refine ⟨by simp [Table.get?_erase], i, _, lastWhere?_eq_some_iff.2 ⟨⟨_, hget, ?_⟩, ?_⟩, hget,
    s.merge_complete c kind hmetrics⟩
  · exact repeats_of_output hkind hsub hkey rfl rfl
  · intro j t hj ht
    have hlater : l.steps[j]? = some t := by
      simpa [List.getElem?_modify, Nat.ne_of_lt hj] using ht
    rw [Bool.eq_false_iff]
    exact fun hrepeat => hnewest j t hj hlater (key_of_repeats l.config hrepeat)

/-- The report is merged into the last step that it repeats, which it repeats after that as well. -/
theorem holds_mergeStep (hopen : l.openSteps.get? key = none)
    (hlast : lastWhere? (repeats l.config key kind c) l.steps = some i) :
    (l.modifyStep i fun s => s.merge c).Holds key kind c := by
  obtain ⟨s, hs, hrepeat⟩ := exists_of_lastWhere?_eq_some hlast
  have houtput : (s.merge c).output = c.output :=
    s.output_merge (Option.isSome_of_isSome_bind hsub)
  have hkey : s.key = key := key_of_repeats l.config hrepeat
  have hstatus : s.status = .completed := status_of_repeats hrepeat
  have hagain : repeats l.config key kind c (s.merge c) = true :=
    repeats_of_output hkind hsub hkey hstatus houtput
  refine ⟨hopen, i, s.merge c, (lastWhere?_modify fun t ht => ?_).trans hlast, by simp [hs],
    s.merge_merge c⟩
  obtain rfl : s = t := Option.some.inj (hs.symm.trans ht)
  exact hagain.trans hrepeat.symm

/-- The report makes a step, which is the last one. -/
theorem holds_addStep (hmetrics : ∀ m, c.metrics = some m → m.isEmpty = false)
    (hopen : l.openSteps.get? key = none) (place : Nat) :
    (l.addStep ((Step.running key place kind none).complete c kind)).Holds key kind c := by
  have hrepeat : repeats l.config key kind c ((Step.running key place kind none).complete c kind) =
      true := repeats_of_output hkind hsub rfl rfl rfl
  refine ⟨hopen, l.steps.length, _, ?_, List.getElem?_concat_length ..,
    Step.merge_complete _ c kind hmetrics⟩
  exact (lastWhere?_append_singleton _ _ _).trans (if_pos hrepeat)

end

/-- A completion leaves a ledger that holds its report, in whichever way it is taken in. -/
theorem holds_completeStep {l : Ledger} (hl : l.Indexed) (key : NodeKey) (nodeType : Option String)
    (c : Completion)
    (hkind : l.config.isDedupKind (l.catalog.resolve key.nodeId nodeType) = true)
    (hsub : (c.output.bind subRunIdOf?).isSome = true)
    (hmetrics : ∀ m, c.metrics = some m → m.isEmpty = false) (place : Nat) :
    (l.completeStep place key nodeType c).Holds key (l.catalog.resolve key.nodeId nodeType) c := by
  unfold completeStep
  simp only
  split
  · next i hopen => exact holds_closeStep hkind hsub hl hmetrics hopen
  · next hopen =>
    split
    · next i hlast =>
      rw [hl.duplicate?_eq] at hlast
      exact holds_mergeStep hkind hsub hopen hlast
    · exact holds_addStep hkind hsub hmetrics hopen place

/-! ### Events -/

section

variable {l : Ledger} {runId nodeId : String} {nodeType : Option String}
  {result details : Option Json} {ts : Option Instant} (hrun : runId ≠ "") (hnode : nodeId ≠ "")

include hrun hnode

theorem apply_nodeComplete : l.apply (.nodeComplete runId nodeId nodeType result details ts) =
    { l.completeStep l.arrival ⟨runId, nodeId⟩ nodeType (.of result details ts) with
      arrival := l.arrival + 1 } := by
  simp [apply, record, hrun, hnode]

/-- Once a ledger holds the report of an event, the event does no more than count. -/
theorem Holds.foldl_apply (hl : l.Indexed)
    (h : l.Holds ⟨runId, nodeId⟩ (l.catalog.resolve nodeId nodeType) (.of result details ts))
    (n : Nat) :
    (List.replicate n (.nodeComplete runId nodeId nodeType result details ts)).foldl apply l =
      { l with arrival := l.arrival + n } := by
  induction n generalizing l with
  | zero => rfl
  | succ n ih =>
    have hnext : l.apply (.nodeComplete runId nodeId nodeType result details ts) =
        { l with arrival := l.arrival + 1 } := by
      rw [apply_nodeComplete hrun hnode, h.completeStep_eq hl]
    have hrest := ih (l := { l with arrival := l.arrival + 1 }) (hl.of_eq rfl rfl rfl)
      ⟨h.closed, h.taken⟩
    rw [List.replicate_succ, List.foldl_cons, hnext, hrest]
    simp only [Nat.add_assoc, Nat.add_comm 1 n]

end

/-- A completion whose kind is merged and whose result names a child run does once what it does when
it comes again and again, whether it ends an open step, is merged or makes a step: nothing differs
but the number of events. -/
theorem redelivery_idempotent (catalog : Catalog) (config : LedgerConfig) (events : List Event)
    (runId nodeId : String) (nodeType : Option String) (result : Json) (details : Option Json)
    (ts : Option Instant) (hrun : runId ≠ "") (hnode : nodeId ≠ "")
    (hkind : config.isDedupKind (catalog.resolve nodeId nodeType) = true)
    (hsub : (subRunIdOf? result).isSome = true) (n : Nat) :
    let e : Event := .nodeComplete runId nodeId nodeType (some result) details ts
    let once := (ofEvents catalog config events).apply e
    (List.replicate n e).foldl apply once = { once with arrival := once.arrival + n } := by
  intro e once
  have hl : (ofEvents catalog config events).Indexed := indexed_ofEvents catalog config events
  obtain ⟨hcatalog, hconfig⟩ := catalog_config_ofEvents catalog config events
  obtain ⟨honceCatalog, -⟩ := catalog_config_apply (ofEvents catalog config events) e
  have hmetrics : ∀ m, (Completion.of (some result) details ts).metrics = some m →
      m.isEmpty = false := fun m hm => by
    obtain ⟨v, -, hv⟩ := Option.bind_eq_some_iff.1 hm
    exact Metrics.isEmpty_of_ofDetails? hv
  have hholds := holds_completeStep hl ⟨runId, nodeId⟩ nodeType (.of (some result) details ts)
    (by rwa [hcatalog, hconfig]) hsub hmetrics (ofEvents catalog config events).arrival
  have honce : once = _ := apply_nodeComplete hrun hnode
  refine Holds.foldl_apply hrun hnode (hl.apply e) ?_ n
  rw [honceCatalog]
  change once.Holds ..
  rw [honce]
  exact ⟨hholds.closed, hholds.taken⟩

/-- The second report of an agent is shorter and tells of more tokens. It is merged into the step of
the first one, and comes three times more. -/
theorem redelivery_idempotent_of_merged :
    let count (n : Nat) : Json := .number (.float (.ofInt n))
    let result : Json := .object [("sub_run_id", .string "c")]
    let first : Event := .nodeComplete "r" "a" (some "agent") (some result)
      (some (.object [("duration_ms", count 9), ("input_tokens", count 3)])) none
    let details : Json := .object [("duration_ms", count 5), ("input_tokens", count 4),
      ("output_tokens", count 7)]
    let e : Event := .nodeComplete "r" "a" (some "agent") (some result) (some details) none
    let once := (ofEvents .empty .standard [.nodeStart "r" "a" none none, first]).apply e
    (LedgerConfig.standard.isDedupKind (Catalog.resolve .empty "a" (some "agent")) = true ∧
        (subRunIdOf? result).isSome = true) ∧
      (once.steps.map fun s => s.metrics.map Metrics.inputTokens) = [some (some 3)] ∧
      (once.steps.map fun s => s.metrics.map Metrics.outputTokens) = [some (some 7)] ∧
      (List.replicate 3 e).foldl apply once = { once with arrival := once.arrival + 3 } := by
  intro count result first details e once
  have hkind : LedgerConfig.standard.isDedupKind (Catalog.resolve .empty "a" (some "agent")) =
      true := by decide
  have hsub : (subRunIdOf? result).isSome = true := by decide
  refine ⟨⟨hkind, hsub⟩, by decide +kernel, by decide +kernel, ?_⟩
  exact redelivery_idempotent .empty .standard [.nodeStart "r" "a" none none, first] "r" "a"
    (some "agent") result (some details) none (by decide) (by decide) hkind hsub 3

end Ledger

end RunWatch
