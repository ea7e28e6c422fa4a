import RunWatch.Proofs.Ledger.Locality
import RunWatch.Proofs.Ledger.Tables

/-!
# What is known of a run

An event changes what is known of the run that it carries, and of no other run
(`Ledger.summary?_apply_of_ne`). How it does so depends on the event and on what is known of the run
already, and not on the steps (`Ledger.summary?_apply_of_eq`). For every run with steps is known
(`Ledger.KnowsRuns`), so that an event which meets an open step adds nothing to what is known, as
if it had created the step.

* `Ledger.summary?_ofEvents`: what is known of a run is what the events of the run report, one after
  another.
-/

namespace RunWatch

open Text

namespace Ledger

section

variable (l : Ledger) (place : Nat) (runId : String)

@[simp] theorem summary?_blameStep (message : String) (ts : Option Instant) :
    (l.blameStep message ts place).summary? runId = l.summary? runId := by
  unfold blameStep
  simp only
  split <;> rfl

@[simp] theorem summary?_pauseRun (r : String) (waiting : WaitingInfo) :
    (l.pauseRun r waiting).summary? runId = l.summary? runId := by
  unfold pauseRun
  split <;> rfl

end

variable {l : Ledger} {s : Step} {key : NodeKey} {run runId : String}

theorem summary?_modifyRun_of_ne (f : RunSummary → RunSummary) (h : run ≠ runId) :
    (l.modifyRun run f).summary? runId = l.summary? runId := by
  rw [summary?, modifyRun, Table.get?_insert, if_neg h, summary?]

theorem summary?_addStep_of_ne (h : s.runId ≠ runId) :
    (l.addStep s).summary? runId = l.summary? runId :=
  summary?_modifyRun_of_ne (fun summary => summary) h

theorem summary?_addOpenStep_of_ne (h : s.runId ≠ runId) :
    (l.addOpenStep s).summary? runId = l.summary? runId :=
  summary?_addStep_of_ne h

theorem summary?_completeStep_of_ne (h : key.runId ≠ runId) (place : Nat)
    (nodeType : Option String) (c : Completion) :
    (l.completeStep place key nodeType c).summary? runId = l.summary? runId := by
  unfold completeStep
  simp only
  split
  · rfl
  · split
    · rfl
    · exact summary?_addStep_of_ne h

theorem summary?_pauseStep_of_ne (h : key.runId ≠ runId) (place : Nat) (waiting : WaitingInfo)
    (ts : Option Instant) :
    (l.pauseStep place key waiting ts).summary? runId = l.summary? runId := by
  unfold pauseStep
  split
  · rfl
  · exact summary?_addOpenStep_of_ne h

theorem summary?_failStep_of_ne (h : key.runId ≠ runId) (place : Nat) (message : String)
    (ts : Option Instant) :
    (l.failStep place key message ts).summary? runId = l.summary? runId := by
  unfold failStep
  split
  · rfl
  · exact summary?_addStep_of_ne h

theorem summary?_failRun_of_ne (h : run ≠ "" → run ≠ runId) (message : String)
    (ts : Option Instant) :
    (l.failRun run message ts).summary? runId = l.summary? runId := by
  have hrun : (if run = "" then l else l.modifyRun run fun s => s.fail message ts).summary? runId =
      l.summary? runId := by
    split
    · rfl
    · next hempty => exact summary?_modifyRun_of_ne _ (h hempty)
  unfold failRun
  simp only
  split
  · rw [summary?_blameStep, hrun]
  · exact hrun

/-- What is known of a run stays when an event carries another run, or none. -/
theorem summary?_apply_of_ne {e : Event} (h : e.runId? ≠ some runId) :
    (l.apply e).summary? runId = l.summary? runId := by
  change (l.record l.arrival e).summary? runId = l.summary? runId
  have hne : ∀ run : String, full? run ≠ some runId → run ≠ "" → run ≠ runId := by
    rintro run hfull hempty rfl
    exact hfull (if_neg hempty)
  cases e with
  | nodeStart run nodeId nodeType ts =>
    simp only [record]
    split
    · rfl
    · next hid => exact summary?_addOpenStep_of_ne (hne run h fun hrun => hid (.inl hrun))
  | nodeComplete run nodeId nodeType result details ts =>
    simp only [record]
    split
    · rfl
    · next hid => exact summary?_completeStep_of_ne (hne run h fun hrun => hid (.inl hrun)) ..
  | flowWaiting run nodeId waiting ts =>
    simp only [record]
    split
    · rfl
    · next hrun =>
      cases nodeId.bind full? with
      | some nodeId => exact summary?_pauseStep_of_ne (hne run h hrun) ..
      | none => exact summary?_pauseRun ..
  | flowError run nodeId error ts =>
    simp only [record]
    cases nodeId.bind full? with
    | some nodeId =>
      simp only
      split
      · rfl
      · next hrun => exact summary?_failStep_of_ne (hne run h hrun) ..
    | none => exact summary?_failRun_of_ne (hne run h) ..
  | flowStart run | flowComplete run | flowCancelled run =>
    simp only [record]
    split
    · rfl
    · next hrun => exact summary?_modifyRun_of_ne _ (hne run h hrun)
  | subworkflowUpdate | traceUpdate | unknown => rfl

end Ledger

/-! ### Reports -/

/-- What an event says of its run as a whole, if anything. An event of a node says no more than that
the run exists. -/
def Event.report? : Event → Option (RunSummary → RunSummary)
  | flowStart _ parentRunId ts => some fun s => s.start (parentRunId.bind full?) ts
  | flowComplete _ details ts => some fun s => s.complete details ts
  | flowCancelled _ ts => some fun s => s.cancel ts
  | nodeStart _ nodeId _ _ | nodeComplete _ nodeId _ _ _ _ => (full? nodeId).map fun _ => id
  | flowWaiting _ nodeId _ _ => (nodeId.bind full?).map fun _ => id
  | flowError _ nodeId error ts =>
    match nodeId.bind full? with
    | some _ => some id
    | none => some fun s => s.fail (errorText error) ts
  | subworkflowUpdate .. | traceUpdate .. | unknown => none

namespace RunSummary

variable (runId : String) (known : Option RunSummary)

/-- What is known of a run after a report. -/
def after (report : RunSummary → RunSummary) : RunSummary := report (known.getD (.fresh runId))

/-- What is known of a run after an event of the run. -/
def told (e : Event) : Option RunSummary := (e.report?.map (after runId known)).or known

variable {runId known}

theorem some_after_id (h : known.isSome = true) : some (after runId known id) = known := by
  obtain ⟨s, rfl⟩ := Option.isSome_iff_exists.1 h
  rfl

end RunSummary

namespace Ledger

open RunSummary

/-- Every run with steps is known. -/
def KnowsRuns (l : Ledger) : Prop :=
  ∀ runId, l.hasSteps runId = true → (l.summary? runId).isSome = true

section

variable {l : Ledger} {s : Step} {key : NodeKey} {runId : String} {place : Nat}

theorem summary?_modifyRun_self (f : RunSummary → RunSummary) :
    (l.modifyRun runId f).summary? runId = some (after runId (l.summary? runId) f) := by
  rw [summary?, modifyRun, Table.get?_insert_self]
  rfl

theorem summary?_addStep_self :
    (l.addStep s).summary? s.runId = some (after s.runId (l.summary? s.runId) id) :=
  summary?_modifyRun_self id

theorem summary?_addOpenStep_self :
    (l.addOpenStep s).summary? s.runId = some (after s.runId (l.summary? s.runId) id) :=
  summary?_addStep_self

theorem hasSteps_of_openSteps (hl : l.Indexed) {i : Nat} (h : l.openSteps.get? key = some i) :
    l.hasSteps key.runId = true := by
  rw [hl.openSteps_eq] at h
  obtain ⟨s, hs, rfl, -⟩ := History.exists_of_openPlace? h
  rw [hl.hasSteps_eq, List.any_eq_true]
  exact ⟨s, List.mem_of_getElem? hs, beq_self_eq_true _⟩

theorem hasSteps_of_duplicate? (hl : l.Indexed) {kind : Option String} {c : Completion} {i : Nat}
    (h : l.duplicate? key kind c = some i) : l.hasSteps key.runId = true := by
  rw [hl.duplicate?_eq] at h
  obtain ⟨s, hs, hrepeats⟩ := exists_of_lastWhere?_eq_some h
  have hkey : s.key = key := History.key_of_repeats l.config hrepeats
  rw [hl.hasSteps_eq, List.any_eq_true]
  exact ⟨s, List.mem_of_getElem? hs, by rw [← hkey, Step.key, beq_self_eq_true]⟩

namespace KnowsRuns

theorem of_eq {l' : Ledger} (h : l.KnowsRuns) (hbyRun : l'.byRun = l.byRun)
    (hsummaries : l'.summaries = l.summaries) : l'.KnowsRuns := by
  intro runId hsteps
  rw [hasSteps, places, hbyRun] at hsteps
  rw [summary?, hsummaries]
  exact h runId hsteps

theorem modifyRun (h : l.KnowsRuns) (run : String) (f : RunSummary → RunSummary) :
    (l.modifyRun run f).KnowsRuns := by
  intro runId hsteps
  by_cases hrun : run = runId
  · subst hrun
    rw [summary?_modifyRun_self, Option.isSome_some]
  · rw [summary?_modifyRun_of_ne f hrun]
    exact h runId hsteps

theorem addStep (h : l.KnowsRuns) (s : Step) : (l.addStep s).KnowsRuns := by
  intro runId hsteps
  by_cases hrun : s.runId = runId
  · subst hrun
    rw [summary?_addStep_self, Option.isSome_some]
  · rw [summary?_addStep_of_ne hrun]
    rw [hasSteps, places_addStep, if_neg hrun, List.append_nil] at hsteps
    exact h runId hsteps

theorem filed {l' : Ledger} (h : l.KnowsRuns) (hl : l.Filed place l') : l'.KnowsRuns := by
  cases hl with
  | @add s _ _ hbyRun _ hsummaries => exact (h.addStep s).of_eq hbyRun hsummaries
  | keep _ hbyRun _ hsummaries =>
    rcases hsummaries with hsame | ⟨run, f, hrun⟩
    · exact h.of_eq hbyRun hsame
    · exact (h.modifyRun run f).of_eq hbyRun hrun

end KnowsRuns

/-! ### The run of an event -/

theorem summary?_completeStep_self (hl : l.Indexed) (h : l.KnowsRuns) (nodeType : Option String)
    (c : Completion) : (l.completeStep place key nodeType c).summary? key.runId =
      some (after key.runId (l.summary? key.runId) id) := by
  unfold completeStep
  simp only
  split
  · next hi => exact (some_after_id (h _ (hasSteps_of_openSteps hl hi))).symm
  · split
    · next hd => exact (some_after_id (h _ (hasSteps_of_duplicate? hl hd))).symm
    · exact summary?_addStep_self

theorem summary?_pauseStep_self (hl : l.Indexed) (h : l.KnowsRuns) (waiting : WaitingInfo)
    (ts : Option Instant) : (l.pauseStep place key waiting ts).summary? key.runId =
      some (after key.runId (l.summary? key.runId) id) := by
  unfold pauseStep
  split
  · next hi => exact (some_after_id (h _ (hasSteps_of_openSteps hl hi))).symm
  · exact summary?_addOpenStep_self

theorem summary?_failStep_self (hl : l.Indexed) (h : l.KnowsRuns) (message : String)
    (ts : Option Instant) : (l.failStep place key message ts).summary? key.runId =
      some (after key.runId (l.summary? key.runId) id) := by
  unfold failStep
  split
  · next hi => exact (some_after_id (h _ (hasSteps_of_openSteps hl hi))).symm
  · exact summary?_addStep_self

theorem summary?_failRun_self (hne : runId ≠ "") (message : String) (ts : Option Instant) :
    (l.failRun runId message ts).summary? runId =
      some (after runId (l.summary? runId) fun s => s.fail message ts) := by
  unfold failRun
  simp only [hne, if_false]
  split
  · rw [summary?_blameStep, summary?_modifyRun_self]
  · exact summary?_modifyRun_self _

/-- What is known of a run after an event that carries the run. -/
theorem summary?_apply_of_eq (hl : l.Indexed) (h : l.KnowsRuns) {e : Event}
    (hrun : e.runId? = some runId) : (l.apply e).summary? runId = told runId (l.summary? runId) e := by
  change (l.record l.arrival e).summary? runId = _
  cases e with
  | nodeStart run nodeId nodeType ts =>
    obtain ⟨rfl, hne⟩ := full?_eq_some_iff.1 hrun
    simp only [record, hne, false_or, told, Event.report?, full?]
    split
    · rfl
    · exact summary?_addOpenStep_self
  | nodeComplete run nodeId nodeType result details ts =>
    obtain ⟨rfl, hne⟩ := full?_eq_some_iff.1 hrun
    simp only [record, hne, false_or, told, Event.report?, full?]
    split
    · rfl
    · exact summary?_completeStep_self hl h ..
  | flowWaiting run nodeId waiting ts =>
    obtain ⟨rfl, hne⟩ := full?_eq_some_iff.1 hrun
    simp only [record, hne, if_false, told, Event.report?]
    cases nodeId.bind full? with
    | some nodeId => exact summary?_pauseStep_self hl h ..
    | none => exact summary?_pauseRun ..
  | flowError run nodeId error ts =>
    obtain ⟨rfl, hne⟩ := full?_eq_some_iff.1 hrun
    simp only [record, hne, if_false, told, Event.report?]
    cases nodeId.bind full? with
    | some nodeId => exact summary?_failStep_self hl h ..
    | none => exact summary?_failRun_self hne ..
  | flowStart run | flowComplete run | flowCancelled run =>
    obtain ⟨rfl, hne⟩ := full?_eq_some_iff.1 hrun
    simp only [record, hne, if_false, told, Event.report?]
    exact summary?_modifyRun_self _
  | subworkflowUpdate | traceUpdate | unknown => rfl

end

/-! ### Streams -/

variable (catalog : Catalog) (config : LedgerConfig)

theorem knowsRuns_ofEvents (events : List Event) : (ofEvents catalog config events).KnowsRuns := by
  induction events using List.reverseRecOn with
  | nil =>
    intro runId h
    cases h
  | append_singleton events e ih =>
    exact ih.filed (filed_ofEvents catalog config events e)

/-- What is known of a run is what its events report, one after another. -/
theorem summary?_ofEvents (events : List Event) (runId : String) :
    (ofEvents catalog config events).summary? runId =
      (events.filter fun e => e.runId? == some runId).foldl (told runId) none := by
  induction events using List.reverseRecOn with
  | nil => rfl
  | append_singleton events e ih =>
    rw [ofEvents_append_singleton, List.filter_append, List.foldl_append, ← ih]
    by_cases hrun : e.runId? = some runId
    · have hl := indexed_ofEvents catalog config events
      have hknows := knowsRuns_ofEvents catalog config events
      rw [summary?_apply_of_eq hl hknows hrun, List.filter_cons_of_pos (by simp [hrun])]
      rfl
    · rw [summary?_apply_of_ne hrun, List.filter_cons_of_neg (by simp [hrun])]
      rfl

end Ledger

end RunWatch
