import RunWatch.Proofs.Ledger.Locality
import RunWatch.Proofs.Ledger.OpenTable
import RunWatch.Proofs.Ledger.Summaries
import RunWatch.Proofs.Scope
import RunWatch.Proofs.Tree
import RunWatch.View

/-!
# Events of runs out of scope

A view shows the runs in the scope of its root run. An event of another run, unless it may say where
a run comes from (`Event.saysOrigin`), leaves what is shown as it is, with one exception: the
failure of a run without steps is noted on the last step of all, which may be one that is shown
(`StraysInto`).

* `Ledger.stepTree_congr`: the tree depends on the outlines of the steps in scope only.
* `RunView.derive_append_of_outside`: what such an event leaves, and what the exception changes.
-/

namespace RunWatch

/-! ### Events that say nothing of origins -/

/-- Whether an event may say where a run comes from: a start of a run, a link or a trace. -/
def Event.saysOrigin : Event → Bool
  | flowStart .. | subworkflowUpdate .. | traceUpdate .. => true
  | _ => false

section

variable {e : Event} (h : e.saysOrigin = false) (events : List Event)

include h

theorem Event.isRootStart_of_not_saysOrigin : e.isRootStart = false := by
  cases e with
  | flowStart => cases h
  | _ => rfl

theorem Links.ofEvents_append_of_not_saysOrigin :
    Links.ofEvents (events ++ [e]) = Links.ofEvents events := by
  rw [ofEvents, List.foldl_append, List.foldl_cons, List.foldl_nil, ← ofEvents]
  cases e with
  | flowStart | subworkflowUpdate | traceUpdate => cases h
  | _ => rfl

/-- A root run stays the root run after an event that starts none. -/
theorem rootRunId?_append_of_not_saysOrigin {links : Links} {root : String}
    (hroot : rootRunId? events links = some root) :
    rootRunId? (events ++ [e]) links = some root := by
  simp only [rootRunId?] at hroot ⊢
  rw [List.reverse_append, List.reverse_singleton, List.singleton_append,
    List.filter_cons_of_neg (by simp [Event.isRootStart_of_not_saysOrigin h]),
    List.filterMap_append, List.find?_append, ← Option.or_assoc, hroot, Option.some_or]

end

/-! ### Steps in scope -/

namespace History

/-- Whether a node belongs to some runs. -/
def inRuns (runs : List String) (key : NodeKey) : Bool := runs.contains key.runId

/-- A failure that names no node, of a run without steps, is noted on a step of some runs: the last
step of all. -/
structure StraysInto (runs : List String) (steps : List Step) (e : Event) (s : Step) : Prop where
  strays : e.strays steps = true
  last : steps.getLast? = some s
  mem_runs : s.runId ∈ runs

section

variable {catalog : Catalog} {config : LedgerConfig} {place : Nat} {steps : List Step} {e : Event}
  {runs : List String} {run : String}

theorem partOf_inRuns_append_singleton (steps : List Step) (s : Step) :
    partOf (inRuns runs) (steps ++ [s]) =
      if s.runId ∈ runs then partOf (inRuns runs) steps ++ [s] else partOf (inRuns runs) steps := by
  rw [partOf_append_singleton, inRuns, Step.key]
  simp only [List.contains_iff_mem]

/-- An event of another run that does not stray leaves the steps of some runs. -/
theorem partOf_record_of_outside (hrun : e.runId? = some run) (hout : run ∉ runs)
    (h : ∀ s, ¬ StraysInto runs steps e s) :
    partOf (inRuns runs) (record catalog config place steps e) = partOf (inRuns runs) steps := by
  by_cases hstray : e.strays steps = true
  · cases e with
    | flowError runId nodeId error ts =>
      rw [record_of_strays hrun hstray]
      rcases List.eq_nil_or_concat steps with rfl | ⟨init, s, rfl⟩
      · rfl
      · have hs : s.runId ∉ runs := fun hs => h s ⟨hstray, by simp, hs⟩
        rw [List.concat_eq_append, updateLast_append_singleton, if_pos rfl,
          partOf_inRuns_append_singleton, partOf_inRuns_append_singleton, Step.runId_blame,
          if_neg hs, if_neg hs]
    | _ => cases hstray
  · have hconcerns : ∀ key, e.concerns key = true → inRuns runs key = false := fun key hkey => by
      rw [inRuns, ← Option.some.inj (hrun.symm.trans (Event.runId?_of_concerns hkey))]
      simpa using hout
    rw [partOf_record hconcerns (by simpa using hstray), if_neg Bool.false_ne_true]

/-- An event that strays changes the last one of the steps of some runs. -/
theorem partOf_record_of_straysInto (catalog : Catalog) (config : LedgerConfig) (place : Nat)
    {runId : String} {nodeId : Option String} {error : Option Json} {ts : Option Instant} {s : Step}
    (hrun : (Event.flowError runId nodeId error ts).runId? = some run)
    (h : StraysInto runs steps (.flowError runId nodeId error ts) s) :
    ∃ shown, partOf (inRuns runs) steps = shown ++ [s] ∧
      partOf (inRuns runs) (record catalog config place steps (.flowError runId nodeId error ts)) =
        shown ++ [s.blame (Event.errorText error) ts] := by
  obtain ⟨init, rfl⟩ := List.getLast?_eq_some_iff.1 h.last
  refine ⟨partOf (inRuns runs) init, ?_, ?_⟩
  · rw [partOf_inRuns_append_singleton, if_pos h.mem_runs]
  · rw [record_of_strays hrun h.strays, updateLast_append_singleton, if_pos rfl,
      partOf_inRuns_append_singleton, Step.runId_blame, if_pos h.mem_runs]

/-- In any case an event of another run leaves the outlines of the steps of some runs. -/
theorem sameOutline_record_of_outside (hrun : e.runId? = some run) (hout : run ∉ runs) :
    List.Forall₂ Step.SameOutline (partOf (inRuns runs) steps)
      (partOf (inRuns runs) (record catalog config place steps e)) := by
  have hsame : ∀ ss : List Step, List.Forall₂ Step.SameOutline ss ss := fun ss =>
    List.forall₂_same.2 fun s _ => .refl s
  by_cases h : ∃ s, StraysInto runs steps e s
  · obtain ⟨s, hs⟩ := h
    cases e with
    | flowError runId nodeId error ts =>
      obtain ⟨shown, hbefore, hafter⟩ :=
        partOf_record_of_straysInto catalog config place hrun hs
      rw [hbefore, hafter]
      exact List.rel_append (hsame shown) (.cons (.blame s _ ts) .nil)
    | _ => cases hs.strays
  · rw [partOf_record_of_outside hrun hout fun s hs => h ⟨s, hs⟩]
    exact hsame _

/-- Steps of some runs that have the same outlines do so in each of the runs. -/
theorem sameOutline_of_mem_runs {ss ts : List Step}
    (h : List.Forall₂ Step.SameOutline (partOf (inRuns runs) ss) (partOf (inRuns runs) ts))
    (hrun : run ∈ runs) : List.Forall₂ Step.SameOutline (ss.filter fun s => s.runId == run)
      (ts.filter fun s => s.runId == run) := by
  have hfilter : ∀ us : List Step, us.filter (fun s => s.runId == run) =
      (partOf (inRuns runs) us).filter fun s => s.runId == run := fun us => by
    rw [partOf, List.filter_filter]
    refine List.filter_congr fun s _ => ?_
    by_cases hs : s.runId = run
    · simp [inRuns, Step.key, hs, hrun]
    · simp [hs]
  rw [hfilter ss, hfilter ts]
  refine List.rel_filter (fun s t hst => ?_) h
  simp only [hst.runId_eq]

end

end History

/-! ### The tree -/

/-- The tree below a root run depends on the outlines of the steps in scope only. -/
theorem Ledger.stepTree_congr {l l' : Ledger} {links : Links} {config : LedgerConfig}
    {root : String} (hl : l.Indexed) (hl' : l'.Indexed)
    (h : ∀ run ∈ treeRunIds root l links config, List.Forall₂ Step.SameOutline
      (l.steps.filter fun s => s.runId == run) (l'.steps.filter fun s => s.runId == run)) :
    stepTree root l' links config = stepTree root l links config := by
  have hagree : TreeSource.AgreeOn ⟨links.childRunOf? config.isAgentKind, l.stepsOfRun⟩
      ⟨links.childRunOf? config.isAgentKind, l'.stepsOfRun⟩
      (fun run => run ∈ treeRunIds root l links config) := by
    refine ⟨fun run hrun => ?_, fun run hrun s hs child hchild => ?_⟩
    · simp only [hl.stepsOfRun_eq, hl'.stepsOfRun_eq]
      exact (h run hrun).imp fun s t hst => ⟨hst.id_eq, hst.childRunOf?_eq links _⟩
    · simp only [hl.stepsOfRun_eq, List.mem_filter, beq_iff_eq] at hs
      refine mem_treeRunIds_of_childRun hs.1 ?_ hchild
      rwa [hs.2]
  exact (hagree.tree_eq root_mem_reachableRuns config.maxDepth).symm

/-! ### The status -/

/-- When the last step shown comes not to wait, the status stays or goes from waiting to running. -/
theorem viewStatus_append_singleton (summary : Option RunSummary) (shown : List StepView)
    {x y : StepView} (hy : y.step.status ≠ .waiting) :
    viewStatus summary true (shown ++ [y]) = viewStatus summary true (shown ++ [x]) ∨
      viewStatus summary true (shown ++ [x]) = .waiting ∧
        viewStatus summary true (shown ++ [y]) = .running := by
  unfold viewStatus
  rw [List.any_append, List.any_append, List.any_cons, List.any_cons, List.any_nil,
    beq_false_of_ne hy]
  simp only [Bool.or_false, Bool.or_true, if_true]
  split
  · exact .inl rfl
  · exact .inl rfl
  · exact .inl rfl
  all_goals
    by_cases hshown : (shown.any fun s => s.step.status == .waiting) = true
    · simp [hshown]
    · by_cases hx : (x.step.status == .waiting) = true <;> simp [hshown, hx]

/-- A view has come to an end exactly when what is known of its root run says so. -/
theorem isTerminal_viewStatus (summary : Option RunSummary) (hasSteps : Bool)
    (steps : List StepView) : (viewStatus summary hasSteps steps).isTerminal =
      summary.any fun s => s.status.isTerminal := by
  have hlive (waiting running : Bool) :
      (if waiting then ViewStatus.waiting else if running then .running else .idle).isTerminal =
        false := by
    cases waiting <;> cases running <;> rfl
  cases summary with
  | none => exact hlive _ _
  | some s =>
    rw [viewStatus, Option.map_some, Option.any_some]
    cases s.status with
    | running => exact hlive _ _
    | completed | failed | cancelled => rfl

theorem RunStatus.isTerminal_iff (status : RunStatus) :
    status.isTerminal = true ↔ status ∈ [.completed, .failed, .cancelled] := by
  cases status <;> decide

/-! ### The view -/

namespace RunView

open History

/-- What a view `v` keeps when an event of a run out of scope makes it `v'`. The event may stray,
that is, be the failure of a run which is noted on the last step shown. -/
structure Shielded (e : Event) (strays : Step → Prop) (v v' : RunView) : Prop where
  rootRunId_eq : v'.rootRunId = v.rootRunId
  summary_eq : v'.summary = v.summary
  tree_eq : v'.tree = v.tree
  steps_eq : (∀ s, ¬ strays s) → v'.steps = v.steps
  status_eq : (∀ s, ¬ strays s) → v'.status = v.status
  noted_on_last (runId nodeId error ts s) : e = .flowError runId nodeId error ts → strays s →
    (∃ shown x, x.step = s ∧ v.steps = shown ++ [x] ∧
      v'.steps = shown ++ [{ x with step := s.blame (Event.errorText error) ts }]) ∧
    (v'.status = v.status ∨ v.status = .waiting ∧ v'.status = .running)

section

variable {l l' : Ledger} {links : Links} {config : LedgerConfig} {root : String}

theorem steps_ofRoot (n : Nat) : (ofRoot root n l links config).steps =
    (partOf (inRuns (treeRunIds root l links config)) l.steps).map (stepView links config) := rfl

theorem status_ofRoot (n : Nat) : (ofRoot root n l links config).status =
    viewStatus (l.summary? root) (l.hasSteps root) (ofRoot root n l links config).steps := rfl

/-- Two ledgers with the same outlines of the steps in scope and the same summary of the root run
give views that differ in the steps at most, and in what the status takes from them. -/
theorem ofRoot_congr (hl : l.Indexed) (hl' : l'.Indexed)
    (hsummary : l'.summary? root = l.summary? root)
    (houtline : List.Forall₂ Step.SameOutline
      (partOf (inRuns (treeRunIds root l links config)) l.steps)
      (partOf (inRuns (treeRunIds root l links config)) l'.steps)) (n n' : Nat) :
    let v := ofRoot root n l links config
    let v' := ofRoot root n' l' links config
    v'.summary = v.summary ∧ v'.tree = v.tree ∧
      v'.steps = (partOf (inRuns (treeRunIds root l links config)) l'.steps).map
        (stepView links config) ∧
      v'.status = viewStatus (l.summary? root) (l.hasSteps root) v'.steps := by
  intro v v'
  have hrunwise := fun run (hrun : run ∈ treeRunIds root l links config) =>
    sameOutline_of_mem_runs houtline hrun
  have hscope : treeRunIds root l' links config = treeRunIds root l links config :=
    treeRunIds_congr hrunwise
  have hhas : l'.hasSteps root = l.hasSteps root := by
    have hany : ∀ ss : List Step, (ss.any fun s => s.runId == root) =
        (ss.filter fun s => s.runId == root).any fun s => s.runId == root := fun ss =>
      (any_filter_of_imp (fun _ hs => hs) ss).symm
    rw [hl.hasSteps_eq, hl'.hasSteps_eq, hany l.steps, hany l'.steps]
    exact (any_eq_of_forall₂ (fun s t hst => by rw [hst.runId_eq])
      (hrunwise root root_mem_reachableRuns)).symm
  refine ⟨hsummary, Ledger.stepTree_congr hl hl' hrunwise, ?_, ?_⟩
  · rw [steps_ofRoot, hscope]
  · rw [status_ofRoot, hsummary, hhas]

theorem stepView_blame (s : Step) (message : String) (ts : Option Instant) :
    stepView links config (s.blame message ts) =
      { stepView links config s with step := s.blame message ts } := by
  rw [stepView, stepView, ← (Step.SameOutline.blame s message ts).childRunOf?_eq, Step.key_blame]

/-- An event of a run out of scope leaves the view of a root run but for a failure that strays. -/
theorem shielded_ofRoot_apply (hl : l.Indexed) {e : Event} {run : String}
    (hrun : e.runId? = some run) (hout : run ∉ treeRunIds root l links config) (n n' : Nat) :
    Shielded e (StraysInto (treeRunIds root l links config) l.steps e)
      (ofRoot root n l links config) (ofRoot root n' (l.apply e) links config) := by
  have hsummary : (l.apply e).summary? root = l.summary? root := by
    refine Ledger.summary?_apply_of_ne fun h => hout ?_
    rw [Option.some.inj (hrun.symm.trans h)]
    exact root_mem_reachableRuns
  have houtline : List.Forall₂ Step.SameOutline
      (partOf (inRuns (treeRunIds root l links config)) l.steps)
      (partOf (inRuns (treeRunIds root l links config)) (l.apply e).steps) := by
    rw [hl.steps_apply]
    exact sameOutline_record_of_outside hrun hout
  obtain ⟨hsum, htree, hsteps, hstatus⟩ := ofRoot_congr hl (hl.apply e) hsummary houtline n n'
  have hkept : (∀ s, ¬ StraysInto (treeRunIds root l links config) l.steps e s) →
      (ofRoot root n' (l.apply e) links config).steps = (ofRoot root n l links config).steps := by
    intro hnone
    rw [hsteps, hl.steps_apply, partOf_record_of_outside hrun hout hnone, steps_ofRoot]
  refine ⟨rfl, hsum, htree, hkept, fun hnone => ?_, ?_⟩
  · rw [hstatus, hkept hnone, status_ofRoot]
  · rintro runId nodeId error ts s rfl hs
    obtain ⟨shown, hbefore, hafter⟩ :=
      partOf_record_of_straysInto l.catalog l.config l.arrival hrun hs
    have hv : (ofRoot root n l links config).steps =
        shown.map (stepView links config) ++ [stepView links config s] := by
      rw [steps_ofRoot, hbefore, List.map_append, List.map_singleton]
    rw [hl.steps_apply, hafter, List.map_append, List.map_singleton] at hsteps
    refine ⟨⟨_, _, rfl, hv, by rw [hsteps, stepView_blame]⟩, ?_⟩
    -- A step in scope means that the root run has steps.
    have hhas : l.hasSteps root = true := by
      rw [hl.hasSteps_eq]
      exact any_runId_of_mem_treeRunIds (List.mem_of_getLast? hs.last) hs.mem_runs
    rw [hstatus, status_ofRoot, hsteps, hv, hhas]
    exact viewStatus_append_singleton _ _ (s.status_blame_ne_waiting ts _)

end

section

variable (catalog : Catalog) (config : LedgerConfig) (events : List Event)

theorem ledger_derive :
    (derive events catalog config).ledger = Ledger.ofEvents catalog config events := by
  simp only [derive]
  split <;> rfl

theorem links_derive : (derive events catalog config).links = Links.ofEvents events := by
  simp only [derive]
  split <;> rfl

theorem rootRunId_derive :
    (derive events catalog config).rootRunId = rootRunId? events (Links.ofEvents events) := by
  simp only [derive]
  split
  · next root hroot => rw [hroot, ofRoot]
  · next hroot => rw [hroot, empty]

variable {catalog config events}

theorem derive_eq_ofRoot {root : String}
    (hroot : rootRunId? events (Links.ofEvents events) = some root) :
    derive events catalog config = ofRoot root events.length (Ledger.ofEvents catalog config events)
      (Links.ofEvents events) config := by
  simp only [derive, hroot]

theorem derive_of_no_root (hroot : rootRunId? events (Links.ofEvents events) = none) :
    derive events catalog config = { empty with
      eventCount := events.length
      ledger := Ledger.ofEvents catalog config events
      links := Links.ofEvents events } := by
  simp only [derive, hroot]

/-- A view has come to an end exactly when its summary says so. -/
theorem isTerminal_derive : (derive events catalog config).isTerminal =
    (derive events catalog config).summary.any fun s => s.status.isTerminal := by
  cases hroot : rootRunId? events (Links.ofEvents events) with
  | none =>
    rw [derive_of_no_root hroot]
    rfl
  | some root =>
    rw [derive_eq_ofRoot hroot]
    exact isTerminal_viewStatus _ _ _

/-- The view after an event that says nothing of origins: only the ledger grows. -/
theorem derive_append_of_not_saysOrigin {e : Event} {root : String} (horigin : e.saysOrigin = false)
    (hroot : rootRunId? events (Links.ofEvents events) = some root) :
    derive (events ++ [e]) catalog config = ofRoot root (events ++ [e]).length
      ((Ledger.ofEvents catalog config events).apply e) (Links.ofEvents events) config := by
  have hlinks := Links.ofEvents_append_of_not_saysOrigin horigin events
  rw [← Ledger.ofEvents_append_singleton, ← hlinks]
  refine derive_eq_ofRoot ?_
  rw [hlinks]
  exact rootRunId?_append_of_not_saysOrigin horigin events hroot

end

/-- An event of a run out of scope that says nothing of origins leaves the root run, its summary and
the tree of a view. It leaves the status and the steps as well, unless it is the failure of a run
without steps, without a node, and the last step of all is in scope. Then the failure is noted on
this step, which is the last one shown, and the status is the same or goes from waiting to running.
-/
theorem derive_append_of_outside (catalog : Catalog) (config : LedgerConfig) (events : List Event)
    (e : Event) (root run : String)
    (hroot : (derive events catalog config).rootRunId = some root) (hrun : e.runId? = some run)
    (hout : run ∉ treeRunIds root (derive events catalog config).ledger
      (derive events catalog config).links config)
    (horigin : e.saysOrigin = false) :
    let v := derive events catalog config
    let scope := treeRunIds root v.ledger v.links config
    Shielded e (StraysInto scope v.ledger.steps e) v (derive (events ++ [e]) catalog config) := by
  rw [rootRunId_derive] at hroot
  rw [ledger_derive, links_derive] at hout
  have hl := Ledger.indexed_ofEvents catalog config events
  rw [derive_append_of_not_saysOrigin horigin hroot, derive_eq_ofRoot hroot]
  exact shielded_ofRoot_apply hl hrun hout _ _

/-- The late failure of an earlier run, which has a step of its own. -/
theorem derive_append_of_earlier_run :
    let events : List Event := [.flowStart "x" none none, .nodeStart "x" "b" none none,
      .flowStart "r" none none, .nodeStart "r" "a" none none]
    let e : Event := .flowError "x" none (some (.string "late")) none
    let v := derive events .empty .standard
    let scope := treeRunIds "r" v.ledger v.links .standard
    (v.rootRunId = some "r" ∧ e.runId? = some "x" ∧ "x" ∉ scope ∧ e.saysOrigin = false) ∧
      Shielded e (StraysInto scope v.ledger.steps e) v
        (derive (events ++ [e]) .empty .standard) := by
  intro events e v scope
  have hroot : v.rootRunId = some "r" := by decide +kernel
  have hout : "x" ∉ scope := by decide +kernel
  exact ⟨⟨hroot, rfl, hout, rfl⟩,
    derive_append_of_outside .empty .standard events e "r" "x" hroot rfl hout rfl⟩

/-- The failure of a run without steps is noted on a step of the root run. -/
theorem derive_append_of_unknown_run :
    let events : List Event := [.flowStart "r" none none, .nodeStart "r" "a" none none]
    let e : Event := .flowError "x" none (some (.string "boom")) none
    let v := derive events .empty .standard
    (v.rootRunId = some "r" ∧ e.runId? = some "x" ∧
      "x" ∉ treeRunIds "r" v.ledger v.links .standard ∧ e.saysOrigin = false) ∧
      (derive (events ++ [e]) .empty .standard).steps ≠ v.steps := by
  decide +kernel

end RunView

end RunWatch
