import Mathlib.Data.List.Dedup
import RunWatch.Proofs.Links
import RunWatch.Proofs.Tree.Nesting
import RunWatch.Proofs.View.Reach

/-!
# The tree shows what can be reached

The scope of a root run is searched breadth first and without a limit, and its tree is built depth
first, with a limit on the levels. Both show the same steps as soon as there are as many levels as
runs with steps, and no run of an agent is involved.

* `TreeSource.ExpandsOnce.depth_lt`: the limit never binds then, for every level above a row nests
  a run that is nested nowhere else.
* `TreeSource.ExpandsOnce.mem_shownRuns_iff`: below the limit, the runs that a tree shows are those
  that can be reached through child runs.
* `RunView.tree_shows_reach`: the same of a view, and of the steps in scope.
-/

namespace RunWatch

open Relation

namespace TreeSource

/-- Whether some step of a run has another one as its child run. -/
def HasChild (src : TreeSource) (a b : String) : Prop :=
  ∃ s ∈ src.stepsOf a, src.childRun? s = some b

/-- The runs that a tree below a root run shows. -/
def shownRuns (root : String) (tree : List TreeNode) : List String :=
  root :: nestedRuns (flatten tree)

namespace ExpandsOnce

variable {src : TreeSource} {maxDepth : Nat} {root run : String} {tree : List TreeNode}
  {t u : TreeNode} (h : src.ExpandsOnce maxDepth root tree)

include h

/-! ### Levels -/

theorem exists_nestedRun? (ht : t ∈ flatten tree) (hne : t.children ≠ []) :
    ∃ run, t.nestedRun? = some run ∧ run ≠ root ∧
      List.Forall₂ (src.Shows (t.depth + 1)) (src.stepsOf run) t.children := by
  obtain ⟨-, run, hchild, hroot, hrows⟩ := h.below t ht hne
  exact ⟨run, TreeNode.nestedRun?_eq_some_iff.2 ⟨hne, hchild⟩, hroot, hrows⟩

theorem forall₂_children (ht : t ∈ flatten tree) (hrun : t.nestedRun? = some run) :
    run ≠ root ∧ List.Forall₂ (src.Shows (t.depth + 1)) (src.stepsOf run) t.children := by
  obtain ⟨run', hrun', hroot, hrows⟩ :=
    h.exists_nestedRun? ht (TreeNode.nestedRun?_eq_some_iff.1 hrun).1
  obtain rfl : run' = run := Option.some.inj (hrun'.symm.trans hrun)
  exact ⟨hroot, hrows⟩

/-- On every level above a row, some row nests a run. -/
theorem exists_nesting_row : ∀ t ∈ flatten tree, ∀ k < t.depth,
    ∃ u ∈ flatten tree, u.depth = k ∧ u.nestedRun?.isSome := by
  refine forall_mem_flatten (fun t ht k hk => ?_) fun t ht hbefore u hu k hk => ?_
  · have hzero : t.depth = 0 := depth_of_shows h.top ht
    omega
  · obtain ⟨run, hrun, -, hrows⟩ := h.exists_nestedRun? ht (List.ne_nil_of_mem hu)
    have hdepth : u.depth = t.depth + 1 := depth_of_shows hrows hu
    by_cases hlast : k = t.depth
    · exact ⟨t, ht, hlast.symm, by rw [hrun]; rfl⟩
    · exact hbefore k (by omega)

theorem depth_le_length_nestedRuns (ht : t ∈ flatten tree) :
    t.depth ≤ (nestedRuns (flatten tree)).length := by
  have hlevels : List.range t.depth ⊆
      ((flatten tree).filter fun u => u.nestedRun?.isSome).map TreeNode.depth := by
    intro k hk
    obtain ⟨u, hu, hdepth, hnests⟩ := h.exists_nesting_row t ht k (List.mem_range.1 hk)
    exact List.mem_map.2 ⟨u, List.mem_filter.2 ⟨hu, hnests⟩, hdepth⟩
  have hlength := (List.subperm_of_subset List.nodup_range hlevels).length_le
  rw [List.length_range, List.length_map, ← List.countP_eq_length_filter,
    ← List.length_filterMap_eq_countP] at hlength
  exact hlength

theorem nodup_shownRuns : (shownRuns root tree).Nodup := by
  refine List.nodup_cons.2 ⟨fun hmem => ?_, h.nodup_runs⟩
  obtain ⟨t, ht, hrun⟩ := mem_nestedRuns.1 hmem
  exact (h.forall₂_children ht hrun).1 rfl

/-- Each step of a run that is shown has a row. -/
theorem exists_row {s : Step} (hrun : run ∈ shownRuns root tree) (hs : s ∈ src.stepsOf run) :
    ∃ t ∈ flatten tree, src.Shows t.depth s t := by
  rcases List.mem_cons.1 hrun with rfl | hrun
  · obtain ⟨t, ht, hshows⟩ := exists_right_of_forall₂ h.top hs
    exact ⟨t, mem_flatten_of_mem ht, hshows.depth_eq ▸ hshows⟩
  · obtain ⟨u, hu, hnested⟩ := mem_nestedRuns.1 hrun
    obtain ⟨t, ht, hshows⟩ := exists_right_of_forall₂ (h.forall₂_children hu hnested).2 hs
    exact ⟨t, mem_flatten_of_mem_children hu ht, hshows.depth_eq ▸ hshows⟩

/-- A tree with a row shows no run without steps. -/
theorem stepsOf_ne_nil (ht : t ∈ flatten tree) (hrun : run ∈ shownRuns root tree) :
    src.stepsOf run ≠ [] := by
  intro hnil
  rcases List.mem_cons.1 hrun with rfl | hrun
  · have hrows := h.top
    rw [hnil, List.forall₂_nil_left_iff] at hrows
    simp [hrows] at ht
  · obtain ⟨u, hu, hnested⟩ := mem_nestedRuns.1 hrun
    have hrows := (h.forall₂_children hu hnested).2
    rw [hnil, List.forall₂_nil_left_iff] at hrows
    exact (TreeNode.nestedRun?_eq_some_iff.1 hnested).1 hrows

/-- With as many levels as runs with steps, every row is above the limit: the levels above it nest
as many runs, and the root run is not among them. -/
theorem depth_lt {runs : List String} (hruns : ∀ run, src.stepsOf run ≠ [] → run ∈ runs)
    (hroom : runs.length ≤ maxDepth) (ht : t ∈ flatten tree) : t.depth < maxDepth := by
  have hsub : shownRuns root tree ⊆ runs := fun run hrun => hruns run (h.stepsOf_ne_nil ht hrun)
  have hlength := (List.subperm_of_subset h.nodup_shownRuns hsub).length_le
  have hdepth := h.depth_le_length_nestedRuns ht
  rw [shownRuns, List.length_cons] at hlength
  omega

/-! ### Reach -/

/-- Every row shows a step of a run that can be reached. -/
theorem exists_reached : ∀ t ∈ flatten tree,
    ∃ run, ReflTransGen src.HasChild root run ∧ ∃ s ∈ src.stepsOf run, src.Shows t.depth s t := by
  refine forall_mem_flatten (fun t ht => ?_) fun t ht hreached u hu => ?_
  · obtain ⟨s, hs, hshows⟩ := exists_left_of_forall₂ h.top ht
    exact ⟨root, .refl, s, hs, hshows.depth_eq ▸ hshows⟩
  · obtain ⟨a, hreach, s, hs, hshows⟩ := hreached
    obtain ⟨b, hnested, -, hrows⟩ := h.exists_nestedRun? ht (List.ne_nil_of_mem hu)
    have hchild : src.childRun? s = some b := by
      rw [← hshows.childRunId_eq]
      exact (TreeNode.nestedRun?_eq_some_iff.1 hnested).2
    obtain ⟨s', hs', hshows'⟩ := exists_left_of_forall₂ hrows hu
    exact ⟨b, hreach.tail ⟨s, hs, hchild⟩, s', hs', hshows'.depth_eq ▸ hshows'⟩

/-- The child run of a row above the limit is shown, if it has steps. -/
theorem mem_shownRuns_of_childRunId (ht : t ∈ flatten tree) (hdepth : t.depth < maxDepth)
    (hchild : t.childRunId = some run) (hsteps : src.stepsOf run ≠ []) :
    run ∈ shownRuns root tree := by
  by_cases hroot : run = root
  · rw [hroot]
    exact List.mem_cons_self
  · cases hfirst : (flatten tree).find?
        (fun t => decide (t.depth < maxDepth) && t.childRunId == some run) with
    | none =>
      have hno := List.find?_eq_none.1 hfirst t ht
      simp [hdepth, hchild] at hno
    | some u =>
      obtain ⟨hu, huchild, hne⟩ := (h.below_first run hroot hsteps u).2 hfirst
      refine List.mem_cons_of_mem _ (mem_nestedRuns.2 ⟨u, hu, ?_⟩)
      exact TreeNode.nestedRun?_eq_some_iff.2 ⟨hne, huchild⟩

/-- Where the limit does not bind, a run with steps is shown exactly when it can be reached. -/
theorem mem_shownRuns_iff (hdeep : ∀ t ∈ flatten tree, t.depth < maxDepth)
    (hsteps : src.stepsOf run ≠ []) :
    run ∈ shownRuns root tree ↔ ReflTransGen src.HasChild root run := by
  constructor
  · intro hrun
    rcases List.mem_cons.1 hrun with rfl | hrun
    · exact .refl
    · obtain ⟨u, hu, hnested⟩ := mem_nestedRuns.1 hrun
      obtain ⟨a, hreach, s, hs, hshows⟩ := h.exists_reached u hu
      refine hreach.tail ⟨s, hs, ?_⟩
      rw [← hshows.childRunId_eq]
      exact (TreeNode.nestedRun?_eq_some_iff.1 hnested).2
  · intro hreach
    induction hreach with
    | refl => exact List.mem_cons_self
    | tail _ hlink ih =>
      -- The run before has the step with this child run, so it is shown, and so is that step.
      obtain ⟨s, hs, hchild⟩ := hlink
      obtain ⟨t, ht, hshows⟩ := h.exists_row (ih (List.ne_nil_of_mem hs)) hs
      exact h.mem_shownRuns_of_childRunId ht (hdeep t ht) (hshows.childRunId_eq.trans hchild) hsteps

theorem mem_map_stepId_iff (hdistinct : src.Distinct)
    (hdeep : ∀ t ∈ flatten tree, t.depth < maxDepth) {s : Step} (hs : s ∈ src.stepsOf run) :
    s.id ∈ (flatten tree).map TreeNode.stepId ↔ ReflTransGen src.HasChild root run := by
  constructor
  · intro hmem
    obtain ⟨t, ht, hid⟩ := List.mem_map.1 hmem
    obtain ⟨run', hreach, s', hs', hshows⟩ := h.exists_reached t ht
    have hids : s'.id = s.id := hshows.stepId_eq.symm.trans hid
    exact hdistinct.run_eq hs' hs hids ▸ hreach
  · intro hreach
    have hrun := (h.mem_shownRuns_iff hdeep (List.ne_nil_of_mem hs)).2 hreach
    obtain ⟨t, ht, hshows⟩ := h.exists_row hrun hs
    exact List.mem_map.2 ⟨t, ht, hshows.stepId_eq⟩

end ExpandsOnce

end TreeSource

/-! ### Ledgers -/

section

variable (ledger : Ledger) (links : Links) (config : LedgerConfig)

/-- Whether some step of a run has another one as its child run. -/
def LeadsToChild (a b : String) : Prop :=
  ∃ s ∈ ledger.steps, s.runId = a ∧ links.childRunOf? config.isAgentKind s = some b

/-- Whether a run can be reached from another one through any number of child runs. -/
def ReachesByChild : String → String → Prop := ReflTransGen (LeadsToChild ledger links config)

variable {ledger links config}

theorem Ledger.Indexed.hasChild_iff (hl : ledger.Indexed) {a b : String} :
    TreeSource.HasChild ⟨links.childRunOf? config.isAgentKind, ledger.stepsOfRun⟩ a b ↔
      LeadsToChild ledger links config a b := by
  simp only [TreeSource.HasChild, LeadsToChild, hl.mem_stepsOfRun, and_assoc]

theorem reaches_iff_of_no_agentRun (hno : ∀ key, links.agentRunOf? key = none) {a b : String} :
    Reaches ledger links config a b ↔ ReachesByChild ledger links config a b := by
  have hleads : Leads ledger links config = LeadsToChild ledger links config := by
    funext a b
    simp [Leads, LeadsToChild, hno]
  rw [Reaches, ReachesByChild, hleads]

end

/-- With as many levels as runs with steps, the tree of a run shows the steps of the runs that can
be reached through child runs, and each of them once. -/
theorem stepTree_shows (catalog : Catalog) (config : LedgerConfig) (events : List Event)
    (links : Links) (root : String) :
    let ledger := Ledger.ofEvents catalog config events
    let ids := (flatten (stepTree root ledger links config)).map TreeNode.stepId
    (ledger.steps.map Step.runId).dedup.length ≤ config.maxDepth →
      ids.Nodup ∧ ids ⊆ ledger.steps.map Step.id ∧
        ∀ s ∈ ledger.steps, s.id ∈ ids ↔ ReachesByChild ledger links config root s.runId := by
  intro ledger ids hroom
  have hl : ledger.Indexed := Ledger.indexed_ofEvents catalog config events
  have hdistinct := hl.distinct (Ledger.nodup_ids catalog config events)
    (links.childRunOf? config.isAgentKind)
  have honce := TreeSource.expandsOnce_tree hdistinct config.maxDepth root
  have hruns : ∀ run, ledger.stepsOfRun run ≠ [] →
      run ∈ (ledger.steps.map Step.runId).dedup := fun run hsteps => by
    obtain ⟨s, hs⟩ := List.exists_mem_of_ne_nil _ hsteps
    obtain ⟨hs, hrun⟩ := hl.mem_stepsOfRun.1 hs
    exact List.mem_dedup.2 (List.mem_map.2 ⟨s, hs, hrun⟩)
  have hdeep := fun t ht => honce.depth_lt (t := t) hruns hroom ht
  refine ⟨honce.nodup_ids, fun id hid => ?_, fun s hs => ?_⟩
  · obtain ⟨t, ht, rfl⟩ := List.mem_map.1 hid
    obtain ⟨run, -, s, hs, hshows⟩ := honce.exists_reached t ht
    exact List.mem_map.2 ⟨s, (hl.mem_stepsOfRun.1 hs).1, hshows.stepId_eq.symm⟩
  · have hmem : s ∈ ledger.stepsOfRun s.runId := hl.mem_stepsOfRun.2 ⟨hs, rfl⟩
    have hlinks : TreeSource.HasChild ⟨links.childRunOf? config.isAgentKind, ledger.stepsOfRun⟩ =
        LeadsToChild ledger links config := by
      funext a b
      exact propext hl.hasChild_iff
    rw [ReachesByChild, ← hlinks]
    exact honce.mem_map_stepId_iff hdistinct hdeep hmem

namespace RunView

/-- With as many levels as runs with steps, a step is a row of the tree exactly when its run can be
reached from the root through child runs, and it is then one row. So the tree shows the steps in
scope, if no trace brings in the run of an agent. -/
theorem tree_shows_reach (catalog : Catalog) (config : LedgerConfig) (events : List Event)
    (root : String) :
    let v := derive events catalog config
    let ledger := Ledger.ofEvents catalog config events
    let ids := (flatten v.tree).map TreeNode.stepId
    v.rootRunId = some root → (ledger.steps.map Step.runId).dedup.length ≤ config.maxDepth →
      (∀ s ∈ ledger.steps,
        (s.id ∈ ids ↔ ReachesByChild ledger (Links.ofEvents events) config root s.runId) ∧
          (s.id ∈ ids → ids.count s.id = 1)) ∧
      ids ⊆ ledger.steps.map Step.id ∧
      ((∀ run nodeId parent steps, .traceUpdate run nodeId (some parent) steps ∈ events →
          parent = "" ∨ parent = run) →
        ids.Perm (v.steps.map fun s => s.step.id)) := by
  intro v ledger ids hroot hroom
  have hv : v = ofRoot root events.length ledger (Links.ofEvents events) config := by
    rw [rootRunId_derive] at hroot
    exact derive_eq_ofRoot hroot
  obtain ⟨hnodup, hsub, hreach⟩ : ids.Nodup ∧ ids ⊆ ledger.steps.map Step.id ∧
      ∀ s ∈ ledger.steps,
        s.id ∈ ids ↔ ReachesByChild ledger (Links.ofEvents events) config root s.runId := by
    have htree : v.tree = stepTree root ledger (Links.ofEvents events) config := by rw [hv]; rfl
    have hshows := stepTree_shows catalog config events (Links.ofEvents events) root hroom
    rwa [← htree] at hshows
  refine ⟨fun s hs => ⟨hreach s hs, List.count_eq_one_of_mem hnodup⟩, hsub, fun hno => ?_⟩
  have hagents := Links.agentRunOf?_ofEvents_eq_none hno
  have hids : (ledger.steps.map Step.id).Nodup := Ledger.nodup_ids catalog config events
  -- The scope is a filter of the same steps, and without runs of agents it has the same condition.
  have hscope : v.steps.map (fun s => s.step.id) = (ledger.steps.filter fun s =>
      Reaches ledger (Links.ofEvents events) config root s.runId).map Step.id := by
    have hsteps := map_step_ofRoot root events.length ledger (Links.ofEvents events) config
    rw [← hsteps, ← hv, List.map_map]
    rfl
  rw [hscope, List.perm_ext_iff_of_nodup hnodup (hids.sublist (List.filter_sublist.map Step.id))]
  intro id
  simp only [List.mem_map, List.mem_filter, decide_eq_true_eq, reaches_iff_of_no_agentRun hagents]
  constructor
  · intro hid
    obtain ⟨s, hs, rfl⟩ := List.mem_map.1 (hsub hid)
    exact ⟨s, ⟨hs, (hreach s hs).1 hid⟩, rfl⟩
  · rintro ⟨s, ⟨hs, hrun⟩, rfl⟩
    exact (hreach s hs).2 hrun

/-- Two steps of the root run lead to `c` and `d`, `c` leads to `d` and back, and `x` is out of
reach: four runs, four levels. The tree shows `d` below `c`, the search finds it next to `c`. -/
theorem tree_shows_reach_of_shared_child :
    let events : List Event := [.flowStart "r" none none, .nodeStart "r" "a" none none,
      .nodeStart "r" "b" none none, .nodeStart "x" "y" none none, .nodeStart "d" "e" none none,
      .nodeStart "c" "f" none none, .subworkflowUpdate "r" "a" "c",
      .subworkflowUpdate "r" "b" "d", .subworkflowUpdate "c" "f" "d",
      .subworkflowUpdate "d" "e" "c", .traceUpdate "c" "f" (some "c") []]
    let config := LedgerConfig.standard.withMaxDepth 4
    let v := derive events .empty config
    let ledger := Ledger.ofEvents .empty config events
    let ids := (flatten v.tree).map TreeNode.stepId
    v.rootRunId = some "r" ∧ (ledger.steps.map Step.runId).dedup.length ≤ config.maxDepth ∧
      (∀ run nodeId parent steps, .traceUpdate run nodeId (some parent) steps ∈ events →
        parent = "" ∨ parent = run) ∧
      ids = ["r:a:1", "c:f:5", "d:e:4", "r:b:2"] ∧
      (∀ s ∈ ledger.steps,
        (s.id ∈ ids ↔ ReachesByChild ledger (Links.ofEvents events) config "r" s.runId) ∧
          (s.id ∈ ids → ids.count s.id = 1)) ∧
      ids.Perm (v.steps.map fun s => s.step.id) := by
  intro events config v ledger ids
  have hroot : v.rootRunId = some "r" := by decide +kernel
  have hroom : (ledger.steps.map Step.runId).dedup.length ≤ config.maxDepth := by decide +kernel
  have hno : ∀ run nodeId parent steps, .traceUpdate run nodeId (some parent) steps ∈ events →
      parent = "" ∨ parent = run := by
    intro run nodeId parent steps he
    have htrace : run = "c" ∧ nodeId = "f" ∧ parent = "c" ∧ steps = [] := by
      simpa [events] using he
    exact .inr (htrace.2.2.1.trans htrace.1.symm)
  have hids : ids = ["r:a:1", "c:f:5", "d:e:4", "r:b:2"] := by decide +kernel
  obtain ⟨hreach, -, hperm⟩ := tree_shows_reach .empty config events "r" hroot hroom
  exact ⟨hroot, hroom, hno, hids, hreach, hperm hno⟩

end RunView

end RunWatch
