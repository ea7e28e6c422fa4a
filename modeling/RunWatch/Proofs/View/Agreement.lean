import RunWatch.Proofs.Ledger.Indexes
import RunWatch.Proofs.View.Coverage

/-!
# Rows, steps and look-ups

The rows of a tree come from a walk down the child runs, the steps of a view from the scope of its
root run, and they are matched by their identifiers only. `RunView.rows_and_steps_agree` says that
these two, and the steps of the ledger, never disagree.

* `exists_step_of_row`: the runs of a tree are in scope, so each row is a step that is shown.
* `nodup_step_ids`, `nodup_row_ids`: an identifier stands for one step and for one row at most.
-/

namespace RunWatch

open Relation

/-! ### Keys that differ -/

section

variable {α β : Type*} [BEq β] [LawfulBEq β] {key : α → β} {l : List α} {a : α} {k : β}

/-- When all keys differ, a search by key finds whatever has the key. -/
theorem find?_key_eq_some_iff (h : (l.map key).Nodup) :
    l.find? (fun a => key a == k) = some a ↔ a ∈ l ∧ key a = k := by
  constructor
  · intro hfind
    have hkey := List.find?_some hfind
    exact ⟨List.mem_of_find?_eq_some hfind, beq_iff_eq.1 hkey⟩
  · rintro ⟨ha, rfl⟩
    cases hfind : l.find? fun b => key b == key a with
    | none => exact absurd (beq_self_eq_true _) (List.find?_eq_none.1 hfind a ha)
    | some b =>
      have hkey := List.find?_some hfind
      rw [List.inj_on_of_nodup_map h (List.mem_of_find?_eq_some hfind) ha (beq_iff_eq.1 hkey)]

theorem filter_key_eq_singleton (h : (l.map key).Nodup) (ha : a ∈ l) :
    l.filter (fun b => key b == key a) = [a] := by
  obtain ⟨before, after, rfl⟩ := List.append_of_mem ha
  rw [List.map_append, List.map_cons, List.nodup_middle, List.nodup_cons, ← List.map_append] at h
  have hno : ∀ b ∈ before ++ after, ¬ (key b == key a) = true := fun b hb heq =>
    h.1 (List.mem_map.2 ⟨b, hb, beq_iff_eq.1 heq⟩)
  have hbefore : before.filter (fun b => key b == key a) = [] :=
    List.filter_eq_nil_iff.2 fun b hb => hno b (List.mem_append_left _ hb)
  have hafter : after.filter (fun b => key b == key a) = [] :=
    List.filter_eq_nil_iff.2 fun b hb => hno b (List.mem_append_right _ hb)
  rw [List.filter_append, List.filter_cons_of_pos (by simp), hbefore, hafter, List.nil_append]

end

/-- Child runs are in the scope of a run. -/
theorem ReachesByChild.reaches {ledger : Ledger} {links : Links} {config : LedgerConfig}
    {root run : String} (h : ReachesByChild ledger links config root run) :
    Reaches ledger links config root run := by
  refine ReflTransGen.mono (fun a b hab => ?_) root run h
  obtain ⟨s, hs, hrun, hchild⟩ := hab
  exact ⟨s, hs, hrun, .inl hchild⟩

namespace RunView

/-- The runs whose steps a view shows: those of its root run, if it has one. -/
def scope (v : RunView) (config : LedgerConfig) : List String :=
  match v.rootRunId with
  | some root => treeRunIds root v.ledger v.links config
  | none => []

section

variable (events : List Event) (catalog : Catalog) (config : LedgerConfig)

theorem steps_derive : (derive events catalog config).steps =
    scopedSteps (derive events catalog config).ledger (derive events catalog config).links config
      ((derive events catalog config).scope config) := by
  cases hroot : rootRunId? events (Links.ofEvents events) with
  | none => simp [derive_of_no_root hroot, scope, empty, scopedSteps]
  | some root =>
    rw [derive_eq_ofRoot hroot]
    rfl

theorem mem_steps_iff {x : StepView} : x ∈ (derive events catalog config).steps ↔
    ∃ s ∈ (derive events catalog config).ledger.steps,
      s.runId ∈ (derive events catalog config).scope config ∧
        stepView (derive events catalog config).links config s = x := by
  rw [steps_derive, scopedSteps, List.mem_map]
  simp only [List.mem_filter, List.contains_iff_mem, and_assoc]

theorem nodup_step_ids :
    ((derive events catalog config).steps.map fun x => x.step.id).Nodup := by
  have hids := Ledger.nodup_ids catalog config events
  rw [← ledger_derive] at hids
  have hstep : (fun x : StepView => x.step.id) ∘
      stepView (derive events catalog config).links config = Step.id := rfl
  rw [steps_derive, scopedSteps, List.map_map, hstep]
  exact hids.sublist (List.filter_sublist.map Step.id)

variable {events catalog config}

/-- The tree of a view is that of its root run, which nests every run at most once. -/
theorem expandsOnce_derive {root : String}
    (hroot : (derive events catalog config).rootRunId = some root) :
    TreeSource.ExpandsOnce ⟨(Links.ofEvents events).childRunOf? config.isAgentKind,
        (Ledger.ofEvents catalog config events).stepsOfRun⟩
      config.maxDepth root (derive events catalog config).tree := by
  rw [rootRunId_derive] at hroot
  rw [derive_eq_ofRoot hroot]
  exact TreeSource.expandsOnce_tree ((Ledger.indexed_ofEvents catalog config events).distinct
    (Ledger.nodup_ids catalog config events) _) config.maxDepth root

theorem tree_eq_nil (hroot : (derive events catalog config).rootRunId = none) :
    (derive events catalog config).tree = [] := by
  rw [rootRunId_derive] at hroot
  rw [derive_of_no_root hroot, empty]

theorem nodup_row_ids :
    ((flatten (derive events catalog config).tree).map TreeNode.stepId).Nodup := by
  cases hroot : (derive events catalog config).rootRunId with
  | none =>
    rw [tree_eq_nil hroot, flatten_nil]
    exact List.nodup_nil
  | some root => exact (expandsOnce_derive hroot).nodup_ids

/-- A row is a step of a run that child runs lead to, so this run is in scope. -/
theorem exists_step_of_row {t : TreeNode} (ht : t ∈ flatten (derive events catalog config).tree) :
    ∃ x ∈ (derive events catalog config).steps,
      x.step.id = t.stepId ∧ x.childRunId = t.childRunId := by
  cases hroot : (derive events catalog config).rootRunId with
  | none =>
    rw [tree_eq_nil hroot, flatten_nil] at ht
    cases ht
  | some root =>
    have hl := Ledger.indexed_ofEvents catalog config events
    obtain ⟨run, hreach, s, hs, hshows⟩ := (expandsOnce_derive hroot).exists_reached t ht
    obtain ⟨hmem, rfl⟩ := hl.mem_stepsOfRun.1 hs
    have hchild : ReachesByChild (Ledger.ofEvents catalog config events) (Links.ofEvents events)
        config root s.runId := hreach.mono (fun a b hab => hl.hasChild_iff.1 hab) root s.runId
    have hscope : s.runId ∈ (derive events catalog config).scope config := by
      rw [scope, hroot, ledger_derive, links_derive]
      exact mem_treeRunIds_iff.2 hchild.reaches
    refine ⟨stepView (Links.ofEvents events) config s, ?_, hshows.stepId_eq.symm,
      hshows.childRunId_eq.symm⟩
    rw [mem_steps_iff, ledger_derive, links_derive]
    exact ⟨s, hmem, hscope, rfl⟩

theorem step?_eq_some_iff {id : String} {x : StepView} :
    (derive events catalog config).step? id = some x ↔
      ∃ s, (derive events catalog config).ledger.step? id = some s ∧
        s.runId ∈ (derive events catalog config).scope config ∧
          stepView (derive events catalog config).links config s = x := by
  rw [step?, find?_key_eq_some_iff (nodup_step_ids events catalog config), mem_steps_iff]
  simp only [ledger_derive, Ledger.step?_eq_some_iff]
  constructor
  · rintro ⟨⟨s, hs, hscope, rfl⟩, rfl⟩
    exact ⟨s, ⟨hs, rfl⟩, hscope, rfl⟩
  · rintro ⟨s, ⟨hs, rfl⟩, hscope, rfl⟩
    exact ⟨⟨s, hs, hscope, rfl⟩, rfl⟩

theorem expandedIds_sublist (v : RunView) (x : Expansion) :
    (v.expandedIds x).Sublist ((flatten v.tree).map TreeNode.stepId) :=
  (List.filter_sublist.trans List.filter_sublist).map TreeNode.stepId

end

/-- The tree, the steps and the ledger of a view tell the same story. A row names exactly one of the
steps shown, with the same child run. An identifier is found among the steps shown when the ledger
has it and its run is in scope, and what is shown is then the step of the ledger with its links. The
rows have different identifiers, and a row is found by its own. The expanded rows are rows with
others below them, in display order and each once, whatever the operator has chosen. -/
theorem rows_and_steps_agree (events : List Event) (catalog : Catalog) (config : LedgerConfig) :
    let v := derive events catalog config
    let rows := flatten v.tree
    (∀ t ∈ rows, ∃ x, v.steps.filter (fun x => x.step.id == t.stepId) = [x] ∧
        x.childRunId = t.childRunId) ∧
      (∀ id x, v.step? id = some x ↔ ∃ s, v.ledger.step? id = some s ∧
        s.runId ∈ v.scope config ∧ stepView v.links config s = x) ∧
      ((rows.map TreeNode.stepId).Nodup ∧
        ∀ id t, v.row? id = some t ↔ t ∈ rows ∧ t.stepId = id) ∧
      ∀ x : Expansion, (v.expandedIds x).Sublist (rows.map TreeNode.stepId) ∧
        (v.expandedIds x).Nodup ∧
          ∀ id ∈ v.expandedIds x, ∃ t, v.row? id = some t ∧ t.children ≠ [] := by
  intro v rows
  have hrow : ∀ id t, v.row? id = some t ↔ t ∈ rows ∧ t.stepId = id := fun id t =>
    find?_key_eq_some_iff nodup_row_ids
  refine ⟨fun t ht => ?_, fun id x => step?_eq_some_iff, ⟨nodup_row_ids, hrow⟩, fun x => ?_⟩
  · obtain ⟨x, hx, hid, hchild⟩ := exists_step_of_row ht
    refine ⟨x, ?_, hchild⟩
    rw [← hid]
    exact filter_key_eq_singleton (nodup_step_ids events catalog config) hx
  · have hsub := v.expandedIds_sublist x
    refine ⟨hsub, nodup_row_ids.sublist hsub, fun id hid => ?_⟩
    obtain ⟨t, ht, rfl⟩ := List.mem_map.1 hid
    obtain ⟨ht, hbelow⟩ := List.mem_filter.1 (List.mem_filter.1 ht).1
    exact ⟨t, (hrow t.stepId t).2 ⟨ht, rfl⟩, by simpa using hbelow⟩

/-- A run of an agent is in scope and has no row, a child run has rows below the first step that
leads to it, and a run out of scope has neither. -/
example :
    let events : List Event := [.flowStart "r" none none, .nodeStart "r" "a" none none,
      .nodeStart "r" "b" none none, .subworkflowUpdate "r" "a" "c", .subworkflowUpdate "r" "b" "c",
      .nodeStart "c" "f" none none, .traceUpdate "g" "b" (some "r") [],
      .nodeStart "g" "t" none none, .nodeStart "x" "y" none none]
    let v := derive events .empty .standard
    (flatten v.tree).map TreeNode.stepId = ["r:a:1", "c:f:5", "r:b:2"] ∧
      (v.steps.map fun x => x.step.id) = ["r:a:1", "r:b:2", "c:f:5", "g:t:7"] ∧
      v.expandedIds .empty = ["r:a:1"] ∧ v.expandedIds (.set .empty "r:b:2" true) = ["r:a:1"] := by
  decide +kernel

end RunView

end RunWatch
