import Mathlib.Data.List.Nodup
import Mathlib.Data.List.Perm.Subperm
import RunWatch.Proofs.Ledger.Identity
import RunWatch.Tree

/-!
# Nested runs

Which run stands below which row of a step tree. The rows are read in display order, with the runs
nested so far: a row nests the child run of its step exactly when its level is above the limit, the
run has steps, and the run was not nested before (`TreeSource.Guarded`). Building a level keeps this
(`TreeSource.expands_rows`, `TreeSource.expands_level`), whatever the links between runs are.

* `perm_flatten`: every row is at the top or directly below a row.
* `stepTree_expandsOnce`: what the tree of a run of a ledger shows, and where.
-/

namespace RunWatch

/-! ### Related lists -/

section

variable {α β : Type*} {R : α → β → Prop} {as : List α} {bs : List β}

theorem exists_left_of_forall₂ (h : List.Forall₂ R as bs) {b : β} (hb : b ∈ bs) :
    ∃ a ∈ as, R a b := by
  induction h with
  | nil => cases hb
  | @cons a _ _ _ hab _ ih =>
    rcases List.mem_cons.1 hb with rfl | hb
    · exact ⟨a, List.mem_cons_self, hab⟩
    · obtain ⟨a', ha', hab'⟩ := ih hb
      exact ⟨a', List.mem_cons_of_mem _ ha', hab'⟩

theorem exists_right_of_forall₂ (h : List.Forall₂ R as bs) {a : α} (ha : a ∈ as) :
    ∃ b ∈ bs, R a b :=
  exists_left_of_forall₂ (R := fun b a => R a b) (List.Forall₂.flip h) ha

end

/-! ### Rows -/

/-- Every row is a tree of the list or stands directly below a row. -/
theorem perm_flatten (ts : List TreeNode) :
    (flatten ts).Perm (ts ++ (flatten ts).flatMap TreeNode.children) := by
  fun_induction flatten ts with
  | case1 => simp
  | case2 t rest ih =>
    rw [List.flatMap_cons, List.cons_append, ← List.append_assoc]
    refine (ih.trans ?_).cons t
    exact List.perm_append_comm.append_right _

theorem mem_flatten_of_mem {t : TreeNode} {ts : List TreeNode} (h : t ∈ ts) : t ∈ flatten ts :=
  (perm_flatten ts).mem_iff.2 (List.mem_append_left _ h)

theorem mem_flatten_of_mem_children {t u : TreeNode} {ts : List TreeNode} (ht : t ∈ flatten ts)
    (hu : u ∈ t.children) : u ∈ flatten ts :=
  (perm_flatten ts).mem_iff.2 (List.mem_append_right _ (List.mem_flatMap.2 ⟨t, ht, hu⟩))

theorem ne_nil_of_mem_flatten {t : TreeNode} {ts : List TreeNode} (h : t ∈ flatten ts) :
    ts ≠ [] := by
  rintro rfl
  simp at h

/-- What holds of the rows at the top, and passes from a row to the rows below it, holds of all. -/
theorem forall_mem_flatten {p : TreeNode → Prop} {ts : List TreeNode} (htop : ∀ t ∈ ts, p t)
    (hbelow : ∀ t ∈ flatten ts, p t → ∀ u ∈ t.children, p u) : ∀ t ∈ flatten ts, p t := by
  fun_induction flatten ts with
  | case1 => simp
  | case2 t rest ih =>
    have ht : p t := htop t List.mem_cons_self
    intro u hu
    rcases List.mem_cons.1 hu with rfl | hu
    · exact ht
    · refine ih (fun v hv => ?_) (fun v hv => hbelow v (List.mem_cons_of_mem _ hv)) u hu
      rcases List.mem_append.1 hv with hv | hv
      · exact hbelow t List.mem_cons_self ht v hv
      · exact htop v (List.mem_cons_of_mem _ hv)

theorem le_depth_of_mem_flatten {least : Nat} {ts : List TreeNode}
    (htop : ∀ t ∈ ts, least ≤ t.depth)
    (hbelow : ∀ t ∈ flatten ts, ∀ u ∈ t.children, t.depth < u.depth) :
    ∀ t ∈ flatten ts, least ≤ t.depth := by
  refine forall_mem_flatten htop fun t ht hle u hu => ?_
  have := hbelow t ht u hu
  omega

/-- The rows at the level of the top are those of the top. -/
theorem filter_depth_flatten {depth : Nat} {ts : List TreeNode} (htop : ∀ t ∈ ts, t.depth = depth)
    (hbelow : ∀ t ∈ flatten ts, ∀ u ∈ t.children, u.depth = t.depth + 1) :
    (flatten ts).filter (fun t => t.depth == depth) = ts := by
  induction ts with
  | nil => simp
  | cons t ts ih =>
    rw [flatten_cons] at hbelow ⊢
    have ht : t.depth = depth := htop t List.mem_cons_self
    have hlower : ∀ u ∈ flatten t.children, depth + 1 ≤ u.depth := by
      refine le_depth_of_mem_flatten (fun u hu => ?_) (fun u hu v hv => ?_)
      · have := hbelow t List.mem_cons_self u hu
        omega
      · have := hbelow u (List.mem_cons_of_mem _ (List.mem_append_left _ hu)) v hv
        omega
    have hnone : (flatten t.children).filter (fun u => u.depth == depth) = [] := by
      refine List.filter_eq_nil_iff.2 fun u hu => ?_
      have := hlower u hu
      simp
      omega
    rw [List.filter_cons_of_pos (by simp [ht]), List.filter_append, hnone, List.nil_append,
      ih (fun u hu => htop u (List.mem_cons_of_mem _ hu))
        (fun u hu => hbelow u (List.mem_cons_of_mem _ (List.mem_append_right _ hu)))]

/-- The run whose steps stand below a row. -/
def TreeNode.nestedRun? (t : TreeNode) : Option String :=
  if t.children.isEmpty then none else t.childRunId

theorem TreeNode.nestedRun?_eq_some_iff {t : TreeNode} {run : String} :
    t.nestedRun? = some run ↔ t.children ≠ [] ∧ t.childRunId = some run := by
  unfold nestedRun?
  by_cases h : t.children = [] <;> simp [h]

/-- The runs that stand below some rows, in the order of the rows. -/
def nestedRuns (rows : List TreeNode) : List String := rows.filterMap TreeNode.nestedRun?

theorem nestedRuns_cons (t : TreeNode) (rows : List TreeNode) :
    nestedRuns (t :: rows) = t.nestedRun?.toList ++ nestedRuns rows := by
  unfold nestedRuns
  cases h : t.nestedRun? <;> simp [h]

theorem nestedRuns_append (rows rows' : List TreeNode) :
    nestedRuns (rows ++ rows') = nestedRuns rows ++ nestedRuns rows' :=
  List.filterMap_append

theorem mem_nestedRuns {rows : List TreeNode} {run : String} :
    run ∈ nestedRuns rows ↔ ∃ t ∈ rows, t.nestedRun? = some run :=
  List.mem_filterMap

namespace TreeSource

variable (src : TreeSource) (maxDepth : Nat)

/-! ### Which run a row nests -/

/-- Whether a run may be nested below a row at a level when some runs are nested already. -/
structure Admits (nested : List String) (depth : Nat) (run : String) : Prop where
  above_limit : depth < maxDepth
  has_steps : src.stepsOf run ≠ []
  is_new : run ∉ nested

/-- Whether each row nests its child run exactly when it may after the rows before it. -/
def Guarded : List String → List TreeNode → Prop
  | _, [] => True
  | nested, t :: rest =>
    (∀ run, t.nestedRun? = some run ↔
        t.childRunId = some run ∧ src.Admits maxDepth nested t.depth run) ∧
      Guarded (t.nestedRun?.toList ++ nested) rest

variable {src maxDepth} {nested : List String} {rows : List TreeNode}

theorem guarded_append {rows' : List TreeNode} :
    src.Guarded maxDepth nested (rows ++ rows') ↔
      src.Guarded maxDepth nested rows ∧
        src.Guarded maxDepth ((nestedRuns rows).reverse ++ nested) rows' := by
  induction rows generalizing nested with
  | nil => simp [Guarded, nestedRuns]
  | cons t rows ih =>
    have hnested : (nestedRuns (t :: rows)).reverse ++ nested =
        (nestedRuns rows).reverse ++ (t.nestedRun?.toList ++ nested) := by
      rw [nestedRuns_cons]
      cases t.nestedRun? <;> simp
    rw [List.cons_append, Guarded, Guarded, ih, hnested, and_assoc]

namespace Guarded

/-- A run that is nested was admitted after the runs of some rows before. -/
theorem exists_admits (h : src.Guarded maxDepth nested rows) {t : TreeNode} {run : String}
    (ht : t ∈ rows) (hrun : t.nestedRun? = some run) :
    ∃ before, src.Admits maxDepth (before ++ nested) t.depth run := by
  induction rows generalizing nested with
  | nil => cases ht
  | cons u rows ih =>
    obtain ⟨hu, hrest⟩ := h
    rcases List.mem_cons.1 ht with rfl | ht
    · exact ⟨[], ((hu run).1 hrun).2⟩
    · obtain ⟨before, hadmits⟩ := ih hrest ht
      rw [← List.append_assoc] at hadmits
      exact ⟨_, hadmits⟩

theorem notMem_of_nestedRun? (h : src.Guarded maxDepth nested rows) {t : TreeNode} {run : String}
    (ht : t ∈ rows) (hrun : t.nestedRun? = some run) : run ∉ nested := by
  obtain ⟨before, hadmits⟩ := h.exists_admits ht hrun
  exact fun hmem => hadmits.is_new (List.mem_append_right before hmem)

theorem depth_lt (h : src.Guarded maxDepth nested rows) {t : TreeNode} {run : String}
    (ht : t ∈ rows) (hrun : t.nestedRun? = some run) : t.depth < maxDepth := by
  obtain ⟨before, hadmits⟩ := h.exists_admits ht hrun
  exact hadmits.above_limit

/-- No run is nested twice. -/
theorem nodup_nestedRuns (h : src.Guarded maxDepth nested rows) : (nestedRuns rows).Nodup := by
  induction rows generalizing nested with
  | nil => exact List.nodup_nil
  | cons t rows ih =>
    obtain ⟨-, hrest⟩ := h
    rw [nestedRuns_cons]
    cases hrun : t.nestedRun? with
    | none => exact ih hrest
    | some run =>
      rw [hrun] at hrest
      refine List.nodup_cons.2 ⟨fun hmem => ?_, ih hrest⟩
      obtain ⟨u, hu, hurun⟩ := mem_nestedRuns.1 hmem
      exact hrest.notMem_of_nestedRun? hu hurun List.mem_cons_self

/-- A run with steps that is not nested yet is nested below the first row that can show it. -/
theorem find?_eq_some_iff (h : src.Guarded maxDepth nested rows) {run : String}
    (hsteps : src.stepsOf run ≠ []) (hnew : run ∉ nested) (t : TreeNode) :
    rows.find? (fun t => decide (t.depth < maxDepth) && t.childRunId == some run) = some t ↔
      t ∈ rows ∧ t.nestedRun? = some run := by
  induction rows generalizing nested with
  | nil => simp
  | cons u rows ih =>
    obtain ⟨hu, hrest⟩ := h
    by_cases hfirst : u.depth < maxDepth ∧ u.childRunId = some run
    · have hnested : u.nestedRun? = some run := (hu run).2 ⟨hfirst.2, hfirst.1, hsteps, hnew⟩
      -- No later row nests the run, which counts as nested from here on.
      rw [List.find?_cons_of_pos (by simp [hfirst]), Option.some.injEq]
      constructor
      · rintro rfl
        exact ⟨List.mem_cons_self, hnested⟩
      · rintro ⟨ht, hrun⟩
        rcases List.mem_cons.1 ht with rfl | ht
        · rfl
        · rw [hnested] at hrest
          exact absurd List.mem_cons_self (hrest.notMem_of_nestedRun? ht hrun)
    · have hother : u.nestedRun? ≠ some run := fun hrun => by
        obtain ⟨hchild, hadmits⟩ := (hu run).1 hrun
        exact hfirst ⟨hadmits.above_limit, hchild⟩
      have hstill : run ∉ u.nestedRun?.toList ++ nested := by
        rw [List.mem_append, Option.mem_toList, not_or]
        exact ⟨hother, hnew⟩
      rw [List.find?_cons_of_neg (by simpa using hfirst), ih hrest hstill, List.mem_cons]
      constructor
      · rintro ⟨ht, hrun⟩
        exact ⟨.inr ht, hrun⟩
      · rintro ⟨rfl | ht, hrun⟩
        · exact absurd hrun hother
        · exact ⟨ht, hrun⟩

end Guarded

/-! ### What a row shows -/

variable (src maxDepth)

/-- Whether a row at a level shows a step. -/
structure Shows (depth : Nat) (s : Step) (t : TreeNode) : Prop where
  stepId_eq : t.stepId = s.id
  depth_eq : t.depth = depth
  childRunId_eq : t.childRunId = src.childRun? s

/-- A row within the limit, with all steps of its child run below it or none. -/
structure Shaped (t : TreeNode) : Prop where
  depth_le : t.depth ≤ maxDepth
  below : t.children ≠ [] → ∃ run, t.childRunId = some run ∧
    List.Forall₂ (src.Shows (t.depth + 1)) (src.stepsOf run) t.children

variable {src maxDepth} {depth : Nat} {t : TreeNode}

theorem map_stepId_of_shows {steps : List Step} {ts : List TreeNode}
    (h : List.Forall₂ (src.Shows depth) steps ts) : ts.map TreeNode.stepId = steps.map Step.id := by
  induction h with
  | nil => rfl
  | cons hst _ ih => rw [List.map_cons, List.map_cons, hst.stepId_eq, ih]

theorem depth_of_shows {steps : List Step} {ts : List TreeNode}
    (h : List.Forall₂ (src.Shows depth) steps ts) (ht : t ∈ ts) : t.depth = depth := by
  obtain ⟨s, -, hshows⟩ := exists_left_of_forall₂ h ht
  exact hshows.depth_eq

theorem ne_nil_of_shows {steps : List Step} {ts : List TreeNode}
    (h : List.Forall₂ (src.Shows depth) steps ts) (hne : steps ≠ []) : ts ≠ [] := by
  rintro rfl
  exact hne (List.forall₂_nil_right_iff.1 h)

theorem Shaped.map_stepId_children (h : src.Shaped maxDepth t) :
    t.children.map TreeNode.stepId =
      t.nestedRun?.toList.flatMap fun run => (src.stepsOf run).map Step.id := by
  by_cases hne : t.children = []
  · simp [TreeNode.nestedRun?, hne]
  · obtain ⟨run, hrun, hshows⟩ := h.below hne
    have hnested : t.nestedRun? = some run := TreeNode.nestedRun?_eq_some_iff.2 ⟨hne, hrun⟩
    simp [hnested, map_stepId_of_shows hshows]

theorem flatMap_children_stepId (h : ∀ t ∈ rows, src.Shaped maxDepth t) :
    (rows.flatMap TreeNode.children).map TreeNode.stepId =
      (nestedRuns rows).flatMap fun run => (src.stepsOf run).map Step.id := by
  induction rows with
  | nil => rfl
  | cons t rows ih =>
    have ht := (h t List.mem_cons_self).map_stepId_children
    have hrest := ih fun u hu => h u (List.mem_cons_of_mem _ hu)
    rw [List.flatMap_cons, List.map_append, ht, hrest, nestedRuns_cons, List.flatMap_append]

/-! ### Building a level -/

variable (src maxDepth) in
/-- What rows are built with some runs nested before: the rows are guarded and shaped, and the runs
that they nest come on top. -/
structure Expands (nested : List String) (out : List TreeNode × List String) : Prop where
  nested_eq : out.2 = (nestedRuns (flatten out.1)).reverse ++ nested
  guarded : src.Guarded maxDepth nested (flatten out.1)
  shaped : ∀ t ∈ flatten out.1, src.Shaped maxDepth t

namespace Expands

theorem nil (nested : List String) : src.Expands maxDepth nested ([], nested) where
  nested_eq := by simp [nestedRuns]
  guarded := by simp [Guarded]
  shaped := by simp

/-- A row, the rows below it, and the rows that come next. -/
theorem cons {nested' : List String} {more : List TreeNode × List String}
    (hshaped : src.Shaped maxDepth t)
    (hguard : ∀ run, t.nestedRun? = some run ↔
      t.childRunId = some run ∧ src.Admits maxDepth nested t.depth run)
    (hbelow : src.Expands maxDepth (t.nestedRun?.toList ++ nested) (t.children, nested'))
    (hmore : src.Expands maxDepth nested' more) :
    src.Expands maxDepth nested (t :: more.1, more.2) := by
  have hnested : (nestedRuns (flatten t.children)).reverse ++ (t.nestedRun?.toList ++ nested) =
      nested' := hbelow.nested_eq.symm
  constructor
  · rw [flatten_cons, nestedRuns_cons, nestedRuns_append, hmore.nested_eq, ← hnested]
    cases t.nestedRun? <;> simp
  · rw [flatten_cons, Guarded, guarded_append, hnested]
    exact ⟨hguard, hbelow.guarded, hmore.guarded⟩
  · rw [flatten_cons]
    intro u hu
    rcases List.mem_cons.1 hu with rfl | hu
    · exact hshaped
    · rcases List.mem_append.1 hu with hu | hu
      · exact hbelow.shaped u hu
      · exact hmore.shaped u hu

end Expands

section

variable {nest : String → List String → List TreeNode × List String}
  (hdepth : depth ≤ maxDepth)
  (hopen : ∀ run nested, src.Admits maxDepth nested depth run →
    List.Forall₂ (src.Shows (depth + 1)) (src.stepsOf run) (nest run nested).1 ∧
      src.Expands maxDepth (run :: nested) (nest run nested))
  (hclosed : ∀ run nested, ¬ src.Admits maxDepth nested depth run → nest run nested = ([], nested))

include hdepth hopen hclosed

/-- The rows of some steps at a level, when `nest` gives the rows of a run that may be nested and
nothing for one that may not. -/
theorem expands_rows (steps : List Step) (nested : List String) :
    List.Forall₂ (src.Shows depth) steps (src.rows nest depth steps nested).1 ∧
      src.Expands maxDepth nested (src.rows nest depth steps nested) := by
  induction steps generalizing nested with
  | nil => exact ⟨.nil, .nil nested⟩
  | cons s steps ih =>
    have hleaf : ∀ child, src.Shaped maxDepth (.mk s.id depth [] child) := fun child =>
      ⟨hdepth, fun hne => absurd rfl hne⟩
    rw [rows]
    cases hchild : src.childRun? s with
    | none =>
      obtain ⟨hshows, hmore⟩ := ih nested
      refine ⟨.cons ⟨rfl, rfl, hchild.symm⟩ hshows, .cons (hleaf none) (fun run => ?_) ?_ hmore⟩
      · simp [TreeNode.nestedRun?, TreeNode.children, TreeNode.childRunId]
      · exact .nil nested
    | some child =>
      by_cases hadmits : src.Admits maxDepth nested depth child
      · obtain ⟨hbelow, hexpands⟩ := hopen child nested hadmits
        -- The child run has steps, so rows do stand below and say that it is nested here.
        have hne := ne_nil_of_shows hbelow hadmits.has_steps
        obtain ⟨hshows, hmore⟩ := ih (nest child nested).2
        have hnested : TreeNode.nestedRun? (.mk s.id depth (nest child nested).1 (some child)) =
            some child := TreeNode.nestedRun?_eq_some_iff.2 ⟨hne, rfl⟩
        refine ⟨.cons ⟨rfl, rfl, hchild.symm⟩ hshows,
          .cons ⟨hdepth, fun _ => ⟨child, rfl, hbelow⟩⟩ (fun run => ?_) ?_ hmore⟩
        · rw [hnested]
          refine ⟨fun h => ⟨h, ?_⟩, And.left⟩
          rwa [← Option.some.inj h]
        · rw [hnested]
          exact hexpands
      · obtain ⟨hshows, hmore⟩ := ih nested
        simp only [hclosed child nested hadmits]
        refine ⟨.cons ⟨rfl, rfl, hchild.symm⟩ hshows,
          .cons (hleaf (some child)) (fun run => ?_) ?_ hmore⟩
        · constructor
          · intro h
            exact absurd rfl (TreeNode.nestedRun?_eq_some_iff.1 h).1
          · rintro ⟨h, hrun⟩
            exact absurd (Option.some.inj h ▸ hrun) hadmits
        · exact .nil nested

end

theorem expands_level {room : Nat} (hroom : depth + room = maxDepth) (run : String)
    (nested : List String) :
    List.Forall₂ (src.Shows depth) (src.stepsOf run) (src.level room depth run nested).1 ∧
      src.Expands maxDepth nested (src.level room depth run nested) := by
  induction room generalizing depth run nested with
  | zero =>
    refine expands_rows (by omega) (fun run nested h => ?_) (fun _ _ _ => rfl) _ nested
    have := h.above_limit
    omega
  | succ room ih =>
    refine expands_rows (by omega) (fun run nested h => ?_) (fun run nested h => ?_) _ nested
    · rw [if_neg (by simp [h.has_steps, h.is_new])]
      exact ih (by omega) run (run :: nested)
    · by_cases hsteps : src.stepsOf run = []
      · rw [if_pos (by simp [hsteps])]
      · by_cases hmem : run ∈ nested
        · rw [if_pos (by simp [hmem])]
        · exact absurd ⟨by omega, hsteps, hmem⟩ h

/-! ### The tree -/

variable (src) in
/-- Whether the steps of different runs have different identifiers, and those of one run as well. -/
structure Distinct : Prop where
  nodup_ids (run : String) : ((src.stepsOf run).map Step.id).Nodup
  run_eq {run run' : String} {s t : Step} (hs : s ∈ src.stepsOf run) (ht : t ∈ src.stepsOf run')
    (hid : s.id = t.id) : run = run'

variable (src maxDepth) in
/-- A tree below a root run that nests every run at most once, below the first row that may. -/
structure ExpandsOnce (root : String) (tree : List TreeNode) : Prop where
  /-- The rows of the top are the steps of the root run. -/
  top : List.Forall₂ (src.Shows 0) (src.stepsOf root) tree
  rows_at_zero : (flatten tree).filter (fun t => t.depth == 0) = tree
  /-- The rows below a row are the steps of its child run. -/
  below (t : TreeNode) : t ∈ flatten tree → t.children ≠ [] → t.depth < maxDepth ∧
    ∃ run, t.childRunId = some run ∧ run ≠ root ∧
      List.Forall₂ (src.Shows (t.depth + 1)) (src.stepsOf run) t.children
  nodup_runs : (nestedRuns (flatten tree)).Nodup
  nodup_ids : ((flatten tree).map TreeNode.stepId).Nodup
  depth_le (t : TreeNode) : t ∈ flatten tree → t.depth ≤ maxDepth
  /-- A run with steps stands below the first row above the limit that has it as its child run. -/
  below_first (run : String) : run ≠ root → src.stepsOf run ≠ [] → ∀ t,
    (t ∈ flatten tree ∧ t.childRunId = some run ∧ t.children ≠ []) ↔
      (flatten tree).find? (fun t => decide (t.depth < maxDepth) && t.childRunId == some run) =
        some t

theorem Distinct.eq_of_id_eq (h : src.Distinct) {run run' : String} {s t : Step}
    (hs : s ∈ src.stepsOf run) (ht : t ∈ src.stepsOf run') (hid : s.id = t.id) : s = t := by
  obtain rfl : run = run' := h.run_eq hs ht hid
  exact List.inj_on_of_nodup_map (h.nodup_ids run) hs ht hid

theorem Distinct.nodup_flatMap (h : src.Distinct) {runs : List String} (hruns : runs.Nodup) :
    (runs.flatMap fun run => (src.stepsOf run).map Step.id).Nodup := by
  refine List.nodup_flatMap.2 ⟨fun run _ => h.nodup_ids run, hruns.imp fun {run run'} hne => ?_⟩
  intro id hid hid'
  obtain ⟨s, hs, rfl⟩ := List.mem_map.1 hid
  obtain ⟨t, ht, hts⟩ := List.mem_map.1 hid'
  exact hne (h.run_eq hs ht hts.symm)

/-- The rows of a tree are the steps of the root run and of the runs nested in it. -/
theorem perm_stepIds {root : String} {tree : List TreeNode}
    (htop : List.Forall₂ (src.Shows 0) (src.stepsOf root) tree)
    (hshaped : ∀ t ∈ flatten tree, src.Shaped maxDepth t) :
    ((flatten tree).map TreeNode.stepId).Perm
      ((root :: nestedRuns (flatten tree)).flatMap fun run => (src.stepsOf run).map Step.id) := by
  rw [List.flatMap_cons, ← map_stepId_of_shows htop, ← flatMap_children_stepId hshaped,
    ← List.map_append]
  exact (perm_flatten tree).map TreeNode.stepId

theorem expandsOnce_tree (h : src.Distinct) (maxDepth : Nat) (root : String) :
    src.ExpandsOnce maxDepth root (src.tree maxDepth root) := by
  have hbuilt : List.Forall₂ (src.Shows 0) (src.stepsOf root) (src.tree maxDepth root) ∧
      src.Expands maxDepth [root] (src.level maxDepth 0 root [root]) :=
    expands_level (Nat.zero_add maxDepth) root [root]
  obtain ⟨htop, -, hguarded, hshaped⟩ := hbuilt
  rw [← tree] at hguarded hshaped
  have hroot : ∀ t ∈ flatten (src.tree maxDepth root), ∀ run, t.nestedRun? = some run →
      run ≠ root := fun t ht run hrun => by
    simpa using hguarded.notMem_of_nestedRun? ht hrun
  refine ⟨htop, ?_, fun t ht hne => ?_, hguarded.nodup_nestedRuns, ?_,
    fun t ht => (hshaped t ht).depth_le, fun run hne hsteps t => ?_⟩
  · refine filter_depth_flatten (fun t => depth_of_shows htop) fun t ht u hu => ?_
    obtain ⟨run, -, hshows⟩ := (hshaped t ht).below (List.ne_nil_of_mem hu)
    exact depth_of_shows hshows hu
  · obtain ⟨run, hrun, hshows⟩ := (hshaped t ht).below hne
    have hnested : t.nestedRun? = some run := TreeNode.nestedRun?_eq_some_iff.2 ⟨hne, hrun⟩
    exact ⟨hguarded.depth_lt ht hnested, run, hrun, hroot t ht run hnested, hshows⟩
  · refine (perm_stepIds htop hshaped).nodup_iff.2 (h.nodup_flatMap ?_)
    refine List.nodup_cons.2 ⟨fun hmem => ?_, hguarded.nodup_nestedRuns⟩
    obtain ⟨t, ht, hrun⟩ := mem_nestedRuns.1 hmem
    exact hroot t ht root hrun rfl
  · rw [hguarded.find?_eq_some_iff hsteps (by simpa using hne), TreeNode.nestedRun?_eq_some_iff,
      and_comm (a := t.children ≠ [])]

/-- Every row shows a step. -/
theorem ExpandsOnce.exists_step {root : String} {tree : List TreeNode}
    (h : src.ExpandsOnce maxDepth root tree) (ht : t ∈ flatten tree) :
    ∃ run, ∃ s ∈ src.stepsOf run, src.Shows t.depth s t := by
  rcases List.mem_append.1 ((perm_flatten tree).mem_iff.1 ht) with htop | hbelow
  · obtain ⟨s, hs, hshows⟩ := exists_left_of_forall₂ h.top htop
    exact ⟨root, s, hs, hshows.depth_eq ▸ hshows⟩
  · obtain ⟨u, hu, htu⟩ := List.mem_flatMap.1 hbelow
    obtain ⟨-, run, -, -, hrows⟩ := h.below u hu (List.ne_nil_of_mem htu)
    obtain ⟨s, hs, hshows⟩ := exists_left_of_forall₂ hrows htu
    exact ⟨run, s, hs, hshows.depth_eq ▸ hshows⟩

end TreeSource

/-! ### Ledgers -/

namespace Ledger

variable {l : Ledger}

theorem Indexed.mem_stepsOfRun (h : l.Indexed) {s : Step} {run : String} :
    s ∈ l.stepsOfRun run ↔ s ∈ l.steps ∧ s.runId = run := by
  rw [h.stepsOfRun_eq, List.mem_filter, beq_iff_eq]

theorem Indexed.distinct (h : l.Indexed) (hids : (l.steps.map Step.id).Nodup)
    (childRun? : Step → Option String) : TreeSource.Distinct ⟨childRun?, l.stepsOfRun⟩ where
  nodup_ids run := by
    simp only [h.stepsOfRun_eq]
    exact hids.sublist (List.filter_sublist.map Step.id)
  run_eq {run run' s t} hs ht hid := by
    obtain ⟨hs, hrun⟩ := h.mem_stepsOfRun.1 hs
    obtain ⟨ht, hrun'⟩ := h.mem_stepsOfRun.1 ht
    have heq : s = t := List.inj_on_of_nodup_map hids hs ht hid
    rw [← hrun, ← hrun', heq]

end Ledger

/-- The tree of a run of a ledger, whatever the links say, nests every run at most once: below the
first row above the limit that leads to it, and never the root run. So it has no more rows than the
ledger has steps. -/
theorem stepTree_expandsOnce (catalog : Catalog) (config : LedgerConfig) (events : List Event)
    (links : Links) (treeConfig : LedgerConfig) (root : String) :
    let ledger := Ledger.ofEvents catalog config events
    let tree := stepTree root ledger links treeConfig
    TreeSource.ExpandsOnce ⟨links.childRunOf? treeConfig.isAgentKind, ledger.stepsOfRun⟩
        treeConfig.maxDepth root tree ∧
      (flatten tree).length ≤ ledger.steps.length := by
  intro ledger tree
  have hl : ledger.Indexed := Ledger.indexed_ofEvents catalog config events
  have hids : (ledger.steps.map Step.id).Nodup := Ledger.nodup_ids catalog config events
  have honce := TreeSource.expandsOnce_tree
    (hl.distinct hids (links.childRunOf? treeConfig.isAgentKind)) treeConfig.maxDepth root
  have hsub : (flatten tree).map TreeNode.stepId ⊆ ledger.steps.map Step.id := fun id hid => by
    obtain ⟨t, ht, rfl⟩ := List.mem_map.1 hid
    obtain ⟨run, s, hs, hshows⟩ := honce.exists_step ht
    rw [hshows.stepId_eq]
    exact List.mem_map_of_mem (hl.mem_stepsOfRun.1 hs).1
  have hlength := (List.subperm_of_subset honce.nodup_ids hsub).length_le
  rw [List.length_map, List.length_map] at hlength
  exact ⟨honce, hlength⟩

/-- Two rows lead to one run, which leads back to the root run and to itself. -/
example :
    let events : List Event := [.nodeStart "r" "a" none none, .nodeStart "r" "b" none none,
      .subworkflowUpdate "r" "a" "c", .subworkflowUpdate "r" "b" "c", .nodeStart "c" "x" none none,
      .nodeStart "c" "y" none none, .subworkflowUpdate "c" "x" "r", .subworkflowUpdate "c" "y" "c"]
    let rows := flatten (stepTree "r" (Ledger.ofEvents .empty .standard events)
      (Links.ofEvents events) .standard)
    rows.map TreeNode.stepId = ["r:a:0", "c:x:4", "c:y:5", "r:b:1"] ∧ nestedRuns rows = ["c"] := by
  decide +kernel

end RunWatch
