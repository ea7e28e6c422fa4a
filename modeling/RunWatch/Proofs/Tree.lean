import Mathlib.Data.List.Forall2
import RunWatch.Tree

/-!
# The step tree reads its scope

A tree is built from the identifiers and child runs of the steps of some runs. Two sources that
agree on a set of runs, which holds the child runs of their steps (`TreeSource.AgreeOn`), give the
same tree below each of these runs (`TreeSource.AgreeOn.tree_eq`), whatever they say of other runs.

The identifiers are copied and never compared. So sources that agree up to the identifiers
(`TreeSource.AgreeUpTo`) give the same tree up to the identifiers (`TreeSource.AgreeUpTo.tree_eq`).
-/

namespace RunWatch

/-! ### Other identifiers -/

mutual

/-- A row with other identifiers of steps, in the rows below it as well. -/
def TreeNode.mapIds (g : String → String) : TreeNode → TreeNode
  | .mk stepId depth children childRunId => .mk (g stepId) depth (mapIds g children) childRunId

/-- Some rows with other identifiers of steps. -/
def mapIds (g : String → String) : List TreeNode → List TreeNode
  | [] => []
  | t :: ts => t.mapIds g :: mapIds g ts

end

mutual

theorem TreeNode.mapIds_id : ∀ t : TreeNode, t.mapIds id = t
  | .mk stepId depth children childRunId => by
    rw [TreeNode.mapIds, RunWatch.mapIds_id children, id_eq]

theorem mapIds_id : ∀ ts : List TreeNode, mapIds id ts = ts
  | [] => by rw [mapIds]
  | t :: ts => by rw [mapIds, t.mapIds_id, RunWatch.mapIds_id ts]

end

namespace TreeSource

/-- Whether the rows of two steps look the same. -/
def SameRow (src src' : TreeSource) (s t : Step) : Prop :=
  s.id = t.id ∧ src.childRun? s = src'.childRun? t

/-- Two sources that say the same of the runs in scope, where the steps of these runs have their
child runs in scope as well. -/
structure AgreeOn (src src' : TreeSource) (scope : String → Prop) : Prop where
  same_rows (run : String) :
    scope run → List.Forall₂ (SameRow src src') (src.stepsOf run) (src'.stepsOf run)
  closed (run : String) :
    scope run → ∀ s ∈ src.stepsOf run, ∀ child, src.childRun? s = some child → scope child

/-- Whether the rows of two steps look the same once the identifier of the first one is changed. -/
def SameRowUpTo (g : String → String) (src src' : TreeSource) (s t : Step) : Prop :=
  g s.id = t.id ∧ src.childRun? s = src'.childRun? t

/-- Two sources that say the same of the runs in scope once the identifiers of the first one are
changed. -/
structure AgreeUpTo (g : String → String) (src src' : TreeSource) (scope : String → Prop) :
    Prop where
  same_rows (run : String) :
    scope run → List.Forall₂ (SameRowUpTo g src src') (src.stepsOf run) (src'.stepsOf run)
  closed (run : String) :
    scope run → ∀ s ∈ src.stepsOf run, ∀ child, src.childRun? s = some child → scope child

section

variable {g : String → String} {src src' : TreeSource} {scope : String → Prop} {run : String}

/-- The rows of some steps change their identifiers, if the rows nested below them do. -/
theorem rows_mapIds {nest nest' : String → List String → List TreeNode × List String}
    {ss ts : List Step} (h : List.Forall₂ (SameRowUpTo g src src') ss ts)
    (hnest : ∀ s ∈ ss, ∀ child, src.childRun? s = some child → ∀ nested,
      nest' child nested = (mapIds g (nest child nested).1, (nest child nested).2))
    (depth : Nat) (nested : List String) : src'.rows nest' depth ts nested =
      (mapIds g (src.rows nest depth ss nested).1, (src.rows nest depth ss nested).2) := by
  induction h generalizing nested with
  | nil => rfl
  | @cons s t ss ts hst _ ih =>
    have hrest := fun s hs => hnest s (List.mem_cons_of_mem _ hs)
    obtain ⟨hid, hchild⟩ := hst
    rw [rows, rows, ← hchild, ← hid]
    cases hc : src.childRun? s with
    | none => simp only [ih hrest, mapIds, TreeNode.mapIds]
    | some child =>
      simp only [hnest s List.mem_cons_self child hc, ih hrest, mapIds, TreeNode.mapIds]

namespace AgreeUpTo

theorem isEmpty_eq (h : AgreeUpTo g src src' scope) (hrun : scope run) :
    (src.stepsOf run).isEmpty = (src'.stepsOf run).isEmpty := by
  rw [Bool.eq_iff_iff, List.isEmpty_iff_length_eq_zero, List.isEmpty_iff_length_eq_zero,
    (h.same_rows run hrun).length_eq]

theorem level_eq (h : AgreeUpTo g src src' scope) (hrun : scope run) (room depth : Nat)
    (nested : List String) : src'.level room depth run nested =
      (mapIds g (src.level room depth run nested).1, (src.level room depth run nested).2) := by
  induction room generalizing depth run nested with
  | zero =>
    refine rows_mapIds (h.same_rows run hrun) (fun _ _ _ _ nested => ?_) depth nested
    rw [mapIds]
  | succ room ih =>
    refine rows_mapIds (h.same_rows run hrun) (fun s hs child hchild nested => ?_) depth nested
    have hscope : scope child := h.closed run hrun s hs child hchild
    rw [← h.isEmpty_eq hscope, ih hscope]
    split
    · rw [mapIds]
    · rfl

/-- Sources that agree up to the identifiers give the same tree up to the identifiers. -/
theorem tree_eq (h : AgreeUpTo g src src' scope) (hrun : scope run) (maxDepth : Nat) :
    src'.tree maxDepth run = mapIds g (src.tree maxDepth run) := by
  rw [tree, tree, h.level_eq hrun]

end AgreeUpTo

namespace AgreeOn

theorem agreeUpTo (h : AgreeOn src src' scope) : AgreeUpTo id src src' scope :=
  ⟨h.same_rows, h.closed⟩

/-- Sources that agree on a root run and all that can be nested below it give the same tree. -/
theorem tree_eq (h : AgreeOn src src' scope) (hrun : scope run) (maxDepth : Nat) :
    src.tree maxDepth run = src'.tree maxDepth run := by
  rw [h.agreeUpTo.tree_eq hrun, mapIds_id]

end AgreeOn

end

end TreeSource

end RunWatch
