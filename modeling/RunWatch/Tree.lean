import RunWatch.Ledger
import RunWatch.Links

/-!
# The step tree

The steps of a run, with the steps of child runs nested below the steps that started them.

* `stepTree` builds the tree. A child run is nested when it has steps, the level is above the limit,
  and the run has not been nested before; the root run counts as nested.
* `flatten` lists the rows in display order with a stack of trees that wait, and `preorder` says
  what that order is.
* `Expansion.isExpanded` says which rows show the rows below them. A choice of the operator stands;
  without one, the rows of the root run whose step is open are expanded.
-/

namespace RunWatch

/-- A row of the step tree with the rows below it. `childRunId` is the child run of the step, also
when it is not nested here. -/
inductive TreeNode where
  | mk (stepId : String) (depth : Nat) (children : List TreeNode) (childRunId : Option String)

namespace TreeNode

/-- The step of a row. -/
def stepId : TreeNode → String
  | mk stepId _ _ _ => stepId

/-- The level of a row; that of the root run is 0. -/
def depth : TreeNode → Nat
  | mk _ depth _ _ => depth

/-- The rows below a row. -/
def children : TreeNode → List TreeNode
  | mk _ _ children _ => children

/-- The child run of the step of a row. -/
def childRunId : TreeNode → Option String
  | mk _ _ _ childRunId => childRunId

end TreeNode

/-! ### Building -/

/-- What a step tree is built from: the child run of a step, and the steps of a run. -/
structure TreeSource where
  childRun? : Step → Option String
  stepsOf : String → List Step

namespace TreeSource

/-- The rows of some steps at a level. `nest` gives the rows below a step for its child run, and the
runs that are nested then; `nested` are the runs nested so far. -/
def rows (src : TreeSource) (nest : String → List String → List TreeNode × List String)
    (depth : Nat) : List Step → List String → List TreeNode × List String
  | [], nested => ([], nested)
  | s :: rest, nested =>
    let child := src.childRun? s
    let (below, nested) := match child with
      | some run => nest run nested
      | none => ([], nested)
    let (more, nested) := rows src nest depth rest nested
    (.mk s.id depth below child :: more, nested)

/-- The rows of a run at a level, with room for so many levels below it. -/
def level (src : TreeSource) : (room depth : Nat) → String → List String →
    List TreeNode × List String
  | 0, depth, run, nested => src.rows (fun _ nested => ([], nested)) depth (src.stepsOf run) nested
  | room + 1, depth, run, nested =>
    src.rows (fun child nested =>
      if (src.stepsOf child).isEmpty || nested.contains child then ([], nested)
      else level src room (depth + 1) child (child :: nested))
      depth (src.stepsOf run) nested

/-- The tree below a root run, with a limit on the level of rows. -/
def tree (src : TreeSource) (maxDepth : Nat) (root : String) : List TreeNode :=
  (src.level maxDepth 0 root [root]).1

end TreeSource

/-- The tree of a run of a ledger. -/
def stepTree (root : String) (ledger : Ledger) (links : Links) (config : LedgerConfig) :
    List TreeNode :=
  TreeSource.tree ⟨links.childRunOf? config.isAgentKind, ledger.stepsOfRun⟩ config.maxDepth root

/-! ### Display order -/

mutual

/-- The number of rows of a tree. -/
def TreeNode.size : TreeNode → Nat
  | .mk _ _ children _ => 1 + forestSize children

/-- The number of rows of a list of trees. -/
def forestSize : List TreeNode → Nat
  | [] => 0
  | t :: ts => t.size + forestSize ts

end

theorem forestSize_append (ts us : List TreeNode) :
    forestSize (ts ++ us) = forestSize ts + forestSize us := by
  induction ts with
  | nil => simp [forestSize]
  | cons t ts ih => simp [forestSize, ih, Nat.add_assoc]

theorem forestSize_children_lt (t : TreeNode) (ts : List TreeNode) :
    forestSize (t.children ++ ts) < forestSize (t :: ts) := by
  cases t
  simp only [TreeNode.children, forestSize_append, forestSize, TreeNode.size]
  omega

/-- The rows of the trees of a stack: the first row is shown, and the trees below it go on top. -/
def flatten (stack : List TreeNode) : List TreeNode :=
  match stack with
  | [] => []
  | t :: rest => t :: flatten (t.children ++ rest)
  termination_by forestSize stack
  decreasing_by exact forestSize_children_lt t rest

@[simp] theorem flatten_nil : flatten [] = [] := by
  rw [flatten]

theorem flatten_append (ts us : List TreeNode) : flatten (ts ++ us) = flatten ts ++ flatten us := by
  fun_induction flatten ts with
  | case1 => simp
  | case2 t rest ih =>
    rw [List.cons_append, flatten, ← List.append_assoc, ih, List.cons_append]

/-- A row is followed by the rows below it, and these by the trees that come next. -/
theorem flatten_cons (t : TreeNode) (ts : List TreeNode) :
    flatten (t :: ts) = t :: (flatten t.children ++ flatten ts) := by
  rw [flatten, flatten_append]

mutual

/-- The rows of a tree, each before the rows below it. -/
def TreeNode.preorder : TreeNode → List TreeNode
  | .mk stepId depth children childRunId =>
    .mk stepId depth children childRunId :: preorder children

/-- The rows of a list of trees, tree after tree, each row before the rows below it. -/
def preorder : List TreeNode → List TreeNode
  | [] => []
  | t :: ts => t.preorder ++ preorder ts

end

/-! ### Expanded rows -/

/-- The choices of the operator, by step. -/
abbrev Expansion := Table String Bool

namespace Expansion

/-- The choice for a step. -/
def choice? (x : Expansion) (stepId : String) : Option Bool := x.get? stepId

/-- Whether a row is expanded, given the status of its step. -/
def isExpanded (x : Expansion) (t : TreeNode) (status : Option StepStatus) : Bool :=
  (x.choice? t.stepId).getD (t.depth == 0 && status.any StepStatus.isOpen)

/-- Records a choice. -/
def set (x : Expansion) (stepId : String) (expanded : Bool) : Expansion := x.insert stepId expanded

/-- Turns a row over and records that as a choice; the new state comes first. -/
def toggle (x : Expansion) (t : TreeNode) (status : Option StepStatus) : Bool × Expansion :=
  let expanded := !x.isExpanded t status
  (expanded, x.set t.stepId expanded)

end Expansion

end RunWatch
