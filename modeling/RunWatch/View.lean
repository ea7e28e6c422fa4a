import RunWatch.Preview
import RunWatch.Scope
import RunWatch.Tree

/-!
# The derived view

What a panel shows of a stream of events: the root run and its status, the steps in its scope, and
the step tree. `RunView.derive` computes all of it from the events anew.
-/

namespace RunWatch

/-- The overall state of a view. -/
inductive ViewStatus where
  | idle
  | running
  | waiting
  | completed
  | failed
  | cancelled
  deriving DecidableEq

/-- The name of a status. -/
def ViewStatus.name : ViewStatus → String
  | idle => "idle"
  | running => "running"
  | waiting => "waiting"
  | completed => "completed"
  | failed => "failed"
  | cancelled => "cancelled"

/-- Whether the run has ended. -/
def ViewStatus.isTerminal : ViewStatus → Bool
  | completed | failed | cancelled => true
  | idle | running | waiting => false

/-- A step with the runs that it is linked to. -/
structure StepView where
  step : Step
  childRunId : Option String
  /-- The run of the agent of the step's node, known before the agent completes. -/
  agentRunId : Option String
  deriving DecidableEq

/-- What a panel shows of a stream. -/
structure RunView where
  rootRunId : Option String
  status : ViewStatus
  summary : Option RunSummary
  /-- The steps of the runs in scope, in order of creation. -/
  steps : List StepView
  tree : List TreeNode
  eventCount : Nat
  ledger : Ledger
  links : Links

/-- The root run of a stream: the last run to start without a parent that is no child of another
one, or else the first run of all that is no child. -/
def rootRunId? (events : List Event) (links : Links) : Option String :=
  let notChild (run : String) : Bool := !links.isChild run
  (((events.reverse.filter Event.isRootStart).filterMap Event.runId?).find? notChild).or
    ((events.filterMap Event.runId?).find? notChild)

/-- The status of a view: that of the root run once it has ended, or else by what its steps do. -/
def viewStatus (summary : Option RunSummary) (rootHasSteps : Bool) (steps : List StepView) :
    ViewStatus :=
  match summary.map RunSummary.status with
  | some .completed => .completed
  | some .failed => .failed
  | some .cancelled => .cancelled
  | some .running | none =>
    if steps.any fun s => s.step.status == .waiting then .waiting
    else if summary.isSome || rootHasSteps then .running
    else .idle

namespace RunView

/-- The view of nothing. -/
def empty : RunView := ⟨none, .idle, none, [], [], 0, default, default⟩

instance : Inhabited RunView := ⟨empty⟩

/-- A step with its links. -/
def stepView (links : Links) (config : LedgerConfig) (s : Step) : StepView :=
  ⟨s, links.childRunOf? config.isAgentKind s, links.agentRunOf? s.key⟩

/-- The steps of a ledger that belong to some runs. -/
def scopedSteps (ledger : Ledger) (links : Links) (config : LedgerConfig) (runs : List String) :
    List StepView :=
  (ledger.steps.filter fun s => runs.contains s.runId).map (stepView links config)

/-- The view of a root run. -/
def ofRoot (root : String) (eventCount : Nat) (ledger : Ledger) (links : Links)
    (config : LedgerConfig) : RunView :=
  let steps := scopedSteps ledger links config (treeRunIds root ledger links config)
  let summary := ledger.summary? root
  { rootRunId := some root
    status := viewStatus summary (ledger.hasSteps root) steps
    summary
    steps
    tree := stepTree root ledger links config
    eventCount
    ledger
    links }

/-- The view of a stream of events. -/
def derive (events : List Event) (catalog : Catalog) (config : LedgerConfig) : RunView :=
  let ledger := Ledger.ofEvents catalog config events
  let links := Links.ofEvents events
  match rootRunId? events links with
  | some root => ofRoot root events.length ledger links config
  | none => { empty with eventCount := events.length, ledger, links }

/-! ### Look-ups -/

/-- The step with an identifier. -/
def step? (v : RunView) (id : String) : Option StepView := v.steps.find? fun s => s.step.id == id

/-- Whether a step is shown. -/
def contains (v : RunView) (id : String) : Bool := (v.step? id).isSome

/-- The status of a step. -/
def statusOf? (v : RunView) (id : String) : Option StepStatus :=
  (v.step? id).map fun s => s.step.status

/-- The last step of the root run. -/
def lastRootStep? (v : RunView) : Option StepView := do
  let root ← v.rootRunId
  v.steps.reverse.find? fun s => s.step.runId == root

/-- The preview of the output of a step. -/
def preview? (v : RunView) (id : String) : Option Preview := do
  let s ← v.step? id
  let output ← s.step.output
  Preview.ofOutput? output

/-- The row of a step. -/
def row? (v : RunView) (id : String) : Option TreeNode :=
  (flatten v.tree).find? fun t => t.stepId == id

/-- The steps whose rows have rows below them and are expanded, in display order. -/
def expandedIds (v : RunView) (x : Expansion) : List String :=
  (((flatten v.tree).filter fun t => !t.children.isEmpty).filter fun t =>
    x.isExpanded t (v.statusOf? t.stepId)).map TreeNode.stepId

/-- Whether the root run has ended. -/
def isTerminal (v : RunView) : Bool := v.status.isTerminal

/-- The step that is selected after a selection: the same one while it is shown, or else the last
step of the root run. -/
def resolveSelection (v : RunView) (selected : Option String) : Option String :=
  match selected.filter v.contains with
  | some id => some id
  | none => v.lastRootStep?.map fun s => s.step.id

end RunView

end RunWatch
