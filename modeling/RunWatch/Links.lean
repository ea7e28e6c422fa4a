import RunWatch.Event
import RunWatch.Step
import RunWatch.Table

/-!
# Links between runs

Which node of a parent run started which child run, as the events of a stream say it:

* an explicit link ties a node to its child run, and the last one of a node stands;
* a trace ties the run of an agent to the node of the parent run that it works for;
* the start of a run may declare a parent, which makes it a child of some node.

`Links.ofEvents` folds a stream into the tables; an event with an empty identifier links nothing.
-/

namespace RunWatch

open Text

/-- The links seen in a stream. -/
structure Links where
  /-- The child run of a node, by explicit links. -/
  children : Table NodeKey String
  /-- The run of the agent of a node, by traces. -/
  agentRuns : Table NodeKey String
  /-- The node that started a run. -/
  parents : Table String NodeKey
  /-- The runs that declared a parent when they started. -/
  declared : List String
  deriving DecidableEq

namespace Links

/-- No links. -/
def empty : Links := ⟨.empty, .empty, .empty, []⟩

instance : Inhabited Links := ⟨empty⟩

/-- The child run of a node. -/
def childOf? (l : Links) (key : NodeKey) : Option String := l.children.get? key

/-- The run of the agent of a node. -/
def agentRunOf? (l : Links) (key : NodeKey) : Option String := l.agentRuns.get? key

/-- The node that started a run. -/
def parentOf? (l : Links) (runId : String) : Option NodeKey := l.parents.get? runId

/-- Whether a run is known to have been started by another one. -/
def isChild (l : Links) (runId : String) : Bool :=
  l.parents.contains runId || l.declared.contains runId

/-- An explicit link: it stands for the node, and for the child run. -/
def addChild (l : Links) (key : NodeKey) (childRunId : String) : Links :=
  { l with
    children := l.children.insert key childRunId
    parents := l.parents.insert childRunId key }

/-- A trace: it stands for the node, and for the run of the agent unless that has a parent. -/
def addAgentRun (l : Links) (key : NodeKey) (agentRunId : String) : Links :=
  { l with
    agentRuns := l.agentRuns.insert key agentRunId
    parents := l.parents.insertIfNew agentRunId key }

/-- A run that declares a parent. -/
def addDeclared (l : Links) (runId : String) : Links :=
  if l.declared.contains runId then l else { l with declared := l.declared ++ [runId] }

/-- The links after one more event. -/
def record (l : Links) : Event → Links
  | .subworkflowUpdate runId nodeId subRunId =>
    if runId = "" ∨ nodeId = "" ∨ subRunId = "" then l else l.addChild ⟨runId, nodeId⟩ subRunId
  | .traceUpdate runId nodeId (some parent) _ =>
    if runId = "" ∨ nodeId = "" ∨ parent = "" ∨ parent = runId then l
    else l.addAgentRun ⟨parent, nodeId⟩ runId
  | .flowStart runId (some parent) _ =>
    if runId = "" ∨ parent = "" then l else l.addDeclared runId
  | _ => l

/-- The links of a stream. -/
def ofEvents (events : List Event) : Links := events.foldl record empty

end Links

/-! ### Child runs named by an output -/

/-- The child run that a value names as the result of a workflow: it has a `sub_run_id` that is not
empty, and a `child_output` or an `output`. -/
def subWorkflowRun? (v : Json) : Option String := do
  let id ← (v.get? "sub_run_id").bind Json.toFullText?
  if (v.get? "child_output").isSome || (v.get? "output").isSome then some id else none

/-- The child run that an output names, at the top or under `result`. -/
def inferSubRun? (output : Json) : Option String :=
  (subWorkflowRun? output).or ((output.get? "result").bind subWorkflowRun?)

/-- The child run of a step: the one its output names, unless its kind is that of an agent, or else
the one linked to its node. -/
def Links.childRunOf? (l : Links) (isAgentKind : Option String → Bool) (s : Step) : Option String :=
  (if isAgentKind s.kind then none else s.output.bind inferSubRun?).or (l.childOf? s.key)

end RunWatch
