import RunWatch.Catalog
import RunWatch.Config
import RunWatch.Run
import RunWatch.Step

/-!
# The ledger

A ledger holds the steps of every run seen in a stream of events, in the order of the events that
created them, and a summary of every run. It is built by `Ledger.ofEvents`, which applies the events
one after another with `Ledger.apply`.

An event that ends a step is matched to its start by the table of open steps, at most one for each
node of each run. A second start before the end takes the place of the first one, so the next end
belongs to the step that was opened last. A step that waits stays open.
-/

namespace RunWatch

/-- The steps and runs of a stream. Steps stand in order of creation and are found by their place in
this order. -/
structure Ledger where
  catalog : Catalog
  config : LedgerConfig
  steps : List Step
  /-- The places of the steps of each run. -/
  byRun : Table String (List Nat)
  /-- The place of the step with each identifier. -/
  byId : Table String Nat
  /-- The place of the open step of each node. -/
  openSteps : Table NodeKey Nat
  summaries : Table String RunSummary
  /-- The number of events applied. -/
  arrival : Nat
  deriving DecidableEq

namespace Ledger

open Text

/-- A ledger without events. -/
def new (catalog : Catalog) (config : LedgerConfig) : Ledger :=
  ⟨catalog, config, [], .empty, .empty, .empty, .empty, 0⟩

instance : Inhabited Ledger := ⟨new .empty .standard⟩

/-! ### Look-ups -/

/-- The places of the steps of a run, in ascending order. -/
def places (l : Ledger) (runId : String) : List Nat := (l.byRun.get? runId).getD []

/-- The steps of a run, in order of creation. -/
def stepsOfRun (l : Ledger) (runId : String) : List Step :=
  (l.places runId).filterMap fun i => l.steps[i]?

/-- The steps of each run that has any, in order of creation. -/
def stepsByRun (l : Ledger) : Table String (List Step) :=
  l.byRun.mapValues fun places => places.filterMap fun i => l.steps[i]?

/-- Whether a run has steps. -/
def hasSteps (l : Ledger) (runId : String) : Bool := !(l.places runId).isEmpty

/-- The step of a run that was created last. -/
def lastStepOfRun? (l : Ledger) (runId : String) : Option Step :=
  (l.places runId).getLast?.bind fun i => l.steps[i]?

/-- The step with an identifier. -/
def step? (l : Ledger) (id : String) : Option Step := (l.byId.get? id).bind fun i => l.steps[i]?

/-- The open step of a node. -/
def openStep? (l : Ledger) (key : NodeKey) : Option Step :=
  (l.openSteps.get? key).bind fun i => l.steps[i]?

/-- What is known of a run. -/
def summary? (l : Ledger) (runId : String) : Option RunSummary := l.summaries.get? runId

/-- The runs, in order of first appearance. -/
def runs (l : Ledger) : List String := l.summaries.keys

/-- The place of the last step of a run that passes a test. -/
def lastPlace? (l : Ledger) (runId : String) (p : Step → Bool) : Option Nat :=
  (l.places runId).reverse.find? fun i => (l.steps[i]?).any p

/-! ### Changes -/

/-- Changes the step at a place. -/
def modifyStep (l : Ledger) (place : Nat) (f : Step → Step) : Ledger :=
  { l with steps := l.steps.modify place f }

/-- Changes what is known of a run, which is known from then on. -/
def modifyRun (l : Ledger) (runId : String) (f : RunSummary → RunSummary) : Ledger :=
  { l with
    summaries := l.summaries.insert runId (f ((l.summaries.get? runId).getD (.fresh runId))) }

/-- Adds a step at the end. -/
def addStep (l : Ledger) (s : Step) : Ledger :=
  let l := l.modifyRun s.runId fun summary => summary
  { l with
    steps := l.steps ++ [s]
    byRun := l.byRun.insert s.runId (l.places s.runId ++ [l.steps.length])
    byId := l.byId.insert s.id l.steps.length }

/-- Adds a step at the end and opens it for its node. -/
def addOpenStep (l : Ledger) (s : Step) : Ledger :=
  let place := l.steps.length
  let l := l.addStep s
  { l with openSteps := l.openSteps.insert s.key place }

/-- Takes the open step of a node from the table. -/
def closeNode (l : Ledger) (key : NodeKey) : Ledger :=
  { l with openSteps := l.openSteps.erase key }

/-! ### Events of nodes -/

/-- A node starts: a new step runs, and is the open one of its node. -/
def startStep (l : Ledger) (place : Nat) (key : NodeKey) (nodeType : Option String)
    (ts : Option Instant) : Ledger :=
  l.addOpenStep (.running key place (l.catalog.resolve key.nodeId nodeType) ts)

/-- The place of the completed step of a node that a repeated completion belongs to: its kind is one
whose completions are merged, and both outputs name the same child run. -/
def duplicate? (l : Ledger) (key : NodeKey) (kind : Option String) (c : Completion) : Option Nat :=
  if l.config.isDedupKind kind then do
    let subRun ← c.output.bind subRunIdOf?
    l.lastPlace? key.runId fun s =>
      s.nodeId == key.nodeId && s.status == .completed && s.outputSubRunId? == some subRun
  else none

/-- A node finishes: its open step completes; without one, the completion is merged into the step
that it repeats, or makes a step of its own. -/
def completeStep (l : Ledger) (place : Nat) (key : NodeKey) (nodeType : Option String)
    (c : Completion) : Ledger :=
  let kind := l.catalog.resolve key.nodeId nodeType
  match l.openSteps.get? key with
  | some i => (l.closeNode key).modifyStep i fun s => s.complete c kind
  | none =>
    match l.duplicate? key kind c with
    | some i => l.modifyStep i fun s => s.merge c
    | none => l.addStep ((Step.running key place kind none).complete c kind)

/-- A run waits, and no node is named: its last running step waits. -/
def pauseRun (l : Ledger) (runId : String) (waiting : WaitingInfo) : Ledger :=
  match l.lastPlace? runId fun s => s.status == .running with
  | some i => l.modifyStep i fun s => s.pause waiting
  | none => l

/-- A node waits: its open step waits, or a new one does. -/
def pauseStep (l : Ledger) (place : Nat) (key : NodeKey) (waiting : WaitingInfo)
    (ts : Option Instant) : Ledger :=
  match l.openSteps.get? key with
  | some i => l.modifyStep i fun s => s.pause waiting
  | none =>
    l.addOpenStep ((Step.running key place (l.catalog.resolve key.nodeId none) ts).pause waiting)

/-- A node fails: its open step fails, or a new one does. -/
def failStep (l : Ledger) (place : Nat) (key : NodeKey) (message : String) (ts : Option Instant) :
    Ledger :=
  match l.openSteps.get? key with
  | some i => (l.closeNode key).modifyStep i fun s => s.fail message ts
  | none =>
    l.addStep ((Step.running key place (l.catalog.resolve key.nodeId none) none).fail message ts)

/-- The place of the step that the failure of a run is noted on: the last step of the run, or else
the last one of all. -/
def blamedPlace? (l : Ledger) (runId : String) : Option Nat :=
  (l.places runId).getLast?.or (if l.steps.isEmpty then none else some (l.steps.length - 1))

/-- A failure is noted on a step; an open one fails and is open no more. -/
def blameStep (l : Ledger) (message : String) (ts : Option Instant) (place : Nat) : Ledger :=
  let wasOpen := (l.steps[place]?).any fun s => s.status.isOpen
  let l := l.modifyStep place fun s => s.blame message ts
  if wasOpen then { l with openSteps := l.openSteps.filter fun _ i => i != place } else l

/-- A run fails, and no node is named. A failure without a run is noted on the last step only. -/
def failRun (l : Ledger) (runId : String) (message : String) (ts : Option Instant) : Ledger :=
  let l := if runId = "" then l else l.modifyRun runId fun s => s.fail message ts
  match l.blamedPlace? runId with
  | some place => l.blameStep message ts place
  | none => l

/-! ### Events -/

/-- What an event at a place of the stream does to the ledger. Events without a run do nothing, but
for a failure that names neither run nor node. -/
def record (l : Ledger) (place : Nat) : Event → Ledger
  | .flowStart runId parentRunId ts =>
    if runId = "" then l
    else l.modifyRun runId fun s => s.start (parentRunId.bind full?) ts
  | .flowComplete runId details ts =>
    if runId = "" then l else l.modifyRun runId fun s => s.complete details ts
  | .flowCancelled runId ts =>
    if runId = "" then l else l.modifyRun runId fun s => s.cancel ts
  | .nodeStart runId nodeId nodeType ts =>
    if runId = "" ∨ nodeId = "" then l else l.startStep place ⟨runId, nodeId⟩ nodeType ts
  | .nodeComplete runId nodeId nodeType result details ts =>
    if runId = "" ∨ nodeId = "" then l
    else l.completeStep place ⟨runId, nodeId⟩ nodeType (.of result details ts)
  | .flowWaiting runId nodeId waiting ts =>
    if runId = "" then l
    else match nodeId.bind full? with
      | some nodeId => l.pauseStep place ⟨runId, nodeId⟩ waiting ts
      | none => l.pauseRun runId waiting
  | .flowError runId nodeId error ts =>
    match nodeId.bind full? with
    | some nodeId =>
      if runId = "" then l
      else l.failStep place ⟨runId, nodeId⟩ (Event.errorText error) ts
    | none => l.failRun runId (Event.errorText error) ts
  | .subworkflowUpdate .. | .traceUpdate .. | .unknown => l

/-- The ledger after one more event. -/
def apply (l : Ledger) (e : Event) : Ledger :=
  { l.record l.arrival e with arrival := l.arrival + 1 }

/-- The ledger of a stream of events. -/
def ofEvents (catalog : Catalog) (config : LedgerConfig) (events : List Event) : Ledger :=
  events.foldl apply (new catalog config)

end Ledger

end RunWatch
