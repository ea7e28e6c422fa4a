import RunWatch.Ledger
import RunWatch.Proofs.LastMatch

/-!
# The history of a stream

The steps of a stream as a function of its events alone, without the tables of a ledger.
`History.record` says what an event does to a list of steps: it adds a step at the end, changes the
last step that passes a test, or leaves the list as it is. `History.run` takes numbered events in
turn. That a ledger holds this list is `Ledger.steps_ofEvents`.
-/

namespace RunWatch

open Text

/-! ### What the changes of a step keep -/

namespace Step

variable (s : Step) (key : NodeKey) (arrival : Nat) (kind : Option String) (ts : Option Instant)
  (waiting : WaitingInfo) (c : Completion) (message : String)

theorem beq_key : (s.key == key) = (s.runId == key.runId && s.nodeId == key.nodeId) := by
  cases key
  rw [Bool.eq_iff_iff]
  simp [Step.key]

@[simp] theorem key_running : (running key arrival kind ts).key = key := rfl

@[simp] theorem key_pause : (s.pause waiting).key = s.key := rfl

@[simp] theorem key_complete : (s.complete c kind).key = s.key := rfl

@[simp] theorem key_merge : (s.merge c).key = s.key := rfl

@[simp] theorem key_fail : (s.fail message ts).key = s.key := rfl

@[simp] theorem key_blame : (s.blame message ts).key = s.key := by
  unfold blame
  split <;> rfl

@[simp] theorem runId_blame : (s.blame message ts).runId = s.runId :=
  congrArg NodeKey.runId (s.key_blame ts message)

@[simp] theorem arrival_blame : (s.blame message ts).arrival = s.arrival := by
  unfold blame
  split <;> rfl

@[simp] theorem isOpen_pause : (s.pause waiting).status.isOpen = true := rfl

@[simp] theorem isOpen_blame : (s.blame message ts).status.isOpen = false := by
  unfold blame
  split
  · rfl
  · next h => simpa using h

theorem status_blame_ne_waiting : (s.blame message ts).status ≠ .waiting := fun h => by
  have hclosed := s.isOpen_blame ts message
  rw [h] at hclosed
  cases hclosed

end Step

namespace History

/-- The step of a node that was created last. -/
def newest? (steps : List Step) (key : NodeKey) : Option Step :=
  steps.findRev? fun s => s.key == key

/-- Whether the newest step of a node is open. -/
def isOpen (steps : List Step) (key : NodeKey) : Bool :=
  (newest? steps key).any fun s => s.status.isOpen

/-- Whether a step is the work that a completion of a node reports again: it is completed, the kind
is one whose completions are merged, and both outputs name the same child run. -/
def repeats (config : LedgerConfig) (key : NodeKey) (kind : Option String) (c : Completion)
    (s : Step) : Bool :=
  config.isDedupKind kind && (c.output.bind subRunIdOf?).any fun subRun =>
    s.key == key && s.status == .completed && s.outputSubRunId? == some subRun

section

variable (catalog : Catalog) (config : LedgerConfig) (place : Nat) (steps : List Step)

/-- Changes the newest step of a node if it is open, and adds a new one otherwise. -/
def settle (key : NodeKey) (f : Step → Step) (new : Step) : List Step :=
  if isOpen steps key then updateLast (fun s => s.key == key) f steps else steps ++ [new]

/-- A node finishes. -/
def complete (key : NodeKey) (nodeType : Option String) (c : Completion) : List Step :=
  let kind := catalog.resolve key.nodeId nodeType
  if !isOpen steps key && steps.any (repeats config key kind c) then
    updateLast (repeats config key kind c) (fun s => s.merge c) steps
  else
    settle steps key (fun s => s.complete c kind)
      ((Step.running key place kind none).complete c kind)

/-- A node waits. -/
def pause (key : NodeKey) (waiting : WaitingInfo) (ts : Option Instant) : List Step :=
  settle steps key (fun s => s.pause waiting)
    ((Step.running key place (catalog.resolve key.nodeId none) ts).pause waiting)

/-- A node fails. -/
def fail (key : NodeKey) (message : String) (ts : Option Instant) : List Step :=
  settle steps key (fun s => s.fail message ts)
    ((Step.running key place (catalog.resolve key.nodeId none) none).fail message ts)

/-- A run waits: its last running step does. -/
def pauseRun (runId : String) (waiting : WaitingInfo) : List Step :=
  updateLast (fun s => s.runId == runId && s.status == .running) (fun s => s.pause waiting) steps

/-- A run fails: the last step of the run has it noted, or else the last one of all. -/
def blame (runId message : String) (ts : Option Instant) : List Step :=
  if steps.any fun s => s.runId == runId then
    updateLast (fun s => s.runId == runId) (fun s => s.blame message ts) steps
  else updateLast (fun _ => true) (fun s => s.blame message ts) steps

/-- The steps after an event at a place of the stream. -/
def record : Event → List Step
  | .nodeStart runId nodeId nodeType ts =>
    if runId = "" ∨ nodeId = "" then steps
    else steps ++ [.running ⟨runId, nodeId⟩ place (catalog.resolve nodeId nodeType) ts]
  | .nodeComplete runId nodeId nodeType result details ts =>
    if runId = "" ∨ nodeId = "" then steps
    else complete catalog config place steps ⟨runId, nodeId⟩ nodeType (.of result details ts)
  | .flowWaiting runId nodeId waiting ts =>
    if runId = "" then steps
    else match nodeId.bind full? with
      | some nodeId => pause catalog place steps ⟨runId, nodeId⟩ waiting ts
      | none => pauseRun steps runId waiting
  | .flowError runId nodeId error ts =>
    match nodeId.bind full? with
    | some nodeId =>
      if runId = "" then steps
      else fail catalog place steps ⟨runId, nodeId⟩ (Event.errorText error) ts
    | none => blame steps runId (Event.errorText error) ts
  | .flowStart .. | .flowComplete .. | .flowCancelled .. | .subworkflowUpdate .. | .traceUpdate ..
  | .unknown => steps

end

/-- The steps after some events, each with its place in the stream. -/
def run (catalog : Catalog) (config : LedgerConfig) (events : List (Event × Nat))
    (steps : List Step) : List Step :=
  events.foldl (fun steps e => record catalog config e.2 steps e.1) steps

end History

end RunWatch
