import RunWatch.Control
import RunWatch.View

/-!
# Watch sessions

A session follows one target. It keeps the events of the current run and the view derived from them,
what the operator selected and expanded, and the state of the connection.

A session is reset when another target is watched, when the operator begins a run, and when the
first event of another run arrives after the root run has ended. While it is disconnected it refuses
events, so the view stays as it was.
-/

namespace RunWatch

/-- The state of the transport that brings the events. -/
structure Connection where
  connected : Bool
  error : Option String
  deriving DecidableEq

/-- A connection that works. -/
def Connection.good : Connection := ⟨true, none⟩

/-- Why a session refuses something. -/
inductive SessionFault where
  | noActiveRun
  | frozen (reason : String)
  deriving DecidableEq

/-- The fault in words. -/
def SessionFault.message : SessionFault → String
  | noActiveRun => "no active run"
  | frozen reason => "session is frozen: " ++ reason

/-- What became of an event that was accepted. -/
inductive IngestOutcome where
  | accepted
  /-- The events of an earlier run were dropped first. -/
  | acceptedAfterReset
  deriving DecidableEq

/-- The name of an outcome. -/
def IngestOutcome.name : IngestOutcome → String
  | accepted => "accepted"
  | acceptedAfterReset => "accepted_after_reset"

/-- What became of a batch of events. -/
structure IngestTotals where
  accepted : Nat
  rejected : Nat
  resets : Nat
  deriving DecidableEq

/-- The totals with one more event. -/
def IngestTotals.add (t : IngestTotals) : Except SessionFault IngestOutcome → IngestTotals
  | .ok .accepted => { t with accepted := t.accepted + 1 }
  | .ok .acceptedAfterReset => { t with accepted := t.accepted + 1, resets := t.resets + 1 }
  | .error _ => { t with rejected := t.rejected + 1 }

/-- The state of one watched target. -/
structure WatchSession where
  target : Option String
  catalog : Catalog
  config : LedgerConfig
  /-- The events since the last reset. -/
  events : List Event
  view : RunView
  /-- Whether the view is older than the events or the catalog. -/
  stale : Bool
  selected : Option String
  expansion : Expansion
  connection : Connection
  /-- The number of resets. -/
  generation : Nat

namespace WatchSession

/-- A session that watches nothing yet. -/
def new (catalog : Catalog) (config : LedgerConfig) : WatchSession where
  target := none
  catalog := catalog
  config := config
  events := []
  view := .empty
  stale := false
  selected := none
  expansion := .empty
  connection := .good
  generation := 0

/-- Drops everything that belongs to the run shown so far. -/
def reset (s : WatchSession) : WatchSession :=
  { s with
    events := []
    view := .empty
    stale := false
    selected := none
    expansion := .empty
    generation := s.generation + 1 }

/-- Watches another target. -/
def watch (s : WatchSession) (target : String) : WatchSession :=
  { s with target := some target, connection := .good }.reset

/-- The operator begins a run. -/
def beginRun (s : WatchSession) : WatchSession := s.reset

/-- Derives the view anew if it is stale, and moves the selection if its step is gone. -/
def refresh (s : WatchSession) : WatchSession :=
  if s.stale then
    let view := RunView.derive s.events s.catalog s.config
    { s with view, stale := false, selected := view.resolveSelection s.selected }
  else s

/-! ### Events -/

/-- Whether an event starts another run after the one shown has ended; the view is not stale. -/
def isRunBoundary (s : WatchSession) (e : Event) : Bool :=
  match s.view.rootRunId, e.runId? with
  | some current, some next =>
    e.isRootStart && current != next && s.view.isTerminal && !s.view.links.isChild next
  | _, _ => false

/-- Appends an event. -/
def append (s : WatchSession) (e : Event) : WatchSession :=
  { s with events := s.events ++ [e], stale := true }

/-- Takes an event without deriving the view for it, or refuses it. -/
def push (s : WatchSession) (e : Event) : Except SessionFault IngestOutcome × WatchSession :=
  if s.connection.connected then
    let s := if e.isRootStart then s.refresh else s
    if s.isRunBoundary e then (.ok .acceptedAfterReset, s.reset.append e)
    else (.ok .accepted, s.append e)
  else (.error (.frozen (s.connection.error.getD "disconnected")), s)

/-- Takes an event, or refuses it. -/
def ingest (s : WatchSession) (e : Event) : Except SessionFault IngestOutcome × WatchSession :=
  match s.push e with
  | (.ok outcome, s) => (.ok outcome, s.refresh)
  | (.error fault, s) => (.error fault, s)

/-- Takes a batch of events and derives the view at the end. -/
def ingestAll (s : WatchSession) (events : List Event) : IngestTotals × WatchSession :=
  let (totals, s) := events.foldl (fun (acc : IngestTotals × WatchSession) e =>
    let (outcome, s) := acc.2.push e
    (acc.1.add outcome, s)) (⟨0, 0, 0⟩, s)
  (totals, s.refresh)

/-! ### The operator -/

/-- Selects a step; a step that is not shown is refused. -/
def select (s : WatchSession) (stepId : String) : Bool × WatchSession :=
  if s.view.contains stepId then (true, { s with selected := some stepId }) else (false, s)

/-- Turns a row over and gives its new state; there is none for a step without a row. -/
def toggleExpanded (s : WatchSession) (stepId : String) : Option Bool × WatchSession :=
  match s.view.row? stepId with
  | some row =>
    let (expanded, expansion) := s.expansion.toggle row (s.view.statusOf? stepId)
    (some expanded, { s with expansion })
  | none => (none, s)

/-- Expands or collapses a row; a step without a row is refused. -/
def setExpanded (s : WatchSession) (stepId : String) (expanded : Bool) : Bool × WatchSession :=
  if (s.view.row? stepId).isSome then
    (true, { s with expansion := s.expansion.set stepId expanded })
  else (false, s)

/-- The rows that are expanded. -/
def expandedIds (s : WatchSession) : List String := s.view.expandedIds s.expansion

/-- The message that acts on the root run, if there is one. -/
def controlMessage (s : WatchSession) (action : ControlAction) :
    Except SessionFault ControlMessage :=
  match s.view.rootRunId with
  | some runId => .ok (.control action runId)
  | none => .error .noActiveRun

/-! ### Connection and catalog -/

/-- The transport is gone, for a reason that may be known. -/
def markDisconnected (s : WatchSession) (error : Option String) : WatchSession :=
  { s with connection := ⟨false, error⟩ }

/-- The transport works. -/
def markConnected (s : WatchSession) : WatchSession := { s with connection := .good }

/-- Takes another catalog and derives the view with it. -/
def setCatalog (s : WatchSession) (catalog : Catalog) : WatchSession :=
  { s with catalog, stale := true }.refresh

end WatchSession

end RunWatch
