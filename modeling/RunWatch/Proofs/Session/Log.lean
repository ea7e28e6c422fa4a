import Mathlib.Data.List.DropRight
import RunWatch.Proofs.Session.Batches
import RunWatch.Proofs.View.Root

/-!
# The log of a session

What the calls of a session do to its log is told by their answers (`WatchSession.history`): a reset
drops the log, an accepted event goes to its end, a refused one leaves it. The log is what the
history holds after its last reset (`sinceReset`), and the generation counts the resets.

* `WatchSession.Advances`: a step changes the log as its entries say; every call does.
* `WatchSession.push_eq_acceptedAfterReset_iff`: when an event resets the session.
* `WatchSession.log_exact`: both, at every moment between the events of a batch as well.
-/

namespace RunWatch

/-! ### Entries -/

/-- What may happen to a log. -/
inductive LogEntry where
  | reset
  | accepted (e : Event)

namespace LogEntry

def isReset : LogEntry → Bool
  | reset => true
  | accepted _ => false

def event? : LogEntry → Option Event
  | reset => none
  | accepted e => some e

/-- What the answer to an event says about the log. -/
def ofAnswer (e : Event) : Except SessionFault IngestOutcome → List LogEntry
  | .ok .accepted => [accepted e]
  | .ok .acceptedAfterReset => [reset, accepted e]
  | .error _ => []

/-- A log after an entry. -/
def extend (log : List Event) : LogEntry → List Event
  | reset => []
  | accepted e => log ++ [e]

end LogEntry

/-- The events accepted after the last reset. -/
def sinceReset (history : List LogEntry) : List Event :=
  (history.rtakeWhile fun entry => !entry.isReset).filterMap LogEntry.event?

theorem foldl_extend_nil (history : List LogEntry) :
    history.foldl LogEntry.extend [] = sinceReset history := by
  induction history using List.reverseRecOn with
  | nil => simp [sinceReset]
  | append_singleton history entry ih =>
    rw [List.foldl_append, ih, List.foldl_cons, List.foldl_nil, sinceReset, sinceReset]
    cases entry with
    | reset =>
      rw [List.rtakeWhile_concat_neg _ _ _ (by simp [LogEntry.isReset])]
      rfl
    | accepted e =>
      rw [List.rtakeWhile_concat_pos _ _ _ rfl, List.filterMap_append]
      rfl

namespace WatchSession

/-! ### Histories -/

/-- What a call does to the log, by the answers to its events. -/
def entries (s : WatchSession) : SessionCall → List LogEntry
  | .watch _ | .beginRun => [.reset]
  | .ingest e => LogEntry.ofAnswer e (s.ingest e).1
  | .ingestAll events => (List.zipWith LogEntry.ofAnswer events (inTurn push s events).1).flatten
  | .select _ | .toggleExpanded _ | .setExpanded _ _ | .markConnected | .markDisconnected _
  | .setCatalog _ => []

/-- What some calls do to the log. -/
def history (s : WatchSession) : List SessionCall → List LogEntry
  | [] => []
  | call :: calls => s.entries call ++ (s.perform call).history calls

/-- Whether the log and the generation change as some entries say. -/
structure Advances (s : WatchSession) (entries : List LogEntry) (t : WatchSession) : Prop where
  events_eq : t.events = entries.foldl LogEntry.extend s.events
  generation_eq : t.generation = s.generation + entries.countP LogEntry.isReset

namespace Advances

variable {s t u : WatchSession} {entries entries' : List LogEntry}

theorem append (h : s.Advances entries t) (h' : t.Advances entries' u) :
    s.Advances (entries ++ entries') u where
  events_eq := by rw [List.foldl_append, ← h.events_eq, h'.events_eq]
  generation_eq := by
    rw [List.countP_append, h'.generation_eq, h.generation_eq, Nat.add_assoc]

theorem refresh (h : s.Advances entries t) : s.Advances entries t.refresh where
  events_eq := by rw [events_refresh, h.events_eq]
  generation_eq := by rw [generation_refresh, h.generation_eq]

theorem push (s : WatchSession) (e : Event) :
    s.Advances (LogEntry.ofAnswer e (s.push e).1) (s.push e).2 := by
  cases h : s.connection.connected with
  | false =>
    rw [push_of_disconnected e h]
    exact ⟨rfl, rfl⟩
  | true =>
    cases he : e.isRootStart with
    | false =>
      rw [push_of_not_isRootStart h he]
      exact ⟨rfl, rfl⟩
    | true =>
      rw [push_of_isRootStart h he]
      split
      · exact ⟨rfl, congrArg (· + 1) s.generation_refresh⟩
      · exact ⟨congrArg (· ++ [e]) s.events_refresh, s.generation_refresh⟩

theorem ingest (s : WatchSession) (e : Event) :
    s.Advances (LogEntry.ofAnswer e (s.ingest e).1) (s.ingest e).2 := by
  cases h : s.connection.connected with
  | false =>
    rw [ingest_of_disconnected e h]
    exact push s e
  | true =>
    rw [ingest_of_connected e h]
    exact (push s e).refresh

theorem inTurn (s : WatchSession) (events : List Event) :
    s.Advances (List.zipWith LogEntry.ofAnswer events (inTurn WatchSession.push s events).1).flatten
      (WatchSession.inTurn WatchSession.push s events).2 := by
  induction events generalizing s with
  | nil => exact ⟨rfl, rfl⟩
  | cons e events ih => exact (push s e).append (ih (s.push e).2)

theorem perform (s : WatchSession) (call : SessionCall) :
    s.Advances (s.entries call) (s.perform call) := by
  cases call with
  | watch | beginRun => exact ⟨rfl, rfl⟩
  | ingest e => exact ingest s e
  | ingestAll events =>
    rw [WatchSession.perform, ingestAll_eq]
    exact (inTurn s events).refresh
  | select | toggleExpanded | setExpanded =>
    simp only [WatchSession.perform, select, toggleExpanded, setExpanded]
    split <;> exact ⟨rfl, rfl⟩
  | setCatalog catalog => exact refresh (t := { s with catalog, stale := true }) ⟨rfl, rfl⟩
  | markConnected | markDisconnected => exact ⟨rfl, rfl⟩

theorem performAll (s : WatchSession) (calls : List SessionCall) :
    s.Advances (s.history calls) (s.performAll calls) := by
  induction calls generalizing s with
  | nil => exact ⟨rfl, rfl⟩
  | cons call calls ih => exact (perform s call).append (ih (s.perform call))

end Advances

/-! ### Boundaries -/

variable {s : WatchSession} {e : Event} {run : String}

/-- An up-to-date session is at a boundary when its root run has ended and the event starts another
root run. -/
theorem Fresh.isRunBoundary_iff (h : s.Fresh) : s.isRunBoundary e = true ↔
    ∃ root run, s.derived.rootRunId = some root ∧ s.derived.isTerminal = true ∧ run ≠ root ∧
      e.StartsRoot (Links.ofEvents s.events) run := by
  have hlinks : s.view.links = Links.ofEvents s.events :=
    h.agrees.links_eq.trans (RunView.links_derive _ _ _)
  have hterminal : s.view.isTerminal = s.derived.isTerminal :=
    congrArg ViewStatus.isTerminal h.agrees.status_eq
  rw [isRunBoundary, h.agrees.rootRunId_eq, hlinks, hterminal]
  simp only [Event.startsRoot_iff]
  cases s.derived.rootRunId with
  | none => simp
  | some root =>
    cases e.runId? with
    | none => simp
    | some run =>
      simp only [Bool.and_eq_true, bne_iff_ne, Bool.not_eq_true', Option.some.injEq]
      constructor
      · rintro ⟨⟨⟨hstart, hne⟩, hended⟩, hchild⟩
        exact ⟨root, run, rfl, hended, hne.symm, hstart, rfl, hchild⟩
      · rintro ⟨_, _, rfl, hended, hne, hstart, rfl, hchild⟩
        exact ⟨⟨⟨hstart, hne.symm⟩, hended⟩, hchild⟩

/-- The root run of a view has ended when its summary says so. -/
theorem isTerminal_derived_iff {root : String} (hroot : s.derived.rootRunId = some root) :
    s.derived.isTerminal = true ↔ ∃ summary,
      (Ledger.ofEvents s.catalog s.config s.events).summary? root = some summary ∧
        summary.status ∈ [.completed, .failed, .cancelled] := by
  rw [derived, RunView.rootRunId_derive] at hroot
  rw [derived, RunView.isTerminal_derive, RunView.derive_eq_ofRoot hroot, Option.any_eq_true]
  simp only [RunStatus.isTerminal_iff]
  rfl

/-- When an event resets the session, whatever the view that it had before. -/
theorem Sound.push_eq_acceptedAfterReset_iff (h : s.Sound) :
    (s.push e).1 = .ok .acceptedAfterReset ↔ s.connection.connected = true ∧
      ∃ root run summary, s.derived.rootRunId = some root ∧
        (Ledger.ofEvents s.catalog s.config s.events).summary? root = some summary ∧
        summary.status ∈ [.completed, .failed, .cancelled] ∧ run ≠ root ∧
        e.StartsRoot (Links.ofEvents s.events) run := by
  cases hconnected : s.connection.connected with
  | false => simp [push_of_disconnected e hconnected]
  | true =>
    cases he : e.isRootStart with
    | false =>
      have hno : ∀ run, ¬ e.StartsRoot (Links.ofEvents s.events) run := fun run hrun => by
        rw [hrun.isRootStart] at he
        cases he
      simp [push_of_not_isRootStart hconnected he, hno]
    | true =>
      have hanswer : (s.push e).1 = .ok .acceptedAfterReset ↔ s.refresh.isRunBoundary e = true := by
        rw [push_of_isRootStart hconnected he]
        split <;> simp [*]
      rw [hanswer, h.refresh.isRunBoundary_iff, derived_refresh, events_refresh]
      simp only [true_and]
      constructor
      · rintro ⟨root, run, hroot, hended, hne, hstart⟩
        obtain ⟨summary, hsummary, hstatus⟩ := (isTerminal_derived_iff hroot).1 hended
        exact ⟨root, run, summary, hroot, hsummary, hstatus, hne, hstart⟩
      · rintro ⟨root, run, summary, hroot, hsummary, hstatus, hne, hstart⟩
        have hended := (isTerminal_derived_iff hroot).2 ⟨summary, hsummary, hstatus⟩
        exact ⟨root, run, hroot, hended, hne, hstart⟩

/-- Once the start of a root run is accepted, with a reset or without one, its run is the root. -/
theorem rootRunId_push_of_startsRoot (hconnected : s.connection.connected = true)
    (hstart : e.StartsRoot (Links.ofEvents s.events) run) :
    (s.push e).2.derived.rootRunId = some run := by
  have hfirst : e.StartsRoot (Links.ofEvents []) run := hstart.of_not_child rfl
  rw [push_of_isRootStart hconnected hstart.isRootStart]
  split
  · rw [derived, RunView.rootRunId_derive]
    exact rootRunId?_of_startsRoot hfirst
  · rw [derived, RunView.rootRunId_derive, append, events_refresh]
    exact rootRunId?_of_startsRoot hstart

theorem connected_of_push_ok {outcome : IngestOutcome} (h : (s.push e).1 = .ok outcome) :
    s.connection.connected = true := by
  by_contra hconnected
  rw [push_of_disconnected e (by simpa using hconnected)] at h
  cases h

/-! ### Sessions -/

/-- After any calls the log holds the events accepted since the last reset, in their order, and the
generation is the number of resets. At any moment between the events of a batch, an event resets the
session exactly when the root run has ended by then and the event starts another root run; and once
the start of a root run is accepted, its run is the root. -/
theorem log_exact (catalog : Catalog) (config : LedgerConfig) (calls : List SessionCall) :
    let s := (new catalog config).performAll calls
    let history := (new catalog config).history calls
    s.events = sinceReset history ∧ s.generation = history.countP LogEntry.isReset ∧
      ∀ (before : List Event) (e : Event),
        let t := (inTurn push s before).2
        (t.ingest e).1 = (t.push e).1 ∧
        ((t.push e).1 = .ok .acceptedAfterReset ↔ t.connection.connected = true ∧
          ∃ root run summary, t.derived.rootRunId = some root ∧
            (Ledger.ofEvents t.catalog t.config t.events).summary? root = some summary ∧
            summary.status ∈ [.completed, .failed, .cancelled] ∧ run ≠ root ∧
            e.StartsRoot (Links.ofEvents t.events) run) ∧
        ∀ outcome run, (t.push e).1 = .ok outcome → e.StartsRoot (Links.ofEvents t.events) run →
          (t.push e).2.derived.rootRunId = some run ∧
            (t.ingest e).2.view.rootRunId = some run := by
  intro s history
  have hlog : (new catalog config).Advances history s := .performAll _ calls
  have hevents : s.events = sinceReset history := hlog.events_eq.trans (foldl_extend_nil history)
  have hgeneration : s.generation = history.countP LogEntry.isReset :=
    hlog.generation_eq.trans (Nat.zero_add _)
  refine ⟨hevents, hgeneration, fun before e => ?_⟩
  intro t
  have hsound : t.Sound := inTurn_induction (P := Sound) (fun _ e h => h.push e)
    (fresh_performAll catalog config calls).sound before
  refine ⟨(t.ingest_shown e).1, hsound.push_eq_acceptedAfterReset_iff, ?_⟩
  intro outcome run hok hstart
  have hconnected := connected_of_push_ok hok
  have hroot := rootRunId_push_of_startsRoot hconnected hstart
  have hfresh : (t.push e).2.refresh.Fresh := (hsound.push e).refresh
  refine ⟨hroot, ?_⟩
  rw [ingest_of_connected e hconnected, hfresh.agrees.rootRunId_eq, derived_refresh, hroot]

/-- A batch goes on after its run has ended, and then the next run starts: the session is reset by
the start, the third reset after that of the target and that of the operator. -/
theorem log_exact_between_runs :
    let first : List Event := [.flowStart "r" none none, .nodeStart "r" "a" none none,
      .flowComplete "r" none none]
    let late : Event := .nodeStart "r" "b" none none
    let start : Event := .flowStart "s" none none
    let s := (new .empty .standard).performAll [.watch "w", .beginRun, .ingestAll first]
    let t := (inTurn push s [late]).2
    let u := (new .empty .standard).performAll
      [.watch "w", .beginRun, .ingestAll first, .ingestAll [late, start, late]]
    s.events = first ∧ s.generation = 2 ∧
      (t.push start).1 = .ok .acceptedAfterReset ∧
      start.StartsRoot (Links.ofEvents t.events) "s" ∧
      (t.push start).2.derived.rootRunId = some "s" ∧ (t.ingest start).2.view.rootRunId = some "s" ∧
      u.events = [start, late] ∧ u.generation = 3 := by
  intro first late start s t u
  obtain ⟨hevents, hgeneration, hmoment⟩ := log_exact .empty .standard
    [.watch "w", .beginRun, .ingestAll first]
  obtain ⟨hevents', hgeneration', -⟩ := log_exact .empty .standard
    [.watch "w", .beginRun, .ingestAll first, .ingestAll [late, start, late]]
  obtain ⟨-, -, hroot⟩ := hmoment [late] start
  have hanswer : (t.push start).1 = .ok .acceptedAfterReset := by decide +kernel
  have hstart : start.StartsRoot (Links.ofEvents t.events) "s" :=
    .intro (by decide) (.inl rfl) (by decide +kernel)
  obtain ⟨hderived, hview⟩ := hroot _ "s" hanswer hstart
  refine ⟨hevents.trans ?_, hgeneration.trans ?_, hanswer, hstart, hderived, hview,
    hevents'.trans ?_, hgeneration'.trans ?_⟩
  all_goals decide +kernel

end WatchSession

end RunWatch
