import RunWatch.Proofs.Session.Log

/-!
# The course of a session

The catalog and the configuration decide what a session shows of a run: which steps there are, which
runs are in scope, what the status is while the run goes on. They do not decide where one run ends
and the next one begins. `WatchSession.course` records what a session says of its run after every
call that drives it, and two sessions that are driven alike have the same course
(`course_eq_of_driven_alike`).

* `RunView.summary_derive`, `isTerminal_derive_iff`: the root run, its summary and its end come from
  the events alone.
* `WatchSession.Abreast`: sessions with the same events, whatever they show. A call that drives them
  keeps them abreast and is answered alike, another call of one of them is not noticed.
-/

namespace RunWatch

/-! ### Root runs -/

/-- What the events of a stream tell of its root run. -/
def rootSummary? (events : List Event) : Option RunSummary :=
  (rootRunId? events (Links.ofEvents events)).bind fun root =>
    (events.filter fun e => e.runId? == some root).foldl (RunSummary.told root) none

namespace RunView

section

variable (events : List Event) (catalog : Catalog) (config : LedgerConfig)

theorem summary_derive : (derive events catalog config).summary = rootSummary? events := by
  cases hroot : rootRunId? events (Links.ofEvents events) with
  | none => rw [derive_of_no_root hroot, rootSummary?, hroot, Option.bind_none, empty]
  | some root =>
    rw [derive_eq_ofRoot hroot, rootSummary?, hroot, Option.bind_some]
    exact Ledger.summary?_ofEvents catalog config events root

theorem isTerminal_derive_iff : (derive events catalog config).isTerminal = true ↔
    ∃ summary, rootSummary? events = some summary ∧
      summary.status ∈ [.completed, .failed, .cancelled] := by
  rw [isTerminal_derive, summary_derive, Option.any_eq_true]
  simp only [RunStatus.isTerminal_iff]

end

end RunView

/-! ### Reports -/

/-- Whether a call drives the run of a session: all calls do but the choices of the operator, who
looks at the run only, and the catalogs. -/
def SessionCall.drives : SessionCall → Bool
  | watch _ | beginRun | ingest _ | ingestAll _ | markConnected | markDisconnected _ => true
  | select _ | toggleExpanded _ | setExpanded _ _ | setCatalog _ => false

/-- What a session says of its run after a call. -/
structure CallReport where
  /-- The answers to the events that the call brought. -/
  answers : List (Except SessionFault IngestOutcome)
  totals : Option IngestTotals
  events : List Event
  generation : Nat
  rootRunId : Option String
  summary : Option RunSummary
  ended : Bool

namespace WatchSession

/-- The answers to the events of a call. -/
def answers (s : WatchSession) : SessionCall → List (Except SessionFault IngestOutcome)
  | .ingest e => [(s.ingest e).1]
  | .ingestAll events => (inTurn push s events).1
  | _ => []

/-- The totals of the batch of a call. -/
def totals? (s : WatchSession) : SessionCall → Option IngestTotals
  | .ingestAll events => some (s.ingestAll events).1
  | _ => none

/-- The answers to a call, and what the session says of its run afterwards. -/
def report (s : WatchSession) (call : SessionCall) : CallReport :=
  let after := s.perform call
  { answers := s.answers call
    totals := s.totals? call
    events := after.events
    generation := after.generation
    rootRunId := after.view.rootRunId
    summary := after.view.summary
    ended := after.view.isTerminal }

/-- The reports on those of some calls that drive the run. -/
def course (s : WatchSession) : List SessionCall → List CallReport
  | [] => []
  | call :: calls =>
    if call.drives then s.report call :: (s.perform call).course calls
    else (s.perform call).course calls

variable {s t u : WatchSession}

theorem Fresh.rootRunId_eq (h : s.Fresh) :
    s.view.rootRunId = rootRunId? s.events (Links.ofEvents s.events) :=
  h.agrees.rootRunId_eq.trans (RunView.rootRunId_derive _ _ _)

theorem Fresh.summary_eq (h : s.Fresh) : s.view.summary = rootSummary? s.events :=
  h.agrees.summary_eq.trans (RunView.summary_derive _ _ _)

theorem Fresh.isTerminal_iff (h : s.Fresh) : s.view.isTerminal = true ↔
    ∃ summary, rootSummary? s.events = some summary ∧
      summary.status ∈ [.completed, .failed, .cancelled] := by
  rw [RunView.isTerminal, h.agrees.status_eq]
  exact RunView.isTerminal_derive_iff _ _ _

/-! ### Two sessions -/

/-- Whether two sessions are at the same point of the same stream. Their catalogs and views may
differ. -/
structure Abreast (s t : WatchSession) : Prop where
  events_eq : t.events = s.events
  generation_eq : t.generation = s.generation
  connection_eq : t.connection = s.connection

namespace Abreast

theorem refl (s : WatchSession) : s.Abreast s := ⟨rfl, rfl, rfl⟩

theorem symm (h : s.Abreast t) : t.Abreast s :=
  ⟨h.events_eq.symm, h.generation_eq.symm, h.connection_eq.symm⟩

theorem trans (h : s.Abreast t) (h' : t.Abreast u) : s.Abreast u :=
  ⟨h'.events_eq.trans h.events_eq, h'.generation_eq.trans h.generation_eq,
    h'.connection_eq.trans h.connection_eq⟩

/-- A view may be derived anew in either session. -/
theorem refresh (s : WatchSession) : s.Abreast s.refresh :=
  ⟨s.events_refresh, s.generation_refresh, s.connection_refresh⟩

theorem refresh_refresh (h : s.Abreast t) : s.refresh.Abreast t.refresh :=
  (refresh s).symm.trans (h.trans (refresh t))

theorem append (h : s.Abreast t) (e : Event) : (s.append e).Abreast (t.append e) :=
  ⟨congrArg (· ++ [e]) h.events_eq, h.generation_eq, h.connection_eq⟩

theorem reset (h : s.Abreast t) : s.reset.Abreast t.reset :=
  ⟨rfl, congrArg (· + 1) h.generation_eq, h.connection_eq⟩

theorem ended_eq (h : s.Abreast t) (hs : s.Fresh) (ht : t.Fresh) :
    t.view.isTerminal = s.view.isTerminal := by
  rw [Bool.eq_iff_iff, ht.isTerminal_iff, hs.isTerminal_iff, h.events_eq]

/-- Sessions abreast that are up to date find the same events at the boundary of a run. -/
theorem isRunBoundary_eq (h : s.Abreast t) (hs : s.Fresh) (ht : t.Fresh) (e : Event) :
    t.isRunBoundary e = s.isRunBoundary e := by
  have hroot : t.view.rootRunId = s.view.rootRunId := by
    rw [ht.rootRunId_eq, hs.rootRunId_eq, h.events_eq]
  have hlinks : t.view.links = s.view.links := by
    rw [ht.agrees.links_eq, hs.agrees.links_eq, derived, derived, RunView.links_derive,
      RunView.links_derive, h.events_eq]
  rw [isRunBoundary, isRunBoundary, hroot, hlinks, h.ended_eq hs ht]

/-! ### Calls that drive a run -/

/-- Sessions abreast answer an event alike and stay abreast, stale or not. -/
theorem push (h : s.Abreast t) (hs : s.Sound) (ht : t.Sound) (e : Event) :
    (t.push e).1 = (s.push e).1 ∧ (s.push e).2.Abreast (t.push e).2 := by
  have hconnection := h.connection_eq
  cases hconnected : s.connection.connected with
  | false =>
    have hconnected' : t.connection.connected = false := by rw [hconnection, hconnected]
    rw [push_of_disconnected e hconnected, push_of_disconnected e hconnected', hconnection]
    exact ⟨rfl, h⟩
  | true =>
    have hconnected' : t.connection.connected = true := by rw [hconnection, hconnected]
    cases he : e.isRootStart with
    | false =>
      rw [push_of_not_isRootStart hconnected he, push_of_not_isRootStart hconnected' he]
      exact ⟨rfl, h.append e⟩
    | true =>
      -- The start of a root run is judged by views that are up to date in both sessions.
      have hboundary := h.refresh_refresh.isRunBoundary_eq hs.refresh ht.refresh e
      rw [push_of_isRootStart hconnected he, push_of_isRootStart hconnected' he, hboundary]
      split
      · exact ⟨rfl, h.refresh_refresh.reset.append e⟩
      · exact ⟨rfl, h.refresh_refresh.append e⟩

theorem inTurn (h : s.Abreast t) (hs : s.Sound) (ht : t.Sound) (events : List Event) :
    (inTurn WatchSession.push t events).1 = (inTurn WatchSession.push s events).1 ∧
      (inTurn WatchSession.push s events).2.Abreast (inTurn WatchSession.push t events).2 := by
  induction events generalizing s t with
  | nil => exact ⟨rfl, h⟩
  | cons e events ih =>
    obtain ⟨hanswer, habreast⟩ := h.push hs ht e
    obtain ⟨hanswers, habreast⟩ := ih habreast (hs.push e) (ht.push e)
    refine ⟨?_, habreast⟩
    rw [WatchSession.inTurn, WatchSession.inTurn, hanswer, hanswers]

theorem ingest (h : s.Abreast t) (hs : s.Sound) (ht : t.Sound) (e : Event) :
    (t.ingest e).1 = (s.ingest e).1 ∧ (s.ingest e).2.Abreast (t.ingest e).2 := by
  obtain ⟨hanswer, habreast⟩ := h.push hs ht e
  have hconnection := h.connection_eq
  cases hconnected : s.connection.connected with
  | false =>
    have hconnected' : t.connection.connected = false := by rw [hconnection, hconnected]
    rw [ingest_of_disconnected e hconnected, ingest_of_disconnected e hconnected']
    exact ⟨hanswer, habreast⟩
  | true =>
    have hconnected' : t.connection.connected = true := by rw [hconnection, hconnected]
    rw [ingest_of_connected e hconnected, ingest_of_connected e hconnected']
    exact ⟨hanswer, habreast.refresh_refresh⟩

theorem ingestAll (h : s.Abreast t) (hs : s.Sound) (ht : t.Sound) (events : List Event) :
    (t.ingestAll events).1 = (s.ingestAll events).1 ∧
      (s.ingestAll events).2.Abreast (t.ingestAll events).2 := by
  obtain ⟨hanswers, habreast⟩ := h.inTurn hs ht events
  rw [ingestAll_eq, ingestAll_eq, hanswers]
  exact ⟨rfl, habreast.refresh_refresh⟩

/-- A call that drives the run is answered alike in sessions abreast, and leaves them abreast. -/
theorem perform_of_drives (h : s.Abreast t) (hs : s.Sound) (ht : t.Sound) {call : SessionCall}
    (hdrives : call.drives = true) :
    t.answers call = s.answers call ∧ t.totals? call = s.totals? call ∧
      (s.perform call).Abreast (t.perform call) := by
  cases call with
  | watch => exact ⟨rfl, rfl, rfl, congrArg (· + 1) h.generation_eq, rfl⟩
  | beginRun => exact ⟨rfl, rfl, h.reset⟩
  | ingest e =>
    obtain ⟨hanswer, habreast⟩ := h.ingest hs ht e
    exact ⟨congrArg (fun answer => [answer]) hanswer, rfl, habreast⟩
  | ingestAll events =>
    obtain ⟨htotals, habreast⟩ := h.ingestAll hs ht events
    exact ⟨(h.inTurn hs ht events).1, congrArg some htotals, habreast⟩
  | markConnected | markDisconnected => exact ⟨rfl, rfl, h.events_eq, h.generation_eq, rfl⟩
  | select | toggleExpanded | setExpanded | setCatalog => cases hdrives

/-- Up-to-date sessions abreast report the same on a call that drives the run. -/
theorem report_eq (h : s.Abreast t) (hs : s.Fresh) (ht : t.Fresh) {call : SessionCall}
    (hdrives : call.drives = true) : t.report call = s.report call := by
  obtain ⟨hanswers, htotals, habreast⟩ := h.perform_of_drives hs.sound ht.sound hdrives
  have hs' := hs.perform call
  have ht' := ht.perform call
  have hended := habreast.ended_eq hs' ht'
  rw [report, report, hanswers, htotals, hended, ht'.rootRunId_eq, ht'.summary_eq,
    habreast.events_eq, habreast.generation_eq, ← hs'.rootRunId_eq, ← hs'.summary_eq]

/-! ### Other calls -/

/-- A choice of the operator and a catalog leave a session where it is in the stream. -/
theorem perform_of_not_drives {call : SessionCall} (hdrives : call.drives = false) :
    s.Abreast (s.perform call) := by
  cases call with
  | select | toggleExpanded | setExpanded =>
    simp only [perform, select, toggleExpanded, setExpanded]
    split <;> exact ⟨rfl, rfl, rfl⟩
  | setCatalog catalog =>
    have hset : s.Abreast { s with catalog, stale := true } := ⟨rfl, rfl, rfl⟩
    exact hset.trans (refresh _)
  | watch | beginRun | ingest | ingestAll | markConnected | markDisconnected => cases hdrives

/-- The course of a session is that of a session abreast which takes the driving calls only. -/
theorem course_eq_filter (h : s.Abreast t) (hs : s.Fresh) (ht : t.Fresh)
    (calls : List SessionCall) : s.course calls = t.course (calls.filter SessionCall.drives) := by
  induction calls generalizing s t with
  | nil => rfl
  | cons call calls ih =>
    cases hdrives : call.drives with
    | true =>
      obtain ⟨-, -, habreast⟩ := h.perform_of_drives hs.sound ht.sound hdrives
      rw [List.filter_cons_of_pos hdrives, course, course, if_pos hdrives, if_pos hdrives,
        h.report_eq hs ht hdrives, ih habreast (hs.perform call) (ht.perform call)]
    | false =>
      have habreast : (s.perform call).Abreast t := (perform_of_not_drives hdrives).symm.trans h
      rw [List.filter_cons_of_neg (by simp [hdrives]), course, if_neg (by simp [hdrives])]
      exact ih habreast (hs.perform call) ht

end Abreast

/-! ### Boundaries of runs -/

/-- The boundaries of runs do not depend on the catalog or the configuration. Two sessions with any
catalogs and configurations, driven by the same calls, with other catalogs and choices of the
operator anywhere between them, report the same after each of these calls: the answers to its
events, the log, the generation, the root run with its summary, and whether it has ended. -/
theorem course_eq_of_driven_alike (catalog catalog' : Catalog) (config config' : LedgerConfig)
    (calls calls' : List SessionCall)
    (h : calls.filter SessionCall.drives = calls'.filter SessionCall.drives) :
    (new catalog config).course calls = (new catalog' config').course calls' := by
  have hs := fresh_new catalog config
  have ht := fresh_new catalog' config'
  have hnew : (new catalog' config').Abreast (new catalog config) := ⟨rfl, rfl, rfl⟩
  rw [Abreast.course_eq_filter (.refl _) hs hs, h]
  exact (hnew.course_eq_filter ht hs calls').symm

/-- An agent is told twice that it has completed. One session knows of the agent and merges the
second report into the first, the other one has a step for each. Both see the run end, and both drop
it when the next run starts. -/
theorem course_eq_of_other_catalog :
    let done : Event := .nodeComplete "r" "a" none (some (.object [("sub_run_id", .string "g")]))
      none none
    let calls : List SessionCall := [.watch "w", .ingest (.flowStart "r" none none),
      .ingestAll [done, done], .ingest (.flowComplete "r" none none)]
    let start : List SessionCall := [.ingest (.flowStart "s" none none)]
    let agents : Catalog := .ofList [("a", "agent")]
    let s := new .empty .standard
    let t := new agents .standard
    (calls ++ .setCatalog .empty :: start).filter SessionCall.drives =
        (.setCatalog agents :: calls ++ start).filter SessionCall.drives ∧
      s.course (calls ++ .setCatalog .empty :: start) =
        t.course (.setCatalog agents :: calls ++ start) ∧
      ((s.performAll calls).view.steps.length, (t.performAll calls).view.steps.length) = (2, 1) ∧
      ((s.performAll calls).push (.flowStart "s" none none)).1 = .ok .acceptedAfterReset := by
  intro done calls start agents s t
  have hdriven : (calls ++ .setCatalog .empty :: start).filter SessionCall.drives =
      (.setCatalog agents :: calls ++ start).filter SessionCall.drives := by
    decide +kernel
  refine ⟨hdriven, course_eq_of_driven_alike _ _ _ _ _ _ hdriven, ?_, ?_⟩
  · decide +kernel
  · decide +kernel

end WatchSession

end RunWatch
