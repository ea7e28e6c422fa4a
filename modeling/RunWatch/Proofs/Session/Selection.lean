import RunWatch.Proofs.Ledger.Indexes
import RunWatch.Proofs.Session.Log

/-!
# The selected step

A session selects a step that it shows, if it shows any. Whenever the view is derived anew the
selection is judged by it: it stays while its step is shown, and else it moves to the last step of
the root run (`RunView.Settles`). The last step among those shown is the last one that the ledger
has for this run, and a view shows steps only when the root run has some (`RunView.Rooted`).

A call derives the view once, at its end, but for a batch of events: there it is derived before each
start of a root run as well, because only an up-to-date view can tell whether the run shown has
ended. Such a batch does what its parts do one after another (`ingestAll_append_of_isRootStart`).

* `WatchSession.selection_valid`: the selection after any calls, and what a call does to it.
-/

namespace RunWatch

/-! ### What a view says of the selection -/

namespace RunView

/-- Whether a view shows a step with an identifier. -/
def Shows (v : RunView) (id : String) : Prop := ∃ s ∈ v.steps, s.step.id = id

/-- The step of the root run that the ledger of a view has last, by its identifier. -/
def lastOfRoot? (v : RunView) : Option String :=
  (v.rootRunId.bind v.ledger.lastStepOfRun?).map Step.id

/-- What becomes of a selection when a view is derived: it is kept while its step is shown, and else
it moves to the last step of the root run. -/
structure Settles (v : RunView) (old new : Option String) : Prop where
  kept (id : String) (hold : old = some id) (hshown : v.Shows id) : new = old
  moved (hgone : ∀ id, old = some id → ¬ v.Shows id) : new = v.lastOfRoot?

/-- Whether the steps shown end with those of the ledger, as far as the root run goes, and stand or
fall with the steps of that run. -/
structure Rooted (v : RunView) : Prop where
  lastRootStep?_eq : v.lastRootStep?.map (fun s => s.step.id) = v.lastOfRoot?
  steps_eq_nil (h : v.lastRootStep? = none) : v.steps = []

theorem contains_iff (v : RunView) (id : String) : v.contains id = true ↔ v.Shows id := by
  simp [contains, step?, Shows]

theorem rooted_empty : empty.Rooted := ⟨rfl, fun _ => rfl⟩

theorem rooted_ofRoot {l : Ledger} (hl : l.Indexed) (root : String) (n : Nat) (links : Links)
    (config : LedgerConfig) : (ofRoot root n l links config).Rooted := by
  have hlast : (ofRoot root n l links config).lastRootStep? =
      (l.steps.reverse.find? fun s => s.runId == root).map (stepView links config) := by
    -- The root run is in its own scope, so no step of it is left out.
    have hroot : root ∈ treeRunIds root l links config := root_mem_reachableRuns
    change ((scopedSteps l links config _).reverse.find? fun s => s.step.runId == root) = _
    rw [scopedSteps, ← List.map_reverse, List.find?_map, ← List.filter_reverse, List.find?_filter]
    congr 2
    funext s
    by_cases hs : s.runId = root <;> simp [stepView, hs, hroot]
  constructor
  · have hledger : (ofRoot root n l links config).lastOfRoot? =
        (l.lastStepOfRun? root).map Step.id := rfl
    rw [hlast, hledger, hl.lastStepOfRun?_eq, List.getLast?_filter, Option.map_map]
    rfl
  · intro hnone
    rw [hlast, Option.map_eq_none_iff, List.find?_eq_none] at hnone
    rw [steps_ofRoot, List.map_eq_nil_iff, History.partOf, List.filter_eq_nil_iff]
    intro s hs hrun
    rw [History.inRuns, List.contains_iff_mem] at hrun
    obtain ⟨t, ht, hroot⟩ := List.any_eq_true.1 (any_runId_of_mem_treeRunIds hs hrun)
    exact hnone t (List.mem_reverse.2 ht) hroot

theorem rooted_derive (events : List Event) (catalog : Catalog) (config : LedgerConfig) :
    (derive events catalog config).Rooted := by
  cases hroot : rootRunId? events (Links.ofEvents events) with
  | some root =>
    rw [derive_eq_ofRoot hroot]
    exact rooted_ofRoot (Ledger.indexed_ofEvents catalog config events) root _ _ config
  | none =>
    simp only [derive, hroot]
    exact ⟨rfl, fun _ => rfl⟩

variable {v : RunView} {old new : Option String}

theorem Rooted.settles (h : v.Rooted) (old : Option String) :
    v.Settles old (v.resolveSelection old) where
  kept id hold hshown := by
    rw [hold, resolveSelection, Option.filter_some, if_pos ((v.contains_iff id).2 hshown)]
  moved hgone := by
    have hnone : old.filter v.contains = none := by
      rw [Option.filter_eq_none_iff]
      exact fun id hold hid => hgone id hold ((v.contains_iff id).1 hid)
    rw [resolveSelection, hnone]
    exact h.lastRootStep?_eq

/-- A selection that a view has settled is settled. -/
theorem Settles.self (h : v.Settles old new) : v.Settles new new where
  kept _ _ _ := rfl
  moved hgone := by
    refine h.moved fun id hold hshown => ?_
    have hnew : new = some id := (h.kept id hold hshown).trans hold
    exact hgone id hnew hshown

theorem Rooted.exists_of_lastOfRoot? (h : v.Rooted) {id : String} (hid : v.lastOfRoot? = some id) :
    v.Shows id := by
  rw [← h.lastRootStep?_eq, Option.map_eq_some_iff] at hid
  obtain ⟨s, hs, rfl⟩ := hid
  rw [lastRootStep?, Option.bind_eq_bind, Option.bind_eq_some_iff] at hs
  obtain ⟨root, -, hs⟩ := hs
  exact ⟨s, List.mem_reverse.1 (List.mem_of_find?_eq_some hs), rfl⟩

/-- A settled selection is that of a step that is shown. -/
theorem Rooted.shows_of_settles (h : v.Rooted) (hnew : v.Settles new new) {id : String}
    (hid : new = some id) : v.Shows id := by
  by_contra hgone
  have hlast : new = v.lastOfRoot? := hnew.moved fun id' hid' hshown => by
    rw [Option.some.inj (hid'.symm.trans hid)] at hshown
    exact hgone hshown
  exact hgone (h.exists_of_lastOfRoot? (hlast.symm.trans hid))

/-- A settled selection is missing only when no step is shown. -/
theorem Rooted.isSome_iff_of_settles (h : v.Rooted) (hnew : v.Settles new new) :
    new.isSome = true ↔ v.steps ≠ [] := by
  constructor
  · intro hsome
    obtain ⟨id, hid⟩ := Option.isSome_iff_exists.1 hsome
    obtain ⟨s, hs, -⟩ := h.shows_of_settles hnew hid
    exact List.ne_nil_of_mem hs
  · intro hsteps
    by_contra hnone
    rw [Option.not_isSome_iff_eq_none] at hnone
    have hlast : new = v.lastOfRoot? := hnew.moved fun id hid => by
      rw [hnone] at hid
      cases hid
    rw [hnone, ← h.lastRootStep?_eq, eq_comm, Option.map_eq_none_iff] at hlast
    exact hsteps (h.steps_eq_nil hlast)

end RunView

/-- Whether a call is a batch with the start of a root run behind its first event. -/
def SessionCall.startsMidway : SessionCall → Bool
  | ingestAll events => events.tail.any Event.isRootStart
  | _ => false

/-! ### Sessions with a settled selection -/

namespace WatchSession

/-- Whether the selection of a session is settled by its view, be that stale or not. -/
structure Settled (s : WatchSession) : Prop where
  rooted : s.view.Rooted
  settles : s.view.Settles s.selected s.selected

variable {s : WatchSession} {e : Event}

/-- A session without a selection and with nothing to show is settled. -/
theorem settled_of_empty (hview : s.view = .empty) (hselected : s.selected = none) :
    s.Settled := by
  refine ⟨?_, ?_, fun _ => ?_⟩
  · rw [hview]
    exact RunView.rooted_empty
  · exact fun _ _ _ => rfl
  · rw [hview, hselected]
    rfl

theorem settled_reset (s : WatchSession) : s.reset.Settled := settled_of_empty rfl rfl

/-- What leaves the view and the selection leaves a session settled. -/
theorem Settled.of_eq {t : WatchSession} (h : s.Settled) (hview : t.view = s.view)
    (hselected : t.selected = s.selected) : t.Settled := by
  refine ⟨?_, ?_⟩
  · rw [hview]
    exact h.rooted
  · rw [hview, hselected]
    exact h.settles

theorem Settled.settles_refresh (h : s.Settled) :
    s.refresh.view.Settles s.selected s.refresh.selected := by
  cases hstale : s.stale with
  | false =>
    rw [refresh_of_not_stale hstale]
    exact h.settles
  | true =>
    rw [refresh_of_stale hstale]
    exact (RunView.rooted_derive s.events s.catalog s.config).settles s.selected

theorem Settled.refresh (h : s.Settled) : s.refresh.Settled where
  rooted := by
    cases hstale : s.stale with
    | false =>
      rw [refresh_of_not_stale hstale]
      exact h.rooted
    | true =>
      rw [refresh_of_stale hstale]
      exact RunView.rooted_derive s.events s.catalog s.config
  settles := h.settles_refresh.self

theorem Settled.append (h : s.Settled) (e : Event) : (s.append e).Settled := h.of_eq rfl rfl

theorem Settled.push (h : s.Settled) (e : Event) : (s.push e).2.Settled := by
  rcases s.push_cases e with ⟨-, fault, hpush⟩ | ⟨-, outcome, t, hpush, rfl | rfl | rfl⟩
  · rw [hpush]
    exact h
  · rw [hpush]
    exact h.append e
  · rw [hpush]
    exact h.refresh.append e
  · rw [hpush]
    exact (settled_reset _).append e

theorem Settled.ingest (h : s.Settled) (e : Event) : (s.ingest e).2.Settled := by
  cases hconnected : s.connection.connected with
  | false =>
    rw [ingest_of_disconnected e hconnected]
    exact h.push e
  | true =>
    rw [ingest_of_connected e hconnected]
    exact (h.push e).refresh

theorem Settled.pushed (h : s.Settled) (events : List Event) :
    (inTurn WatchSession.push s events).2.Settled :=
  inTurn_induction (P := Settled) (fun _ e ht => ht.push e) h events

theorem Settled.select (h : s.Settled) (stepId : String) : (s.select stepId).2.Settled := by
  rw [WatchSession.select]
  split
  · next hcontains =>
    have hshown : s.view.Shows stepId := (s.view.contains_iff stepId).1 hcontains
    exact ⟨h.rooted, fun _ _ _ => rfl, fun hgone => absurd hshown (hgone stepId rfl)⟩
  · exact h

/-- Every call leaves the selection settled, whether it is accepted or refused. -/
theorem Settled.perform (h : s.Settled) (call : SessionCall) : (s.perform call).Settled := by
  cases call with
  | watch | beginRun => exact settled_reset _
  | ingest e => exact h.ingest e
  | ingestAll events =>
    rw [WatchSession.perform, ingestAll_eq]
    exact (h.pushed events).refresh
  | select stepId => exact h.select stepId
  | toggleExpanded | setExpanded =>
    simp only [WatchSession.perform, WatchSession.toggleExpanded, WatchSession.setExpanded]
    split
    · exact h.of_eq rfl rfl
    · exact h
  | markConnected | markDisconnected => exact h.of_eq rfl rfl
  | setCatalog catalog =>
    have hstale : Settled { s with catalog, stale := true } := h.of_eq rfl rfl
    exact hstale.refresh

theorem settled_performAll (catalog : Catalog) (config : LedgerConfig) (calls : List SessionCall) :
    ((new catalog config).performAll calls).Settled :=
  performAll_induction (fun _ call h => h.perform call) (settled_of_empty rfl rfl) calls

/-! ### What a call does to the selection -/

theorem push_of_stays (hconnected : s.connection.connected = true) (hstale : s.stale = false)
    (hstays : LogEntry.reset ∉ LogEntry.ofAnswer e (s.push e).1) :
    (s.push e).2 = s.append e := by
  cases he : e.isRootStart with
  | false => rw [push_of_not_isRootStart hconnected he]
  | true =>
    rw [push_of_isRootStart hconnected he] at hstays ⊢
    rw [refresh_of_not_stale hstale] at hstays ⊢
    split at hstays
    · simp [LogEntry.ofAnswer] at hstays
    · next hboundary => rw [if_neg hboundary]

/-- Events that start no root run leave the selection until the view is derived. -/
theorem selected_pushed {events : List Event} (h : ∀ e ∈ events, e.isRootStart = false) :
    (inTurn push s events).2.selected = s.selected := by
  induction events generalizing s with
  | nil => rfl
  | cons e events ih =>
    have hpush : (s.push e).2.selected = s.selected := by
      cases hconnected : s.connection.connected with
      | false => rw [push_of_disconnected e hconnected]
      | true =>
        rw [push_of_not_isRootStart hconnected (h e List.mem_cons_self)]
        rfl
    exact (ih fun e' he' => h e' (List.mem_cons_of_mem _ he')).trans hpush

theorem selected_push_of_stays (hstale : s.stale = false)
    (hstays : LogEntry.reset ∉ LogEntry.ofAnswer e (s.push e).1) :
    (s.push e).2.selected = s.selected := by
  cases hconnected : s.connection.connected with
  | false => rw [push_of_disconnected e hconnected]
  | true =>
    rw [push_of_stays hconnected hstale hstays]
    rfl

theorem Settled.settles_ingest (h : s.Settled) (hstale : s.stale = false)
    (hstays : LogEntry.reset ∉ s.entries (.ingest e)) :
    (s.ingest e).2.view.Settles s.selected (s.ingest e).2.selected := by
  have hpush : LogEntry.reset ∉ LogEntry.ofAnswer e (s.push e).1 := by
    rw [← (s.ingest_shown e).1]
    exact hstays
  have hselected := selected_push_of_stays hstale hpush
  cases hconnected : s.connection.connected with
  | false =>
    rw [ingest_of_disconnected e hconnected, push_of_disconnected e hconnected]
    exact h.settles
  | true =>
    rw [ingest_of_connected e hconnected]
    have hsettles := (h.push e).settles_refresh
    rwa [hselected] at hsettles

/-- A batch with no start of a root run behind its first event derives the view once, at its end. -/
theorem Settled.settles_ingestAll (h : s.Settled) (hstale : s.stale = false) {events : List Event}
    (hstarts : events.tail.any Event.isRootStart = false)
    (hstays : LogEntry.reset ∉ s.entries (.ingestAll events)) :
    (s.ingestAll events).2.view.Settles s.selected (s.ingestAll events).2.selected := by
  have hselected : (inTurn WatchSession.push s events).2.selected = s.selected := by
    cases events with
    | nil => rfl
    | cons e rest =>
      have hpush : LogEntry.reset ∉ LogEntry.ofAnswer e (s.push e).1 := fun hmem => hstays <| by
        rw [entries, inTurn, List.zipWith_cons_cons, List.flatten_cons]
        exact List.mem_append_left _ hmem
      have hrest : ∀ e' ∈ rest, e'.isRootStart = false := by simpa using hstarts
      exact (selected_pushed hrest).trans (selected_push_of_stays hstale hpush)
  have hsettles := (h.pushed events).settles_refresh
  rw [hselected] at hsettles
  rw [ingestAll_eq]
  exact hsettles

/-- A call that neither selects a step nor resets the session does to the selection what the view at
its end says, unless it is a batch that derives the view midway. -/
theorem Settled.settles_perform (h : s.Settled) (hstale : s.stale = false) {call : SessionCall}
    (hselect : ∀ stepId, call ≠ .select stepId) (hstays : LogEntry.reset ∉ s.entries call)
    (hstarts : call.startsMidway = false) :
    (s.perform call).view.Settles s.selected (s.perform call).selected := by
  cases call with
  | watch | beginRun => simp [entries] at hstays
  | ingest e => exact h.settles_ingest hstale hstays
  | ingestAll events => exact h.settles_ingestAll hstale hstarts hstays
  | select stepId => exact absurd rfl (hselect stepId)
  | toggleExpanded | setExpanded =>
    simp only [WatchSession.perform, WatchSession.toggleExpanded, WatchSession.setExpanded]
    split <;> exact h.settles
  | markConnected | markDisconnected => exact h.settles
  | setCatalog catalog =>
    have hcatalog : Settled { s with catalog, stale := true } := h.of_eq rfl rfl
    exact hcatalog.settles_refresh

/-! ### Batches cut before a start -/

theorem pushed_of_disconnected (h : s.connection.connected = false) (events : List Event) :
    (inTurn push s events).2 = s := by
  induction events with
  | nil => rfl
  | cons e events ih => rw [inTurn, push_of_disconnected e h, ih]

/-- The start of a root run makes the session derive its view, so a batch may as well end before
it. -/
theorem ingestAll_append_of_isRootStart (s : WatchSession) (he : e.isRootStart = true)
    (before after : List Event) : (s.ingestAll (before ++ e :: after)).2 =
      ((s.ingestAll before).2.ingestAll (e :: after)).2 := by
  rw [ingestAll_eq, ingestAll_eq, ingestAll_eq, inTurn_append]
  simp only
  generalize (inTurn push s before).2 = t
  cases hconnected : t.connection.connected with
  | false =>
    have hconnected' : t.refresh.connection.connected = false := by
      rw [connection_refresh, hconnected]
    rw [pushed_of_disconnected hconnected, pushed_of_disconnected hconnected', refresh_refresh]
  | true =>
    have hconnected' : t.refresh.connection.connected = true := by
      rw [connection_refresh, hconnected]
    have hpush : t.refresh.push e = t.push e := by
      rw [push_of_isRootStart hconnected he, push_of_isRootStart hconnected' he, refresh_refresh]
    rw [inTurn, inTurn, hpush]

/-! ### Sessions -/

/-- After any calls a step is selected exactly when one is shown, and the selected step is shown. A
call that neither selects a step nor resets the session moves the selection only when it is missing
or its step is not shown any more, and then to the last step that the ledger has for the root run.
A batch with the start of a root run behind its first event does what the part before this event and
the part from it on do one after another, so all this holds of its parts. -/
theorem selection_valid (catalog : Catalog) (config : LedgerConfig) (calls : List SessionCall) :
    let s := (new catalog config).performAll calls
    (s.selected.isSome = true ↔ s.view.steps ≠ []) ∧
      (∀ id, s.selected = some id → s.view.Shows id) ∧
      (∀ call, (∀ stepId, call ≠ .select stepId) → LogEntry.reset ∉ s.entries call →
        call.startsMidway = false →
        (s.perform call).view.Settles s.selected (s.perform call).selected) ∧
      ∀ before e after, e.isRootStart = true →
        s.perform (.ingestAll (before ++ e :: after)) =
          (s.perform (.ingestAll before)).perform (.ingestAll (e :: after)) := by
  intro s
  have hs : s.Settled := settled_performAll catalog config calls
  have hfresh : s.Fresh := fresh_performAll catalog config calls
  refine ⟨hs.rooted.isSome_iff_of_settles hs.settles,
    fun id => hs.rooted.shows_of_settles hs.settles, fun call hselect hstays hstarts =>
      hs.settles_perform hfresh.not_stale hselect hstays hstarts, fun before e after he =>
      s.ingestAll_append_of_isRootStart he before after⟩

/-- Another root run starts while the one shown still runs: its step takes the selection. -/
theorem selection_valid_of_newer_root :
    let first : List Event := [.flowStart "r" none none, .nodeStart "r" "a" none none]
    let start : Event := .flowStart "s" none none
    let later : List Event := [.nodeStart "s" "c" none none]
    let s := (new .empty .standard).performAll [.watch "w", .ingestAll first]
    let t := s.perform (.ingestAll (start :: later))
    s.selected = some "r:a:1" ∧ s.view.Shows "r:a:1" ∧ ¬ t.view.Shows "r:a:1" ∧
      t.selected = t.view.lastOfRoot? ∧ t.selected = some "s:c:3" ∧
      s.perform (.ingestAll (later ++ start :: later)) =
        (s.perform (.ingestAll later)).perform (.ingestAll (start :: later)) := by
  intro first start later s t
  obtain ⟨-, hshows, hsettles, hcut⟩ :=
    selection_valid .empty .standard [.watch "w", .ingestAll first]
  have hold : s.selected = some "r:a:1" := by decide +kernel
  have hgone : ¬ t.view.Shows "r:a:1" := by
    rw [← RunView.contains_iff]
    decide +kernel
  have hstays : LogEntry.reset ∉ s.entries (.ingestAll (start :: later)) := by
    have hall : (s.entries (.ingestAll (start :: later))).all (fun entry => !entry.isReset) =
        true := by decide +kernel
    exact fun hmem => by simpa [LogEntry.isReset] using List.all_eq_true.1 hall _ hmem
  have hmoves : t.view.Settles s.selected t.selected :=
    hsettles (.ingestAll (start :: later)) (fun _ => by simp) hstays rfl
  refine ⟨hold, hshows _ hold, hgone, hmoves.moved fun id hid => ?_, ?_, hcut later start later rfl⟩
  · rw [Option.some.inj (hid.symm.trans hold)]
    exact hgone
  · decide +kernel

/-- A batch in which another root run starts twice, before a link says that it is a child: the
second start makes the session look at the new run, which has no step to select, so the selection is
lost, though its step is shown before the batch and after it. -/
theorem selection_of_batch_with_late_start :
    let first : List Event := [.flowStart "r" none none, .nodeStart "r" "a" none none,
      .nodeStart "r" "b" none none]
    let start : Event := .flowStart "s" none none
    let call : SessionCall := .ingestAll [start, start, .subworkflowUpdate "r" "a" "s"]
    let s := (new .empty .standard).performAll [.watch "w", .ingestAll first, .select "r:a:1"]
    let t := s.perform call
    (∀ stepId, call ≠ .select stepId) ∧ LogEntry.reset ∉ s.entries call ∧
      s.selected = some "r:a:1" ∧ t.view.Shows "r:a:1" ∧ t.selected = some "r:b:2" ∧
      ¬ t.view.Settles s.selected t.selected := by
  intro first start call s t
  have hold : s.selected = some "r:a:1" := by decide +kernel
  have hnew : t.selected = some "r:b:2" := by decide +kernel
  have hshown : t.view.Shows "r:a:1" := (t.view.contains_iff _).1 (by decide +kernel)
  refine ⟨fun _ => by simp [call], fun hmem => ?_, hold, hshown, hnew, fun hsettles => ?_⟩
  · have hall : (s.entries call).all (fun entry => !entry.isReset) = true := by decide +kernel
    simpa [LogEntry.isReset] using List.all_eq_true.1 hall _ hmem
  · have hkept := hsettles.kept "r:a:1" hold hshown
    rw [hold, hnew] at hkept
    simp at hkept

end WatchSession

end RunWatch
