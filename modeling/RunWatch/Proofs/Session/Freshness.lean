import RunWatch.Proofs.Session.Calls
import RunWatch.Proofs.View.Isolation

/-!
# The view of a session is up to date

A session derives its view only when it has to: an event that is pushed makes the view stale, and
the view is derived before the start of a root run is judged and at the end of a call. Between the
calls it shows what the events give.

* `WatchSession.Sound`: a view that is not stale shows what the events give. Every step of a call
  keeps this.
* `WatchSession.view_agrees`: after any calls the view is not stale.
-/

namespace RunWatch

/-- Whether two views show the same, from the same steps and with the same links. -/
structure RunView.Agrees (v w : RunView) : Prop where
  rootRunId_eq : v.rootRunId = w.rootRunId
  status_eq : v.status = w.status
  summary_eq : v.summary = w.summary
  steps_eq : v.steps = w.steps
  tree_eq : v.tree = w.tree
  eventCount_eq : v.eventCount = w.eventCount
  ledgerSteps_eq : v.ledger.steps = w.ledger.steps
  links_eq : v.links = w.links

theorem RunView.Agrees.refl (v : RunView) : v.Agrees v := ⟨rfl, rfl, rfl, rfl, rfl, rfl, rfl, rfl⟩

/-- Without events there is nothing to show, whatever the catalog and the configuration are. -/
theorem RunView.empty_agrees (catalog : Catalog) (config : LedgerConfig) :
    RunView.empty.Agrees (RunView.derive [] catalog config) :=
  ⟨rfl, rfl, rfl, rfl, rfl, rfl, rfl, rfl⟩

namespace WatchSession

/-- Whether the view shows what the events give, unless it is known to be stale. -/
def Sound (s : WatchSession) : Prop := s.stale = false → s.view.Agrees s.derived

/-- Whether the view shows what the events give. -/
structure Fresh (s : WatchSession) : Prop where
  not_stale : s.stale = false
  agrees : s.view.Agrees s.derived

variable {s : WatchSession}

theorem Fresh.sound (h : s.Fresh) : s.Sound := fun _ => h.agrees

/-! ### Steps of a call -/

theorem Sound.refresh (h : s.Sound) : s.refresh.Fresh := by
  cases hstale : s.stale with
  | false =>
    rw [refresh_of_not_stale hstale]
    exact ⟨hstale, h hstale⟩
  | true =>
    rw [refresh_of_stale hstale]
    exact ⟨rfl, .refl _⟩

theorem fresh_reset (s : WatchSession) : s.reset.Fresh :=
  ⟨rfl, RunView.empty_agrees s.catalog s.config⟩

theorem sound_append (s : WatchSession) (e : Event) : (s.append e).Sound := fun h => by
  cases h

theorem Sound.push (h : s.Sound) (e : Event) : (s.push e).2.Sound := by
  rcases s.push_cases e with ⟨-, fault, hpush⟩ | ⟨-, outcome, t, hpush, -⟩
  · rw [hpush]
    exact h
  · rw [hpush]
    exact sound_append t e

/-! ### Calls -/

/-- What leaves the events, the catalog, the configuration and the view leaves a fresh session
fresh. -/
theorem Fresh.of_eq {t : WatchSession} (h : s.Fresh) (hevents : t.events = s.events)
    (hsetup : SameSetup s t) (hview : t.view = s.view) (hstale : t.stale = s.stale) : t.Fresh where
  not_stale := hstale.trans h.not_stale
  agrees := by
    rw [hview, derived, hevents, hsetup.catalog_eq, hsetup.config_eq]
    exact h.agrees

theorem Fresh.ingest (h : s.Fresh) (e : Event) : (s.ingest e).2.Fresh := by
  rcases s.push_cases e with ⟨hconnected, fault, hpush⟩ | ⟨hconnected, -⟩
  · rw [ingest_of_disconnected e hconnected, hpush]
    exact h
  · rw [ingest_of_connected e hconnected]
    exact (h.sound.push e).refresh

theorem Fresh.ingestAll (h : s.Fresh) (events : List Event) : (s.ingestAll events).2.Fresh := by
  have hpushed : (inTurn WatchSession.push s events).2.Sound :=
    inTurn_induction (P := Sound) (fun t e ht => ht.push e) h.sound events
  rw [ingestAll_eq]
  exact hpushed.refresh

/-- Every call leaves the view up to date, whether it is accepted or refused. -/
theorem Fresh.perform (h : s.Fresh) (call : SessionCall) : (s.perform call).Fresh := by
  cases call with
  | watch | beginRun => exact fresh_reset _
  | ingest e => exact h.ingest e
  | ingestAll events => exact h.ingestAll events
  | select | toggleExpanded | setExpanded =>
    simp only [WatchSession.perform, WatchSession.select, WatchSession.toggleExpanded,
      WatchSession.setExpanded]
    split
    · exact h.of_eq rfl ⟨rfl, rfl⟩ rfl rfl
    · exact h
  | markConnected | markDisconnected => exact h.of_eq rfl ⟨rfl, rfl⟩ rfl rfl
  | setCatalog catalog =>
    have hsound : Sound { s with catalog, stale := true } := fun hstale => by cases hstale
    exact hsound.refresh

theorem fresh_new (catalog : Catalog) (config : LedgerConfig) : (new catalog config).Fresh :=
  ⟨rfl, RunView.empty_agrees catalog config⟩

theorem fresh_performAll (catalog : Catalog) (config : LedgerConfig) (calls : List SessionCall) :
    ((new catalog config).performAll calls).Fresh :=
  performAll_induction (fun _ call h => h.perform call) (fresh_new catalog config) calls

/-- After any calls, accepted or refused, the view of a session is what its events give with the
catalog that was brought last and with the configuration of the start, and it is not stale. -/
theorem view_agrees (catalog : Catalog) (config : LedgerConfig) (calls : List SessionCall) :
    let s := (new catalog config).performAll calls
    let current := (calls.filterMap SessionCall.catalog?).getLast?.getD catalog
    s.stale = false ∧ s.view.Agrees (RunView.derive s.events current config) := by
  intro s current
  have hs : s.Fresh := fresh_performAll catalog config calls
  have hcatalog : s.catalog = current := catalog_performAll (new catalog config) calls
  have hconfig : s.config = config := config_performAll (new catalog config) calls
  refine ⟨hs.not_stale, ?_⟩
  rw [← hcatalog, ← hconfig]
  exact hs.agrees

end WatchSession

end RunWatch
