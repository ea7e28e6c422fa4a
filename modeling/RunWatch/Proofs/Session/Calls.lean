import Mathlib.Data.List.Induction
import RunWatch.Session

/-!
# Calls of a session

What may be asked of a session one thing after another: `SessionCall` lists what changes a session,
and `WatchSession.performAll` takes the calls in turn, accepted or refused. A property that every
call keeps holds after all of them (`performAll_induction`).

Below are the lemmas of the single operations. Everything but the view and the selection outlasts a
`refresh`; a batch is its events pushed in turn and one `refresh` (`ingestAll_eq`).
-/

namespace RunWatch

/-- What changes a session. -/
inductive SessionCall where
  | watch (target : String)
  | beginRun
  | ingest (e : Event)
  | ingestAll (events : List Event)
  | select (stepId : String)
  | toggleExpanded (stepId : String)
  | setExpanded (stepId : String) (expanded : Bool)
  | markConnected
  | markDisconnected (error : Option String)
  | setCatalog (catalog : Catalog)
  deriving DecidableEq

/-- The catalog that a call brings. -/
def SessionCall.catalog? : SessionCall → Option Catalog
  | setCatalog catalog => some catalog
  | _ => none

namespace WatchSession

/-- The session after a call. -/
def perform (s : WatchSession) : SessionCall → WatchSession
  | .watch target => s.watch target
  | .beginRun => s.beginRun
  | .ingest e => (s.ingest e).2
  | .ingestAll events => (s.ingestAll events).2
  | .select stepId => (s.select stepId).2
  | .toggleExpanded stepId => (s.toggleExpanded stepId).2
  | .setExpanded stepId expanded => (s.setExpanded stepId expanded).2
  | .markConnected => s.markConnected
  | .markDisconnected error => s.markDisconnected error
  | .setCatalog catalog => s.setCatalog catalog

/-- The session after some calls. -/
def performAll (s : WatchSession) (calls : List SessionCall) : WatchSession :=
  calls.foldl perform s

theorem performAll_append_singleton (s : WatchSession) (calls : List SessionCall)
    (call : SessionCall) : s.performAll (calls ++ [call]) = (s.performAll calls).perform call :=
  List.foldl_append

theorem performAll_induction {P : WatchSession → Prop}
    (hstep : ∀ s call, P s → P (s.perform call)) {s : WatchSession} (h : P s)
    (calls : List SessionCall) : P (s.performAll calls) := by
  induction calls generalizing s with
  | nil => exact h
  | cons call calls ih => exact ih (hstep s call h)

/-! ### One thing after another -/

section

variable {α β : Type} (op : WatchSession → α → β × WatchSession)

/-- The answers of an operation on some arguments in turn, and the session at the end. -/
def inTurn (s : WatchSession) : List α → List β × WatchSession
  | [] => ([], s)
  | a :: rest => ((op s a).1 :: (inTurn (op s a).2 rest).1, (inTurn (op s a).2 rest).2)

theorem inTurn_append (s : WatchSession) (as bs : List α) :
    inTurn op s (as ++ bs) = ((inTurn op s as).1 ++ (inTurn op (inTurn op s as).2 bs).1,
      (inTurn op (inTurn op s as).2 bs).2) := by
  induction as generalizing s with
  | nil => rfl
  | cons a as ih => rw [List.cons_append, inTurn, ih, inTurn, List.cons_append]

theorem length_inTurn (s : WatchSession) (as : List α) :
    (inTurn op s as).1.length = as.length := by
  induction as generalizing s with
  | nil => rfl
  | cons a as ih => rw [inTurn, List.length_cons, List.length_cons, ih]

variable {op}

theorem inTurn_induction {P : WatchSession → Prop} (hstep : ∀ s a, P s → P (op s a).2)
    {s : WatchSession} (h : P s) (as : List α) : P (inTurn op s as).2 := by
  induction as generalizing s with
  | nil => exact h
  | cons a as ih => exact ih (hstep s a h)

end

variable (s : WatchSession) (e : Event)

/-! ### Deriving the view -/

/-- The view of the events. -/
def derived : RunView := RunView.derive s.events s.catalog s.config

variable {s} in
theorem refresh_of_not_stale (h : s.stale = false) : s.refresh = s := by
  rw [refresh, if_neg (by simp [h])]

variable {s} in
theorem refresh_of_stale (h : s.stale = true) :
    s.refresh = { s with
      view := s.derived, stale := false, selected := s.derived.resolveSelection s.selected } := by
  rw [refresh, if_pos h]
  rfl

/-- A view that is derived anew changes the view and the selection only. -/
theorem refresh_eq : s.refresh =
    { s with view := s.refresh.view, stale := false, selected := s.refresh.selected } := by
  cases h : s.stale with
  | false =>
    rw [refresh_of_not_stale h, ← h]
  | true => rw [refresh_of_stale h]

@[simp] theorem stale_refresh : s.refresh.stale = false := by rw [refresh_eq]

@[simp] theorem events_refresh : s.refresh.events = s.events := by rw [refresh_eq]

@[simp] theorem catalog_refresh : s.refresh.catalog = s.catalog := by rw [refresh_eq]

@[simp] theorem config_refresh : s.refresh.config = s.config := by rw [refresh_eq]

@[simp] theorem generation_refresh : s.refresh.generation = s.generation := by rw [refresh_eq]

@[simp] theorem connection_refresh : s.refresh.connection = s.connection := by rw [refresh_eq]

@[simp] theorem derived_refresh : s.refresh.derived = s.derived := by
  rw [derived, events_refresh, catalog_refresh, config_refresh, derived]

@[simp] theorem refresh_refresh : s.refresh.refresh = s.refresh :=
  refresh_of_not_stale s.stale_refresh

/-! ### Taking events -/

variable {s e} in
theorem isRunBoundary_of_not_isRootStart (h : e.isRootStart = false) :
    s.isRunBoundary e = false := by
  unfold isRunBoundary
  split
  · simp [h]
  · rfl

variable {s} in
theorem push_of_disconnected (h : s.connection.connected = false) :
    s.push e = (.error (.frozen (s.connection.error.getD "disconnected")), s) := by
  rw [push, if_neg (by simp [h])]

variable {s e} in
/-- An event that starts no root run is appended. -/
theorem push_of_not_isRootStart (h : s.connection.connected = true) (he : e.isRootStart = false) :
    s.push e = (.ok .accepted, s.append e) := by
  simp [push, h, he, isRunBoundary_of_not_isRootStart he]

variable {s e} in
/-- The start of a root run meets an up-to-date view. -/
theorem push_of_isRootStart (h : s.connection.connected = true) (he : e.isRootStart = true) :
    s.push e = if s.refresh.isRunBoundary e then (.ok .acceptedAfterReset, s.refresh.reset.append e)
      else (.ok .accepted, s.refresh.append e) := by
  simp [push, h, he]

/-- An event is refused while the session is disconnected. Otherwise it is appended: to the session
as it is, or refreshed, or reset. -/
theorem push_cases :
    s.connection.connected = false ∧ (∃ fault, s.push e = (.error fault, s)) ∨
      s.connection.connected = true ∧ ∃ outcome t, s.push e = (.ok outcome, t.append e) ∧
        (t = s ∨ t = s.refresh ∨ t = s.refresh.reset) := by
  cases h : s.connection.connected with
  | false => exact .inl ⟨rfl, _, push_of_disconnected e h⟩
  | true =>
    refine .inr ⟨rfl, ?_⟩
    cases he : e.isRootStart with
    | false => exact ⟨_, s, push_of_not_isRootStart h he, .inl rfl⟩
    | true =>
      rw [push_of_isRootStart h he]
      split
      · exact ⟨_, s.refresh.reset, rfl, .inr (.inr rfl)⟩
      · exact ⟨_, s.refresh, rfl, .inr (.inl rfl)⟩

variable {s} in
theorem ingest_of_disconnected (h : s.connection.connected = false) : s.ingest e = s.push e := by
  rw [ingest, push_of_disconnected e h]

variable {s} in
theorem ingest_of_connected (h : s.connection.connected = true) :
    s.ingest e = ((s.push e).1, (s.push e).2.refresh) := by
  rcases s.push_cases e with ⟨hnot, -⟩ | ⟨-, outcome, t, hpush, -⟩
  · rw [h] at hnot
    cases hnot
  · rw [ingest, hpush]

/-- A batch is its events pushed in turn, and the view derived at the end. -/
theorem ingestAll_eq (events : List Event) : s.ingestAll events =
    ((inTurn push s events).1.foldl IngestTotals.add ⟨0, 0, 0⟩,
      (inTurn push s events).2.refresh) := by
  have hfold : ∀ totals : IngestTotals,
      events.foldl (fun (acc : IngestTotals × WatchSession) e =>
        (acc.1.add (acc.2.push e).1, (acc.2.push e).2)) (totals, s) =
      ((inTurn push s events).1.foldl IngestTotals.add totals, (inTurn push s events).2) := by
    induction events generalizing s with
    | nil => exact fun _ => rfl
    | cons e events ih => exact fun totals => ih (s.push e).2 (totals.add (s.push e).1)
  exact congrArg (fun acc => (acc.1, acc.2.refresh)) (hfold ⟨0, 0, 0⟩)

/-! ### Catalog and configuration -/

/-- Whether two sessions have the same catalog and the same configuration. -/
structure SameSetup (s t : WatchSession) : Prop where
  catalog_eq : t.catalog = s.catalog
  config_eq : t.config = s.config

namespace SameSetup

variable {s t u : WatchSession}

theorem trans (h : SameSetup s t) (h' : SameSetup t u) : SameSetup s u :=
  ⟨h'.catalog_eq.trans h.catalog_eq, h'.config_eq.trans h.config_eq⟩

theorem refresh (s : WatchSession) : SameSetup s s.refresh := ⟨s.catalog_refresh, s.config_refresh⟩

theorem push (s : WatchSession) (e : Event) : SameSetup s (s.push e).2 := by
  rcases s.push_cases e with ⟨-, fault, h⟩ | ⟨-, outcome, t, h, ht⟩
  · rw [h]
    exact ⟨rfl, rfl⟩
  · rw [h]
    rcases ht with rfl | rfl | rfl
    · exact ⟨rfl, rfl⟩
    · exact ⟨s.catalog_refresh, s.config_refresh⟩
    · exact ⟨s.catalog_refresh, s.config_refresh⟩

theorem ingest (s : WatchSession) (e : Event) : SameSetup s (s.ingest e).2 := by
  cases h : s.connection.connected with
  | false =>
    rw [ingest_of_disconnected e h]
    exact .push s e
  | true =>
    rw [ingest_of_connected e h]
    exact (push s e).trans (.refresh _)

theorem ingestAll (s : WatchSession) (events : List Event) :
    SameSetup s (s.ingestAll events).2 := by
  have hpushed : SameSetup s (inTurn WatchSession.push s events).2 :=
    inTurn_induction (fun t e ht => ht.trans (.push t e)) ⟨rfl, rfl⟩ events
  rw [ingestAll_eq]
  exact hpushed.trans (.refresh _)

end SameSetup

theorem config_perform (call : SessionCall) : (s.perform call).config = s.config := by
  cases call with
  | ingest e => exact (SameSetup.ingest s e).config_eq
  | ingestAll events => exact (SameSetup.ingestAll s events).config_eq
  | select | toggleExpanded | setExpanded =>
    simp only [perform, select, toggleExpanded, setExpanded]
    split <;> rfl
  | setCatalog catalog => exact config_refresh _
  | watch | beginRun | markConnected | markDisconnected => rfl

theorem catalog_perform (call : SessionCall) :
    (s.perform call).catalog = call.catalog?.getD s.catalog := by
  cases call with
  | ingest e => exact (SameSetup.ingest s e).catalog_eq
  | ingestAll events => exact (SameSetup.ingestAll s events).catalog_eq
  | select | toggleExpanded | setExpanded =>
    simp only [perform, select, toggleExpanded, setExpanded]
    split <;> rfl
  | setCatalog catalog => exact catalog_refresh _
  | watch | beginRun | markConnected | markDisconnected => rfl

theorem config_performAll (calls : List SessionCall) :
    (s.performAll calls).config = s.config :=
  performAll_induction (fun t call ht => (t.config_perform call).trans ht) rfl calls

/-- The catalog is the one that was brought last. -/
theorem catalog_performAll (calls : List SessionCall) : (s.performAll calls).catalog =
    (calls.filterMap SessionCall.catalog?).getLast?.getD s.catalog := by
  induction calls using List.reverseRecOn with
  | nil => rfl
  | append_singleton calls call ih =>
    rw [performAll_append_singleton, catalog_perform, ih, List.filterMap_append]
    cases h : call.catalog? <;> simp [h]

end WatchSession

end RunWatch
