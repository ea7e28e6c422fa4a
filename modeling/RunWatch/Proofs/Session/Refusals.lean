import RunWatch.Proofs.Session.Freshness
import RunWatch.Proofs.Session.Selection

/-!
# Refused calls

A session refuses an event while it is disconnected, and what the operator asks about a step that it
does not show (`WatchSession.Unfit`). What it refuses leaves it as it was, so a list of calls does
what is left of it without the refused ones, and a batch without its rejected events
(`WatchSession.withoutRefused`).

* `WatchSession.perform_of_refuses`: a refused call leaves the session.
* `WatchSession.performAll_withoutRefused`: refused calls may as well be left out.
-/

namespace RunWatch

namespace WatchSession

variable {s : WatchSession} {e : Event} {stepId : String}

/-! ### Calls -/

/-- Whether a session refuses a call, by its answer. A batch is not refused as a whole. -/
def refuses (s : WatchSession) : SessionCall → Bool
  | .ingest e => !(s.ingest e).1.isOk
  | .select stepId => !(s.select stepId).1
  | .toggleExpanded stepId => (s.toggleExpanded stepId).1.isNone
  | .setExpanded stepId expanded => !(s.setExpanded stepId expanded).1
  | .watch _ | .beginRun | .ingestAll _ | .markConnected | .markDisconnected _ | .setCatalog _ =>
    false

/-- What a session does not take: an event while it is disconnected, and a step that is not among
those shown, or not among the rows. -/
inductive Unfit (s : WatchSession) : SessionCall → Prop
  | ingest (e : Event) (h : s.connection.connected = false) : Unfit s (.ingest e)
  | select (stepId : String) (h : ¬ s.view.Shows stepId) : Unfit s (.select stepId)
  | toggleExpanded (stepId : String) (h : ∀ row ∈ flatten s.view.tree, row.stepId ≠ stepId) :
    Unfit s (.toggleExpanded stepId)
  | setExpanded (stepId : String) (expanded : Bool)
    (h : ∀ row ∈ flatten s.view.tree, row.stepId ≠ stepId) : Unfit s (.setExpanded stepId expanded)

theorem row?_eq_none_iff : s.view.row? stepId = none ↔
    ∀ row ∈ flatten s.view.tree, row.stepId ≠ stepId := by
  simp [RunView.row?]

theorem isOk_push : (s.push e).1.isOk = s.connection.connected := by
  rcases s.push_cases e with ⟨hconnected, fault, hpush⟩ | ⟨hconnected, outcome, t, hpush, -⟩
  · rw [hpush, hconnected]
    rfl
  · rw [hpush, hconnected]
    rfl

theorem select_of_not_shown (h : s.view.contains stepId = false) :
    s.select stepId = (false, s) := by
  rw [select, if_neg (by simp [h])]

theorem toggleExpanded_of_no_row (h : s.view.row? stepId = none) :
    s.toggleExpanded stepId = (none, s) := by
  rw [toggleExpanded, h]

theorem setExpanded_of_no_row (h : s.view.row? stepId = none) (expanded : Bool) :
    s.setExpanded stepId expanded = (false, s) := by
  rw [setExpanded, h]
  rfl

/-- A session refuses what is unfit for it, and nothing else. -/
theorem refuses_iff {call : SessionCall} : s.refuses call = true ↔ s.Unfit call := by
  constructor
  · intro h
    cases call with
    | ingest e =>
      rw [refuses, (s.ingest_shown e).1, isOk_push, Bool.not_eq_true'] at h
      exact .ingest e h
    | select stepId =>
      refine .select stepId fun hshown => ?_
      have hcontains : s.view.contains stepId = true := (s.view.contains_iff stepId).2 hshown
      simp [refuses, select, hcontains] at h
    | toggleExpanded stepId =>
      refine .toggleExpanded stepId (row?_eq_none_iff.1 ?_)
      rw [refuses, toggleExpanded] at h
      split at h
      · cases h
      · assumption
    | setExpanded stepId expanded =>
      refine .setExpanded stepId expanded (row?_eq_none_iff.1 ?_)
      rw [refuses, setExpanded] at h
      split at h
      · cases h
      · next hrow => simpa using hrow
    | watch | beginRun | ingestAll | markConnected | markDisconnected | setCatalog => cases h
  · rintro (⟨e, hconnected⟩ | ⟨stepId, hshown⟩ | ⟨stepId, hrow⟩ | ⟨stepId, expanded, hrow⟩)
    · rw [refuses, (s.ingest_shown e).1, isOk_push, hconnected]
      rfl
    · rw [← RunView.contains_iff, Bool.not_eq_true] at hshown
      rw [refuses, select_of_not_shown hshown]
      rfl
    · rw [refuses, toggleExpanded_of_no_row (row?_eq_none_iff.2 hrow)]
      rfl
    · rw [refuses, setExpanded_of_no_row (row?_eq_none_iff.2 hrow)]
      rfl

/-- A refused call leaves the session as it was. -/
theorem perform_of_refuses {call : SessionCall} (h : s.refuses call = true) :
    s.perform call = s := by
  cases refuses_iff.1 h with
  | ingest e hconnected =>
    rw [perform, ingest_of_disconnected e hconnected, push_of_disconnected e hconnected]
  | select stepId hshown =>
    rw [← RunView.contains_iff, Bool.not_eq_true] at hshown
    rw [perform, select_of_not_shown hshown]
  | toggleExpanded stepId hrow =>
    rw [perform, toggleExpanded_of_no_row (row?_eq_none_iff.2 hrow)]
  | setExpanded stepId expanded hrow =>
    rw [perform, setExpanded_of_no_row (row?_eq_none_iff.2 hrow)]

/-! ### Events of a batch -/

/-- The events of a batch that are accepted. -/
def accepted (s : WatchSession) : List Event → List Event
  | [] => []
  | e :: rest =>
    if (s.push e).1.isOk then e :: accepted (s.push e).2 rest else accepted (s.push e).2 rest

theorem push_of_rejected (h : (s.push e).1.isOk = false) : (s.push e).2 = s := by
  rw [isOk_push] at h
  rw [push_of_disconnected e h]

/-- The events that are rejected may as well be left out of a batch. -/
theorem pushed_accepted (s : WatchSession) (events : List Event) :
    (inTurn push s (s.accepted events)).2 = (inTurn push s events).2 := by
  induction events generalizing s with
  | nil => rfl
  | cons e rest ih =>
    rw [accepted, inTurn]
    split
    · rw [inTurn]
      exact ih (s.push e).2
    · next hrejected =>
      rw [push_of_rejected (by simpa using hrejected)]
      exact ih s

/-- A batch without accepted events leaves an up-to-date session as it was. -/
theorem perform_ingestAll_of_rejected (hstale : s.stale = false) {events : List Event}
    (h : s.accepted events = []) : s.perform (.ingestAll events) = s := by
  rw [perform, ingestAll_eq, ← pushed_accepted, h]
  exact refresh_of_not_stale hstale

/-! ### Calls without the refused ones -/

/-- A call without the events that are rejected. -/
def trim (s : WatchSession) : SessionCall → SessionCall
  | .ingestAll events => .ingestAll (s.accepted events)
  | call => call

/-- Some calls without those that are refused, and without the events that are rejected. -/
def withoutRefused (s : WatchSession) : List SessionCall → List SessionCall
  | [] => []
  | call :: calls =>
    if s.refuses call then (s.perform call).withoutRefused calls
    else s.trim call :: (s.perform call).withoutRefused calls

theorem perform_trim (s : WatchSession) (call : SessionCall) :
    s.perform (s.trim call) = s.perform call := by
  cases call with
  | ingestAll events => rw [trim, perform, perform, ingestAll_eq, ingestAll_eq, pushed_accepted]
  | _ => rfl

theorem performAll_withoutRefused (s : WatchSession) (calls : List SessionCall) :
    s.performAll (s.withoutRefused calls) = s.performAll calls := by
  induction calls generalizing s with
  | nil => rfl
  | cons call calls ih =>
    have hcalls : s.performAll (call :: calls) = (s.perform call).performAll calls := rfl
    rw [withoutRefused, hcalls]
    split
    · next hrefused =>
      rw [perform_of_refuses hrefused]
      exact ih s
    · have htrim : s.performAll (s.trim call :: (s.perform call).withoutRefused calls) =
          (s.perform call).performAll ((s.perform call).withoutRefused calls) := by
        rw [performAll, List.foldl_cons, perform_trim, ← performAll]
      rw [htrim]
      exact ih (s.perform call)

end WatchSession

end RunWatch
