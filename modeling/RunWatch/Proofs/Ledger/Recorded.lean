import RunWatch.Proofs.Ledger.OpenTable

/-!
# What one event does to the steps

An event makes one step at the end of a ledger, revises one of its steps, or leaves all of them as
they are (`History.Recorded`). There are five revisions (`Step.Revised`): an open step waits,
completes or fails, a completed one takes in another report, and the failure of a run is noted on
any. A step is made running, and revised at once if the event that makes it is not a start.

So what holds of a running step and outlasts every revision holds of all steps of a ledger
(`Ledger.forall_mem_steps`).
-/

namespace RunWatch

open Text

namespace Step

/-- What an event does to a step that it meets. -/
inductive Revised (s : Step) : Step → Prop where
  | pause (h : s.status.isOpen = true) (waiting : WaitingInfo) : Revised s (s.pause waiting)
  | complete (h : s.status.isOpen = true) (result details : Option Json) (ts : Option Instant)
      (kind : Option String) : Revised s (s.complete (.of result details ts) kind)
  | merge (h : s.status = .completed) (result details : Option Json) (ts : Option Instant) :
      Revised s (s.merge (.of result details ts))
  | fail (h : s.status.isOpen = true) (message : String) (ts : Option Instant) :
      Revised s (s.fail message ts)
  | blame (message : String) (ts : Option Instant) : Revised s (s.blame message ts)

/-- The steps that an event at a place of the stream may make. Their kind is the one that the
catalog has for the node, or else the one that the event reports. -/
inductive Made (catalog : Catalog) (place : Nat) : Step → Prop where
  | start (key : NodeKey) (nodeType : Option String) (ts : Option Instant) :
      Made catalog place (.running key place (catalog.resolve key.nodeId nodeType) ts)
  | late {s : Step} (key : NodeKey) (nodeType : Option String) (ts : Option Instant)
      (h : (Step.running key place (catalog.resolve key.nodeId nodeType) ts).Revised s) :
      Made catalog place s

variable {s t : Step} {catalog : Catalog} {place : Nat}

theorem Revised.key_eq (h : s.Revised t) : t.key = s.key := by
  cases h with
  | blame message ts => exact s.key_blame ts message
  | pause | complete | merge | fail => rfl

theorem Revised.arrival_eq (h : s.Revised t) : t.arrival = s.arrival := by
  cases h with
  | blame message ts => exact s.arrival_blame ts message
  | pause | complete | merge | fail => rfl

theorem Revised.id_eq (h : s.Revised t) : t.id = s.id := by
  have hrun : t.runId = s.runId := congrArg NodeKey.runId h.key_eq
  have hnode : t.nodeId = s.nodeId := congrArg NodeKey.nodeId h.key_eq
  rw [Step.id, Step.id, hrun, hnode, h.arrival_eq]

theorem Made.arrival_eq (h : s.Made catalog place) : s.arrival = place := by
  cases h with
  | start => rfl
  | late key nodeType ts h => exact h.arrival_eq

end Step

namespace History

/-- What an event at a place of the stream may make of some steps. -/
inductive Recorded (catalog : Catalog) (place : Nat) (steps : List Step) : List Step → Prop where
  | same : Recorded catalog place steps steps
  | add {s : Step} (h : s.Made catalog place) : Recorded catalog place steps (steps ++ [s])
  | revise {i : Nat} {s t : Step} (hs : steps[i]? = some s) (h : s.Revised t) :
      Recorded catalog place steps (steps.set i t)

section

variable {catalog : Catalog} {place : Nat} {steps : List Step} {p : Step → Bool} {f : Step → Step}

theorem recorded_updateLast
    (h : ∀ i s, lastWhere? p steps = some i → steps[i]? = some s → s.Revised (f s)) :
    Recorded catalog place steps (updateLast p f steps) := by
  cases hlast : lastWhere? p steps with
  | none =>
    rw [updateLast_eq_self f (lastWhere?_eq_none_iff.1 hlast)]
    exact .same
  | some i =>
    obtain ⟨s, hs, -⟩ := exists_of_lastWhere?_eq_some hlast
    have hset : steps.modify i f = steps.set i (f s) := by
      rw [List.modify_eq_set_getElem?, hs]
      rfl
    rw [updateLast_eq_modify f hlast, hset]
    exact .revise hs (h i s hlast hs)

/-- When the test admits a revision of every step that passes it, the last one is revised. -/
theorem recorded_updateLast_of_forall (h : ∀ s, p s = true → s.Revised (f s)) :
    Recorded catalog place steps (updateLast p f steps) := by
  refine recorded_updateLast fun i s hlast hs => ?_
  obtain ⟨t, ht, hp⟩ := exists_of_lastWhere?_eq_some hlast
  rw [hs, Option.some.injEq] at ht
  exact h s (ht ▸ hp)

/-- The newest step of a node is revised while it is open, and a step is made otherwise. -/
theorem recorded_settle {key : NodeKey} {new : Step}
    (h : ∀ s : Step, s.status.isOpen = true → s.Revised (f s)) (hnew : new.Made catalog place) :
    Recorded catalog place steps (settle steps key f new) := by
  unfold settle
  split
  · next hopen =>
    refine recorded_updateLast fun i s hlast hs => h s ?_
    rwa [isOpen, newest?, findRev?_eq_bind, hlast, Option.bind_some, hs, Option.any_some] at hopen
  · exact .add hnew

end

theorem status_of_repeats {config : LedgerConfig} {key : NodeKey} {kind : Option String}
    {c : Completion} {s : Step} (h : repeats config key kind c s = true) :
    s.status = .completed := by
  simp only [repeats, Bool.and_eq_true, Option.any_eq_true, beq_iff_eq] at h
  obtain ⟨-, -, -, ⟨-, hstatus⟩, -⟩ := h
  exact hstatus

theorem recorded_record (catalog : Catalog) (config : LedgerConfig) (place : Nat)
    (steps : List Step) (e : Event) :
    Recorded catalog place steps (record catalog config place steps e) := by
  cases e with
  | nodeStart runId nodeId nodeType ts =>
    simp only [record]
    split
    · exact .same
    · exact .add (.start _ _ ts)
  | nodeComplete runId nodeId nodeType result details ts =>
    simp only [record, complete]
    split
    · exact .same
    · split
      · exact recorded_updateLast_of_forall fun s hs => .merge (status_of_repeats hs) _ _ _
      · exact recorded_settle (fun s hs => .complete hs _ _ _ _)
          (.late _ _ none (.complete rfl _ _ _ _))
  | flowWaiting runId nodeId waiting ts =>
    simp only [record]
    split
    · exact .same
    · cases nodeId.bind full? with
      | some nodeId =>
        exact recorded_settle (fun s hs => .pause hs waiting) (.late _ _ ts (.pause rfl waiting))
      | none =>
        refine recorded_updateLast_of_forall fun s hs => .pause ?_ waiting
        rw [Bool.and_eq_true, beq_iff_eq, beq_iff_eq] at hs
        rw [hs.2]
        rfl
  | flowError runId nodeId error ts =>
    simp only [record]
    cases nodeId.bind full? with
    | some nodeId =>
      simp only
      split
      · exact .same
      · exact recorded_settle (fun s hs => .fail hs _ ts) (.late _ _ none (.fail rfl _ ts))
    | none =>
      simp only [blame]
      split <;> exact recorded_updateLast_of_forall fun s _ => .blame _ ts
  | flowStart | flowComplete | flowCancelled | subworkflowUpdate | traceUpdate | unknown =>
    exact .same

section

variable {catalog : Catalog} {place : Nat} {steps steps' : List Step}
  (h : Recorded catalog place steps steps')

include h

/-- What every revision leaves as it was is the same along all steps, but for a new one. -/
theorem Recorded.map_eq_or {α : Type*} {g : Step → α} (hg : ∀ s t, s.Revised t → g t = g s) :
    steps'.map g = steps.map g ∨ ∃ s, s.Made catalog place ∧ steps' = steps ++ [s] := by
  cases h with
  | same => exact .inl rfl
  | @add s hmade => exact .inr ⟨s, hmade, rfl⟩
  | revise hs hst =>
    left
    obtain ⟨hi, rfl⟩ := List.getElem?_eq_some_iff.1 hs
    have hget : (steps.map g).get ⟨_, by rwa [List.length_map]⟩ = g _ := List.getElem_map g
    rw [List.map_set, hg _ _ hst, ← hget, List.get_eq_getElem, List.set_getElem_self]

/-- What holds of a running step and outlasts a revision still holds of all steps. -/
theorem Recorded.forall_mem {P : Step → Prop}
    (hstart : ∀ key nodeType ts, P (.running key place (catalog.resolve key.nodeId nodeType) ts))
    (hrevised : ∀ s t, P s → s.Revised t → P t) (hsteps : ∀ s ∈ steps, P s) :
    ∀ s ∈ steps', P s := by
  cases h with
  | same => exact hsteps
  | add hmade =>
    intro u hu
    rcases List.mem_append.1 hu with hu | hu
    · exact hsteps u hu
    · rw [List.mem_singleton.1 hu]
      cases hmade with
      | start key nodeType ts => exact hstart key nodeType ts
      | late key nodeType ts hlate => exact hrevised _ _ (hstart key nodeType ts) hlate
  | revise hs hst =>
    intro u hu
    rcases List.mem_or_eq_of_mem_set hu with hu | rfl
    · exact hsteps u hu
    · exact hrevised _ _ (hsteps _ (List.mem_of_getElem? hs)) hst

end

end History

namespace Ledger

theorem recorded_ofEvents (catalog : Catalog) (config : LedgerConfig) (events : List Event)
    (e : Event) : History.Recorded catalog events.length (ofEvents catalog config events).steps
      (ofEvents catalog config (events ++ [e])).steps := by
  rw [steps_ofEvents_append_singleton]
  exact History.recorded_record catalog config _ _ e

/-- What holds of a step that begins with a kind from the catalog or from an event, and outlasts
every revision, holds of all steps. -/
theorem forall_mem_steps_of_resolved {P : Step → Prop} (catalog : Catalog) (config : LedgerConfig)
    (events : List Event)
    (hstart : ∀ key place nodeType ts,
      P (.running key place (catalog.resolve key.nodeId nodeType) ts))
    (hrevised : ∀ s t, P s → s.Revised t → P t) :
    ∀ s ∈ (ofEvents catalog config events).steps, P s := by
  induction events using List.reverseRecOn with
  | nil => exact fun s hs => nomatch hs
  | append_singleton events e ih =>
    exact (recorded_ofEvents catalog config events e).forall_mem
      (fun key => hstart key events.length) hrevised ih

theorem forall_mem_steps {P : Step → Prop}
    (hstart : ∀ key place kind ts, P (.running key place kind ts))
    (hrevised : ∀ s t, P s → s.Revised t → P t) (catalog : Catalog) (config : LedgerConfig)
    (events : List Event) : ∀ s ∈ (ofEvents catalog config events).steps, P s := by
  refine forall_mem_steps_of_resolved catalog config events ?_ hrevised
  intro key place nodeType ts
  exact hstart key place _ ts

end Ledger

end RunWatch
