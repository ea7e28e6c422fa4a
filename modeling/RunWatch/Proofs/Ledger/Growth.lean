import Mathlib.Logic.Relation
import RunWatch.Proofs.Ledger.Recorded

/-!
# How a ledger grows

An event adds one step at the end of a ledger, or changes one of its steps, or does neither
(`History.Grows`). `Step.Change` says what a change leaves as it was, and how far it may move the
status: a step that has completed or failed stays so.

The main statement is `Ledger.apply_keeps_history`, for one event and for every continuation of a
stream.
-/

namespace RunWatch

open Text

/-! ### Changes of a step -/

/-- How a change of a step moves its status. Only an open step waits, completes or fails. -/
inductive StepStatus.Moves : StepStatus → StepStatus → Prop where
  | pause {a : StepStatus} (h : a.isOpen = true) : Moves a .waiting
  | complete {a : StepStatus} (h : a.isOpen = true) : Moves a .completed
  | fail {a : StepStatus} (h : a.isOpen = true) : Moves a .failed
  | stay {a : StepStatus} (h : a.isOpen = false) : Moves a a

namespace Step

/-- What one event may do to a step that it changes. -/
structure Change (s t : Step) : Prop where
  runId_eq : t.runId = s.runId
  nodeId_eq : t.nodeId = s.nodeId
  arrival_eq : t.arrival = s.arrival
  startedAt_eq : t.startedAt = s.startedAt
  kind_eq : t.kind = s.kind ∨ s.kind = none
  status_moves : s.status.Moves t.status
  /-- A completed step takes in repeated reports and error texts. -/
  of_completed : s.status = .completed → t = { s with
    output := t.output, metrics := t.metrics, provider := t.provider, model := t.model,
    endedAt := t.endedAt, error := t.error }
  /-- A failed step takes in error texts. -/
  of_failed : s.status = .failed → t = { s with error := t.error }

namespace Change

variable {s t : Step}

theorem id_eq (h : s.Change t) : t.id = s.id := by
  rw [Step.id, Step.id, h.runId_eq, h.nodeId_eq, h.arrival_eq]

/-- A change of an open step owes nothing to those that have ended. -/
theorem of_isOpen (h : s.status.isOpen = true) (hrun : t.runId = s.runId)
    (hnode : t.nodeId = s.nodeId) (harrival : t.arrival = s.arrival)
    (hstarted : t.startedAt = s.startedAt) (hkind : t.kind = s.kind ∨ s.kind = none)
    (hmoves : s.status.Moves t.status) : s.Change t := by
  refine ⟨hrun, hnode, harrival, hstarted, hkind, hmoves, fun hs => ?_, fun hs => ?_⟩
  · rw [hs] at h
    cases h
  · rw [hs] at h
    cases h

theorem pause (h : s.status.isOpen = true) (waiting : WaitingInfo) : s.Change (s.pause waiting) :=
  of_isOpen h rfl rfl rfl rfl (.inl rfl) (.pause h)

theorem complete (h : s.status.isOpen = true) (c : Completion) (kind : Option String) :
    s.Change (s.complete c kind) := by
  refine of_isOpen h rfl rfl rfl rfl ?_ (.complete h)
  cases hk : s.kind with
  | none => exact .inr rfl
  | some k => left; rw [Step.complete, hk, Option.some_or]

theorem fail (h : s.status.isOpen = true) (message : String) (ts : Option Instant) :
    s.Change (s.fail message ts) :=
  of_isOpen h rfl rfl rfl rfl (.inl rfl) (.fail h)

theorem merge (h : s.status = .completed) (c : Completion) : s.Change (s.merge c) where
  runId_eq := rfl
  nodeId_eq := rfl
  arrival_eq := rfl
  startedAt_eq := rfl
  kind_eq := .inl rfl
  status_moves := .stay (by rw [h]; rfl)
  of_completed _ := rfl
  of_failed hs := by rw [h] at hs; cases hs

theorem blame (s : Step) (message : String) (ts : Option Instant) :
    s.Change (s.blame message ts) := by
  unfold Step.blame
  split
  · next h => exact of_isOpen h rfl rfl rfl rfl (.inl rfl) (.fail h)
  · next h =>
    exact ⟨rfl, rfl, rfl, rfl, .inl rfl, .stay (by simpa using h), fun _ => rfl, fun _ => rfl⟩

end Change

theorem Revised.change {s t : Step} (h : s.Revised t) : s.Change t := by
  cases h with
  | pause h waiting => exact .pause h waiting
  | complete h result details ts kind => exact .complete h _ kind
  | merge h result details ts => exact .merge h _
  | fail h message ts => exact .fail h message ts
  | blame message ts => exact .blame s message ts

/-- What any number of events may do to a step. -/
abbrev Evolves : Step → Step → Prop := Relation.ReflTransGen Change

theorem Evolves.id_eq {s t : Step} (h : s.Evolves t) : t.id = s.id := by
  induction h with
  | refl => rfl
  | tail _ hu ih => rw [hu.id_eq, ih]

theorem Evolves.key_eq {s t : Step} (h : s.Evolves t) : t.key = s.key := by
  induction h with
  | refl => rfl
  | tail _ hu ih => rw [← ih, key, key, hu.runId_eq, hu.nodeId_eq]

theorem Evolves.of_completed {s t : Step} (h : s.Evolves t) (hs : s.status = .completed) :
    t = { s with
      output := t.output, metrics := t.metrics, provider := t.provider, model := t.model,
      endedAt := t.endedAt, error := t.error } := by
  induction h with
  | refl => rfl
  | @tail t u _ hu ih =>
    have ht : t.status = .completed := by rw [ih]; exact hs
    rw [hu.of_completed ht, ih]

theorem Evolves.of_failed {s t : Step} (h : s.Evolves t) (hs : s.status = .failed) :
    t = { s with error := t.error } := by
  induction h with
  | refl => rfl
  | @tail t u _ hu ih =>
    have ht : t.status = .failed := by rw [ih]; exact hs
    rw [hu.of_failed ht, ih]

end Step

/-! ### Growing -/

namespace History

/-- What one event may do to the steps of a stream. -/
inductive Grows (steps : List Step) : List Step → Prop where
  | same : Grows steps steps
  | add (s : Step) : Grows steps (steps ++ [s])
  | change {place : Nat} {s t : Step} (hs : steps[place]? = some s) (h : s.Change t) :
      Grows steps (steps.set place t)

/-- Every step stays at its place. -/
theorem Grows.evolves {steps steps' : List Step} (h : Grows steps steps') {place : Nat} {s : Step}
    (hs : steps[place]? = some s) : ∃ t, steps'[place]? = some t ∧ s.Evolves t := by
  have hlt : place < steps.length := (List.getElem?_eq_some_iff.1 hs).1
  cases h with
  | same => exact ⟨s, hs, .refl⟩
  | add t => exact ⟨s, by rwa [List.getElem?_append_left hlt], .refl⟩
  | @change i s' t hs' ht =>
    by_cases hi : i = place
    · subst hi
      rw [hs', Option.some.injEq] at hs
      exact ⟨t, List.getElem?_set_self hlt, .single (hs ▸ ht)⟩
    · exact ⟨s, by rwa [List.getElem?_set_ne hi], .refl⟩

theorem Recorded.grows {catalog : Catalog} {place : Nat} {steps steps' : List Step}
    (h : Recorded catalog place steps steps') : Grows steps steps' := by
  cases h with
  | same => exact .same
  | add => exact .add _
  | revise hs hst => exact .change hs hst.change

theorem grows_record (catalog : Catalog) (config : LedgerConfig) (place : Nat) (steps : List Step)
    (e : Event) : Grows steps (record catalog config place steps e) :=
  (recorded_record catalog config place steps e).grows

end History

/-! ### Ledgers -/

namespace Ledger

theorem steps_evolve (catalog : Catalog) (config : LedgerConfig) (events more : List Event)
    {place : Nat} {s : Step} (hs : (ofEvents catalog config events).steps[place]? = some s) :
    ∃ t, (ofEvents catalog config (events ++ more)).steps[place]? = some t ∧ s.Evolves t := by
  induction more using List.reverseRecOn with
  | nil => exact ⟨s, by rwa [List.append_nil], .refl⟩
  | append_singleton more e ih =>
    obtain ⟨t, ht, hst⟩ := ih
    rw [← List.append_assoc, steps_ofEvents_append_singleton]
    obtain ⟨u, hu, htu⟩ := (History.grows_record catalog config _ _ e).evolves ht
    exact ⟨u, hu, hst.trans htu⟩

/-- An event keeps the steps of a ledger at their places. It adds a step and changes none, or it
changes at most one, as `Step.Change` allows. Over every continuation of the stream a step evolves
by such changes, so that a step that has completed or failed stays so. -/
theorem apply_keeps_history (catalog : Catalog) (config : LedgerConfig) (events : List Event) :
    let l := ofEvents catalog config events
    (∀ e, History.Grows l.steps (l.apply e).steps) ∧
      ∀ (more : List Event) (place : Nat) (s : Step), l.steps[place]? = some s →
        ∃ t, (ofEvents catalog config (events ++ more)).steps[place]? = some t ∧ t.id = s.id ∧
          s.Evolves t ∧
          (s.status = .completed → t = { s with
            output := t.output, metrics := t.metrics, provider := t.provider, model := t.model,
            endedAt := t.endedAt, error := t.error }) ∧
          (s.status = .failed → t = { s with error := t.error }) := by
  intro l
  have hl : l.Indexed := indexed_ofEvents catalog config events
  refine ⟨fun e => ?_, fun more place s hs => ?_⟩
  · rw [hl.steps_apply e]
    exact History.grows_record l.catalog l.config l.arrival l.steps e
  · obtain ⟨t, ht, hst⟩ := steps_evolve catalog config events more hs
    exact ⟨t, ht, hst.id_eq, hst, hst.of_completed, hst.of_failed⟩

end Ledger

end RunWatch
