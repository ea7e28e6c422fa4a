import Mathlib.Data.List.GetD
import RunWatch.Links
import RunWatch.Proofs.Ledger.Locality
import RunWatch.Proofs.Ledger.OpenTable
import RunWatch.Proofs.Ledger.Summaries

/-!
# Events that do nothing

An event of an unknown type does nothing to a ledger or to the links, and neither does one without a
run, unless it is a failure that names no node either (`Event.isInert`). Such events may stand
anywhere in a stream (`Padded`). They take numbers all the same, so the steps that are created after
them have higher ones.

* `Padded.steps_eq`: the steps are renumbered by the places of the events that created them.
* `Padded.links_eq`, `Padded.summary?_eq`: the links and the summaries are the same.
-/

namespace RunWatch

open Text

/-! ### Inert events -/

/-- Whether an event does nothing: it names no run, and it is no failure without a node. -/
def Event.isInert : Event → Bool
  | flowError runId nodeId _ _ => runId == "" && (nodeId.bind full?).isSome
  | e => e.runId?.isNone

section

variable {e : Event} (h : e.isInert = true)

include h

theorem Event.runId?_of_isInert : e.runId? = none := by
  cases e with
  | flowError runId nodeId error ts =>
    rw [isInert, Bool.and_eq_true, beq_iff_eq] at h
    exact full?_eq_none_iff.2 h.1
  | _ => exact Option.isNone_iff_eq_none.1 h

theorem Event.isRootStart_of_isInert : e.isRootStart = false := by
  have hrun := runId?_of_isInert h
  cases e with
  | flowStart => simp [isRootStart, full?_eq_none_iff.1 hrun]
  | _ => rfl

theorem History.record_of_isInert (catalog : Catalog) (config : LedgerConfig) (place : Nat)
    (steps : List Step) : record catalog config place steps e = steps := by
  have hrun := Event.runId?_of_isInert h
  cases e with
  | nodeStart | nodeComplete => exact if_pos (.inl (full?_eq_none_iff.1 hrun))
  | flowWaiting => exact if_pos (full?_eq_none_iff.1 hrun)
  | flowError =>
    rw [Event.isInert, Bool.and_eq_true, Option.isSome_iff_exists] at h
    obtain ⟨-, node, hnode⟩ := h
    simp only [record, hnode, full?_eq_none_iff.1 hrun, if_true]
  | flowStart | flowComplete | flowCancelled | subworkflowUpdate | traceUpdate | unknown => rfl

theorem Links.record_of_isInert (l : Links) : l.record e = l := by
  have hrun := Event.runId?_of_isInert h
  cases e with
  | subworkflowUpdate => exact if_pos (.inl (full?_eq_none_iff.1 hrun))
  | traceUpdate runId nodeId parentRunId =>
    cases parentRunId with
    | none => rfl
    | some parent => exact if_pos (.inl (full?_eq_none_iff.1 hrun))
  | flowStart runId parentRunId =>
    cases parentRunId with
    | none => rfl
    | some parent => exact if_pos (.inl (full?_eq_none_iff.1 hrun))
  | nodeStart | nodeComplete | flowWaiting | flowError | flowComplete | flowCancelled | unknown =>
    rfl

end

/-! ### Padded streams -/

/-- A stream with events that do nothing put in anywhere. The last list has the places of the events
of the first stream in the second one. -/
inductive Padded : List Event → List Event → List Nat → Prop where
  | nil : Padded [] [] []
  /-- The next event of the stream. -/
  | keep {events padded : List Event} {places : List Nat} (e : Event)
    (h : Padded events padded places) :
    Padded (events ++ [e]) (padded ++ [e]) (places ++ [padded.length])
  /-- An event that is put in. -/
  | insert {events padded : List Event} {places : List Nat} (e : Event) (he : e.isInert = true)
    (h : Padded events padded places) : Padded events (padded ++ [e]) places

/-- The place of an event in a padded stream. -/
def placeIn (places : List Nat) (i : Nat) : Nat := places.getD i 0

/-- The step with another number. -/
def Step.renumbered (place : Nat → Nat) (s : Step) : Step :=
  { s with arrival := place s.arrival }

namespace Padded

variable {events padded : List Event} {places : List Nat} (h : Padded events padded places)

include h

/-! ### Places -/

theorem length_places : places.length = events.length := by
  induction h with
  | nil => rfl
  | keep e _ ih => rw [List.length_append, List.length_append, ih, List.length_singleton,
      List.length_singleton]
  | insert e _ _ ih => exact ih

theorem length_le : events.length ≤ padded.length := by
  induction h with
  | nil => exact Nat.le_refl 0
  | keep e _ ih =>
    rw [List.length_append, List.length_append, List.length_singleton]
    exact Nat.succ_le_succ ih
  | insert e _ _ ih =>
    rw [List.length_append]
    exact Nat.le_add_right_of_le ih

theorem lt_length {place : Nat} (hplace : place ∈ places) : place < padded.length := by
  induction h with
  | nil => cases hplace
  | keep e _ ih =>
    rw [List.length_append, List.length_singleton]
    rcases List.mem_append.1 hplace with hplace | hplace
    · exact Nat.lt_succ_of_lt (ih hplace)
    · rw [List.mem_singleton.1 hplace]
      exact Nat.lt_succ_self _
  | insert e _ _ ih =>
    rw [List.length_append]
    exact Nat.lt_add_right _ (ih hplace)

theorem places_rise : places.Pairwise (· < ·) := by
  induction h with
  | nil => exact .nil
  | keep e hpadded ih =>
    refine List.pairwise_append.2 ⟨ih, List.pairwise_singleton _ _, fun i hi j hj => ?_⟩
    rw [List.mem_singleton.1 hj]
    exact hpadded.lt_length hi
  | insert e _ _ ih => exact ih

/-- The events of the stream stand at their places. -/
theorem map_getElem?_places : places.map (fun place => padded[place]?) = events.map some := by
  have hkept : ∀ {padded : List Event} {places : List Nat} (e : Event),
      (∀ place ∈ places, place < padded.length) →
        places.map (fun place => (padded ++ [e])[place]?) =
          places.map (fun place => padded[place]?) := fun e hlt =>
    List.map_congr_left fun place hplace => List.getElem?_append_left (hlt place hplace)
  induction h with
  | nil => rfl
  | keep e hpadded ih =>
    rw [List.map_append, hkept e fun _ => hpadded.lt_length, ih, List.map_append,
      List.map_singleton, List.map_singleton, List.getElem?_concat_length]
  | insert e _ hpadded ih => rw [hkept e fun _ => hpadded.lt_length, ih]

theorem getElem?_placeIn {i : Nat} (hi : i < events.length) :
    padded[placeIn places i]? = events[i]? := by
  have hplaces : i < places.length := h.length_places ▸ hi
  have hat := congrArg (fun l => l[i]?) h.map_getElem?_places
  simp only [List.getElem?_map, List.getElem?_eq_getElem hplaces, List.getElem?_eq_getElem hi,
    Option.map_some, Option.some.injEq] at hat
  rw [placeIn, List.getD_eq_getElem _ _ hplaces, hat, List.getElem?_eq_getElem hi]

/-! ### What is read of the events -/

theorem filterMap_eq {β : Type} {f : Event → Option β}
    (hf : ∀ e, e.isInert = true → f e = none) : padded.filterMap f = events.filterMap f := by
  induction h with
  | nil => rfl
  | keep e _ ih => rw [List.filterMap_append, List.filterMap_append, ih]
  | insert e he _ ih =>
    rw [List.filterMap_append, ih, List.filterMap_cons_none (hf e he), List.filterMap_nil,
      List.append_nil]

theorem filter_eq {p : Event → Bool} (hp : ∀ e, e.isInert = true → p e = false) :
    padded.filter p = events.filter p := by
  rw [← List.filterMap_eq_filter]
  exact h.filterMap_eq fun e he => by simp [hp e he]

theorem links_eq : Links.ofEvents padded = Links.ofEvents events := by
  simp only [Links.ofEvents]
  induction h with
  | nil => rfl
  | keep e _ ih => rw [List.foldl_append, List.foldl_append, ih]
  | insert e he _ ih =>
    rw [List.foldl_append, ih]
    exact Links.record_of_isInert he _

variable (catalog : Catalog) (config : LedgerConfig)

theorem summary?_eq (run : String) : (Ledger.ofEvents catalog config padded).summary? run =
    (Ledger.ofEvents catalog config events).summary? run := by
  rw [Ledger.summary?_ofEvents, Ledger.summary?_ofEvents,
    h.filter_eq fun e he => by rw [Event.runId?_of_isInert he]; rfl]

/-! ### Steps -/

/-- Each step of a padded stream is one of the stream, with the place of the event that created it
for its number. -/
theorem forall₂_steps : List.Forall₂ (Step.Alike fun place i => places[i]? = some place)
    (Ledger.ofEvents catalog config padded).steps
    (Ledger.ofEvents catalog config events).steps := by
  induction h with
  | nil => exact .nil
  | @keep events padded places e hpadded ih =>
    have hplace : (places ++ [padded.length])[events.length]? = some padded.length := by
      rw [← hpadded.length_places, List.getElem?_concat_length]
    have hbefore : List.Forall₂
        (Step.Alike fun place i => (places ++ [padded.length])[i]? = some place)
        (Ledger.ofEvents catalog config padded).steps
        (Ledger.ofEvents catalog config events).steps :=
      ih.imp fun s t hst => by
        refine ⟨?_, hst.eq_renumbered⟩
        rw [List.getElem?_append_left (List.getElem?_eq_some_iff.1 hst.arrival_rel).1]
        exact hst.arrival_rel
    rw [Ledger.steps_ofEvents_append_singleton, Ledger.steps_ofEvents_append_singleton]
    exact History.forall₂_record catalog config hbefore hplace e
  | insert e he _ ih =>
    rw [Ledger.steps_ofEvents_append_singleton, History.record_of_isInert he]
    exact ih

theorem steps_eq : (Ledger.ofEvents catalog config padded).steps =
    (Ledger.ofEvents catalog config events).steps.map (Step.renumbered (placeIn places)) := by
  rw [← List.forall₂_eq_eq_eq, List.forall₂_map_right_iff]
  refine (h.forall₂_steps catalog config).imp fun s t hst => ?_
  have hplace : placeIn places t.arrival = s.arrival := by
    rw [placeIn, List.getD_eq_getElem?_getD, hst.arrival_rel, Option.getD_some]
  rw [Step.renumbered, hplace]
  exact hst.eq_renumbered

end Padded

end RunWatch
