import RunWatch.Proofs.Ledger.Growth
import RunWatch.Proofs.Ledger.Indexes
import RunWatch.Proofs.Ledger.Matching

/-!
# Resumption

A step that runs or waits can still end as long as it is the open step of its node. A later start of
the same node takes this place from it for ever, and nothing else does (`Ledger.Superseded`).

* `Ledger.openStep?_eq_some_iff_not_superseded`: of the steps that run or wait, the open ones are
  those that no start has superseded.
* `Ledger.ends_of_openStep?`: an end of a node ends its open step and changes no other.
-/

namespace RunWatch

namespace Event

/-- The status in which an event leaves the step of its node that it ends. -/
def endStatus? : Event → Option StepStatus
  | nodeComplete .. => some .completed
  | flowError .. => some .failed
  | _ => none

end Event

namespace Step

/-- No revision opens a step again. -/
theorem Revised.isOpen_of_isOpen {s t : Step} (h : s.Revised t) (ht : t.status.isOpen = true) :
    s.status.isOpen = true := by
  cases h with
  | pause h | complete h | fail h => exact h
  | merge => exact ht
  | blame message ts =>
    rw [s.isOpen_blame] at ht
    cases ht

end Step

/-! ### One event -/

namespace History

variable {catalog : Catalog} {config : LedgerConfig} {place : Nat} {steps : List Step} {new : Step}

theorem ne_append_of_length_eq {α : Type*} {as bs : List α} {a : α} (h : bs.length = as.length) :
    bs ≠ as ++ [a] := by
  rintro rfl
  simp at h

/-- A step that is settled is new only for a node that is not open. -/
theorem isOpen_of_settle {key : NodeKey} {f : Step → Step} {s : Step} (hkey : s.key = key)
    (h : settle steps key f s = steps ++ [new]) : isOpen steps new.key = false := by
  unfold settle at h
  split at h
  · exact absurd h (ne_append_of_length_eq (length_updateLast _ _ _))
  · next hclosed =>
    obtain ⟨-, hnew⟩ := List.append_inj' h rfl
    obtain rfl := List.singleton_inj.1 hnew
    rw [hkey]
    simpa using hclosed

/-- An event adds a step to a node with an open one only if it starts the node. -/
theorem starts_of_record_eq_append {e : Event}
    (h : record catalog config place steps e = steps ++ [new])
    (hopen : isOpen steps new.key = true) : e.isNodeStart = true ∧ e.addresses new.key = true := by
  have hsame : steps ≠ steps ++ [new] := ne_append_of_length_eq rfl
  have hsettle : ∀ {key : NodeKey} {f : Step → Step} {s : Step}, s.key = key →
      settle steps key f s ≠ steps ++ [new] := fun hkey h => by
    rw [isOpen_of_settle hkey h] at hopen
    cases hopen
  have hupdate : ∀ p f, updateLast p f steps ≠ steps ++ [new] := fun p f =>
    ne_append_of_length_eq (length_updateLast p f steps)
  cases e with
  | nodeStart runId nodeId nodeType ts =>
    simp only [record] at h
    split at h
    · exact absurd h hsame
    · next hnames =>
      obtain ⟨hrun, hnode⟩ := not_or.1 hnames
      obtain ⟨-, hnew⟩ := List.append_inj' h rfl
      obtain rfl := List.singleton_inj.1 hnew
      refine ⟨rfl, ?_⟩
      simp [Event.addresses, Event.isOfSteps, Event.runId?, Event.nodeId?, Event.full?_of_ne hrun,
        Event.full?_of_ne hnode]
  | nodeComplete runId nodeId nodeType result details ts =>
    simp only [record, complete] at h
    split at h
    · exact absurd h hsame
    · split at h
      · exact absurd h (hupdate _ _)
      · exact absurd h (hsettle rfl)
  | flowWaiting runId nodeId waiting ts =>
    simp only [record] at h
    split at h
    · exact absurd h hsame
    · split at h
      · exact absurd h (hsettle rfl)
      · exact absurd h (hupdate _ _)
  | flowError runId nodeId error ts =>
    simp only [record] at h
    split at h
    · split at h
      · exact absurd h hsame
      · exact absurd h (hsettle rfl)
    · simp only [blame] at h
      split at h <;> exact absurd h (hupdate _ _)
  | flowStart | flowComplete | flowCancelled | subworkflowUpdate | traceUpdate | unknown =>
    exact absurd h hsame

/-- A revision leaves the newest step of a node at its place, and open if it is open after it. -/
theorem openPlace?_set {i j : Nat} {s t u : Step} {key : NodeKey} (hu : steps[j]? = some u)
    (hkey : t.key = u.key) (hplace : openPlace? steps key = some i)
    (hs : (steps.set j t)[i]? = some s) (hopen : s.status.isOpen = true) :
    openPlace? (steps.set j t) key = some i := by
  have hlast : lastWhere? (fun s => s.key == key) (steps.set j t) =
      lastWhere? (fun s => s.key == key) steps := by
    rw [List.set_eq_modify]
    refine lastWhere?_modify fun v hv => ?_
    rw [hu, Option.some.injEq] at hv
    rw [hkey, hv]
  refine Option.filter_eq_some_iff.2 ⟨?_, ?_⟩
  · rw [hlast, lastWhere?_of_openPlace? hplace]
  · rw [hs, Option.any_some, hopen]

/-- A step that is open after an event was so before, or is new. The event leaves it the newest one of
its node unless it starts that node. -/
theorem open_before_record {e : Event} {i : Nat} {s : Step}
    (hs : (record catalog config place steps e)[i]? = some s) (hopen : s.status.isOpen = true) :
    openPlace? (record catalog config place steps e) s.key = some i ∨
      ∃ u, steps[i]? = some u ∧ u.status.isOpen = true ∧ s.key = u.key ∧ s.id = u.id ∧
        (openPlace? steps u.key = some i →
          openPlace? (record catalog config place steps e) u.key = some i ∨
            e.isNodeStart = true ∧ e.addresses u.key = true) := by
  generalize hsteps' : record catalog config place steps e = steps' at hs
  have hrecorded := recorded_record catalog config place steps e
  rw [hsteps'] at hrecorded
  cases hrecorded with
  | same => exact .inr ⟨s, hs, hopen, rfl, rfl, .inl⟩
  | @add new =>
    rw [List.getElem?_append] at hs
    split at hs
    · refine .inr ⟨s, hs, hopen, rfl, rfl, fun hplace => ?_⟩
      rw [openPlace?_append_singleton]
      by_cases hkey : new.key = s.key
      · refine .inr ?_
        rw [← hkey] at hplace ⊢
        exact starts_of_record_eq_append hsteps' (by rw [isOpen_eq_isSome, hplace]; rfl)
      · rw [if_neg hkey]
        exact .inl hplace
    · rw [List.getElem?_singleton, Option.ite_none_right_eq_some, Option.some.injEq] at hs
      obtain ⟨hi, rfl⟩ := hs
      left
      rw [openPlace?_append_singleton, if_pos rfl, if_pos hopen, Option.some.injEq]
      omega
  | @revise j u t hu ht =>
    have hstay : ∀ key, openPlace? steps key = some i → openPlace? (steps.set j t) key = some i :=
      fun key hplace => openPlace?_set hu ht.key_eq hplace hs hopen
    by_cases hij : j = i
    · subst hij
      rw [List.getElem?_set_self (List.getElem?_eq_some_iff.1 hu).1, Option.some.injEq] at hs
      subst hs
      exact .inr ⟨u, hu, ht.isOpen_of_isOpen hopen, ht.key_eq, ht.id_eq, fun h => .inl (hstay _ h)⟩
    · rw [List.getElem?_set_ne hij] at hs
      exact .inr ⟨s, hs, hopen, rfl, rfl, fun h => .inl (hstay _ h)⟩

end History

namespace Ledger

section

variable (catalog : Catalog) (config : LedgerConfig)

/-- Whether an event starts the node of a step while that step is the open one of the node. -/
def Supersedes (past : List Event) (e : Event) (s : Step) : Prop :=
  e.isNodeStart = true ∧ e.addresses s.key = true ∧
    ∃ t, (ofEvents catalog config past).openStep? s.key = some t ∧ t.id = s.id

/-- Whether some event of a stream supersedes a step. -/
def Superseded (events : List Event) (s : Step) : Prop :=
  ∃ before e after, events = before ++ e :: after ∧ Supersedes catalog config before e s

/-- Whether no node of a stream starts while a step of it is open. -/
def NeverOverlaps (events : List Event) : Prop :=
  ∀ before e after key, events = before ++ e :: after → e.isNodeStart = true →
    e.addresses key = true → (ofEvents catalog config before).openStep? key = none

/-- Whether a step of a ledger ends in a status, and no other step changes. -/
def Ends (l l' : Ledger) (s : Step) (status : StepStatus) : Prop :=
  ∃ place t, l.steps[place]? = some s ∧ t.id = s.id ∧ t.status = status ∧
    l'.steps = l.steps.set place t

variable {catalog config} {events : List Event} {s t : Step}

theorem Superseded.append_singleton (h : Superseded catalog config events s) (e : Event) :
    Superseded catalog config (events ++ [e]) s := by
  obtain ⟨before, e', after, rfl, he'⟩ := h
  exact ⟨before, e', after ++ [e], by simp, he'⟩

/-- Only the node and the identifier of a step count. -/
theorem Superseded.of_eq (h : Superseded catalog config events s) (hkey : t.key = s.key)
    (hid : t.id = s.id) : Superseded catalog config events t := by
  obtain ⟨before, e, after, rfl, hstart, haddr, u, hu, huid⟩ := h
  exact ⟨before, e, after, rfl, hstart, by rwa [hkey], u, by rwa [hkey], huid.trans hid.symm⟩

end

open History

theorem not_superseded_of_neverOverlaps {catalog : Catalog} {config : LedgerConfig}
    {events : List Event} {s : Step} (h : NeverOverlaps catalog config events) :
    ¬ Superseded catalog config events s := by
  rintro ⟨before, e, after, rfl, hstart, haddr, t, ht, -⟩
  rw [h before e after s.key rfl hstart haddr] at ht
  cases ht

section

variable {catalog : Catalog} {config : LedgerConfig} {events : List Event} {s : Step}

/-- A step that runs or waits is the newest one of its node, or a start took this from it. -/
theorem openPlace?_or_superseded {place : Nat}
    (hs : (ofEvents catalog config events).steps[place]? = some s)
    (hopen : s.status.isOpen = true) :
    openPlace? (ofEvents catalog config events).steps s.key = some place ∨
      Superseded catalog config events s := by
  induction events using List.reverseRecOn generalizing s with
  | nil => simp [ofEvents, new] at hs
  | append_singleton events e ih =>
    rw [steps_ofEvents_append_singleton] at hs ⊢
    rcases open_before_record hs hopen with hnew | ⟨u, hu, huopen, hkey, hid, hstep⟩
    · exact .inl hnew
    · rw [hkey]
      rcases ih hu huopen with hplace | hsuperseded
      · rcases hstep hplace with hstay | ⟨hstart, haddr⟩
        · exact .inl hstay
        · have hbefore : (ofEvents catalog config events).openStep? u.key = some u :=
            (indexed_ofEvents catalog config events).openStep?_eq_some_iff.2 ⟨place, hplace, hu⟩
          exact .inr ⟨events, e, [], rfl, hstart, by rwa [hkey], u, by rwa [hkey], hid.symm⟩
      · exact .inr ((hsuperseded.of_eq hkey hid).append_singleton e)

/-- The start that took the place of a step made a later step of the node. -/
theorem openPlace?_ne_of_superseded {place : Nat}
    (hs : (ofEvents catalog config events).steps[place]? = some s)
    (hsuperseded : Superseded catalog config events s) :
    openPlace? (ofEvents catalog config events).steps s.key ≠ some place := by
  obtain ⟨before, e, after, rfl, hstart, haddr, t, ht, hid⟩ := hsuperseded
  obtain ⟨i, hplace, hget⟩ := (indexed_ofEvents catalog config before).openStep?_eq_some_iff.1 ht
  have hi : i < (ofEvents catalog config before).steps.length :=
    (List.getElem?_eq_some_iff.1 hget).1
  have hopen : isOpen (ofEvents catalog config before).steps s.key = true := by
    rw [isOpen_eq_isSome, hplace, Option.isSome_some]
  -- The older step keeps its place, and the new one comes after it.
  obtain ⟨t', ht', htt'⟩ := steps_evolve catalog config before (e :: after) hget
  obtain rfl : i = place := place_eq_of_id_eq hs ht' (htt'.id_eq.trans hid)
  have hmade : (ofEvents catalog config (before ++ [e])).steps =
      (ofEvents catalog config before).steps ++ [begun catalog s.key before.length e] := by
    rw [steps_ofEvents_append_singleton, record_of_addresses (.inr hopen) haddr, hstart,
      Bool.true_or, if_pos rfl]
  have hlater : (ofEvents catalog config (before ++ [e])).steps[
      (ofEvents catalog config before).steps.length]? = some (begun catalog s.key before.length e) := by
    rw [hmade, List.getElem?_concat_length]
  obtain ⟨u, hu, hevolves⟩ := steps_evolve catalog config (before ++ [e]) after hlater
  rw [List.append_assoc, List.singleton_append] at hu
  have hukey : u.key = s.key := hevolves.key_eq.trans key_begun
  intro hnewest
  have hnone := (lastWhere?_eq_some_iff.1 (lastWhere?_of_openPlace? hnewest)).2 _ u hi hu
  simp [hukey] at hnone

/-- Of the steps that run or wait, the open ones are those that no start has superseded. -/
theorem openStep?_eq_some_iff_not_superseded (hs : s ∈ (ofEvents catalog config events).steps)
    (hopen : s.status.isOpen = true) :
    (ofEvents catalog config events).openStep? s.key = some s ↔
      ¬ Superseded catalog config events s := by
  obtain ⟨place, hplace⟩ := List.mem_iff_getElem?.1 hs
  rw [(indexed_ofEvents catalog config events).openStep?_eq_some_iff]
  constructor
  · rintro ⟨i, hi, hget⟩ hsuperseded
    exact openPlace?_ne_of_superseded hget hsuperseded hi
  · intro hnot
    exact ⟨place, (openPlace?_or_superseded hplace hopen).resolve_right hnot, hplace⟩

/-- An end of a node ends its open step, whatever kinds of completions are merged. -/
theorem ends_of_openStep? {key : NodeKey} {e : Event} {status : StepStatus}
    (hs : (ofEvents catalog config events).openStep? key = some s)
    (haddr : e.addresses key = true) (hend : e.endStatus? = some status) :
    (ofEvents catalog config events).Ends (ofEvents catalog config (events ++ [e])) s status := by
  obtain ⟨place, hplace, hget⟩ :=
    (indexed_ofEvents catalog config events).openStep?_eq_some_iff.1 hs
  have hopen : isOpen (ofEvents catalog config events).steps key = true := by
    rw [isOpen_eq_isSome, hplace, Option.isSome_some]
  have hstart : e.isNodeStart = false := by
    cases e with
    | nodeStart => cases hend
    | _ => rfl
  have hstatus : (meet catalog key s e).status = status := by
    cases e <;> cases hend <;> rfl
  refine ⟨place, meet catalog key s e, hget, id_meet s, hstatus, ?_⟩
  rw [steps_ofEvents_append_singleton, record_of_addresses (.inr hopen) haddr, hstart, hopen,
    Bool.not_true, Bool.or_false, if_neg Bool.false_ne_true,
    updateLast_eq_modify _ (lastWhere?_of_openPlace? hplace), List.modify_eq_set_getElem?, hget]
  rfl

end

end Ledger

end RunWatch
