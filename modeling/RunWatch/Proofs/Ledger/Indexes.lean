import RunWatch.Proofs.Ledger.Identity
import RunWatch.Proofs.Ledger.Summaries

/-!
# Everything that a ledger keeps agrees

The steps of a ledger can be had in several ways: as a list, by identifier, by run, and as the open
step of a node. All of them are answered from one list of steps and from tables of places in it, and
what is known of runs stands beside both.

* `Ledger.byId_get?_iff`: the place under an identifier is that of the step with this identifier.
* `Ledger.runs_ofEvents`: the runs stand in the order in which events first told of them.
* `Ledger.indexes_agree`: all ways to a step give the same steps, and every place is one of a step.
-/

namespace RunWatch

open Text

/-! ### Runs in order -/

theorem eraseDups_append_singleton {α : Type*} [DecidableEq α] (as : List α) (a : α) :
    (as ++ [a]).eraseDups = if a ∈ as then as.eraseDups else as.eraseDups ++ [a] := by
  rw [List.eraseDups_append]
  by_cases h : a ∈ as <;> simp [List.removeAll, h, List.eraseDups_cons]

/-- Where the members of a list without repetition stand when one is added. -/
theorem getElem?_append_singleton_iff {α : Type*} [DecidableEq α] {as : List α} {a : α}
    (h : (as ++ [a]).Nodup) (b : α) (i : Nat) :
    (as ++ [a])[i]? = some b ↔ if a = b then i = as.length else as[i]? = some b := by
  have hnew : a ∉ as := fun hmem => (List.nodup_append.1 h).2.2 a hmem a (by simp) rfl
  rcases Nat.lt_trichotomy i as.length with hi | rfl | hi
  · rw [List.getElem?_append_left hi]
    split
    · next hab =>
      subst hab
      exact iff_of_false (fun hold => hnew (List.mem_of_getElem? hold)) (by omega)
    · rfl
  · simp
  · have hnone : as[i]? = none := List.getElem?_eq_none (by omega)
    have hnone' : (as ++ [a])[i]? = none := List.getElem?_eq_none (by simp; omega)
    rw [hnone, hnone']
    split
    · simp
      omega
    · rfl

/-- The run that an event tells of. -/
def Event.toldRun? (e : Event) : Option String := if e.report?.isSome then e.runId? else none

namespace RunSummary

variable {runId : String}

/-- An event that tells of a run does not rename it. -/
theorem runId_told {known : Option RunSummary} (h : ∀ s, known = some s → s.runId = runId)
    (e : Event) (s : RunSummary) (hs : told runId known e = some s) : s.runId = runId := by
  have hbefore : (known.getD (.fresh runId)).runId = runId := by
    cases known with
    | none => rfl
    | some s => exact h s rfl
  have hreport : ∀ report, e.report? = some report → ∀ t, (report t).runId = t.runId := by
    intro report hreport t
    cases e with
    | flowError run nodeId =>
      simp only [Event.report?] at hreport
      split at hreport <;> cases hreport <;> rfl
    | nodeStart | nodeComplete | flowWaiting =>
      obtain ⟨-, -, rfl⟩ := Option.map_eq_some_iff.1 hreport
      rfl
    | flowStart | flowComplete | flowCancelled =>
      cases hreport
      rfl
    | subworkflowUpdate | traceUpdate | unknown => cases hreport
  rw [told, Option.or_eq_some_iff] at hs
  rcases hs with hs | ⟨-, hs⟩
  · obtain ⟨report, he, rfl⟩ := Option.map_eq_some_iff.1 hs
    exact (hreport report he _).trans hbefore
  · exact h s hs

theorem runId_foldl_told (events : List Event) :
    ∀ s, events.foldl (told runId) none = some s → s.runId = runId := by
  induction events using List.reverseRecOn with
  | nil => exact fun s hs => nomatch hs
  | append_singleton events e ih =>
    rw [List.foldl_append]
    exact runId_told ih e

end RunSummary

namespace Ledger

open RunSummary

section

variable (catalog : Catalog) (config : LedgerConfig) (events : List Event)

theorem mem_runs_iff (l : Ledger) (run : String) : run ∈ l.runs ↔ (l.summary? run).isSome = true :=
  l.summaries.mem_keys_iff run

theorem runId_of_summary? {run : String} {s : RunSummary}
    (hs : (ofEvents catalog config events).summary? run = some s) : s.runId = run := by
  rw [summary?_ofEvents] at hs
  exact runId_foldl_told _ s hs

/-- A run is known after an event if it was before or the event tells of it. -/
theorem mem_runs_append_singleton_iff (e : Event) (run : String) :
    run ∈ (ofEvents catalog config (events ++ [e])).runs ↔
      run ∈ (ofEvents catalog config events).runs ∨ e.toldRun? = some run := by
  rw [mem_runs_iff, mem_runs_iff, ofEvents_append_singleton]
  have hl := indexed_ofEvents catalog config events
  have hknows := knowsRuns_ofEvents catalog config events
  by_cases hrun : e.runId? = some run
  · rw [summary?_apply_of_eq hl hknows hrun, told, Event.toldRun?, hrun]
    cases e.report? <;> simp
  · rw [summary?_apply_of_ne hrun, Event.toldRun?]
    simp [hrun]

/-- The runs of a ledger stand in the order in which events first told of them. -/
theorem runs_ofEvents :
    (ofEvents catalog config events).runs = (events.filterMap Event.toldRun?).eraseDups := by
  induction events using List.reverseRecOn with
  | nil => rfl
  | append_singleton events e ih =>
    have hmem := mem_runs_append_singleton_iff catalog config events e
    have hbefore : ∀ run, run ∈ events.filterMap Event.toldRun? ↔
        run ∈ (ofEvents catalog config events).runs := by
      rw [ih]
      simp
    rw [List.filterMap_append]
    rcases (filed_ofEvents catalog config events e).runs_eq_or with hsame | ⟨new, hnew, hruns⟩
    · -- The run that the event tells of, if any, is known already.
      cases htold : e.toldRun? with
      | none => simp [htold, hsame, ih]
      | some run =>
        have hknown : run ∈ events.filterMap Event.toldRun? := by
          rw [hbefore, ← hsame, hmem]
          exact .inr htold
        rw [List.filterMap_cons_some htold, List.filterMap_nil, eraseDups_append_singleton,
          if_pos hknown, hsame, ih]
    · have hlast : new ∈ (ofEvents catalog config (events ++ [e])).runs := by simp [hruns]
      have htold : e.toldRun? = some new := ((hmem new).1 hlast).resolve_left hnew
      rw [List.filterMap_cons_some htold, List.filterMap_nil, eraseDups_append_singleton,
        if_neg (mt (hbefore new).1 hnew), hruns, ih]

/-- The runs that are known after some events stand before those that come to be known later. -/
theorem runs_prefix (n : Nat) :
    (ofEvents catalog config (events.take n)).runs <+: (ofEvents catalog config events).runs := by
  rw [runs_ofEvents, runs_ofEvents]
  conv => rhs; rw [← List.take_append_drop n events]
  rw [List.filterMap_append, List.eraseDups_append]
  exact List.prefix_append _ _

/-! ### Steps by identifier -/

/-- The place under an identifier is that of the step with this identifier. -/
theorem byId_get?_iff (id : String) (place : Nat) :
    (ofEvents catalog config events).byId.get? id = some place ↔
      ((ofEvents catalog config events).steps.map Step.id)[place]? = some id := by
  induction events using List.reverseRecOn with
  | nil => simp [ofEvents, new]
  | append_singleton events e ih =>
    have hnodup := nodup_ids catalog config (events ++ [e])
    cases filed_ofEvents catalog config events e with
    | keep hids _ hbyId _ => rw [hids, hbyId, ih]
    | @add s _ hsteps _ hbyId _ =>
      have hget : (ofEvents catalog config (events ++ [e])).byId.get? id =
          if s.id = id then some (ofEvents catalog config events).steps.length
          else (ofEvents catalog config events).byId.get? id := by
        rw [hbyId]
        exact Table.get?_insert ..
      rw [hsteps, List.map_append, List.map_singleton] at hnodup ⊢
      rw [hget, getElem?_append_singleton_iff hnodup, List.length_map]
      split
      · rw [Option.some.injEq, eq_comm]
      · exact ih

theorem step?_eq_some_iff (id : String) (s : Step) :
    (ofEvents catalog config events).step? id = some s ↔
      s ∈ (ofEvents catalog config events).steps ∧ s.id = id := by
  rw [step?, Option.bind_eq_some_iff]
  simp only [byId_get?_iff, List.getElem?_map]
  constructor
  · rintro ⟨place, hid, hs⟩
    rw [hs] at hid
    exact ⟨List.mem_of_getElem? hs, Option.some.inj hid⟩
  · rintro ⟨hs, rfl⟩
    obtain ⟨place, hplace⟩ := List.mem_iff_getElem?.1 hs
    exact ⟨place, by rw [hplace, Option.map_some], hplace⟩

variable {catalog config events} in
/-- The steps have different identifiers. -/
theorem place_eq_of_id_eq {i j : Nat} {s t : Step}
    (hs : (ofEvents catalog config events).steps[i]? = some s)
    (ht : (ofEvents catalog config events).steps[j]? = some t) (hid : t.id = s.id) : j = i := by
  have hget : ∀ {i s}, (ofEvents catalog config events).steps[i]? = some s →
      (ofEvents catalog config events).byId.get? s.id = some i := fun hs => by
    rw [byId_get?_iff, List.getElem?_map, hs, Option.map_some]
  exact Option.some.inj ((hid ▸ hget ht).symm.trans (hget hs))

/-- Whether an event of the stream made the step at a place: the event at the number of the step
found as many steps as the place says, and it added one with the same identifier. -/
structure MadeAt (place : Nat) (s : Step) : Prop where
  arrival_lt : s.arrival < events.length
  length_eq : (ofEvents catalog config (events.take s.arrival)).steps.length = place
  made : ∃ t : Step, t.id = s.id ∧ (ofEvents catalog config (events.take (s.arrival + 1))).steps =
    (ofEvents catalog config (events.take s.arrival)).steps ++ [t]

variable {catalog config events}

/-- What made a step is not changed by what comes later. -/
theorem MadeAt.append_singleton {place : Nat} {s t : Step}
    (h : MadeAt catalog config events place s) (hid : t.id = s.id) (e : Event) :
    MadeAt catalog config (events ++ [e]) place t := by
  obtain ⟨hlt, hlength, u, hu, hmade⟩ := h
  have harrival : t.arrival = s.arrival := Step.arrival_eq_of_id_eq hid
  have htake : ∀ n ≤ events.length, (events ++ [e]).take n = events.take n := fun n hn =>
    List.take_append_of_le_length hn
  refine ⟨by rw [harrival, List.length_append]; omega, ?_, u, hu.trans hid.symm, ?_⟩
  · rw [harrival, htake _ (by omega), hlength]
  · rw [harrival, htake _ (by omega), htake _ (by omega), hmade]

theorem madeAt_of_getElem? {place : Nat} {s : Step}
    (hs : (ofEvents catalog config events).steps[place]? = some s) :
    MadeAt catalog config events place s := by
  induction events using List.reverseRecOn generalizing place s with
  | nil => simp [ofEvents, new] at hs
  | append_singleton events e ih =>
    have hrecorded := recorded_ofEvents catalog config events e
    rcases hrecorded.map_eq_or (g := Step.id) fun _ _ h => h.id_eq with hids | ⟨made, hmade, hsteps⟩
    · have hget : ((ofEvents catalog config events).steps.map Step.id)[place]? = some s.id := by
        rw [← hids, List.getElem?_map, hs, Option.map_some]
      rw [List.getElem?_map, Option.map_eq_some_iff] at hget
      obtain ⟨t, ht, hid⟩ := hget
      exact (ih ht).append_singleton hid.symm e
    · rw [hsteps, List.getElem?_append] at hs
      split at hs
      · exact (ih hs).append_singleton rfl e
      · rw [List.getElem?_singleton, Option.ite_none_right_eq_some, Option.some.injEq] at hs
        obtain ⟨hplace, rfl⟩ := hs
        have harrival : made.arrival = events.length := hmade.arrival_eq
        refine ⟨by simp [harrival], ?_, made, rfl, ?_⟩
        · rw [harrival, List.take_left]
          omega
        · rw [harrival, List.take_left, List.take_of_length_le (by simp), hsteps]

/-! ### Steps by run -/

/-- All that a ledger says of the steps of a run is a list of steps. -/
structure ListsRun (l : Ledger) (run : String) (steps : List Step) : Prop where
  stepsOfRun_eq : l.stepsOfRun run = steps
  stepsByRun_eq : l.stepsByRun.get? run = if steps = [] then none else some steps
  hasSteps_eq : l.hasSteps run = !steps.isEmpty
  lastStepOfRun?_eq : l.lastStepOfRun? run = steps.getLast?

/-- A run has an entry in the table of places only when it has steps. -/
theorem ne_nil_of_byRun_get? {run : String} {places : List Nat}
    (h : (ofEvents catalog config events).byRun.get? run = some places) : places ≠ [] := by
  induction events using List.reverseRecOn generalizing places with
  | nil => cases h
  | append_singleton events e ih =>
    cases filed_ofEvents catalog config events e with
    | keep _ hbyRun _ _ => exact ih (hbyRun ▸ h)
    | @add s _ _ hbyRun _ _ =>
      rw [hbyRun] at h
      have hget := (Table.get?_insert ..).symm.trans h
      split at hget
      · cases hget
        simp
      · exact ih hget

theorem Indexed.lastStepOfRun?_eq {l : Ledger} (h : l.Indexed) (run : String) :
    l.lastStepOfRun? run = (l.steps.filter fun s => s.runId == run).getLast? := by
  rw [lastStepOfRun?, h.places_eq, List.getLast?_filter, ← List.findRev?_eq_find?_reverse,
    findRev?_eq_bind, lastWhere?]

variable (catalog config events) in
theorem listsRun_ofEvents (run : String) : ListsRun (ofEvents catalog config events) run
    ((ofEvents catalog config events).steps.filter fun s => s.runId == run) := by
  have hl := indexed_ofEvents catalog config events
  refine ⟨hl.stepsOfRun_eq run, ?_, ?_, hl.lastStepOfRun?_eq run⟩
  · rw [stepsByRun, Table.get?_mapValues, ← hl.stepsOfRun_eq, stepsOfRun, Ledger.places]
    cases hget : (ofEvents catalog config events).byRun.get? run with
    | none => rfl
    | some places =>
      have hlength := length_placesWhere (fun s => s.runId == run)
        (ofEvents catalog config events).steps
      rw [← hl.places_eq, ← hl.stepsOfRun_eq, stepsOfRun, Ledger.places, hget,
        Option.getD_some] at hlength
      have hne : places.filterMap (fun i => (ofEvents catalog config events).steps[i]?) ≠ [] := by
        rw [ne_eq, ← List.length_eq_zero_iff, ← hlength, List.length_eq_zero_iff]
        exact ne_nil_of_byRun_get? hget
      rw [Option.map_some, Option.getD_some, if_neg hne]
  · rw [hl.hasSteps_eq, Bool.eq_iff_iff]
    simp [List.filter_eq_nil_iff]

/-! ### Places -/

/-- Every place that a ledger looks up is that of a step. -/
structure InRange (l : Ledger) : Prop where
  byRun (run : String) (places : List Nat) (h : l.byRun.get? run = some places) :
    ∀ i ∈ places, i < l.steps.length
  byId (id : String) (i : Nat) (h : l.byId.get? id = some i) : i < l.steps.length
  openSteps (key : NodeKey) (i : Nat) (h : l.openSteps.get? key = some i) : i < l.steps.length
  blamed (run : String) (i : Nat) (h : l.blamedPlace? run = some i) : i < l.steps.length

theorem Indexed.lt_length_of_mem_places {l : Ledger} (h : l.Indexed) (run : String) {i : Nat}
    (hi : i ∈ l.places run) : i < l.steps.length := by
  rw [h.places_eq] at hi
  obtain ⟨s, hs, -⟩ := mem_placesWhere.1 hi
  exact (List.getElem?_eq_some_iff.1 hs).1

variable (catalog config events)

theorem inRange_ofEvents : (ofEvents catalog config events).InRange := by
  have hl := indexed_ofEvents catalog config events
  refine ⟨fun run places hplaces i hi => ?_, fun id i hi => ?_, fun key i hi => ?_,
    fun run i hi => ?_⟩
  · refine hl.lt_length_of_mem_places run ?_
    rwa [Ledger.places, hplaces, Option.getD_some]
  · have hget := (byId_get?_iff catalog config events id i).1 hi
    have hlt := (List.getElem?_eq_some_iff.1 hget).1
    rwa [List.length_map] at hlt
  · rw [hl.openSteps_eq] at hi
    exact lt_length_of_lastWhere?_eq_some (History.lastWhere?_of_openPlace? hi)
  · rw [hl.blamedPlace?_eq, Option.or_eq_some_iff] at hi
    rcases hi with hi | ⟨-, hi⟩
    · exact lt_length_of_lastWhere?_eq_some hi
    · exact lt_length_of_lastWhere?_eq_some hi

end

/-- All tables of a ledger agree with its list of steps. The steps have different identifiers, made
of the run, the node and the number of the event that made the step, and these numbers rise. A
look-up by identifier or by run gives the steps of the list that have it. The runs are those of
which something is known, in the order in which it came to be known, and those of all steps are
among them. No place in a table is out of range. -/
theorem indexes_agree (catalog : Catalog) (config : LedgerConfig) (events : List Event) :
    let l := ofEvents catalog config events
    ((l.steps.map Step.id).Nodup ∧ (l.steps.Pairwise fun s t => s.arrival < t.arrival) ∧
        ∀ place s, l.steps[place]? = some s →
          s.id = s.runId ++ ":" ++ s.nodeId ++ ":" ++ toString s.arrival ∧
            MadeAt catalog config events place s) ∧
      (∀ id s, l.step? id = some s ↔ s ∈ l.steps ∧ s.id = id) ∧
      (∀ run, l.ListsRun run (l.steps.filter fun s => s.runId == run)) ∧
      (l.runs.Nodup ∧ l.runs = (events.filterMap Event.toldRun?).eraseDups ∧
        (∀ n, (ofEvents catalog config (events.take n)).runs <+: l.runs) ∧
        (∀ run, run ∈ l.runs ↔ (l.summary? run).isSome) ∧
        (∀ run s, l.summary? run = some s → s.runId = run) ∧
        ∀ s ∈ l.steps, (l.summary? s.runId).isSome) ∧
      l.InRange := by
  intro l
  have hl : l.Indexed := indexed_ofEvents catalog config events
  have hknown : l.KnowsRuns := knowsRuns_ofEvents catalog config events
  refine ⟨⟨nodup_ids catalog config events, arrivals_rise catalog config events,
      fun place s hs => ⟨rfl, madeAt_of_getElem? hs⟩⟩,
    step?_eq_some_iff catalog config events, listsRun_ofEvents catalog config events,
    ⟨l.summaries.nodup_keys, runs_ofEvents catalog config events,
      runs_prefix catalog config events, l.mem_runs_iff,
      fun run s => runId_of_summary? catalog config events, fun s hs => ?_⟩,
    inRange_ofEvents catalog config events⟩
  refine hknown s.runId ?_
  rw [hl.hasSteps_eq, List.any_eq_true]
  exact ⟨s, hs, beq_self_eq_true _⟩

/-- Two nodes whose names look the same behind those of their runs, and a run without steps. -/
example :
    let events : List Event := [.flowStart "r" none none, .flowStart "q" none none,
      .nodeStart "q:1" "a" none none, .nodeStart "q" "1:a" none none,
      .flowComplete "r" none none]
    let l := ofEvents .empty .standard events
    l.runs = ["r", "q", "q:1"] ∧ l.steps.map Step.id = ["q:1:a:2", "q:1:a:3"] ∧
      (l.step? "q:1:a:3").map Step.key = some ⟨"q", "1:a"⟩ := by
  decide

end Ledger

end RunWatch
