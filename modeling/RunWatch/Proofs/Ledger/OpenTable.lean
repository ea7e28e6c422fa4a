import RunWatch.Proofs.Ledger.History

/-!
# The tables of a ledger

A ledger keeps two tables over its list of steps: the places of the steps of each run, and the place
of the open step of each node. `Ledger.Indexed` says that both are exact, so that they hold nothing
that the list does not. Every event keeps it (`Indexed.record`) and does to the steps what
`History.record` says (`Indexed.steps_record`).

* `Ledger.steps_ofEvents`: the steps of a ledger are the history of its stream.
* `Ledger.openStep?_exact`: a node has an open step exactly when its newest step runs or waits, and
  that step is the open one.
-/

namespace RunWatch

open Text

namespace History

/-- The place of the newest step of a node, if that step is open. -/
def openPlace? (steps : List Step) (key : NodeKey) : Option Nat :=
  (lastWhere? (fun s => s.key == key) steps).filter fun i =>
    (steps[i]?).any fun s => s.status.isOpen

theorem lastWhere?_of_openPlace? {steps : List Step} {key : NodeKey} {i : Nat}
    (h : openPlace? steps key = some i) : lastWhere? (fun s => s.key == key) steps = some i :=
  (Option.filter_eq_some_iff.1 h).1

theorem exists_of_openPlace? {steps : List Step} {key : NodeKey} {i : Nat}
    (h : openPlace? steps key = some i) :
    ∃ s, steps[i]? = some s ∧ s.key = key ∧ s.status.isOpen = true := by
  obtain ⟨hlast, hopen⟩ := Option.filter_eq_some_iff.1 h
  obtain ⟨s, hs, hkey⟩ := exists_of_lastWhere?_eq_some hlast
  rw [hs, Option.any_some] at hopen
  exact ⟨s, hs, by simpa using hkey, hopen⟩

theorem isOpen_eq_isSome (steps : List Step) (key : NodeKey) :
    isOpen steps key = (openPlace? steps key).isSome := by
  rw [isOpen, newest?, findRev?_eq_bind, openPlace?]
  cases lastWhere? (fun s => s.key == key) steps with
  | none => rfl
  | some i =>
    rw [Option.bind_some, Option.isSome_filter, Option.any_some]

theorem openPlace?_append_singleton (steps : List Step) (s : Step) (key : NodeKey) :
    openPlace? (steps ++ [s]) key =
      if s.key = key then (if s.status.isOpen then some steps.length else none)
      else openPlace? steps key := by
  unfold openPlace?
  rw [lastWhere?_append_singleton]
  by_cases h : s.key = key
  · by_cases ho : s.status.isOpen <;> simp [h, ho, Option.filter]
  · rw [if_neg (by simpa using h), if_neg h]
    refine filter_congr_of_eq_some fun i hi => ?_
    obtain ⟨t, ht, -⟩ := exists_of_lastWhere?_eq_some hi
    rw [List.getElem?_append_left (List.getElem?_eq_some_iff.1 ht).1]

/-- A step that stays with its node moves no newest place. -/
theorem openPlace?_modify {steps : List Step} {i : Nat} {f : Step → Step}
    (hkey : ∀ s, (f s).key = s.key) (key : NodeKey) :
    openPlace? (steps.modify i f) key =
      (lastWhere? (fun s => s.key == key) steps).filter fun j =>
        ((steps.modify i f)[j]?).any fun s => s.status.isOpen := by
  rw [openPlace?, lastWhere?_modify fun s _ => by simp [hkey]]

theorem openPlace?_modify_of_isOpen {steps : List Step} {i : Nat} {f : Step → Step}
    (hkey : ∀ s, (f s).key = s.key)
    (hopen : ∀ s, steps[i]? = some s → (f s).status.isOpen = s.status.isOpen) (key : NodeKey) :
    openPlace? (steps.modify i f) key = openPlace? steps key := by
  rw [openPlace?_modify hkey, openPlace?]
  refine filter_congr_of_eq_some fun j _ => ?_
  rw [List.getElem?_modify]
  by_cases hij : i = j
  · subst hij
    cases hs : steps[i]? with
    | none => rfl
    | some s => simpa using hopen s hs
  · simp [hij]

theorem openPlace?_modify_of_closed {steps : List Step} {i : Nat} {f : Step → Step}
    (hkey : ∀ s, (f s).key = s.key)
    (hclosed : ∀ s, steps[i]? = some s → (f s).status.isOpen = false) (key : NodeKey) :
    openPlace? (steps.modify i f) key = (openPlace? steps key).filter fun j => j != i := by
  rw [openPlace?_modify hkey, openPlace?, Option.filter_filter]
  refine filter_congr_of_eq_some fun j _ => ?_
  rw [List.getElem?_modify]
  by_cases hij : i = j
  · subst hij
    cases hs : steps[i]? with
    | none => simp
    | some s => simpa using hclosed s hs
  · simp [hij, Ne.symm hij]

end History

namespace Ledger

open History

/-! ### What the operations change -/

section

variable (l : Ledger) (s : Step) (key : NodeKey)

@[simp] theorem steps_addStep : (l.addStep s).steps = l.steps ++ [s] := rfl

@[simp] theorem openSteps_addStep : (l.addStep s).openSteps = l.openSteps := rfl

theorem places_addStep (r : String) :
    (l.addStep s).places r = l.places r ++ if s.runId = r then [l.steps.length] else [] := by
  unfold places addStep
  simp only [Table.get?_insert]
  by_cases h : s.runId = r
  · subst h
    simp [modifyRun, places]
  · simp [h, modifyRun]

@[simp] theorem steps_addOpenStep : (l.addOpenStep s).steps = l.steps ++ [s] := rfl

@[simp] theorem openSteps_addOpenStep :
    (l.addOpenStep s).openSteps = l.openSteps.insert s.key l.steps.length := rfl

@[simp] theorem steps_modifyStep (place : Nat) (g : Step → Step) :
    (l.modifyStep place g).steps = l.steps.modify place g := rfl

@[simp] theorem openSteps_modifyStep (place : Nat) (g : Step → Step) :
    (l.modifyStep place g).openSteps = l.openSteps := rfl

@[simp] theorem places_modifyStep (place : Nat) (g : Step → Step) (r : String) :
    (l.modifyStep place g).places r = l.places r := rfl

@[simp] theorem steps_closeNode : (l.closeNode key).steps = l.steps := rfl

@[simp] theorem openSteps_closeNode : (l.closeNode key).openSteps = l.openSteps.erase key := rfl

end

/-! ### Exact tables -/

/-- The tables say what the list of steps says. -/
structure Indexed (l : Ledger) : Prop where
  places_eq (runId : String) : l.places runId = placesWhere (fun s => s.runId == runId) l.steps
  openSteps_eq (key : NodeKey) : l.openSteps.get? key = openPlace? l.steps key

namespace Indexed

variable {l : Ledger}

theorem new (catalog : Catalog) (config : LedgerConfig) : (Ledger.new catalog config).Indexed :=
  ⟨fun _ => rfl, fun _ => rfl⟩

/-- Only the steps and the two tables count. -/
theorem of_eq {l' : Ledger} (h : l.Indexed) (hsteps : l'.steps = l.steps)
    (hbyRun : l'.byRun = l.byRun) (hopen : l'.openSteps = l.openSteps) : l'.Indexed where
  places_eq runId := by rw [hsteps, ← h.places_eq, places, places, hbyRun]
  openSteps_eq key := by rw [hsteps, hopen, h.openSteps_eq]

theorem modifyRun (h : l.Indexed) (runId : String) (f : RunSummary → RunSummary) :
    (l.modifyRun runId f).Indexed :=
  h.of_eq rfl rfl rfl

theorem places_addStep (h : l.Indexed) (s : Step) (runId : String) :
    (l.addStep s).places runId = placesWhere (fun t => t.runId == runId) (l.steps ++ [s]) := by
  rw [Ledger.places_addStep, placesWhere_append_singleton, h.places_eq]
  simp

/-- An open step takes the place of the newest one of its node. -/
theorem addOpenStep (h : l.Indexed) {s : Step} (hs : s.status.isOpen = true) :
    (l.addOpenStep s).Indexed where
  places_eq runId := h.places_addStep s runId
  openSteps_eq key := by
    rw [openSteps_addOpenStep, Table.get?_insert, steps_addOpenStep, openPlace?_append_singleton,
      if_pos hs, h.openSteps_eq]

/-- A step that has ended may be added for a node without an open step. -/
theorem addStep (h : l.Indexed) {s : Step} (hs : s.status.isOpen = false)
    (hnone : l.openSteps.get? s.key = none) : (l.addStep s).Indexed where
  places_eq runId := h.places_addStep s runId
  openSteps_eq key := by
    rw [openSteps_addStep, steps_addStep, openPlace?_append_singleton, hs]
    split
    · next hkey => rw [← hkey, hnone, if_neg Bool.false_ne_true]
    · exact h.openSteps_eq key

theorem places_modifyStep (h : l.Indexed) {i : Nat} {f : Step → Step}
    (hkey : ∀ s, (f s).key = s.key) (runId : String) :
    (l.modifyStep i f).places runId =
      placesWhere (fun s => s.runId == runId) (l.modifyStep i f).steps := by
  have hrun : ∀ s, (f s).runId = s.runId := fun s => congrArg NodeKey.runId (hkey s)
  rw [Ledger.places_modifyStep, steps_modifyStep, h.places_eq,
    placesWhere_modify fun s _ => by rw [hrun]]

/-- A change that neither ends a step nor opens it again touches no table. -/
theorem modifyStep (h : l.Indexed) {i : Nat} {f : Step → Step} (hkey : ∀ s, (f s).key = s.key)
    (hopen : ∀ s, l.steps[i]? = some s → (f s).status.isOpen = s.status.isOpen) :
    (l.modifyStep i f).Indexed where
  places_eq runId := h.places_modifyStep hkey runId
  openSteps_eq key := by
    rw [openSteps_modifyStep, steps_modifyStep, openPlace?_modify_of_isOpen hkey hopen,
      h.openSteps_eq]

/-- The end of the open step of a node. No other node has its open step at the same place. -/
theorem closeStep (h : l.Indexed) {key : NodeKey} {i : Nat} {f : Step → Step}
    (hi : l.openSteps.get? key = some i) (hkey : ∀ s, (f s).key = s.key)
    (hclosed : ∀ s, (f s).status.isOpen = false) : ((l.closeNode key).modifyStep i f).Indexed where
  places_eq runId := h.places_modifyStep hkey runId
  openSteps_eq k := by
    rw [h.openSteps_eq] at hi
    rw [openSteps_modifyStep, openSteps_closeNode, Table.get?_erase, steps_modifyStep,
      steps_closeNode, openPlace?_modify_of_closed hkey fun s _ => hclosed s, h.openSteps_eq]
    split
    · next hk => rw [← hk, hi]; simp [Option.filter]
    · next hk =>
      cases hj : openPlace? l.steps k with
      | none => rfl
      | some j =>
        -- The steps at the two places belong to different nodes.
        obtain ⟨s, hs, hskey, -⟩ := exists_of_openPlace? hi
        obtain ⟨t, ht, htkey, -⟩ := exists_of_openPlace? hj
        have hne : j ≠ i := by
          rintro rfl
          rw [hs, Option.some.injEq] at ht
          exact hk (by rw [← hskey, ← htkey, ht])
        rw [Option.filter_some, if_pos (by simpa using hne)]

/-- A failure that is noted on a step takes the place of the step from the table. -/
theorem blameStep (h : l.Indexed) (message : String) (ts : Option Instant) (place : Nat) :
    (l.blameStep message ts place).Indexed := by
  have hkey : ∀ s : Step, (s.blame message ts).key = s.key := fun s => s.key_blame ts message
  unfold Ledger.blameStep
  by_cases hopen : (l.steps[place]?).any fun s => s.status.isOpen
  · simp only [hopen, if_true]
    refine ⟨fun runId => h.places_modifyStep hkey runId, fun key => ?_⟩
    rw [Table.get?_filter, steps_modifyStep, openSteps_modifyStep, h.openSteps_eq,
      openPlace?_modify_of_closed hkey fun s _ => s.isOpen_blame ts message]
  · simp only [hopen, Bool.false_eq_true, if_false]
    refine h.modifyStep hkey fun s hs => ?_
    rw [hs, Option.any_some, Bool.not_eq_true] at hopen
    rw [hopen, Step.isOpen_blame]

/-! ### Steps of a run -/

theorem stepsOfRun_eq (h : l.Indexed) (runId : String) :
    l.stepsOfRun runId = l.steps.filter fun s => s.runId == runId := by
  rw [stepsOfRun, h.places_eq, filterMap_placesWhere]

theorem hasSteps_eq (h : l.Indexed) (runId : String) :
    l.hasSteps runId = l.steps.any fun s => s.runId == runId := by
  rw [hasSteps, h.places_eq, Bool.eq_iff_iff, Bool.not_eq_true', ← Bool.not_eq_true,
    List.isEmpty_iff, ← List.getLast?_eq_none_iff, ← lastWhere?, lastWhere?_eq_none_iff,
    Bool.not_eq_false]

/-! ### Events -/

theorem isOpen_eq (h : l.Indexed) (key : NodeKey) :
    History.isOpen l.steps key = (l.openSteps.get? key).isSome := by
  rw [isOpen_eq_isSome, h.openSteps_eq]

/-- The step in the table of open steps is the newest one of its node. -/
theorem updateLast_eq_modify (h : l.Indexed) {key : NodeKey} {i : Nat}
    (hi : l.openSteps.get? key = some i) (f : Step → Step) :
    updateLast (fun s => s.key == key) f l.steps = l.steps.modify i f := by
  rw [h.openSteps_eq] at hi
  exact RunWatch.updateLast_eq_modify f (lastWhere?_of_openPlace? hi)

theorem lastPlace?_eq (h : l.Indexed) (runId : String) (p : Step → Bool) :
    l.lastPlace? runId p = lastWhere? (fun s => s.runId == runId && p s) l.steps := by
  rw [lastPlace?, ← List.getLast?_filter, h.places_eq, filter_placesWhere, lastWhere?]

theorem duplicate?_eq (h : l.Indexed) (key : NodeKey) (kind : Option String) (c : Completion) :
    l.duplicate? key kind c = lastWhere? (repeats l.config key kind c) l.steps := by
  have hnone : lastWhere? (fun _ : Step => false) l.steps = none := by
    rw [lastWhere?_eq_none_iff]
    simp
  unfold Ledger.duplicate? repeats
  cases l.config.isDedupKind kind with
  | false => simpa using hnone.symm
  | true =>
    cases c.output.bind subRunIdOf? with
    | none => simpa using hnone.symm
    | some subRun =>
      simp only [if_true, Option.bind_eq_bind, Option.bind_some, Option.any_some, Bool.true_and]
      rw [h.lastPlace?_eq]
      congr 1
      funext s
      simp only [Step.beq_key, Bool.and_assoc]

theorem completeStep (h : l.Indexed) (place : Nat) (key : NodeKey) (nodeType : Option String)
    (c : Completion) : (l.completeStep place key nodeType c).Indexed ∧
      (l.completeStep place key nodeType c).steps =
        History.complete l.catalog l.config place l.steps key nodeType c := by
  unfold Ledger.completeStep History.complete settle
  rw [h.isOpen_eq]
  cases hi : l.openSteps.get? key with
  | some i =>
    simp only [Option.isSome_some, Bool.not_true, Bool.false_and, Bool.false_eq_true, if_false,
      if_true]
    rw [h.updateLast_eq_modify hi]
    exact ⟨h.closeStep hi (fun _ => rfl) fun _ => rfl, rfl⟩
  | none =>
    simp only [Option.isSome_none, Bool.not_false, Bool.true_and, Bool.false_eq_true, if_false,
      h.duplicate?_eq]
    cases hd : lastWhere? (repeats l.config key (l.catalog.resolve key.nodeId nodeType) c)
        l.steps with
    | some i =>
      rw [if_pos (any_of_lastWhere?_eq_some hd), RunWatch.updateLast_eq_modify _ hd]
      exact ⟨h.modifyStep (fun _ => rfl) fun _ _ => rfl, rfl⟩
    | none =>
      rw [lastWhere?_eq_none_iff.1 hd, if_neg Bool.false_ne_true]
      exact ⟨h.addStep rfl hi, rfl⟩

theorem pauseStep (h : l.Indexed) (place : Nat) (key : NodeKey) (waiting : WaitingInfo)
    (ts : Option Instant) : (l.pauseStep place key waiting ts).Indexed ∧
      (l.pauseStep place key waiting ts).steps =
        History.pause l.catalog place l.steps key waiting ts := by
  unfold Ledger.pauseStep History.pause settle
  rw [h.isOpen_eq]
  cases hi : l.openSteps.get? key with
  | some i =>
    simp only [Option.isSome_some, if_true]
    rw [h.updateLast_eq_modify hi]
    refine ⟨h.modifyStep (fun _ => rfl) fun s hs => ?_, rfl⟩
    rw [h.openSteps_eq] at hi
    obtain ⟨t, ht, -, hopen⟩ := exists_of_openPlace? hi
    rw [hs, Option.some.injEq] at ht
    rw [ht, hopen, Step.isOpen_pause]
  | none =>
    simp only [Option.isSome_none, Bool.false_eq_true, if_false]
    exact ⟨h.addOpenStep rfl, rfl⟩

theorem failStep (h : l.Indexed) (place : Nat) (key : NodeKey) (message : String)
    (ts : Option Instant) : (l.failStep place key message ts).Indexed ∧
      (l.failStep place key message ts).steps =
        History.fail l.catalog place l.steps key message ts := by
  unfold Ledger.failStep History.fail settle
  rw [h.isOpen_eq]
  cases hi : l.openSteps.get? key with
  | some i =>
    simp only [Option.isSome_some, if_true]
    rw [h.updateLast_eq_modify hi]
    exact ⟨h.closeStep hi (fun _ => rfl) fun _ => rfl, rfl⟩
  | none =>
    simp only [Option.isSome_none, Bool.false_eq_true, if_false]
    exact ⟨h.addStep rfl hi, rfl⟩

theorem pauseRun (h : l.Indexed) (runId : String) (waiting : WaitingInfo) :
    (l.pauseRun runId waiting).Indexed ∧
      (l.pauseRun runId waiting).steps = History.pauseRun l.steps runId waiting := by
  unfold Ledger.pauseRun History.pauseRun
  rw [h.lastPlace?_eq]
  cases hi : lastWhere? (fun s => s.runId == runId && s.status == .running) l.steps with
  | some i =>
    rw [RunWatch.updateLast_eq_modify _ hi]
    refine ⟨h.modifyStep (fun _ => rfl) fun s hs => ?_, rfl⟩
    obtain ⟨t, ht, hrunning⟩ := exists_of_lastWhere?_eq_some hi
    rw [hs, Option.some.injEq] at ht
    have hstatus : s.status = .running := by
      rw [ht]
      simpa using (Bool.and_eq_true_iff.1 hrunning).2
    rw [Step.isOpen_pause, hstatus]
    rfl
  | none =>
    rw [updateLast_eq_self _ (lastWhere?_eq_none_iff.1 hi)]
    exact ⟨h, rfl⟩

/-- The step that the failure of a run is noted on is the last one of the run, or of all. -/
theorem blamedPlace?_eq (h : l.Indexed) (runId : String) :
    l.blamedPlace? runId =
      (lastWhere? (fun s => s.runId == runId) l.steps).or (lastWhere? (fun _ => true) l.steps) := by
  unfold Ledger.blamedPlace?
  rw [h.places_eq, lastWhere?]
  congr 1
  induction l.steps using List.reverseRecOn with
  | nil => rfl
  | append_singleton as a _ => simp [lastWhere?_append_singleton]

theorem steps_blameStep (message : String) (ts : Option Instant) (place : Nat) :
    (l.blameStep message ts place).steps = l.steps.modify place fun s => s.blame message ts := by
  unfold Ledger.blameStep
  simp only
  split <;> rfl

theorem failRun (h : l.Indexed) (runId message : String) (ts : Option Instant) :
    (l.failRun runId message ts).Indexed ∧
      (l.failRun runId message ts).steps = History.blame l.steps runId message ts := by
  unfold Ledger.failRun
  simp only
  -- What is known of the run does not matter here.
  obtain ⟨l', hl', hsteps⟩ : ∃ l', (if runId = "" then l
      else l.modifyRun runId fun s => s.fail message ts) = l' ∧
      l'.Indexed ∧ l'.steps = l.steps := by
    refine ⟨_, rfl, ?_⟩
    split
    · exact ⟨h, rfl⟩
    · exact ⟨h.modifyRun runId _, rfl⟩
  obtain ⟨h', hsteps⟩ := hsteps
  rw [hl', h'.blamedPlace?_eq, hsteps, History.blame]
  cases hrun : lastWhere? (fun s => s.runId == runId) l.steps with
  | some i =>
    rw [if_pos (any_of_lastWhere?_eq_some hrun), RunWatch.updateLast_eq_modify _ hrun, ← hsteps]
    exact ⟨h'.blameStep message ts i, steps_blameStep message ts i⟩
  | none =>
    rw [lastWhere?_eq_none_iff.1 hrun, if_neg Bool.false_ne_true, Option.none_or]
    cases hlast : lastWhere? (fun _ => true) l.steps with
    | some i =>
      rw [RunWatch.updateLast_eq_modify _ hlast, ← hsteps]
      exact ⟨h'.blameStep message ts i, steps_blameStep message ts i⟩
    | none =>
      rw [updateLast_eq_self _ (lastWhere?_eq_none_iff.1 hlast), ← hsteps]
      exact ⟨h', rfl⟩

/-- Every event keeps the tables exact and does to the steps what it does to their history. -/
theorem record (h : l.Indexed) (place : Nat) (e : Event) :
    (l.record place e).Indexed ∧
      (l.record place e).steps = History.record l.catalog l.config place l.steps e := by
  have hsame : l.Indexed ∧ l.steps = l.steps := ⟨h, rfl⟩
  cases e with
  | nodeStart runId nodeId nodeType ts =>
    simp only [Ledger.record, History.record]
    split
    · exact hsame
    · exact ⟨h.addOpenStep rfl, rfl⟩
  | nodeComplete runId nodeId nodeType result details ts =>
    simp only [Ledger.record, History.record]
    split
    · exact hsame
    · exact h.completeStep place _ nodeType _
  | flowWaiting runId nodeId waiting ts =>
    simp only [Ledger.record, History.record]
    split
    · exact hsame
    · cases nodeId.bind full? with
      | some nodeId => exact h.pauseStep place _ waiting ts
      | none => exact h.pauseRun runId waiting
  | flowError runId nodeId error ts =>
    simp only [Ledger.record, History.record]
    cases nodeId.bind full? with
    | some nodeId =>
      simp only
      split
      · exact hsame
      · exact h.failStep place _ _ ts
    | none => exact h.failRun runId _ ts
  | flowStart runId parentRunId ts | flowComplete runId details ts | flowCancelled runId ts =>
    simp only [Ledger.record, History.record]
    split
    · exact hsame
    · exact ⟨h.modifyRun runId _, rfl⟩
  | subworkflowUpdate | traceUpdate | unknown => exact hsame

theorem apply (h : l.Indexed) (e : Event) : (l.apply e).Indexed :=
  (h.record l.arrival e).1.of_eq rfl rfl rfl

theorem steps_apply (h : l.Indexed) (e : Event) :
    (l.apply e).steps = History.record l.catalog l.config l.arrival l.steps e :=
  (h.record l.arrival e).2

end Indexed

/-! ### Streams -/

section

variable (catalog : Catalog) (config : LedgerConfig)

theorem catalog_config_apply (l : Ledger) (e : Event) :
    (l.apply e).catalog = l.catalog ∧ (l.apply e).config = l.config := by
  cases e <;> simp only [apply, record, startStep, completeStep, pauseStep, pauseRun, failStep,
    failRun, blameStep, and_self]
  all_goals repeat' split
  all_goals exact ⟨rfl, rfl⟩

theorem ofEvents_append_singleton (events : List Event) (e : Event) :
    ofEvents catalog config (events ++ [e]) = (ofEvents catalog config events).apply e := by
  rw [ofEvents, List.foldl_append]
  rfl

theorem catalog_config_ofEvents (events : List Event) :
    (ofEvents catalog config events).catalog = catalog ∧
      (ofEvents catalog config events).config = config := by
  induction events using List.reverseRecOn with
  | nil => exact ⟨rfl, rfl⟩
  | append_singleton events e ih =>
    rw [ofEvents_append_singleton]
    obtain ⟨hcatalog, hconfig⟩ := catalog_config_apply (ofEvents catalog config events) e
    exact ⟨hcatalog.trans ih.1, hconfig.trans ih.2⟩

theorem arrival_ofEvents (events : List Event) :
    (ofEvents catalog config events).arrival = events.length := by
  induction events using List.reverseRecOn with
  | nil => rfl
  | append_singleton events e ih =>
    rw [ofEvents_append_singleton, List.length_append, List.length_singleton, ← ih]
    rfl

theorem indexed_ofEvents (events : List Event) : (ofEvents catalog config events).Indexed := by
  induction events using List.reverseRecOn with
  | nil => exact Indexed.new catalog config
  | append_singleton events e ih =>
    rw [ofEvents_append_singleton]
    exact ih.apply e

/-- The steps after one more event. -/
theorem steps_ofEvents_append_singleton (events : List Event) (e : Event) :
    (ofEvents catalog config (events ++ [e])).steps =
      History.record catalog config events.length (ofEvents catalog config events).steps e := by
  have hl := indexed_ofEvents catalog config events
  obtain ⟨hcatalog, hconfig⟩ := catalog_config_ofEvents catalog config events
  rw [ofEvents_append_singleton, hl.steps_apply, hcatalog, hconfig, arrival_ofEvents]

/-- The steps of a ledger are the history of its stream. -/
theorem steps_ofEvents (events : List Event) :
    (ofEvents catalog config events).steps = History.run catalog config events.zipIdx [] := by
  induction events using List.reverseRecOn with
  | nil => rfl
  | append_singleton events e ih =>
    rw [steps_ofEvents_append_singleton, ih, List.zipIdx_append, History.run, History.run,
      List.foldl_append]
    simp

end

/-! ### The open step of a node -/

/-- The step at a place is the newest one of a node, and it runs or waits. -/
structure NewestOpen (l : Ledger) (key : NodeKey) (place : Nat) (s : Step) : Prop where
  at_place : l.steps[place]? = some s
  of_node : s.key = key
  runs_or_waits : s.status = .running ∨ s.status = .waiting
  newest : ∀ later t, place < later → l.steps[later]? = some t → t.key ≠ key

theorem isOpen_iff (status : StepStatus) :
    status.isOpen = true ↔ status = .running ∨ status = .waiting := by
  cases status <;> simp [StepStatus.isOpen]

theorem Indexed.openSteps_get?_iff {l : Ledger} (h : l.Indexed) (key : NodeKey) (place : Nat) :
    l.openSteps.get? key = some place ↔ ∃ s, l.NewestOpen key place s := by
  rw [h.openSteps_eq, openPlace?, Option.filter_eq_some_iff, lastWhere?_eq_some_iff]
  constructor
  · rintro ⟨⟨⟨s, hs, hkey⟩, hnewest⟩, hopen⟩
    rw [hs, Option.any_some, isOpen_iff] at hopen
    exact ⟨s, hs, by simpa using hkey, hopen, fun later t hlater ht => by
      simpa using hnewest later t hlater ht⟩
  · rintro ⟨s, hs, hkey, hopen, hnewest⟩
    refine ⟨⟨⟨s, hs, by simpa using hkey⟩, fun later t hlater ht => ?_⟩, ?_⟩
    · simpa using hnewest later t hlater ht
    · rw [hs, Option.any_some]
      exact (isOpen_iff s.status).2 hopen

theorem Indexed.openStep?_eq_some_iff {l : Ledger} (h : l.Indexed) {key : NodeKey} {s : Step} :
    l.openStep? key = some s ↔
      ∃ place, openPlace? l.steps key = some place ∧ l.steps[place]? = some s := by
  rw [Ledger.openStep?, h.openSteps_eq, Option.bind_eq_some_iff]

theorem Indexed.openSteps_eq_none {l : Ledger} (h : l.Indexed) {key : NodeKey}
    (hopen : l.openStep? key = none) : l.openSteps.get? key = none := by
  by_contra hne
  obtain ⟨i, hi⟩ := Option.ne_none_iff_exists'.1 hne
  obtain ⟨s, hs⟩ := (h.openSteps_get?_iff key i).1 hi
  rw [openStep?, hi, Option.bind_some, hs.at_place] at hopen
  cases hopen

/-- The table of open steps is exact after any stream. A place stands in it for a node exactly when
the step there is the newest one of the node and runs or waits; and that step is the one found. -/
theorem openStep?_exact (catalog : Catalog) (config : LedgerConfig) (events : List Event)
    (runId nodeId : String) :
    let l := ofEvents catalog config events
    (∀ place, l.openSteps.get? ⟨runId, nodeId⟩ = some place ↔
        ∃ s, l.NewestOpen ⟨runId, nodeId⟩ place s) ∧
      ∀ s, l.openStep? ⟨runId, nodeId⟩ = some s ↔
        ∃ place, l.NewestOpen ⟨runId, nodeId⟩ place s := by
  intro l
  have hl : l.Indexed := indexed_ofEvents catalog config events
  refine ⟨fun place => hl.openSteps_get?_iff _ place, fun s => ?_⟩
  rw [openStep?, Option.bind_eq_some_iff]
  constructor
  · rintro ⟨place, hplace, hs⟩
    obtain ⟨t, ht⟩ := (hl.openSteps_get?_iff _ place).1 hplace
    have hst : t = s := Option.some.inj (ht.at_place.symm.trans hs)
    exact ⟨place, hst ▸ ht⟩
  · rintro ⟨place, hs⟩
    exact ⟨place, (hl.openSteps_get?_iff _ place).2 ⟨s, hs⟩, hs.at_place⟩

end Ledger

end RunWatch
