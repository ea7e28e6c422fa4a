import RunWatch.Proofs.Ledger.Interleaving
import RunWatch.Proofs.Ledger.Summaries

/-!
# Isolation of runs

The steps of a run, and what is known of it, come from the events of the run alone, whatever events
of other runs stand among them. There is one exception. The failure of a run that has no steps, or
of no run at all, is noted on the last step of the whole ledger, and this may be a step of another
run. A stream is undisturbed for a run if no such failure occurs in it but of the run itself
(`Ledger.Undisturbed`).

* `Ledger.stepsOfRun_ofEvents`: in an undisturbed stream the steps of a run are the history of its
  events.
* `Ledger.run_alone`: two streams with the same events of a run agree on the run.
-/

namespace RunWatch

namespace History

theorem run_append (catalog : Catalog) (config : LedgerConfig) (events more : List (Event × Nat))
    (steps : List Step) :
    run catalog config (events ++ more) steps =
      run catalog config more (run catalog config events steps) :=
  List.foldl_append

/-! ### One event -/

section

variable {catalog : Catalog} {config : LedgerConfig} {place : Nat} {e : Event} {runId : String}

/-- Whether a node is one of a run. -/
def inRun (runId : String) (key : NodeKey) : Bool := key.runId == runId

/-- An event of another run, or of none, leaves the steps of a run as they are. -/
theorem partOf_record_of_other (hrun : e.runId? ≠ some runId) {steps : List Step}
    (hstray : e.strays steps = false) :
    partOf (inRun runId) (record catalog config place steps e) = partOf (inRun runId) steps := by
  have hout : ∀ key, e.concerns key = true → inRun runId key = false := by
    intro key hkey
    rw [inRun, beq_eq_false_iff_ne]
    rintro rfl
    exact hrun (Event.runId?_of_concerns hkey)
  rw [partOf_record hout hstray, if_neg Bool.false_ne_true]

theorem partOf_inRun_eq_nil {steps : List Step} :
    partOf (inRun runId) steps = [] ↔ runId ∉ steps.map Step.runId := by
  simp [partOf, inRun, Step.key, List.filter_eq_nil_iff]

theorem partOf_eq_nil_of_strays (hrun : e.runId? = some runId) {steps : List Step}
    (hstray : e.strays steps = true) : partOf (inRun runId) steps = [] := by
  cases e with
  | flowError run nodeId error ts =>
    obtain ⟨rfl, hne⟩ := Text.full?_eq_some_iff.1 hrun
    have hnone : ∀ s ∈ steps, s.runId ≠ run := by
      simpa [hne] using (Bool.and_eq_true_iff.1 hstray).2
    rw [partOf_inRun_eq_nil]
    simpa using hnone
  | _ => cases hstray

/-- A failure of a run without steps is noted elsewhere, and gives the run no step. -/
theorem partOf_record_of_strays (hrun : e.runId? = some runId) {steps : List Step}
    (hstray : e.strays steps = true) :
    partOf (inRun runId) (record catalog config place steps e) = [] ∧
      record catalog config place [] e = [] := by
  have hnone := partOf_inRun_eq_nil.1 (partOf_eq_nil_of_strays hrun hstray)
  cases e with
  | flowError run nodeId error ts =>
    have hkept : ∀ s : Step, (s.blame (Event.errorText error) ts).runId = s.runId :=
      fun s => s.runId_blame ts _
    have hstray' : (Event.flowError run nodeId error ts).strays [] = true := by
      simp [Event.strays, (Bool.and_eq_true_iff.1 hstray).1]
    constructor
    · rw [record_of_strays hrun hstray, partOf_inRun_eq_nil, map_updateLast hkept]
      exact hnone
    · rw [record_of_strays hrun hstray', updateLast_nil]
  | _ => cases hstray

/-- An event of a run changes the steps of the run as if there were no others. -/
theorem partOf_record_of_run (hrun : e.runId? = some runId) (steps : List Step) :
    partOf (inRun runId) (record catalog config place steps e) =
      record catalog config place (partOf (inRun runId) steps) e := by
  have hin : ∀ key, e.concerns key = true → inRun runId key = true := by
    intro key hkey
    have hkeyRun := Event.runId?_of_concerns hkey
    rw [hrun, Option.some.injEq] at hkeyRun
    rw [inRun, hkeyRun, beq_self_eq_true]
  cases hstray : e.strays steps with
  | false => rw [partOf_record hin hstray, if_pos rfl]
  | true =>
    -- Such a failure finds no step of the run, among all the steps as among those of the run.
    have hafter : partOf (inRun runId) (record catalog config place steps e) = [] :=
      (partOf_record_of_strays hrun hstray).1
    have hnil : record catalog config place [] e = [] := (partOf_record_of_strays hrun hstray).2
    rw [partOf_eq_nil_of_strays hrun hstray, hafter, hnil]

end

end History

/-! ### Two streams -/

/-- Members that both are related to a third one, along three lists. -/
theorem forall₂_of_common {α β γ : Type*} {R : α → γ → Prop} {S : β → γ → Prop} {as : List α}
    {bs : List β} {cs : List γ} (has : List.Forall₂ R as cs) (hbs : List.Forall₂ S bs cs) :
    List.Forall₂ (fun a b => ∃ c, R a c ∧ S b c) as bs := by
  induction has generalizing bs with
  | nil =>
    cases hbs
    exact .nil
  | @cons a c as cs hac _ ih =>
    cases hbs with
    | cons hbc hbs => exact .cons ⟨c, hac, hbc⟩ (ih hbs)

/-- A place in each of two lists that holds the same one of the members that pass a test, counted
among these. -/
def Corresponding {α : Type*} (p : α → Bool) (as bs : List α) (i j : Nat) : Prop :=
  ∃ k : Nat, (placesWhere p as)[k]? = some i ∧ (placesWhere p bs)[k]? = some j

theorem forall₂_corresponding {α : Type*} {p : α → Bool} {as bs : List α}
    (h : as.filter p = bs.filter p) :
    List.Forall₂ (fun a b => a.1 = b.1 ∧ Corresponding p as bs a.2 b.2)
      (as.zipIdx.filter fun a => p a.1) (bs.zipIdx.filter fun b => p b.1) := by
  have has := forall₂_numbered p as
  have hbs := forall₂_numbered p bs
  rw [h] at has
  refine (forall₂_of_common has hbs).imp ?_
  rintro a b ⟨c, ⟨hac, hplace⟩, hbc, hplace'⟩
  exact ⟨hac.trans hbc.symm, c.2, hplace, hplace'⟩

namespace Ledger

variable (catalog : Catalog) (config : LedgerConfig) (runId : String)

/-- No failure that names no node occurs in a stream without a run, or for another run that has no
steps at that moment. -/
def Undisturbed (events : List Event) : Prop :=
  ∀ place (h : place < events.length),
    events[place].strays (ofEvents catalog config (events.take place)).steps = true →
      events[place].runId? = some runId

instance (events : List Event) : Decidable (Undisturbed catalog config runId events) :=
  inferInstanceAs (Decidable (∀ place (_ : place < events.length), _ → _))

variable {catalog config runId} {events others : List Event}

theorem undisturbed_of_append_singleton {e : Event}
    (h : Undisturbed catalog config runId (events ++ [e])) :
    Undisturbed catalog config runId events ∧
      (e.strays (ofEvents catalog config events).steps = true → e.runId? = some runId) := by
  constructor
  · intro place hplace hstray
    have hplace' : place < (events ++ [e]).length := by
      rw [List.length_append]
      omega
    have hlast := h place hplace'
    rw [List.getElem_append_left hplace, List.take_append_of_le_length (by omega)] at hlast
    exact hlast hstray
  · intro hstray
    have hlast := h events.length (by simp)
    rw [List.getElem_concat_length rfl, List.take_left] at hlast
    exact hlast hstray

/-- In an undisturbed stream the steps of a run come from the events of the run. -/
theorem stepsOfRun_ofEvents (h : Undisturbed catalog config runId events) :
    (ofEvents catalog config events).stepsOfRun runId =
      History.run catalog config (events.zipIdx.filter fun e => e.1.runId? == some runId) [] := by
  rw [(indexed_ofEvents catalog config events).stepsOfRun_eq]
  change History.partOf (History.inRun runId) (ofEvents catalog config events).steps = _
  induction events using List.reverseRecOn with
  | nil => rfl
  | append_singleton events e ih =>
    obtain ⟨hbefore, hlast⟩ := undisturbed_of_append_singleton h
    rw [steps_ofEvents_append_singleton, List.zipIdx_append, List.filter_append,
      History.run_append, ← ih hbefore]
    by_cases hrun : e.runId? = some runId
    · rw [History.partOf_record_of_run hrun, List.zipIdx_singleton,
        List.filter_cons_of_pos (by simpa using hrun), Nat.zero_add]
      rfl
    · have hstray : e.strays (ofEvents catalog config events).steps = false := by
        rw [Bool.eq_false_iff]
        exact fun hstray => hrun (hlast hstray)
      rw [History.partOf_record_of_other hrun hstray, List.zipIdx_singleton,
        List.filter_cons_of_neg (by simpa using hrun)]
      rfl

/-- Two streams with the same events of a run agree on the run. What is known of the run is the
same. The steps are the same up to their numbers, which are the places of the same events of the run
in the two streams, if neither stream is disturbed by a failure that finds no step of its own. -/
theorem run_alone (catalog : Catalog) (config : LedgerConfig) (runId : String)
    (events others : List Event) :
    let own := fun e : Event => e.runId? == some runId
    events.filter own = others.filter own →
      (Undisturbed catalog config runId events → Undisturbed catalog config runId others →
        List.Forall₂
          (Step.Alike (Corresponding own events others))
          ((ofEvents catalog config events).stepsOfRun runId)
          ((ofEvents catalog config others).stepsOfRun runId)) ∧
        (ofEvents catalog config events).summary? runId =
          (ofEvents catalog config others).summary? runId := by
  intro own hsame
  refine ⟨fun hevents hothers => ?_, ?_⟩
  · rw [stepsOfRun_ofEvents hevents, stepsOfRun_ofEvents hothers]
    exact History.forall₂_run catalog config (forall₂_corresponding hsame) .nil
  · rw [summary?_ofEvents, summary?_ofEvents]
    exact congrArg (List.foldl _ none) hsame

-- The proviso on the steps is needed: the failure of an unknown run is noted on the last step.
example :
    let started : List Event := [.nodeStart "r" "a" none none]
    let disturbed := started ++ [.flowError "q" none none none]
    ((ofEvents .empty .standard started).stepsOfRun "r").map Step.status = [.running] ∧
      ((ofEvents .empty .standard disturbed).stepsOfRun "r").map Step.status = [.failed] := by
  decide

/-- A run that waits and fails as a whole, among the events of another run and alone. -/
theorem run_alone_among_others :
    let waiting : WaitingInfo := ⟨some "go on?", [], true, none, none⟩
    let events : List Event := [.nodeStart "q" "b" none none, .nodeStart "r" "a" none none,
      .flowError "q" none none none, .flowWaiting "r" none waiting none,
      .flowError "r" none none none]
    let others : List Event := [.nodeStart "r" "a" none none, .flowWaiting "r" none waiting none,
      .flowError "r" none none none]
    let own := fun e : Event => e.runId? == some "r"
    (events.filter own = others.filter own ∧ Undisturbed .empty .standard "r" events ∧
        Undisturbed .empty .standard "r" others) ∧
      List.Forall₂ (Step.Alike (Corresponding own events others))
        ((ofEvents .empty .standard events).stepsOfRun "r")
        ((ofEvents .empty .standard others).stepsOfRun "r") ∧
      (ofEvents .empty .standard events).summary? "r" =
        (ofEvents .empty .standard others).summary? "r" := by
  intro waiting events others own
  have hsame : events.filter own = others.filter own := by decide
  have hevents : Undisturbed .empty .standard "r" events := by decide
  have hothers : Undisturbed .empty .standard "r" others := by decide
  obtain ⟨hsteps, hsummary⟩ := run_alone .empty .standard "r" events others hsame
  exact ⟨⟨hsame, hevents, hothers⟩, hsteps hevents hothers, hsummary⟩

end Ledger

end RunWatch
