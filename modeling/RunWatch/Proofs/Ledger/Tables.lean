import RunWatch.Proofs.Ledger.Recorded

/-!
# What one event does to the tables

Beside its steps a ledger keeps the places of the steps of each run, the place of the step with each
identifier, and what is known of each run. An event enters one new step into all three, or it leaves
the steps and their places alone and tells something of one run at most (`Ledger.Filed`).
-/

namespace RunWatch

open Text

namespace Ledger

/-- What an event at a place of the stream may make of a ledger, its open steps apart. -/
inductive Filed (place : Nat) (l : Ledger) (l' : Ledger) : Prop where
  | add {s : Step} (hs : s.arrival = place) (hsteps : l'.steps = l.steps ++ [s])
      (hbyRun : l'.byRun = (l.addStep s).byRun) (hbyId : l'.byId = (l.addStep s).byId)
      (hsummaries : l'.summaries = (l.addStep s).summaries)
  | keep (hids : l'.steps.map Step.id = l.steps.map Step.id) (hbyRun : l'.byRun = l.byRun)
      (hbyId : l'.byId = l.byId)
      (hsummaries : l'.summaries = l.summaries ∨
        ∃ runId f, l'.summaries = (l.modifyRun runId f).summaries)

namespace Filed

variable {l : Ledger} {place : Nat}

/-! ### Single changes -/

theorem refl (l : Ledger) : l.Filed place l := .keep rfl rfl rfl (.inl rfl)

theorem addStep {s : Step} (hs : s.arrival = place) : l.Filed place (l.addStep s) :=
  .add hs rfl rfl rfl rfl

theorem addOpenStep {s : Step} (hs : s.arrival = place) : l.Filed place (l.addOpenStep s) :=
  .add hs rfl rfl rfl rfl

theorem modifyRun (runId : String) (f : RunSummary → RunSummary) :
    l.Filed place (l.modifyRun runId f) :=
  .keep rfl rfl rfl (.inr ⟨runId, f, rfl⟩)

theorem map_id_modify {i : Nat} {f : Step → Step} (hf : ∀ s, (f s).id = s.id) (steps : List Step) :
    (steps.modify i f).map Step.id = steps.map Step.id := by
  refine List.ext_getElem? fun j => ?_
  rw [List.getElem?_map, List.getElem?_map, List.getElem?_modify]
  by_cases hij : i = j
  · cases steps[j]? <;> simp [hij, hf]
  · simp [hij]

theorem modifyStep {i : Nat} {f : Step → Step} (hf : ∀ s, (f s).id = s.id) :
    l.Filed place (l.modifyStep i f) :=
  .keep (map_id_modify hf l.steps) rfl rfl (.inl rfl)

theorem closeStep {key : NodeKey} {i : Nat} {f : Step → Step} (hf : ∀ s, (f s).id = s.id) :
    l.Filed place ((l.closeNode key).modifyStep i f) :=
  .keep (map_id_modify hf l.steps) rfl rfl (.inl rfl)

/-! ### Events -/

theorem completeStep (key : NodeKey) (nodeType : Option String) (c : Completion) :
    l.Filed place (l.completeStep place key nodeType c) := by
  unfold Ledger.completeStep
  simp only
  split
  · exact closeStep fun _ => rfl
  · split
    · exact modifyStep fun _ => rfl
    · exact addStep rfl

theorem pauseRun (runId : String) (waiting : WaitingInfo) :
    l.Filed place (l.pauseRun runId waiting) := by
  unfold Ledger.pauseRun
  split
  · exact modifyStep fun _ => rfl
  · exact refl l

theorem pauseStep (key : NodeKey) (waiting : WaitingInfo) (ts : Option Instant) :
    l.Filed place (l.pauseStep place key waiting ts) := by
  unfold Ledger.pauseStep
  split
  · exact modifyStep fun _ => rfl
  · exact addOpenStep rfl

theorem failStep (key : NodeKey) (message : String) (ts : Option Instant) :
    l.Filed place (l.failStep place key message ts) := by
  unfold Ledger.failStep
  split
  · exact closeStep fun _ => rfl
  · exact addStep rfl

/-- A failure that is noted on a step, after it was told of a run or of none. -/
theorem blameStep {m : Ledger} (hm : m = l ∨ ∃ runId f, m = l.modifyRun runId f) (message : String)
    (ts : Option Instant) (i : Nat) : l.Filed place (m.blameStep message ts i) := by
  have hids : (m.blameStep message ts i).steps.map Step.id = m.steps.map Step.id := by
    rw [Indexed.steps_blameStep]
    exact map_id_modify (fun s => (Step.Revised.blame message ts).id_eq) m.steps
  have htables : (m.blameStep message ts i).byRun = m.byRun ∧
      (m.blameStep message ts i).byId = m.byId ∧
      (m.blameStep message ts i).summaries = m.summaries := by
    unfold Ledger.blameStep
    simp only
    split <;> exact ⟨rfl, rfl, rfl⟩
  obtain ⟨hbyRun, hbyId, hsummaries⟩ := htables
  rcases hm with rfl | ⟨runId, f, rfl⟩
  · exact .keep hids hbyRun hbyId (.inl hsummaries)
  · exact .keep hids hbyRun hbyId (.inr ⟨runId, f, hsummaries⟩)

theorem failRun (runId message : String) (ts : Option Instant) :
    l.Filed place (l.failRun runId message ts) := by
  unfold Ledger.failRun
  simp only
  by_cases hrun : runId = ""
  · rw [if_pos hrun]
    split
    · exact blameStep (.inl rfl) message ts _
    · exact refl l
  · rw [if_neg hrun]
    split
    · exact blameStep (.inr ⟨runId, _, rfl⟩) message ts _
    · exact modifyRun runId _

theorem record (l : Ledger) (place : Nat) (e : Event) : l.Filed place (l.record place e) := by
  cases e with
  | nodeStart =>
    simp only [Ledger.record]
    split
    · exact refl l
    · exact addOpenStep rfl
  | nodeComplete =>
    simp only [Ledger.record]
    split
    · exact refl l
    · exact completeStep _ _ _
  | flowWaiting _ nodeId =>
    simp only [Ledger.record]
    split
    · exact refl l
    · cases nodeId.bind full? with
      | some nodeId => exact pauseStep _ _ _
      | none => exact pauseRun _ _
  | flowError _ nodeId =>
    simp only [Ledger.record]
    cases nodeId.bind full? with
    | some nodeId =>
      simp only
      split
      · exact refl l
      · exact failStep _ _ _
    | none => exact failRun _ _ _
  | flowStart | flowComplete | flowCancelled =>
    simp only [Ledger.record]
    split
    · exact refl l
    · exact modifyRun _ _
  | subworkflowUpdate | traceUpdate | unknown => exact refl l

theorem apply (l : Ledger) (e : Event) : l.Filed l.arrival (l.apply e) := by
  cases record l l.arrival e with
  | add hs hsteps hbyRun hbyId hsummaries => exact .add hs hsteps hbyRun hbyId hsummaries
  | keep hids hbyRun hbyId hsummaries => exact .keep hids hbyRun hbyId hsummaries

/-! ### Runs -/

/-- A run that comes to be known is the last one. -/
theorem runs_eq_or {l' : Ledger} (h : l.Filed place l') :
    l'.runs = l.runs ∨ ∃ new, new ∉ l.runs ∧ l'.runs = l.runs ++ [new] := by
  have hmodified (run : String) (f : RunSummary → RunSummary) : (l.modifyRun run f).runs = l.runs ∨
      ∃ new, new ∉ l.runs ∧ (l.modifyRun run f).runs = l.runs ++ [new] := by
    by_cases hknown : run ∈ l.runs
    · left
      exact (Table.keys_insert ..).trans (if_pos hknown)
    · right
      exact ⟨run, hknown, (Table.keys_insert ..).trans (if_neg hknown)⟩
  cases h with
  | @add s _ _ _ _ hsummaries =>
    rw [runs, hsummaries]
    exact hmodified s.runId fun summary => summary
  | keep _ _ _ hsummaries =>
    rcases hsummaries with hsame | ⟨run, f, hrun⟩
    · left
      rw [runs, hsame, runs]
    · rw [runs, hrun]
      exact hmodified run f

end Filed

theorem filed_ofEvents (catalog : Catalog) (config : LedgerConfig) (events : List Event)
    (e : Event) : (ofEvents catalog config events).Filed events.length
      (ofEvents catalog config (events ++ [e])) := by
  rw [ofEvents_append_singleton, ← arrival_ofEvents catalog config events]
  exact .apply _ e

end Ledger

end RunWatch
