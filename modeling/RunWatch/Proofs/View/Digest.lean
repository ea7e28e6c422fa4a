import RunWatch.Proofs.Ledger.Matching
import RunWatch.Proofs.View.Isolation

/-!
# The digest of a run

What is known of a run as a whole can be read off its events, one field at a time: each field is the
last value that the events of the run give for it (`RunSummary.digest`), and how the run ended is
told by the last event that ends it. The order of events of different kinds does not matter, nor do
the events of nodes, which say no more than that the run exists.

* `RunSummary.digest_append_singleton`: a report changes the digest as it changes what is known.
* `RunView.summary_eq_digest`: what a ledger knows of a run, and when a view of it has ended.
-/

namespace RunWatch

open Text

/-! ### What an event says of its run -/

namespace Event

/-- How an event ends its run, if it does. A failure that names a node does not. -/
def ending? : Event → Option RunStatus
  | flowComplete .. => some .completed
  | flowCancelled .. => some .cancelled
  | flowError _ nodeId .. => if (nodeId.bind full?).isNone then some .failed else none
  | _ => none

/-- Whether an event is one of a run as a whole. -/
def isOfRun (e : Event) : Bool :=
  match e with
  | flowStart .. => true
  | _ => e.ending?.isSome

/-- The time at which an event starts its run. -/
def startTime? : Event → Option Instant
  | flowStart _ _ ts => ts
  | _ => none

/-- The time at which an event ends its run. -/
def endTime? (e : Event) : Option Instant :=
  match e with
  | flowComplete _ _ ts | flowCancelled _ ts | flowError _ _ _ ts => e.ending?.bind fun _ => ts
  | _ => none

/-- The parent that the start of a run declares. -/
def declaredParent? : Event → Option String
  | flowStart _ parentRunId _ => parentRunId.bind full?
  | _ => none

/-- The details of the end of a run, which may be missing there. -/
def finalDetails? : Event → Option (Option Json)
  | flowComplete _ details _ => some details
  | _ => none

/-- What the failure of a run says. -/
def runError? (e : Event) : Option String :=
  match e with
  | flowError _ _ error _ => e.ending?.map fun _ => errorText error
  | _ => none

end Event

namespace RunSummary

/-- What some events of a run say of it, field by field. -/
def digest (runId : String) (events : List Event) : RunSummary where
  runId := runId
  parentRunId := lastValue? Event.declaredParent? events
  status := (lastValue? Event.ending? events).getD .running
  details := (lastValue? Event.finalDetails? events).join
  metrics := (lastValue? Event.finalDetails? events).join.bind Metrics.ofDetails?
  error := lastValue? Event.runError? events
  startedAt := lastValue? Event.startTime? events
  endedAt := lastValue? Event.endTime? events

variable (runId : String)

/-- A report changes the digest of the events before it; an event without one changes nothing. -/
theorem digest_append_singleton (events : List Event) (e : Event) :
    digest runId (events ++ [e]) = (e.report?.getD id) (digest runId events) := by
  simp only [digest, lastValue?_append_singleton]
  cases e with
  | flowStart run parentRunId ts => rfl
  | flowComplete run details ts => rfl
  | flowCancelled run ts => rfl
  | flowError run nodeId error ts =>
    simp only [Event.report?, Event.ending?, Event.endTime?, Event.runError?]
    cases nodeId.bind full? <;> rfl
  | nodeStart run nodeId | nodeComplete run nodeId =>
    simp only [Event.report?]
    cases full? nodeId <;> rfl
  | flowWaiting run nodeId =>
    simp only [Event.report?]
    cases nodeId.bind full? <;> rfl
  | subworkflowUpdate | traceUpdate | unknown => rfl

theorem getD_foldl_told (events : List Event) :
    (events.foldl (told runId) none).getD (.fresh runId) = digest runId events := by
  induction events using List.reverseRecOn with
  | nil => rfl
  | append_singleton events e ih =>
    rw [List.foldl_append, digest_append_singleton, ← ih]
    cases hreport : e.report? <;> simp [told, hreport, after]

theorem isSome_foldl_told (events : List Event) :
    (events.foldl (told runId) none).isSome = events.any fun e => e.report?.isSome := by
  induction events using List.reverseRecOn with
  | nil => rfl
  | append_singleton events e ih =>
    rw [List.foldl_append, List.any_append, ← ih]
    cases hreport : e.report? <;> simp [told, hreport]

theorem isTerminal_digest (events : List Event) :
    (digest runId events).status.isTerminal = events.any fun e => e.ending?.isSome := by
  have hending : ∀ e : Event, ∀ status, e.ending? = some status → status.isTerminal = true := by
    intro e status h
    cases e <;> simp [Event.ending?] at h
    all_goals simp [← h, RunStatus.isTerminal]
  rw [← isSome_lastValue?, digest]
  cases hlast : lastValue? Event.ending? events with
  | none => rfl
  | some status =>
    obtain ⟨e, -, he⟩ := exists_of_lastValue?_eq_some hlast
    exact hending e status he

end RunSummary

/-! ### When a run is known -/

namespace Event

variable {e : Event} {runId : String}

theorem isSome_report?_of_isOfRun (h : e.isOfRun = true) : e.report?.isSome = true := by
  cases e with
  | flowError run nodeId error ts =>
    simp only [report?]
    cases nodeId.bind full? <;> rfl
  | flowStart | flowComplete | flowCancelled => rfl
  | nodeStart | nodeComplete | flowWaiting | subworkflowUpdate | traceUpdate | unknown => cases h

/-- An event that reports on a run is one of the run as a whole, or it names a node. -/
theorem isOfRun_or_addresses (hrun : e.runId? = some runId) (h : e.report?.isSome = true) :
    e.isOfRun = true ∨ ∃ nodeId, e.addresses ⟨runId, nodeId⟩ = true := by
  cases e with
  | flowStart | flowComplete | flowCancelled => exact .inl rfl
  | flowError run nodeId error ts =>
    cases hnode : nodeId.bind full? with
    | none => exact .inl (by simp [isOfRun, ending?, hnode])
    | some node => exact .inr ⟨node, by simp [addresses, isOfSteps, hrun, nodeId?, hnode]⟩
  | nodeStart run nodeId | nodeComplete run nodeId =>
    cases hnode : full? nodeId with
    | none => simp [report?, hnode] at h
    | some node => exact .inr ⟨node, by simp [addresses, isOfSteps, hrun, nodeId?, hnode]⟩
  | flowWaiting run nodeId =>
    cases hnode : nodeId.bind full? with
    | none => simp [report?, hnode] at h
    | some node => exact .inr ⟨node, by simp [addresses, isOfSteps, hrun, nodeId?, hnode]⟩
  | subworkflowUpdate | traceUpdate | unknown => cases h

end Event

namespace Ledger

section

variable {l : Ledger} {s : Step} {key : NodeKey} {place : Nat}

theorem hasSteps_addStep_self : (l.addStep s).hasSteps s.runId = true := by
  rw [hasSteps, places_addStep, if_pos rfl]
  simp

theorem hasSteps_completeStep (hl : l.Indexed) (nodeType : Option String) (c : Completion) :
    (l.completeStep place key nodeType c).hasSteps key.runId = true := by
  unfold completeStep
  simp only
  split
  · next hi =>
    show l.hasSteps key.runId = true
    exact hasSteps_of_openSteps hl hi
  · split
    · next hd =>
      show l.hasSteps key.runId = true
      exact hasSteps_of_duplicate? hl hd
    · exact hasSteps_addStep_self

theorem hasSteps_pauseStep (hl : l.Indexed) (waiting : WaitingInfo) (ts : Option Instant) :
    (l.pauseStep place key waiting ts).hasSteps key.runId = true := by
  unfold pauseStep
  split
  · next hi =>
    show l.hasSteps key.runId = true
    exact hasSteps_of_openSteps hl hi
  · exact hasSteps_addStep_self

theorem hasSteps_failStep (hl : l.Indexed) (message : String) (ts : Option Instant) :
    (l.failStep place key message ts).hasSteps key.runId = true := by
  unfold failStep
  split
  · next hi =>
    show l.hasSteps key.runId = true
    exact hasSteps_of_openSteps hl hi
  · exact hasSteps_addStep_self

/-- After an event of a node its run has steps, whether the event makes one or meets one. -/
theorem hasSteps_apply_of_addresses (hl : l.Indexed) {e : Event} (h : e.addresses key = true) :
    (l.apply e).hasSteps key.runId = true := by
  change (l.record l.arrival e).hasSteps key.runId = true
  cases Event.ofNode_of_addresses h with
  | start nodeType ts hrun hnode =>
    rw [record, if_neg (not_or.2 ⟨hrun, hnode⟩)]
    exact hasSteps_addStep_self
  | complete nodeType result details ts hrun hnode =>
    rw [record, if_neg (not_or.2 ⟨hrun, hnode⟩)]
    exact hasSteps_completeStep hl ..
  | wait nodeId waiting ts hrun hnode =>
    simp only [record, hrun, if_false, hnode]
    exact hasSteps_pauseStep hl ..
  | error nodeId error ts hrun hnode =>
    simp only [record, hrun, if_false, hnode]
    exact hasSteps_failStep hl ..

theorem Filed.hasSteps {l' : Ledger} (h : l.Filed place l') {runId : String}
    (hsteps : l.hasSteps runId = true) : l'.hasSteps runId = true := by
  cases h with
  | @add s _ _ hbyRun =>
    have hplaces : l'.places runId = (l.addStep s).places runId := by rw [places, hbyRun, places]
    rw [Ledger.hasSteps, hplaces, places_addStep]
    rw [Ledger.hasSteps] at hsteps
    simp [List.append_eq_nil_iff] at hsteps ⊢
    exact fun hnil => absurd hnil hsteps
  | keep _ hbyRun => rwa [Ledger.hasSteps, places, hbyRun]

end

variable {catalog : Catalog} {config : LedgerConfig} {events : List Event} {runId : String}

theorem hasSteps_of_mem {e : Event} {key : NodeKey} (he : e ∈ events)
    (h : e.addresses key = true) : (ofEvents catalog config events).hasSteps key.runId = true := by
  induction events using List.reverseRecOn with
  | nil => cases he
  | append_singleton events last ih =>
    rcases List.mem_append.1 he with he | he
    · exact (filed_ofEvents catalog config events last).hasSteps (ih he)
    · rw [← List.mem_singleton.1 he, ofEvents_append_singleton]
      exact hasSteps_apply_of_addresses (indexed_ofEvents catalog config events) h

/-- A run is known from its own events or by its steps. -/
theorem isSome_summary?_ofEvents : ((ofEvents catalog config events).summary? runId).isSome =
    ((events.filter fun e => e.runId? == some runId).any Event.isOfRun ||
      (ofEvents catalog config events).hasSteps runId) := by
  have hknown : ((ofEvents catalog config events).summary? runId).isSome =
      (events.filter fun e => e.runId? == some runId).any fun e => e.report?.isSome := by
    rw [summary?_ofEvents, RunSummary.isSome_foldl_told]
  rw [Bool.eq_iff_iff, Bool.or_eq_true]
  constructor
  · intro h
    rw [hknown] at h
    obtain ⟨e, he, hreport⟩ := List.any_eq_true.1 h
    obtain ⟨he, hrun⟩ := List.mem_filter.1 he
    rcases Event.isOfRun_or_addresses (beq_iff_eq.1 hrun) hreport with hown | ⟨nodeId, haddr⟩
    · exact .inl (List.any_eq_true.2 ⟨e, List.mem_filter.2 ⟨he, hrun⟩, hown⟩)
    · exact .inr (hasSteps_of_mem he haddr)
  · rintro (h | h)
    · rw [hknown]
      obtain ⟨e, he, hown⟩ := List.any_eq_true.1 h
      exact List.any_eq_true.2 ⟨e, he, Event.isSome_report?_of_isOfRun hown⟩
    · exact knowsRuns_ofEvents catalog config events runId h

/-- What a ledger knows of a run is the digest of the events of the run, once there is one of the
run as a whole or a step. -/
theorem summary?_eq_digest : (ofEvents catalog config events).summary? runId =
    let own := events.filter fun e => e.runId? == some runId
    if (own.any Event.isOfRun || (ofEvents catalog config events).hasSteps runId) = true then
      some (.digest runId own) else none := by
  show _ = if _ then some (RunSummary.digest runId _) else none
  rw [← isSome_summary?_ofEvents, ← RunSummary.getD_foldl_told, ← summary?_ofEvents]
  cases (ofEvents catalog config events).summary? runId <;> rfl

/-- A run has ended when one of its events ends it. -/
theorem any_isTerminal_summary?_ofEvents :
    (((ofEvents catalog config events).summary? runId).any fun s => s.status.isTerminal) =
      (events.filter fun e => e.runId? == some runId).any fun e => e.ending?.isSome := by
  rw [← RunSummary.isTerminal_digest runId, ← RunSummary.getD_foldl_told, ← summary?_ofEvents]
  cases (ofEvents catalog config events).summary? runId <;> rfl

end Ledger

/-! ### The view of a run -/

namespace RunView

open Ledger

/-- What a ledger knows of a run is the digest of the run's events, and it knows a run with an event
of the run as a whole or a step. A run that has ended stays so whatever events follow, and a view of
the run has ended when one of the run's events ends it. -/
theorem summary_eq_digest (catalog : Catalog) (config : LedgerConfig) (events : List Event)
    (runId : String) :
    let own := events.filter fun e => e.runId? == some runId
    let l := Ledger.ofEvents catalog config events
    (l.summary? runId = if own.any Event.isOfRun || l.hasSteps runId then
      some (.digest runId own) else none) ∧
    (∀ s more, l.summary? runId = some s → s.status.isTerminal = true →
      ∃ s', (Ledger.ofEvents catalog config (events ++ more)).summary? runId = some s' ∧
        s'.status.isTerminal = true) ∧
    ((derive events catalog config).rootRunId = some runId →
      ((derive events catalog config).isTerminal = true ↔ ∃ e ∈ own, e.ending?.isSome = true)) := by
  intro own l
  refine ⟨summary?_eq_digest, fun s more hs hended => ?_, fun hroot => ?_⟩
  · have hbefore : ((l.summary? runId).any fun s => s.status.isTerminal) = true := by
      rw [hs]
      exact hended
    rw [any_isTerminal_summary?_ofEvents] at hbefore
    rw [← Option.any_eq_true, any_isTerminal_summary?_ofEvents, List.filter_append, List.any_append,
      hbefore, Bool.true_or]
  · rw [rootRunId_derive] at hroot
    have hended : ((derive events catalog config).summary.any fun s => s.status.isTerminal) =
        own.any fun e => e.ending?.isSome := by
      rw [derive_eq_ofRoot hroot]
      exact any_isTerminal_summary?_ofEvents
    rw [isTerminal_derive, hended, List.any_eq_true]

/-- A run that finishes, fails after that and is then cancelled without a time, and of which a start
comes last. It counts as cancelled, with the metrics of its end and the message and the time of its
failure; the failure of its node says nothing of the run. -/
theorem summary_eq_digest_of_late_cancel :
    let t : Instant := ⟨5, 0, by decide, by decide, by decide, by decide⟩
    let later : Instant := ⟨8, 0, by decide, by decide, by decide, by decide⟩
    let details : Json := .object [("note", .string "done"), ("total_tokens", .ofNat 7)]
    let events : List Event := [.flowError "r" (some "a") (some (.string "of a node")) none,
      .flowComplete "r" (some details) (some t),
      .flowError "r" none (some (.string "out of credit")) (some later),
      .flowCancelled "r" none, .flowStart "r" none none]
    let v := derive events .empty .standard
    (v.rootRunId = some "r" ∧ v.isTerminal = true) ∧
      v.ledger.summary? "r" = some ⟨"r", none, .cancelled, some details,
        some { Metrics.empty with totalTokens := some 7 }, some "out of credit", none,
        some later⟩ := by
  intro t later details events v
  have hroot : v.rootRunId = some "r" := by decide +kernel
  obtain ⟨hsummary, -, hterminal⟩ := summary_eq_digest .empty .standard events "r"
  refine ⟨⟨hroot, (hterminal hroot).2 ⟨.flowCancelled "r" none, by decide, rfl⟩⟩, ?_⟩
  rw [ledger_derive, hsummary]
  decide +kernel

end RunView

end RunWatch
