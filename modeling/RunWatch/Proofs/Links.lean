import Mathlib.Data.List.Induction
import RunWatch.Links

/-!
# Runs that are known as children

A run is known as a child once an event of the stream names it as one, and nothing takes this
knowledge back. `Event.NamesChild` lists the three ways in which an event may do so.

* `Links.isChild_record_iff`: what one event adds to the runs that are known as children.
* `Links.isChild_ofEvents_iff`: the children of a stream are the runs that its events name.
-/

namespace RunWatch

/-- An event names a run as a child: it links the run to a node, it is a trace of the run with
another run as its parent, or it starts the run below a parent. -/
inductive Event.NamesChild (run : String) : Event → Prop where
  | link {runId nodeId : String} (hrunId : runId ≠ "") (hnodeId : nodeId ≠ "") (hrun : run ≠ "") :
      NamesChild run (.subworkflowUpdate runId nodeId run)
  | trace {nodeId parent : String} {steps : List Json} (hrun : run ≠ "") (hnodeId : nodeId ≠ "")
      (hparent : parent ≠ "") (hother : parent ≠ run) :
      NamesChild run (.traceUpdate run nodeId (some parent) steps)
  | start {parent : String} {ts : Option Instant} (hrun : run ≠ "") (hparent : parent ≠ "") :
      NamesChild run (.flowStart run (some parent) ts)

/-- The start of a run without a parent names no child. -/
theorem Event.not_namesChild_of_isRootStart {e : Event} (h : e.isRootStart = true) (run : String) :
    ¬ e.NamesChild run := by
  rintro (⟨hrunId, hnodeId, hrun⟩ | ⟨hrun, hnodeId, hparent, hother⟩ | ⟨hrun, hparent⟩)
  · cases h
  · cases h
  · simp [isRootStart, Text.full?, hparent] at h

namespace Links

section

variable (l : Links) (key : NodeKey) (run runId : String)

theorem isChild_addChild :
    (l.addChild key run).isChild runId = (decide (run = runId) || l.isChild runId) := by
  unfold isChild addChild
  rw [Table.contains_insert, Bool.or_assoc]

theorem isChild_addAgentRun :
    (l.addAgentRun key run).isChild runId = (decide (run = runId) || l.isChild runId) := by
  unfold isChild addAgentRun
  rw [Table.contains_insertIfNew, Bool.or_assoc]

theorem isChild_addDeclared :
    (l.addDeclared run).isChild runId = (decide (run = runId) || l.isChild runId) := by
  unfold addDeclared
  split
  · next hknown =>
    -- A run that has been declared before is a child already.
    have hchild : l.isChild run = true := by
      unfold isChild
      rw [hknown, Bool.or_true]
    by_cases h : run = runId
    · subst h
      simp [hchild]
    · simp [h]
  · unfold isChild
    rw [Bool.eq_iff_iff]
    simp only [List.contains_eq_mem, List.mem_append, List.mem_singleton, Bool.or_eq_true,
      decide_eq_true_eq]
    rw [← or_assoc, or_comm, eq_comm]

end

/-- What one event adds to the runs that are known as children. -/
theorem isChild_record_iff (l : Links) (e : Event) (run : String) :
    (l.record e).isChild run = true ↔ l.isChild run = true ∨ e.NamesChild run := by
  -- An event that links nothing must not name the run, and one that links must name it alone.
  have hnone (hname : ¬ e.NamesChild run) :
      l.isChild run = true ↔ l.isChild run = true ∨ e.NamesChild run := by
    simp only [hname, or_false]
  have hadd {child : String} (hname : e.NamesChild run ↔ child = run) :
      (decide (child = run) || l.isChild run) = true ↔
        l.isChild run = true ∨ e.NamesChild run := by
    rw [hname, Bool.or_eq_true, decide_eq_true_eq, or_comm]
  cases e with
  | subworkflowUpdate runId nodeId subRunId =>
    simp only [record]
    split
    · next hempty =>
      refine hnone ?_
      rintro ⟨hrunId, hnodeId, hrun⟩
      simp_all
    · next hfull =>
      simp only [not_or] at hfull
      rw [isChild_addChild]
      refine hadd ⟨?_, ?_⟩
      · rintro ⟨⟩
        rfl
      · rintro rfl
        exact .link hfull.1 hfull.2.1 hfull.2.2
  | traceUpdate runId nodeId parentRunId steps =>
    cases parentRunId with
    | none => exact hnone nofun
    | some parent =>
      simp only [record]
      split
      · next hempty =>
        refine hnone ?_
        rintro ⟨⟩
        simp_all
      · next hfull =>
        simp only [not_or] at hfull
        rw [isChild_addAgentRun]
        refine hadd ⟨?_, ?_⟩
        · rintro ⟨⟩
          rfl
        · rintro rfl
          exact .trace hfull.1 hfull.2.1 hfull.2.2.1 hfull.2.2.2
  | flowStart runId parentRunId ts =>
    cases parentRunId with
    | none => exact hnone nofun
    | some parent =>
      simp only [record]
      split
      · next hempty =>
        refine hnone ?_
        rintro ⟨⟩
        simp_all
      · next hfull =>
        simp only [not_or] at hfull
        rw [isChild_addDeclared]
        refine hadd ⟨?_, ?_⟩
        · rintro ⟨⟩
          rfl
        · rintro rfl
          exact .start hfull.1 hfull.2
  | flowComplete | flowCancelled | nodeStart | nodeComplete | flowWaiting | flowError | unknown =>
    exact hnone nofun

theorem ofEvents_append_singleton (events : List Event) (e : Event) :
    ofEvents (events ++ [e]) = (ofEvents events).record e := by
  rw [ofEvents, List.foldl_append]
  rfl

/-- The children of a stream are the runs that its events name as children. -/
theorem isChild_ofEvents_iff (events : List Event) (run : String) :
    (ofEvents events).isChild run = true ↔ ∃ e ∈ events, e.NamesChild run := by
  induction events using List.reverseRecOn with
  | nil => simp [ofEvents, empty, isChild, Table.contains]
  | append_singleton events e ih =>
    rw [ofEvents_append_singleton, isChild_record_iff, ih]
    simp only [List.mem_append, List.mem_singleton]
    constructor
    · rintro (⟨e', he', hname⟩ | hname)
      · exact ⟨e', .inl he', hname⟩
      · exact ⟨e, .inr rfl, hname⟩
    · rintro ⟨e', he' | rfl, hname⟩
      · exact .inl ⟨e', he', hname⟩
      · exact .inr hname

/-- A run that is known as a child stays one. -/
theorem isChild_ofEvents_append {events : List Event} {run : String}
    (h : (ofEvents events).isChild run = true) (more : List Event) :
    (ofEvents (events ++ more)).isChild run = true := by
  obtain ⟨e, he, hname⟩ := (isChild_ofEvents_iff events run).1 h
  exact (isChild_ofEvents_iff _ run).2 ⟨e, List.mem_append_left more he, hname⟩

/-! ### Runs of agents -/

/-- An event that is no trace of a run below another one leaves the runs of agents as they are. -/
theorem agentRuns_record_of_no_trace {e : Event} (l : Links)
    (h : ∀ run nodeId parent steps, e = .traceUpdate run nodeId (some parent) steps →
      parent = "" ∨ parent = run) : (l.record e).agentRuns = l.agentRuns := by
  cases e with
  | traceUpdate run nodeId parentRunId steps =>
    cases parentRunId with
    | none => rfl
    | some parent =>
      have hparent := h run nodeId parent steps rfl
      rw [record, if_pos (.inr (.inr hparent))]
  | subworkflowUpdate runId nodeId subRunId =>
    simp only [record]
    split <;> rfl
  | flowStart runId parentRunId ts =>
    cases parentRunId with
    | none => rfl
    | some parent =>
      simp only [record, addDeclared]
      split
      · rfl
      · split <;> rfl
  | flowComplete | flowCancelled | nodeStart | nodeComplete | flowWaiting | flowError | unknown =>
    rfl

/-- Without a trace of a run below another one, no node has the run of an agent. -/
theorem agentRunOf?_ofEvents_eq_none {events : List Event}
    (h : ∀ run nodeId parent steps, .traceUpdate run nodeId (some parent) steps ∈ events →
      parent = "" ∨ parent = run) (key : NodeKey) : (ofEvents events).agentRunOf? key = none := by
  have hempty : (ofEvents events).agentRuns = .empty := by
    induction events using List.reverseRecOn with
    | nil => rfl
    | append_singleton events e ih =>
      have hbefore := ih fun run nodeId parent steps he =>
        h run nodeId parent steps (List.mem_append_left _ he)
      rw [ofEvents_append_singleton, agentRuns_record_of_no_trace, hbefore]
      rintro run nodeId parent steps rfl
      exact h run nodeId parent steps (by simp)
  rw [agentRunOf?, hempty]
  rfl

end Links

end RunWatch
