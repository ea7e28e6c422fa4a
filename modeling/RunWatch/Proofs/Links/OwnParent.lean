import RunWatch.Proofs.View.Root

/-!
# Runs that are their own parents

An event that makes a run a child names its parent (`Event.NamesParent`). A trace of a run below
itself is ignored, but an explicit link and the start of a run are not looked at in this way: when
such an event names a run as its own parent, the run is known as a child all the same.

* `Links.isChild_by_another_iff`: when a run that is known as a child has another run as its parent,
  which events name a run as its own parent, and that such a run is never the root run.
* `Links.isChild_by_itself`: a stream of one run, which is its own parent.
-/

namespace RunWatch

/-- An event names `parent` as the parent of `run`: it links the run to a node of the parent, it is
a trace of the run below another run, or it starts the run below the parent. -/
inductive Event.NamesParent (run parent : String) : Event → Prop where
  | link {nodeId : String} (hparent : parent ≠ "") (hnodeId : nodeId ≠ "") (hrun : run ≠ "") :
      NamesParent run parent (.subworkflowUpdate parent nodeId run)
  | trace {nodeId : String} {steps : List Json} (hrun : run ≠ "") (hnodeId : nodeId ≠ "")
      (hparent : parent ≠ "") (hother : parent ≠ run) :
      NamesParent run parent (.traceUpdate run nodeId (some parent) steps)
  | start {ts : Option Instant} (hrun : run ≠ "") (hparent : parent ≠ "") :
      NamesParent run parent (.flowStart run (some parent) ts)

namespace Event

variable {e : Event} {run : String}

theorem namesChild_iff_exists_parent : e.NamesChild run ↔ ∃ parent, e.NamesParent run parent := by
  constructor
  · rintro (⟨hparent, hnodeId, hrun⟩ | ⟨hrun, hnodeId, hparent, hother⟩ | ⟨hrun, hparent⟩)
    · exact ⟨_, .link hparent hnodeId hrun⟩
    · exact ⟨_, .trace hrun hnodeId hparent hother⟩
    · exact ⟨_, .start hrun hparent⟩
  · rintro ⟨parent, ⟨hparent, hnodeId, hrun⟩ | ⟨hrun, hnodeId, hparent, hother⟩ | ⟨hrun, hparent⟩⟩
    · exact .link hparent hnodeId hrun
    · exact .trace hrun hnodeId hparent hother
    · exact .start hrun hparent

/-- An explicit link and the start of a run may name the run as its own parent, but no trace does. -/
theorem namesParent_self_iff :
    e.NamesParent run run ↔ run ≠ "" ∧
      ((∃ nodeId, nodeId ≠ "" ∧ e = .subworkflowUpdate run nodeId run) ∨
        ∃ ts, e = .flowStart run (some run) ts) := by
  constructor
  · rintro (⟨-, hnodeId, hrun⟩ | ⟨-, -, -, hother⟩ | ⟨hrun, -⟩)
    · exact ⟨hrun, .inl ⟨_, hnodeId, rfl⟩⟩
    · exact absurd rfl hother
    · exact ⟨hrun, .inr ⟨_, rfl⟩⟩
  · rintro ⟨hrun, ⟨nodeId, hnodeId, rfl⟩ | ⟨ts, rfl⟩⟩
    · exact .link hrun hnodeId hrun
    · exact .start hrun hrun

end Event

namespace Links

variable {events : List Event} {run : String}

/-- Some event names another run as the parent of a run. -/
def HasOtherParent (events : List Event) (run : String) : Prop :=
  ∃ e ∈ events, ∃ parent, parent ≠ run ∧ e.NamesParent run parent

/-- A run is known as a child when another run is named as its parent, or the run itself is. -/
theorem isChild_iff_hasOtherParent_or :
    (ofEvents events).isChild run = true ↔
      HasOtherParent events run ∨ ∃ e ∈ events, e.NamesParent run run := by
  simp only [isChild_ofEvents_iff, Event.namesChild_iff_exists_parent]
  constructor
  · rintro ⟨e, he, parent, hparent⟩
    by_cases hself : parent = run
    · subst hself
      exact .inr ⟨e, he, hparent⟩
    · exact .inl ⟨e, he, parent, hself, hparent⟩
  · rintro (⟨e, he, parent, -, hparent⟩ | ⟨e, he, hself⟩)
    · exact ⟨e, he, parent, hparent⟩
    · exact ⟨e, he, run, hself⟩

theorem isChild_of_namesParent_self {e : Event} (he : e ∈ events) (h : e.NamesParent run run) :
    (ofEvents events).isChild run = true :=
  isChild_iff_hasOtherParent_or.2 (.inr ⟨e, he, h⟩)

/-- A run is known as a child when events name another run as its parent, or the run itself. So it
is always the child of another run exactly when it is not the run itself alone that they name. An
explicit link or a start may name the run itself, and a trace never does. A run that is named as its
own parent is known as a child, and is not the root run. -/
theorem isChild_by_another_iff (events : List Event) (run : String) :
    let links := ofEvents events
    (links.isChild run = true ↔
        HasOtherParent events run ∨ ∃ e ∈ events, e.NamesParent run run) ∧
      ((links.isChild run = true → HasOtherParent events run) ↔
        ((∃ e ∈ events, e.NamesParent run run) → HasOtherParent events run)) ∧
      (∀ e : Event, e.NamesParent run run ↔ run ≠ "" ∧
        ((∃ nodeId, nodeId ≠ "" ∧ e = .subworkflowUpdate run nodeId run) ∨
          ∃ ts, e = .flowStart run (some run) ts)) ∧
      ∀ e ∈ events, e.NamesParent run run →
        links.isChild run = true ∧ rootRunId? events links ≠ some run := by
  intro links
  refine ⟨isChild_iff_hasOtherParent_or, ⟨fun hlaw hself => ?_, fun hself hchild => ?_⟩,
    fun e => Event.namesParent_self_iff, fun e he hself => ?_⟩
  · obtain ⟨e, he, hname⟩ := hself
    exact hlaw (isChild_of_namesParent_self he hname)
  · rcases isChild_iff_hasOtherParent_or.1 hchild with hother | hname
    · exact hother
    · exact hself hname
  · have hchild : links.isChild run = true := isChild_of_namesParent_self he hself
    refine ⟨hchild, fun hroot => ?_⟩
    rw [isChild_of_rootRunId?_eq_some hroot] at hchild
    cases hchild

/-- A run that a link names as its own parent, and later a link of another run as its child. -/
theorem isChild_by_another_iff_of_two_links :
    let events : List Event := [.flowStart "r" none none, .subworkflowUpdate "r" "a" "r",
      .subworkflowUpdate "q" "b" "r"]
    let links := ofEvents events
    ((∃ e ∈ events, e.NamesParent "r" "r") ∧ HasOtherParent events "r") ∧
      (links.isChild "r" = true → HasOtherParent events "r") ∧
      rootRunId? events links ≠ some "r" := by
  intro events links
  have hself : Event.NamesParent "r" "r" (.subworkflowUpdate "r" "a" "r") :=
    .link (by decide) (by decide) (by decide)
  have hother : HasOtherParent events "r" :=
    ⟨.subworkflowUpdate "q" "b" "r", by decide, "q", by decide,
      .link (by decide) (by decide) (by decide)⟩
  obtain ⟨-, hlaw, -, hroot⟩ := isChild_by_another_iff events "r"
  have hmem : .subworkflowUpdate "r" "a" "r" ∈ events := by decide
  exact ⟨⟨⟨_, hmem, hself⟩, hother⟩, hlaw.2 fun _ => hother, (hroot _ hmem hself).2⟩

/-- A run whose start names the run itself as its parent is known as a child though no event names
another run, and the stream has no root run though it has steps. -/
theorem isChild_by_itself :
    let events : List Event := [.flowStart "r" (some "r") none, .nodeStart "r" "a" none none]
    let links := ofEvents events
    links.isChild "r" = true ∧ ¬ HasOtherParent events "r" ∧ rootRunId? events links = none ∧
      (Ledger.ofEvents .empty .standard events).stepsOfRun "r" ≠ [] := by
  intro events links
  refine ⟨by decide, ?_, by decide, by decide⟩
  rintro ⟨e, he, parent, hother, hparent⟩
  simp only [events, List.mem_cons, List.not_mem_nil, or_false] at he
  rcases he with rfl | rfl
  · cases hparent
    exact hother rfl
  · cases hparent

end Links

end RunWatch
