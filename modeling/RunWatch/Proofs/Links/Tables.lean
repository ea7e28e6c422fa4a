import RunWatch.Proofs.LastMatch
import RunWatch.Proofs.Links

/-!
# What the tables of links say

Three kinds of events fill the tables of links. An explicit link ties a node to its child run, a
trace ties a node to the run of its agent, and the start of a run below a parent names no node.
`Event.childLink?`, `Event.agentLink?` and `Event.declaredRun?` are what an event adds; an event with
an empty identifier adds nothing, and neither does a trace of a run below itself.

Explicit links and traces are kept in tables of their own, where the last one of a node stands. They
share the table of parents, which they fill by opposite rules: the last explicit link of a run stands
there, and without one the first trace.

* `Links.childOf?_ofEvents`, `Links.agentRunOf?_ofEvents`, `Links.parentOf?_ofEvents`,
  `Links.isChild_ofEvents`: what a stream makes each table say.
* `Links.ofEvents_says`: all of them, and that the kinds may be interleaved in any way.
-/

namespace RunWatch

/-- A node and a run below it. -/
structure Link where
  node : NodeKey
  child : String
  deriving DecidableEq

namespace Event

/-- The link of a node to its child run that an event gives. -/
def childLink? : Event → Option Link
  | subworkflowUpdate runId nodeId subRunId =>
    if runId = "" ∨ nodeId = "" ∨ subRunId = "" then none else some ⟨⟨runId, nodeId⟩, subRunId⟩
  | _ => none

/-- The link of a node to the run of its agent that an event gives. -/
def agentLink? : Event → Option Link
  | traceUpdate runId nodeId (some parent) _ =>
    if runId = "" ∨ nodeId = "" ∨ parent = "" ∨ parent = runId then none
    else some ⟨⟨parent, nodeId⟩, runId⟩
  | _ => none

/-- The run that an event starts below a parent. -/
def declaredRun? : Event → Option String
  | flowStart runId (some parent) _ => if runId = "" ∨ parent = "" then none else some runId
  | _ => none

/-- Whether an event is an explicit link. -/
def isLink : Event → Bool
  | subworkflowUpdate .. => true
  | _ => false

/-- Whether an event is a trace. -/
def isTrace : Event → Bool
  | traceUpdate .. => true
  | _ => false

theorem isLink_of_childLink? {e : Event} {k : Link} (h : e.childLink? = some k) :
    e.isLink = true := by
  cases e with
  | subworkflowUpdate => rfl
  | _ => cases h

theorem isTrace_of_agentLink? {e : Event} {k : Link} (h : e.agentLink? = some k) :
    e.isTrace = true := by
  cases e with
  | traceUpdate => rfl
  | _ => cases h

end Event

namespace Links

/-! ### One event -/

/-- What an event makes of links. -/
inductive Records (l : Links) (e : Event) : Links → Prop where
  | child (k : Link) (hchild : e.childLink? = some k) (hagent : e.agentLink? = none)
      (hdeclared : e.declaredRun? = none) : Records l e (l.addChild k.node k.child)
  | agent (k : Link) (hchild : e.childLink? = none) (hagent : e.agentLink? = some k)
      (hdeclared : e.declaredRun? = none) : Records l e (l.addAgentRun k.node k.child)
  | declared (run : String) (hchild : e.childLink? = none) (hagent : e.agentLink? = none)
      (hdeclared : e.declaredRun? = some run) : Records l e (l.addDeclared run)
  | nothing (hchild : e.childLink? = none) (hagent : e.agentLink? = none)
      (hdeclared : e.declaredRun? = none) : Records l e l

theorem records_record (l : Links) (e : Event) : Records l e (l.record e) := by
  cases e with
  | subworkflowUpdate runId nodeId subRunId =>
    rw [record]
    split
    · next h => exact .nothing (if_pos h :) rfl rfl
    · next h => exact .child ⟨⟨runId, nodeId⟩, subRunId⟩ (if_neg h :) rfl rfl
  | traceUpdate runId nodeId parentRunId steps =>
    cases parentRunId with
    | none => exact .nothing rfl rfl rfl
    | some parent =>
      rw [record]
      split
      · next h => exact .nothing rfl (if_pos h :) rfl
      · next h => exact .agent ⟨⟨parent, nodeId⟩, runId⟩ rfl (if_neg h :) rfl
  | flowStart runId parentRunId ts =>
    cases parentRunId with
    | none => exact .nothing rfl rfl rfl
    | some parent =>
      rw [record]
      split
      · next h => exact .nothing rfl rfl (if_pos h :)
      · next h => exact .declared runId rfl rfl (if_neg h :)
  | flowComplete | flowCancelled | nodeStart | nodeComplete | flowWaiting | flowError | unknown =>
    exact .nothing rfl rfl rfl

section

variable (l : Links) (e : Event) (key : NodeKey) (run runId : String)

@[simp] theorem children_addDeclared : (l.addDeclared run).children = l.children := by
  unfold addDeclared
  split <;> rfl

@[simp] theorem agentRuns_addDeclared : (l.addDeclared run).agentRuns = l.agentRuns := by
  unfold addDeclared
  split <;> rfl

@[simp] theorem parents_addDeclared : (l.addDeclared run).parents = l.parents := by
  unfold addDeclared
  split <;> rfl

theorem children_record :
    (l.record e).children =
      (e.childLink?).elim l.children fun k => l.children.insert k.node k.child := by
  have hrecords := records_record l e
  generalize l.record e = l' at hrecords ⊢
  cases hrecords with
  | child k hchild => rw [hchild]; rfl
  | agent k hchild => rw [hchild]; rfl
  | declared run hchild => rw [hchild]; exact l.children_addDeclared run
  | nothing hchild => rw [hchild]; rfl

/-- The newest explicit link of a node stands. -/
theorem childOf?_record :
    (l.record e).childOf? key =
      ((e.childLink?.filter fun k => k.node == key).map Link.child).or (l.childOf? key) := by
  rw [childOf?, childOf?, children_record]
  cases e.childLink? with
  | none => rfl
  | some k =>
    rw [Option.elim_some, Table.get?_insert]
    by_cases h : k.node = key <;> simp [h, Option.filter]

/-- The newest trace of a node stands. -/
theorem agentRunOf?_record :
    (l.record e).agentRunOf? key =
      ((e.agentLink?.filter fun k => k.node == key).map Link.child).or (l.agentRunOf? key) := by
  have hrecords := records_record l e
  generalize l.record e = l' at hrecords ⊢
  rw [agentRunOf?, agentRunOf?]
  cases hrecords with
  | child k hchild hagent => rw [hagent]; rfl
  | agent k hchild hagent =>
    simp only [hagent, addAgentRun, Table.get?_insert]
    by_cases h : k.node = key <;> simp [h, Option.filter]
  | declared run hchild hagent => rw [hagent, agentRuns_addDeclared]; rfl
  | nothing hchild hagent => rw [hagent]; rfl

/-- An explicit link of a run goes before its parent so far, and a trace comes after it. -/
theorem parentOf?_record :
    (l.record e).parentOf? runId =
      ((e.childLink?.filter fun k => k.child == runId).map Link.node).or
        ((l.parentOf? runId).or ((e.agentLink?.filter fun k => k.child == runId).map Link.node)) := by
  have hrecords := records_record l e
  generalize l.record e = l' at hrecords ⊢
  rw [parentOf?, parentOf?]
  cases hrecords with
  | child k hchild hagent =>
    simp only [hchild, hagent, addChild, Table.get?_insert]
    by_cases h : k.child = runId <;> simp [h, Option.filter]
  | agent k hchild hagent =>
    simp only [hchild, hagent, addAgentRun, Table.get?_insertIfNew]
    by_cases h : k.child = runId <;> simp [h, Option.filter]
  | declared run hchild hagent => simp [hchild, hagent]
  | nothing hchild hagent => simp [hchild, hagent]

end

theorem namesChild_iff (e : Event) (run : String) :
    e.NamesChild run ↔ (∃ k, e.childLink? = some k ∧ k.child = run) ∨
      (∃ k, e.agentLink? = some k ∧ k.child = run) ∨ e.declaredRun? = some run := by
  constructor
  · rintro (⟨hrunId, hnodeId, hrun⟩ | ⟨hrun, hnodeId, hparent, hother⟩ | ⟨hrun, hparent⟩)
    · exact .inl ⟨_, if_neg (by simp [hrunId, hnodeId, hrun]), rfl⟩
    · exact .inr (.inl ⟨_, if_neg (by simp [hrun, hnodeId, hparent, hother]), rfl⟩)
    · exact .inr (.inr (if_neg (by simp [hrun, hparent])))
  · rintro (⟨k, hk, rfl⟩ | ⟨k, hk, rfl⟩ | hrun)
    · cases e with
      | subworkflowUpdate runId nodeId subRunId =>
        simp only [Event.childLink?, Option.ite_none_left_eq_some, not_or, Option.some.injEq] at hk
        obtain ⟨⟨hrunId, hnodeId, hsubRunId⟩, rfl⟩ := hk
        exact .link hrunId hnodeId hsubRunId
      | _ => cases hk
    · cases e with
      | traceUpdate runId nodeId parentRunId steps =>
        cases parentRunId with
        | none => cases hk
        | some parent =>
          simp only [Event.agentLink?, Option.ite_none_left_eq_some, not_or,
            Option.some.injEq] at hk
          obtain ⟨⟨hrunId, hnodeId, hparent, hother⟩, rfl⟩ := hk
          exact .trace hrunId hnodeId hparent hother
      | _ => cases hk
    · cases e with
      | flowStart runId parentRunId ts =>
        cases parentRunId with
        | none => cases hrun
        | some parent =>
          simp only [Event.declaredRun?, Option.ite_none_left_eq_some, not_or,
            Option.some.injEq] at hrun
          obtain ⟨⟨hrunId, hparent⟩, rfl⟩ := hrun
          exact .start hrunId hparent
      | _ => cases hrun

/-! ### A stream -/

section

variable {α : Type*}

theorem find?_append_toList (p : α → Bool) (as : List α) (o : Option α) :
    (as ++ o.toList).find? p = (as.find? p).or (o.filter p) := by
  rw [List.find?_append]
  cases o with
  | none => rfl
  | some a => by_cases h : p a <;> simp [h, Option.filter]

/-- What an event says is found among the events that pass a test, if it passes the test when it
says something. -/
theorem filterMap_filter_of_imp {f : Event → Option α} {p : Event → Bool}
    (h : ∀ e a, f e = some a → p e = true) (events : List Event) :
    (events.filter p).filterMap f = events.filterMap f := by
  rw [List.filterMap_filter]
  refine List.filterMap_congr fun e _ => ?_
  cases he : f e with
  | none => rw [ite_self]
  | some a => rw [if_pos (h e a he)]

end

section

variable (events : List Event) (key : NodeKey) (run : String)

/-- The child run of a node is that of its last explicit link. -/
theorem childOf?_ofEvents :
    (ofEvents events).childOf? key =
      ((events.filterMap Event.childLink?).findRev? fun k => k.node == key).map Link.child := by
  induction events using List.reverseRecOn with
  | nil => rfl
  | append_singleton events e ih =>
    rw [ofEvents_append_singleton, childOf?_record, ih, filterMap_append_singleton,
      findRev?_append_toList, Option.map_or]

/-- The run of the agent of a node is that of its last trace. -/
theorem agentRunOf?_ofEvents :
    (ofEvents events).agentRunOf? key =
      ((events.filterMap Event.agentLink?).findRev? fun k => k.node == key).map Link.child := by
  induction events using List.reverseRecOn with
  | nil => rfl
  | append_singleton events e ih =>
    rw [ofEvents_append_singleton, agentRunOf?_record, ih, filterMap_append_singleton,
      findRev?_append_toList, Option.map_or]

/-- The parent of a run is the node of its last explicit link, or else of its first trace. -/
theorem parentOf?_ofEvents :
    (ofEvents events).parentOf? run =
      (((events.filterMap Event.childLink?).findRev? fun k => k.child == run).map Link.node).or
        (((events.filterMap Event.agentLink?).find? fun k => k.child == run).map Link.node) := by
  induction events using List.reverseRecOn with
  | nil => rfl
  | append_singleton events e ih =>
    rw [ofEvents_append_singleton, parentOf?_record, ih, filterMap_append_singleton,
      filterMap_append_singleton, findRev?_append_toList, find?_append_toList, Option.map_or,
      Option.map_or, Option.or_assoc, Option.or_assoc]

/-- A run is a child when an explicit link or a trace ties it to a node, or it declares a parent. -/
theorem isChild_ofEvents :
    (ofEvents events).isChild run = true ↔
      (∃ k ∈ events.filterMap Event.childLink?, k.child = run) ∨
        (∃ k ∈ events.filterMap Event.agentLink?, k.child = run) ∨
          run ∈ events.filterMap Event.declaredRun? := by
  simp only [isChild_ofEvents_iff, namesChild_iff, List.mem_filterMap]
  constructor
  · rintro ⟨e, he, ⟨k, hk, hrun⟩ | ⟨k, hk, hrun⟩ | hrun⟩
    · exact .inl ⟨k, ⟨e, he, hk⟩, hrun⟩
    · exact .inr (.inl ⟨k, ⟨e, he, hk⟩, hrun⟩)
    · exact .inr (.inr ⟨e, he, hrun⟩)
  · rintro (⟨k, ⟨e, he, hk⟩, hrun⟩ | ⟨k, ⟨e, he, hk⟩, hrun⟩ | ⟨e, he, hrun⟩)
    · exact ⟨e, he, .inl ⟨k, hk, hrun⟩⟩
    · exact ⟨e, he, .inr (.inl ⟨k, hk, hrun⟩)⟩
    · exact ⟨e, he, .inr (.inr hrun)⟩

/-- The table of explicit links takes them in one after another. -/
theorem children_ofEvents :
    (ofEvents events).children =
      (events.filterMap Event.childLink?).foldl (fun t k => t.insert k.node k.child) .empty := by
  induction events using List.reverseRecOn with
  | nil => rfl
  | append_singleton events e ih =>
    rw [ofEvents_append_singleton, children_record, ih, filterMap_append_singleton,
      List.foldl_append]
    cases e.childLink? <;> rfl

end

/-- Links that answer every question alike, and that list the same explicit links. -/
structure SameAnswers (l l' : Links) : Prop where
  childOf?_eq (key : NodeKey) : l'.childOf? key = l.childOf? key
  agentRunOf?_eq (key : NodeKey) : l'.agentRunOf? key = l.agentRunOf? key
  parentOf?_eq (run : String) : l'.parentOf? run = l.parentOf? run
  isChild_eq (run : String) : l'.isChild run = l.isChild run
  children_eq : l'.children = l.children

/-- Streams with the same explicit links and traces, in order, and the same declared runs, in any
order, have links that answer alike. -/
theorem sameAnswers_ofEvents {events others : List Event}
    (hchild : others.filterMap Event.childLink? = events.filterMap Event.childLink?)
    (hagent : others.filterMap Event.agentLink? = events.filterMap Event.agentLink?)
    (hdeclared : ∀ run, run ∈ others.filterMap Event.declaredRun? ↔
      run ∈ events.filterMap Event.declaredRun?) :
    SameAnswers (ofEvents events) (ofEvents others) where
  childOf?_eq key := by rw [childOf?_ofEvents, childOf?_ofEvents, hchild]
  agentRunOf?_eq key := by rw [agentRunOf?_ofEvents, agentRunOf?_ofEvents, hagent]
  parentOf?_eq run := by rw [parentOf?_ofEvents, parentOf?_ofEvents, hchild, hagent]
  isChild_eq run := by
    rw [Bool.eq_iff_iff, isChild_ofEvents, isChild_ofEvents, hchild, hagent, hdeclared]
  children_eq := by rw [children_ofEvents, children_ofEvents, hchild]

/-- What the links of a stream say. The child run of a node is that of its last explicit link, and
the run of its agent that of its last trace. The parent of a run is the node of the last explicit
link to the run, and only without one that of the first trace of the run. A run is a child when an
explicit link or a trace ties it to a node or its start declares a parent. So a stream may be
reordered as long as the explicit links stay in order among themselves, and so do the traces: no
answer changes. -/
theorem ofEvents_says (events : List Event) :
    let links := ofEvents events
    let children := events.filterMap Event.childLink?
    let agents := events.filterMap Event.agentLink?
    (∀ key, links.childOf? key = (children.findRev? fun k => k.node == key).map Link.child) ∧
      (∀ key, links.agentRunOf? key = (agents.findRev? fun k => k.node == key).map Link.child) ∧
      (∀ run, links.parentOf? run =
        ((children.findRev? fun k => k.child == run).map Link.node).or
          ((agents.find? fun k => k.child == run).map Link.node)) ∧
      (∀ run, links.isChild run = true ↔ (∃ k ∈ children, k.child = run) ∨
        (∃ k ∈ agents, k.child = run) ∨ ∃ e ∈ events, e.declaredRun? = some run) ∧
      ∀ others : List Event, others.Perm events →
        others.filter Event.isLink = events.filter Event.isLink →
        others.filter Event.isTrace = events.filter Event.isTrace →
        SameAnswers links (ofEvents others) := by
  intro links children agents
  refine ⟨childOf?_ofEvents events, agentRunOf?_ofEvents events, parentOf?_ofEvents events,
    fun run => ?_, fun others hperm hlinks htraces => ?_⟩
  · rw [← List.mem_filterMap]
    exact isChild_ofEvents events run
  · refine sameAnswers_ofEvents ?_ ?_ fun run => (hperm.filterMap _).mem_iff
    · rw [← filterMap_filter_of_imp fun e k => Event.isLink_of_childLink?, hlinks,
        filterMap_filter_of_imp fun e k => Event.isLink_of_childLink?]
    · rw [← filterMap_filter_of_imp fun e k => Event.isTrace_of_agentLink?, htraces,
        filterMap_filter_of_imp fun e k => Event.isTrace_of_agentLink?]

/-- A run with two traces and two explicit links, and the same events with the explicit links and a
start moved to the front. -/
theorem ofEvents_says_of_moved_links :
    let events : List Event := [.traceUpdate "c" "a" (some "r") [], .subworkflowUpdate "r" "b" "c",
      .traceUpdate "c" "d" (some "q") [], .flowStart "e" (some "r") none,
      .subworkflowUpdate "q" "f" "c", .traceUpdate "g" "a" (some "r") []]
    let others : List Event := [.flowStart "e" (some "r") none, .subworkflowUpdate "r" "b" "c",
      .subworkflowUpdate "q" "f" "c", .traceUpdate "c" "a" (some "r") [],
      .traceUpdate "c" "d" (some "q") [], .traceUpdate "g" "a" (some "r") []]
    (others.Perm events ∧ others.filter Event.isLink = events.filter Event.isLink ∧
        others.filter Event.isTrace = events.filter Event.isTrace) ∧
      SameAnswers (ofEvents events) (ofEvents others) ∧
      (ofEvents others).parentOf? "c" = some ⟨"q", "f"⟩ ∧
      (ofEvents others).parentOf? "g" = some ⟨"r", "a"⟩ ∧
      (ofEvents others).agentRunOf? ⟨"r", "a"⟩ = some "g" ∧
      (ofEvents others).isChild "e" = true := by
  intro events others
  have hperm : others.Perm events := by decide
  have hlinks : others.filter Event.isLink = events.filter Event.isLink := by decide
  have htraces : others.filter Event.isTrace = events.filter Event.isTrace := by decide
  obtain ⟨-, -, -, -, hsame⟩ := ofEvents_says events
  exact ⟨⟨hperm, hlinks, htraces⟩, hsame others hperm hlinks htraces, by decide, by decide,
    by decide, by decide⟩

end Links

end RunWatch
