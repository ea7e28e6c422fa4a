import RunWatch.Proofs.Links
import RunWatch.View

/-!
# The root run

The root run of a stream is the one that started last without a parent, among the runs that are not
known as children. A stream that joins its runs midway may hold no such start: then the first run
that is no child is the root run, and a stream of children only has none.

* `rootRunId?_eq_some_iff`, `rootRunId?_eq_none_iff`: which run is the root run, and when none is.
* `rootRunId?_rule_iff`: when the root run is the one that started last, or else the first of all.
* `rootRunId?_append_singleton`: what one more event may do to the root run.
-/

namespace RunWatch

open Text

/-! ### Starts of root runs -/

/-- An event starts a run without a parent, and the run is not known as a child. -/
inductive Event.StartsRoot (links : Links) (run : String) : Event → Prop where
  | intro {parent : Option String} {ts : Option Instant} (hrun : run ≠ "")
      (hparent : parent = none ∨ parent = some "") (hchild : links.isChild run = false) :
      StartsRoot links run (.flowStart run parent ts)

namespace Event

/-- The run that an event carries, unless it is known as a child. -/
def freeRun? (links : Links) (e : Event) : Option String :=
  e.runId?.filter fun run => !links.isChild run

/-- The run that an event starts without a parent, unless it is known as a child. -/
def rootStart? (links : Links) (e : Event) : Option String :=
  if e.isRootStart then e.freeRun? links else none

variable {links : Links} {run : String} {e : Event}

theorem freeRun?_eq_some_iff :
    e.freeRun? links = some run ↔ e.runId? = some run ∧ links.isChild run = false := by
  simp [freeRun?, Option.filter_eq_some_iff]

theorem rootStart?_eq_some_iff : e.rootStart? links = some run ↔ e.StartsRoot links run := by
  unfold rootStart?
  constructor
  · intro h
    split at h
    · next hroot =>
      obtain ⟨hrun, hchild⟩ := freeRun?_eq_some_iff.1 h
      cases e with
      | flowStart runId parent ts =>
        obtain ⟨rfl, hname⟩ := full?_eq_some_iff.1 hrun
        refine .intro hname ?_ hchild
        cases parent with
        | none => exact .inl rfl
        | some p =>
          right
          by_contra hp
          have hne : p ≠ "" := fun hempty => hp (by rw [hempty])
          have hfull : full? p = some p := full?_eq_some_iff.2 ⟨rfl, hne⟩
          simp [isRootStart, hfull] at hroot
      | _ => cases hroot
    · cases h
  · rintro @⟨parent, ts, hrun, hparent, hchild⟩
    have hroot : (flowStart run parent ts).isRootStart = true := by
      rcases hparent with rfl | rfl <;> simp [isRootStart, hrun, full?]
    rw [if_pos hroot, freeRun?_eq_some_iff]
    exact ⟨full?_eq_some_iff.2 ⟨rfl, hrun⟩, hchild⟩

theorem startsRoot_iff : e.StartsRoot links run ↔
    e.isRootStart = true ∧ e.runId? = some run ∧ links.isChild run = false := by
  rw [← rootStart?_eq_some_iff, rootStart?, ← freeRun?_eq_some_iff]
  by_cases h : e.isRootStart = true <;> simp [h]

theorem StartsRoot.isRootStart (h : e.StartsRoot links run) : e.isRootStart = true :=
  (startsRoot_iff.1 h).1

theorem StartsRoot.not_child (h : e.StartsRoot links run) : links.isChild run = false := by
  obtain ⟨-, -, hchild⟩ := h
  exact hchild

/-- A start counts with other links too, as long as these do not know the run as a child. -/
theorem StartsRoot.of_not_child {links' : Links} (h : e.StartsRoot links run)
    (hchild : links'.isChild run = false) : e.StartsRoot links' run := by
  obtain ⟨hrun, hparent, -⟩ := h
  exact .intro hrun hparent hchild

theorem rootStart?_eq_none_iff : e.rootStart? links = none ↔ ∀ run, ¬ e.StartsRoot links run := by
  simp only [Option.eq_none_iff_forall_ne_some, ne_eq, rootStart?_eq_some_iff]

end Event

/-! ### The two searches -/

section

variable {α β : Type*}

theorem find?_filterMap_eq_findSome? (f : α → Option β) (p : β → Bool) (as : List α) :
    (as.filterMap f).find? p = as.findSome? fun a => (f a).filter p := by
  induction as with
  | nil => rfl
  | cons a as ih =>
    rw [List.filterMap_cons, List.findSome?_cons]
    cases f a with
    | none => exact ih
    | some b => by_cases h : p b <;> simp [Option.filter_some, h, ih]

/-- A search that finds what another one does, or less, but does not lose the find of the other. -/
theorem findSome?_eq_some_of_imp {f g : α → Option β} {b : β} {as : List α}
    (h : as.findSome? f = some b) (hless : ∀ a c, g a = some c → f a = some c)
    (hkeep : ∀ a, f a = some b → g a = some b) : as.findSome? g = some b := by
  obtain ⟨before, a, after, rfl, ha, hbefore⟩ := List.findSome?_eq_some_iff.1 h
  refine List.findSome?_eq_some_iff.2 ⟨before, a, after, rfl, hkeep a ha, fun x hx => ?_⟩
  rw [Option.eq_none_iff_forall_ne_some]
  intro c hc
  have hfound := hless x c hc
  rw [hbefore x hx] at hfound
  cases hfound

end

/-- The last start of a root run in a stream is one of this run. -/
def LastRootStart (events : List Event) (links : Links) (run : String) : Prop :=
  ∃ before e after, events = before ++ e :: after ∧ e.StartsRoot links run ∧
    ∀ e' ∈ after, ∀ run', ¬ e'.StartsRoot links run'

/-- The first run that an event carries. -/
def FirstRun (events : List Event) (run : String) : Prop :=
  ∃ before e after, events = before ++ e :: after ∧ e.runId? = some run ∧
    ∀ e' ∈ before, e'.runId? = none

/-- The first run that an event carries and that is not known as a child. -/
def FirstFreeRun (events : List Event) (links : Links) (run : String) : Prop :=
  ∃ before e after, events = before ++ e :: after ∧
    (e.runId? = some run ∧ links.isChild run = false) ∧
    ∀ e' ∈ before, ∀ run', e'.runId? = some run' → links.isChild run' = true

section

variable {events : List Event} {links : Links} {run : String}

theorem rootRunId?_eq (events : List Event) (links : Links) :
    rootRunId? events links =
      (events.reverse.findSome? (Event.rootStart? links)).or
        (events.findSome? (Event.freeRun? links)) := by
  simp only [rootRunId?]
  rw [List.filterMap_filter, find?_filterMap_eq_findSome?, find?_filterMap_eq_findSome?]
  congr 2
  funext e
  unfold Event.rootStart? Event.freeRun?
  split <;> rfl

theorem findSome?_rootStart?_eq_some_iff :
    events.reverse.findSome? (Event.rootStart? links) = some run ↔
      LastRootStart events links run := by
  rw [List.findSome?_eq_some_iff]
  constructor
  · rintro ⟨after, e, before, hsplit, he, hafter⟩
    refine ⟨before.reverse, e, after.reverse, ?_, Event.rootStart?_eq_some_iff.1 he, ?_⟩
    · have hrev := congrArg List.reverse hsplit
      simpa using hrev
    · intro e' he'
      exact Event.rootStart?_eq_none_iff.1 (hafter e' (List.mem_reverse.1 he'))
  · rintro ⟨before, e, after, rfl, he, hafter⟩
    refine ⟨after.reverse, e, before.reverse, by simp, Event.rootStart?_eq_some_iff.2 he, ?_⟩
    intro e' he'
    exact Event.rootStart?_eq_none_iff.2 (hafter e' (List.mem_reverse.1 he'))

theorem findSome?_rootStart?_eq_none_iff :
    events.reverse.findSome? (Event.rootStart? links) = none ↔
      ∀ e ∈ events, ∀ run, ¬ e.StartsRoot links run := by
  simp only [List.findSome?_eq_none_iff, List.mem_reverse, Event.rootStart?_eq_none_iff]

theorem findSome?_freeRun?_eq_some_iff :
    events.findSome? (Event.freeRun? links) = some run ↔ FirstFreeRun events links run := by
  simp only [List.findSome?_eq_some_iff, FirstFreeRun, Event.freeRun?_eq_some_iff,
    Option.eq_none_iff_forall_ne_some, ne_eq, not_and, Bool.not_eq_false]

theorem findSome?_runId?_eq_some_iff :
    events.findSome? Event.runId? = some run ↔ FirstRun events run :=
  List.findSome?_eq_some_iff

/-- Which run is the root run of a stream. -/
theorem rootRunId?_eq_some_iff (events : List Event) (links : Links) (run : String) :
    rootRunId? events links = some run ↔ LastRootStart events links run ∨
      (∀ e ∈ events, ∀ run', ¬ e.StartsRoot links run') ∧ FirstFreeRun events links run := by
  rw [rootRunId?_eq, Option.or_eq_some_iff, findSome?_rootStart?_eq_some_iff,
    findSome?_rootStart?_eq_none_iff, findSome?_freeRun?_eq_some_iff]

/-- A stream has no root run when all its runs are known as children. -/
theorem rootRunId?_eq_none_iff (events : List Event) (links : Links) :
    rootRunId? events links = none ↔
      ∀ e ∈ events, ∀ run, e.runId? = some run → links.isChild run = true := by
  rw [rootRunId?_eq, Option.or_eq_none_iff, findSome?_rootStart?_eq_none_iff,
    List.findSome?_eq_none_iff]
  have hfree (e : Event) : e.freeRun? links = none ↔
      ∀ run, e.runId? = some run → links.isChild run = true := by
    simp only [Option.eq_none_iff_forall_ne_some, ne_eq, Event.freeRun?_eq_some_iff, not_and,
      Bool.not_eq_false]
  simp only [hfree]
  constructor
  · exact fun h => h.2
  · intro h
    refine ⟨fun e he run hstart => ?_, h⟩
    -- The run that an event starts is the one that it carries.
    have hfound : e.freeRun? links = some run := by
      have hstart' := Event.rootStart?_eq_some_iff.2 hstart
      rwa [Event.rootStart?, if_pos hstart.isRootStart] at hstart'
    obtain ⟨hrun, hchild⟩ := Event.freeRun?_eq_some_iff.1 hfound
    rw [h e he run hrun] at hchild
    cases hchild

theorem isChild_of_rootRunId?_eq_some (h : rootRunId? events links = some run) :
    links.isChild run = false := by
  rcases (rootRunId?_eq_some_iff events links run).1 h with hlast | ⟨-, hfirst⟩
  · obtain ⟨-, e, -, -, hstart, -⟩ := hlast
    exact hstart.not_child
  · obtain ⟨-, e, -, -, ⟨-, hchild⟩, -⟩ := hfirst
    exact hchild

theorem Event.ne_of_runId?_eq_some {e : Event} (h : e.runId? = some run) : run ≠ "" := by
  cases e with
  | unknown => cases h
  | _ => exact (Text.full?_eq_some_iff.1 h).2

/-- An identifier that is empty counts as missing, so no root run has it. -/
theorem ne_of_rootRunId?_eq_some (h : rootRunId? events links = some run) : run ≠ "" := by
  rw [rootRunId?, Option.or_eq_some_iff] at h
  have hmem : run ∈ (events.reverse.filter Event.isRootStart).filterMap Event.runId? ∨
      run ∈ events.filterMap Event.runId? := by
    rcases h with h | ⟨-, h⟩
    · exact .inl (List.mem_of_find?_eq_some h)
    · exact .inr (List.mem_of_find?_eq_some h)
  rcases hmem with hmem | hmem
  all_goals
    obtain ⟨e, -, he⟩ := List.mem_filterMap.1 hmem
    exact Event.ne_of_runId?_eq_some he

end

/-! ### The first run of all -/

/-- The rule that the root run is the one that started last without a parent, among the runs that
are no children, or else the first run of the stream, whether that is a child or not. -/
inductive RootRule (events : List Event) (links : Links) : Option String → Prop where
  | lastStart {run : String} (h : LastRootStart events links run) : RootRule events links (some run)
  | firstRun {run : String} (hnone : ∀ e ∈ events, ∀ run', ¬ e.StartsRoot links run')
      (h : FirstRun events run) : RootRule events links (some run)
  | noRun (h : ∀ e ∈ events, e.runId? = none) : RootRule events links none

section

variable {events : List Event} {links : Links}

/-- Without a start of a root run the rule asks for the first run of all. -/
theorem rootRule_iff_of_no_start (hnone : ∀ e ∈ events, ∀ run, ¬ e.StartsRoot links run)
    (root : Option String) :
    RootRule events links root ↔ events.findSome? Event.runId? = root := by
  constructor
  · rintro (⟨before, e, after, rfl, hstart, -⟩ | ⟨-, hfirst⟩ | hnoRun)
    · exact absurd hstart (hnone e (by simp) _)
    · exact findSome?_runId?_eq_some_iff.2 hfirst
    · exact List.findSome?_eq_none_iff.2 hnoRun
  · rintro rfl
    cases hrun : events.findSome? Event.runId? with
    | none => exact .noRun (List.findSome?_eq_none_iff.1 hrun)
    | some run => exact .firstRun hnone (findSome?_runId?_eq_some_iff.1 hrun)

/-- The first run of all and the first one that is no child are the same unless the former is a
child. -/
theorem findSome?_freeRun?_eq_runId?_iff :
    events.findSome? Event.runId? = events.findSome? (Event.freeRun? links) ↔
      ∀ run, FirstRun events run → links.isChild run = false := by
  constructor
  · intro heq run hfirst
    rw [findSome?_runId?_eq_some_iff.2 hfirst, eq_comm, findSome?_freeRun?_eq_some_iff] at heq
    obtain ⟨-, e, -, -, ⟨-, hchild⟩, -⟩ := heq
    exact hchild
  · intro h
    have hless (e : Event) (run : String) (he : e.freeRun? links = some run) :
        e.runId? = some run := (Event.freeRun?_eq_some_iff.1 he).1
    cases hrun : events.findSome? Event.runId? with
    | none =>
      have hall := List.findSome?_eq_none_iff.1 hrun
      symm
      rw [List.findSome?_eq_none_iff]
      intro e he
      rw [Event.freeRun?, hall e he]
      rfl
    | some run =>
      have hchild := h run (findSome?_runId?_eq_some_iff.1 hrun)
      exact (findSome?_eq_some_of_imp hrun hless
        fun e he => Event.freeRun?_eq_some_iff.2 ⟨he, hchild⟩).symm

end

/-- The root run is as the rule says exactly when the stream has a start of a root run, or its first
run is no child. In every case it is the run that started last, or else the first run that is no
child, and there is none only when all runs are children. -/
theorem rootRunId?_rule_iff (events : List Event) :
    let links := Links.ofEvents events
    let root := rootRunId? events links
    (RootRule events links root ↔ (∃ e ∈ events, ∃ run, e.StartsRoot links run) ∨
        ∀ run, FirstRun events run → links.isChild run = false) ∧
      (∀ run, root = some run ↔ LastRootStart events links run ∨
        (∀ e ∈ events, ∀ run', ¬ e.StartsRoot links run') ∧ FirstFreeRun events links run) ∧
      (root = none ↔ ∀ e ∈ events, ∀ run, e.runId? = some run → links.isChild run = true) := by
  intro links root
  refine ⟨?_, rootRunId?_eq_some_iff events links, rootRunId?_eq_none_iff events links⟩
  by_cases hstart : ∃ e ∈ events, ∃ run, e.StartsRoot links run
  · -- A start that is found decides for both.
    obtain ⟨e, he, run, hrun⟩ := hstart
    refine iff_of_true ?_ (.inl ⟨e, he, run, hrun⟩)
    cases hlast : events.reverse.findSome? (Event.rootStart? links) with
    | none => exact absurd hrun (findSome?_rootStart?_eq_none_iff.1 hlast e he run)
    | some last =>
      have hroot : root = some last := by
        change rootRunId? events links = some last
        rw [rootRunId?_eq, hlast, Option.some_or]
      rw [hroot]
      exact .lastStart (findSome?_rootStart?_eq_some_iff.1 hlast)
  · have hnone : ∀ e ∈ events, ∀ run, ¬ e.StartsRoot links run := fun e he run hrun =>
      hstart ⟨e, he, run, hrun⟩
    have hroot : root = events.findSome? (Event.freeRun? links) := by
      change rootRunId? events links = _
      rw [rootRunId?_eq, findSome?_rootStart?_eq_none_iff.2 hnone, Option.none_or]
    rw [rootRule_iff_of_no_start hnone, hroot, findSome?_freeRun?_eq_runId?_iff]
    exact (or_iff_right hstart).symm

/-- A stream that holds the end of a child run only: there are steps, but no root run. -/
theorem rootRunId?_of_child_stream :
    let events : List Event := [.flowStart "c" (some "r") none, .nodeStart "c" "a" none none]
    let links := Links.ofEvents events
    (Ledger.ofEvents .empty .standard events).stepsOfRun "c" ≠ [] ∧
      rootRunId? events links = none ∧ RootRule events links (some "c") ∧
      ¬ RootRule events links (rootRunId? events links) := by
  intro events links
  have hnone : ∀ e ∈ events, ∀ run, ¬ e.StartsRoot links run := by
    rintro e he run ⟨hrun, hparent, hchild⟩
    simp [events] at he
    obtain ⟨-, rfl, -⟩ := he
    simp at hparent
  have hroot : rootRunId? events links = none := by decide
  have hfirst : events.findSome? Event.runId? = some "c" := by decide
  refine ⟨by decide, hroot, (rootRule_iff_of_no_start hnone _).2 hfirst, ?_⟩
  rw [hroot, rootRule_iff_of_no_start hnone, hfirst]
  exact Option.some_ne_none "c"

/-! ### One more event -/

section

variable {events : List Event} {e : Event} {run : String}

theorem isChild_append_singleton_iff :
    (Links.ofEvents (events ++ [e])).isChild run = true ↔
      (Links.ofEvents events).isChild run = true ∨ e.NamesChild run := by
  rw [Links.ofEvents_append_singleton, Links.isChild_record_iff]

/-- A run that is no child after an event was none before it. -/
theorem not_child_of_append_singleton
    (h : (Links.ofEvents (events ++ [e])).isChild run = false) :
    (Links.ofEvents events).isChild run = false := by
  by_contra hchild
  rw [Bool.not_eq_false] at hchild
  rw [Links.isChild_ofEvents_append hchild [e]] at h
  cases h

/-- A new start of a root run moves the root to its run. -/
theorem rootRunId?_of_startsRoot (h : e.StartsRoot (Links.ofEvents events) run) :
    rootRunId? (events ++ [e]) (Links.ofEvents (events ++ [e])) = some run := by
  have hchild : (Links.ofEvents (events ++ [e])).isChild run = false := by
    rw [← Bool.not_eq_true, isChild_append_singleton_iff, not_or]
    exact ⟨by simp [h.not_child], Event.not_namesChild_of_isRootStart h.isRootStart run⟩
  rw [rootRunId?_eq_some_iff]
  exact .inl ⟨events, e, [], rfl, h.of_not_child hchild, by simp⟩

/-- Without a new start the root run stays, as long as it is no child. -/
theorem rootRunId?_of_not_startsRoot (hroot : rootRunId? events (Links.ofEvents events) = some run)
    (hstart : ∀ run', ¬ e.StartsRoot (Links.ofEvents events) run')
    (hchild : (Links.ofEvents (events ++ [e])).isChild run = false) :
    rootRunId? (events ++ [e]) (Links.ofEvents (events ++ [e])) = some run := by
  -- Both searches find less with the new links, but neither loses this run.
  have hless (e' : Event) (run' : String)
      (h : e'.StartsRoot (Links.ofEvents (events ++ [e])) run') :
      e'.StartsRoot (Links.ofEvents events) run' :=
    h.of_not_child (not_child_of_append_singleton h.not_child)
  have hnew : e.rootStart? (Links.ofEvents (events ++ [e])) = none :=
    Event.rootStart?_eq_none_iff.2 fun run' h => hstart run' (hless e run' h)
  rw [rootRunId?_eq, Option.or_eq_some_iff] at hroot ⊢
  rw [List.reverse_append, List.reverse_singleton, List.singleton_append, List.findSome?_cons, hnew,
    List.findSome?_append]
  rcases hroot with hlast | ⟨hnone, hfirst⟩
  · left
    refine findSome?_eq_some_of_imp hlast (fun e' run' h => ?_) fun e' h => ?_
    · rw [Event.rootStart?_eq_some_iff] at h ⊢
      exact hless e' run' h
    · rw [Event.rootStart?_eq_some_iff] at h ⊢
      exact h.of_not_child hchild
  · right
    constructor
    · rw [findSome?_rootStart?_eq_none_iff] at hnone ⊢
      exact fun e' he' run' h => hnone e' he' run' (hless e' run' h)
    · have hkept : events.findSome? (Event.freeRun? (Links.ofEvents (events ++ [e]))) =
          some run := by
        refine findSome?_eq_some_of_imp hfirst (fun e' run' h => ?_) fun e' h => ?_
        · rw [Event.freeRun?_eq_some_iff] at h ⊢
          exact ⟨h.1, not_child_of_append_singleton h.2⟩
        · rw [Event.freeRun?_eq_some_iff] at h ⊢
          exact ⟨h.1, hchild⟩
      rw [hkept, Option.some_or]

end

/-- After one more event the root run is the run that the event starts as a root, if it does. If
it does not, the root run stays unless it is known as a child then. So the root run moves only when
the event starts another root run, or names the root run as a child. And whatever comes later, a
run that is known as a child stays one. -/
theorem rootRunId?_append_singleton (events : List Event) :
    let links := Links.ofEvents events
    (∀ root, rootRunId? events links = some root → ∀ e,
      let links' := Links.ofEvents (events ++ [e])
      let root' := rootRunId? (events ++ [e]) links'
      (∀ run, e.StartsRoot links run → root' = some run) ∧
        ((∀ run, ¬ e.StartsRoot links run) → links'.isChild root = false → root' = some root) ∧
        (root' ≠ some root →
          (∃ run, run ≠ root ∧ e.StartsRoot links run) ∨ e.NamesChild root)) ∧
      ∀ more run, links.isChild run = true →
        (Links.ofEvents (events ++ more)).isChild run = true := by
  intro links
  refine ⟨fun root hroot e => ?_, fun more run h => Links.isChild_ofEvents_append h more⟩
  intro links' root'
  refine ⟨fun run => rootRunId?_of_startsRoot, rootRunId?_of_not_startsRoot hroot, fun hmoved => ?_⟩
  by_cases hstart : ∃ run, e.StartsRoot links run
  · obtain ⟨run, hrun⟩ := hstart
    refine .inl ⟨run, ?_, hrun⟩
    rintro rfl
    exact hmoved (rootRunId?_of_startsRoot hrun)
  · right
    have hchild : links'.isChild root = true := by
      by_contra hfree
      have hnone := fun run hrun => hstart ⟨run, hrun⟩
      exact hmoved (rootRunId?_of_not_startsRoot hroot hnone (by simpa using hfree))
    -- The root run was no child before, so the event makes it one.
    rcases isChild_append_singleton_iff.1 hchild with hbefore | hname
    · rw [isChild_of_rootRunId?_eq_some hroot] at hbefore
      cases hbefore
    · exact hname

/-- A late link to the run that started last makes the one before it the root run. -/
theorem rootRunId?_append_singleton_late_link :
    let events : List Event := [.flowStart "r" none none, .flowStart "s" none none]
    let e : Event := .subworkflowUpdate "r" "a" "s"
    let links' := Links.ofEvents (events ++ [e])
    (rootRunId? events (Links.ofEvents events) = some "s" ∧
        rootRunId? (events ++ [e]) links' = some "r") ∧
      ((∃ run, run ≠ "s" ∧ e.StartsRoot (Links.ofEvents events) run) ∨ e.NamesChild "s") ∧
      (Links.ofEvents (events ++ [e, .flowStart "s" none none])).isChild "s" = true := by
  intro events e links'
  have hroot : rootRunId? events (Links.ofEvents events) = some "s" := by decide
  have hmoved : rootRunId? (events ++ [e]) links' = some "r" := by decide
  obtain ⟨hstep, -⟩ := rootRunId?_append_singleton events
  obtain ⟨-, -, hcause⟩ := hstep "s" hroot e
  obtain ⟨-, hkept⟩ := rootRunId?_append_singleton (events ++ [e])
  refine ⟨⟨hroot, hmoved⟩, hcause ?_, hkept [.flowStart "s" none none] "s" (by decide)⟩
  change rootRunId? (events ++ [e]) links' ≠ some "s"
  rw [hmoved]
  decide

end RunWatch
