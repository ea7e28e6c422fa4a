import RunWatch.Proofs.LastMatch
import RunWatch.Scope

/-!
# The scope is closed

The runs reachable from a root run hold every run that a link leads to from one of them
(`mem_reachableRuns_of_link`), and they depend on the links of these runs only
(`reachableRuns_congr`). For a ledger this says that a step in the scope of a root has its child run
in the scope, and that steps of other runs do not matter.
-/

namespace RunWatch

/-! ### Links -/

section

variable (links : List RunLink) (run : String)

theorem targetsOf_linksOfOthers (run' : String) :
    targetsOf (linksOfOthers links run) run' = if run' = run then [] else targetsOf links run' := by
  unfold targetsOf linksOfOthers
  rw [List.filter_filter]
  split
  · next h =>
    subst h
    simp
  · next h =>
    congr 1
    refine List.filter_congr fun l _ => ?_
    by_cases hl : l.source = run'
    · simp [hl, h]
    · simp [hl]

theorem mem_newRuns (seen : List String) {runs : List String} {run : String} (h : run ∈ runs) :
    run ∈ seen ∨ run ∈ newRuns seen runs := by
  induction runs generalizing seen with
  | nil => simp at h
  | cons r rest ih =>
    simp only [newRuns]
    rcases List.mem_cons.1 h with rfl | h
    · split
      · next hc => exact .inl (by simpa using hc)
      · exact .inr List.mem_cons_self
    · split
      · exact ih seen h
      · rcases ih (r :: seen) h with hseen | hnew
        · rcases List.mem_cons.1 hseen with rfl | hseen
          · exact .inr List.mem_cons_self
          · exact .inl hseen
        · exact .inr (List.mem_cons_of_mem _ hnew)

end

/-! ### The search -/

@[simp] theorem visitRuns_nil (links : List RunLink) (seen : List String) :
    visitRuns links seen [] = [] := by
  rw [visitRuns]

/-- The run that waits first is visited first, and what is found behind it waits. -/
theorem visitRuns_cons (links : List RunLink) (seen : List String) (run : String)
    (waiting : List String) :
    visitRuns links seen (run :: waiting) =
      run :: visitRuns (linksOfOthers links run) (seen ++ newRuns seen (targetsOf links run))
        (waiting ++ newRuns seen (targetsOf links run)) := by
  rw [visitRuns]

theorem mem_visitRuns_of_mem_waiting {links : List RunLink} {seen waiting : List String}
    {run : String} (h : run ∈ waiting) : run ∈ visitRuns links seen waiting := by
  fun_induction visitRuns links seen waiting with
  | case1 => simp at h
  | case2 links seen r waiting found ih =>
    rcases List.mem_cons.1 h with rfl | h
    · exact List.mem_cons_self
    · exact List.mem_cons_of_mem _ (ih (List.mem_append_left _ h))

/-- What a visited run links to was seen before the search or is visited as well. -/
theorem mem_visitRuns_of_link {links : List RunLink} {seen waiting : List String} {a b : String}
    (ha : a ∈ visitRuns links seen waiting) (hb : b ∈ targetsOf links a) :
    b ∈ seen ∨ b ∈ visitRuns links seen waiting := by
  fun_induction visitRuns links seen waiting with
  | case1 => simp at ha
  | case2 links seen run waiting found ih =>
    have hfound : b ∈ found →
        b ∈ visitRuns (linksOfOthers links run) (seen ++ found) (waiting ++ found) := fun h =>
      mem_visitRuns_of_mem_waiting (List.mem_append_right _ h)
    by_cases har : a = run
    · subst har
      rcases mem_newRuns seen hb with hseen | hnew
      · exact .inl hseen
      · exact .inr (List.mem_cons_of_mem _ (hfound hnew))
    · have ha' := (List.mem_cons.1 ha).resolve_left har
      rcases ih ha' (by rwa [targetsOf_linksOfOthers, if_neg har]) with hseen | hvisited
      · rcases List.mem_append.1 hseen with hseen | hnew
        · exact .inl hseen
        · exact .inr (List.mem_cons_of_mem _ (hfound hnew))
      · exact .inr (List.mem_cons_of_mem _ hvisited)

/-- The search reads the links of the runs that it visits and no others. -/
theorem visitRuns_congr {links links' : List RunLink} {seen waiting : List String}
    (h : ∀ run ∈ visitRuns links seen waiting, targetsOf links' run = targetsOf links run) :
    visitRuns links' seen waiting = visitRuns links seen waiting := by
  fun_induction visitRuns links seen waiting generalizing links' with
  | case1 => rw [visitRuns_nil]
  | case2 links seen run waiting found =>
    rename_i ih
    have hrun : targetsOf links' run = targetsOf links run := h run List.mem_cons_self
    rw [visitRuns_cons, hrun]
    congr 1
    refine ih fun r hr => ?_
    rw [targetsOf_linksOfOthers, targetsOf_linksOfOthers, h r (List.mem_cons_of_mem _ hr)]

/-! ### Reachable runs -/

section

variable {links links' : List RunLink} {root : String}

theorem root_mem_reachableRuns : root ∈ reachableRuns links root :=
  mem_visitRuns_of_mem_waiting List.mem_cons_self

theorem mem_reachableRuns_of_link {a b : String} (ha : a ∈ reachableRuns links root)
    (hb : b ∈ targetsOf links a) : b ∈ reachableRuns links root := by
  rcases mem_visitRuns_of_link ha hb with hseen | hvisited
  · rw [List.mem_singleton.1 hseen]
    exact root_mem_reachableRuns
  · exact hvisited

theorem reachableRuns_of_no_target (h : targetsOf links root = []) :
    reachableRuns links root = [root] := by
  rw [reachableRuns, visitRuns_cons, h, newRuns, List.append_nil, List.append_nil, visitRuns_nil]

theorem reachableRuns_congr
    (h : ∀ run ∈ reachableRuns links root, targetsOf links' run = targetsOf links run) :
    reachableRuns links' root = reachableRuns links root :=
  visitRuns_congr h

end

/-! ### What is read of a step -/

/-- Two steps of the same name, kind and output. No more is read of a step to find the runs that it
leads to. -/
structure Step.SameOutline (s t : Step) : Prop where
  key_eq : s.key = t.key
  arrival_eq : s.arrival = t.arrival
  kind_eq : s.kind = t.kind
  output_eq : s.output = t.output

namespace Step.SameOutline

variable {s t : Step}

theorem refl (s : Step) : s.SameOutline s := ⟨rfl, rfl, rfl, rfl⟩

/-- The failure of a run leaves the outline of the step that it is noted on. -/
theorem blame (s : Step) (message : String) (ts : Option Instant) :
    s.SameOutline (s.blame message ts) := by
  unfold Step.blame
  split <;> exact ⟨rfl, rfl, rfl, rfl⟩

theorem runId_eq (h : s.SameOutline t) : s.runId = t.runId := congrArg NodeKey.runId h.key_eq

theorem id_eq (h : s.SameOutline t) : s.id = t.id := by
  have hnode : s.nodeId = t.nodeId := congrArg NodeKey.nodeId h.key_eq
  rw [Step.id, Step.id, h.runId_eq, hnode, h.arrival_eq]

theorem childRunOf?_eq (h : s.SameOutline t) (links : Links) (isAgentKind : Option String → Bool) :
    links.childRunOf? isAgentKind s = links.childRunOf? isAgentKind t := by
  rw [Links.childRunOf?, Links.childRunOf?, h.key_eq, h.kind_eq, h.output_eq]

end Step.SameOutline

/-- The runs that a step leads to: its child run, and the run of its agent. -/
def stepTargets (links : Links) (config : LedgerConfig) (s : Step) : List String :=
  (links.childRunOf? config.isAgentKind s).toList ++ (links.agentRunOf? s.key).toList

theorem Step.SameOutline.stepTargets_eq {s t : Step} (h : s.SameOutline t) (links : Links)
    (config : LedgerConfig) : stepTargets links config s = stepTargets links config t := by
  rw [stepTargets, stepTargets, h.childRunOf?_eq, h.key_eq]

/-! ### The scope in a ledger -/

section

variable (ledger : Ledger) (links : Links) (config : LedgerConfig)

theorem targetsOf_runLinks (run : String) :
    targetsOf (runLinks ledger links config) run =
      (ledger.steps.filter fun s => s.runId == run).flatMap (stepTargets links config) := by
  unfold targetsOf runLinks
  induction ledger.steps with
  | nil => rfl
  | cons s steps ih =>
    rw [List.flatMap_cons, List.filter_append, List.map_append, ih, List.filter_cons]
    have hs : ((stepLinks links config s).filter fun l => l.source == run).map RunLink.target =
        if s.runId == run then stepTargets links config s else [] := by
      rw [stepLinks, stepTargets, List.filter_map, List.map_map]
      by_cases h : s.runId = run <;> simp [h, Function.comp_def]
    rw [hs]
    split
    · rw [List.flatMap_cons]
    · rw [List.nil_append]

variable {ledger links config} {root : String}

/-- A step in scope has its child run in scope. -/
theorem mem_treeRunIds_of_childRun {s : Step} {child : String} (hs : s ∈ ledger.steps)
    (hrun : s.runId ∈ treeRunIds root ledger links config)
    (hchild : links.childRunOf? config.isAgentKind s = some child) :
    child ∈ treeRunIds root ledger links config := by
  refine mem_reachableRuns_of_link hrun ?_
  rw [targetsOf_runLinks, List.mem_flatMap]
  refine ⟨s, List.mem_filter.2 ⟨hs, beq_self_eq_true _⟩, ?_⟩
  rw [stepTargets, hchild]
  exact List.mem_append_left _ (by simp)

/-- No step is in the scope of a root run that has no steps itself. -/
theorem any_runId_of_mem_treeRunIds {s : Step} (hs : s ∈ ledger.steps)
    (hrun : s.runId ∈ treeRunIds root ledger links config) :
    (ledger.steps.any fun t => t.runId == root) = true := by
  by_contra hany
  have hnone : (ledger.steps.filter fun t => t.runId == root) = [] := by
    simpa using hany
  have htargets : targetsOf (runLinks ledger links config) root = [] := by
    rw [targetsOf_runLinks, hnone, List.flatMap_nil]
  rw [treeRunIds, reachableRuns_of_no_target htargets, List.mem_singleton] at hrun
  exact hany (List.any_eq_true.2 ⟨s, hs, by rw [hrun, beq_self_eq_true]⟩)

/-- Steps outside of the scope do not matter for it, and of those inside only the outlines do. -/
theorem treeRunIds_congr {ledger' : Ledger}
    (h : ∀ run ∈ treeRunIds root ledger links config, List.Forall₂ Step.SameOutline
      (ledger.steps.filter fun s => s.runId == run)
      (ledger'.steps.filter fun s => s.runId == run)) :
    treeRunIds root ledger' links config = treeRunIds root ledger links config := by
  refine reachableRuns_congr fun run hrun => ?_
  have hsame : List.Forall₂ (· = ·)
      ((ledger.steps.filter fun s => s.runId == run).flatMap (stepTargets links config))
      ((ledger'.steps.filter fun s => s.runId == run).flatMap (stepTargets links config)) := by
    refine List.rel_flatMap (h run hrun) fun s t hst => ?_
    rw [hst.stepTargets_eq, List.forall₂_eq_eq_eq]
  rw [List.forall₂_eq_eq_eq] at hsame
  rw [targetsOf_runLinks, targetsOf_runLinks, hsame]

end

end RunWatch
