import Mathlib.Data.List.Nodup
import Mathlib.Logic.Relation
import RunWatch.Proofs.Ledger.Identity
import RunWatch.Proofs.View.Isolation

/-!
# The reach of a root run

A run leads to the child runs of its steps and to the runs of their agents (`Leads`). What can be
reached by any number of such links is the scope of a root run, no more and no less, also where the
links form cycles or lead to runs without steps.

* `mem_reachableRuns_iff`: the search finds what can be reached, `nodup_reachableRuns`: each once.
* `RunView.scope_exact`: the same of a ledger, and the steps that a view shows.
-/

namespace RunWatch

open Relation

/-! ### New runs -/

theorem notMem_of_mem_newRuns {seen runs : List String} {run : String}
    (h : run ∈ newRuns seen runs) : run ∉ seen := by
  induction runs generalizing seen with
  | nil => cases h
  | cons r rest ih =>
    simp only [newRuns] at h
    split at h
    · exact ih h
    · next hr =>
      rcases List.mem_cons.1 h with rfl | h
      · simpa using hr
      · exact fun hseen => ih h (List.mem_cons_of_mem _ hseen)

theorem newRuns_subset (seen runs : List String) : newRuns seen runs ⊆ runs := by
  induction runs generalizing seen with
  | nil => simp [newRuns]
  | cons r rest ih =>
    simp only [newRuns]
    split
    · exact List.Subset.trans (ih seen) (List.subset_cons_self r rest)
    · exact List.cons_subset_cons r (ih (r :: seen))

theorem nodup_newRuns (seen runs : List String) : (newRuns seen runs).Nodup := by
  induction runs generalizing seen with
  | nil => exact List.nodup_nil
  | cons r rest ih =>
    simp only [newRuns]
    split
    · exact ih seen
    · refine List.nodup_cons.2 ⟨fun hmem => ?_, ih (r :: seen)⟩
      exact notMem_of_mem_newRuns hmem List.mem_cons_self

/-! ### The search -/

section

variable {links : List RunLink} {seen waiting : List String}

/-- No run is visited twice: what waits was seen, and what was seen does not come to wait again. -/
theorem nodup_visitRuns (hwaiting : waiting.Nodup) (hseen : waiting ⊆ seen) :
    (visitRuns links seen waiting).Nodup ∧
      ∀ run ∈ visitRuns links seen waiting, run ∈ waiting ∨ run ∉ seen := by
  fun_induction visitRuns links seen waiting with
  | case1 => simp
  | case2 links seen run waiting found ih =>
    have hrun : run ∈ seen := hseen List.mem_cons_self
    have hold : waiting ⊆ seen := fun r hr => hseen (List.mem_cons_of_mem _ hr)
    have hfound : ∀ r ∈ found, r ∉ seen := fun r hr => notMem_of_mem_newRuns hr
    obtain ⟨hhead, htail⟩ := List.nodup_cons.1 hwaiting
    have hnext : (waiting ++ found).Nodup := by
      refine List.nodup_append.2 ⟨htail, nodup_newRuns _ _, ?_⟩
      rintro r hr _ hr' rfl
      exact hfound r hr' (hold hr)
    have hnextSeen : waiting ++ found ⊆ seen ++ found := fun r hr => by
      rcases List.mem_append.1 hr with hr | hr
      · exact List.mem_append_left _ (hold hr)
      · exact List.mem_append_right _ hr
    obtain ⟨hnodup, hvisited⟩ := ih hnext hnextSeen
    refine ⟨List.nodup_cons.2 ⟨fun hmem => ?_, hnodup⟩, fun r hr => ?_⟩
    · rcases hvisited run hmem with h | h
      · rcases List.mem_append.1 h with h | h
        · exact hhead h
        · exact hfound run h hrun
      · exact h (List.mem_append_left _ hrun)
    · rcases List.mem_cons.1 hr with rfl | hr
      · exact .inl List.mem_cons_self
      · rcases hvisited r hr with h | h
        · rcases List.mem_append.1 h with h | h
          · exact .inl (List.mem_cons_of_mem _ h)
          · exact .inr (hfound r h)
        · exact .inr fun hmem => h (List.mem_append_left _ hmem)

/-- A visited run is reached from one that waits. -/
theorem exists_reach_of_mem_visitRuns {run : String} (h : run ∈ visitRuns links seen waiting) :
    ∃ start ∈ waiting, ReflTransGen (fun a b => b ∈ targetsOf links a) start run := by
  fun_induction visitRuns links seen waiting with
  | case1 => cases h
  | case2 links seen r waiting found ih =>
    rcases List.mem_cons.1 h with rfl | h
    · exact ⟨run, List.mem_cons_self, .refl⟩
    · obtain ⟨start, hstart, hreach⟩ := ih h
      -- The links of `r` are used up, and those of other runs are links from the start.
      have hmono : ReflTransGen (fun a b => b ∈ targetsOf links a) start run := by
        refine ReflTransGen.mono (fun a b hab => ?_) start run hreach
        rw [targetsOf_linksOfOthers] at hab
        split at hab
        · cases hab
        · exact hab
      rcases List.mem_append.1 hstart with hstart | hstart
      · exact ⟨start, List.mem_cons_of_mem _ hstart, hmono⟩
      · exact ⟨r, List.mem_cons_self, .head (newRuns_subset _ _ hstart) hmono⟩

theorem length_visitRuns_le (links : List RunLink) (seen waiting : List String) :
    (visitRuns links seen waiting).length ≤ links.length + waiting.length := by
  fun_induction visitRuns links seen waiting with
  | case1 => simp
  | case2 links seen run waiting found ih =>
    have hfound : found.length ≤ (targetsOf links run).length := length_newRuns_le _ _
    have hlinks := length_targetsOf_add links run
    rw [List.length_append] at ih
    simp only [List.length_cons]
    omega

end

section

variable (links : List RunLink) (root : String)

theorem head?_reachableRuns : (reachableRuns links root).head? = some root := by
  rw [reachableRuns, visitRuns_cons, List.head?_cons]

theorem nodup_reachableRuns : (reachableRuns links root).Nodup :=
  (nodup_visitRuns (List.nodup_singleton root) (List.Subset.refl _)).1

theorem length_reachableRuns_le : (reachableRuns links root).length ≤ links.length + 1 :=
  length_visitRuns_le links [root] [root]

variable {links root} in
theorem mem_reachableRuns_iff {run : String} :
    run ∈ reachableRuns links root ↔ ReflTransGen (fun a b => b ∈ targetsOf links a) root run := by
  constructor
  · intro h
    obtain ⟨start, hstart, hreach⟩ := exists_reach_of_mem_visitRuns h
    rwa [List.mem_singleton.1 hstart] at hreach
  · intro h
    induction h with
    | refl => exact root_mem_reachableRuns
    | tail _ hlink ih => exact mem_reachableRuns_of_link ih hlink

end

/-! ### Ledgers -/

section

variable (ledger : Ledger) (links : Links) (config : LedgerConfig) (root : String)

/-- Whether some step of a run has another one as its child run, or as the run of its agent. -/
def Leads (a b : String) : Prop :=
  ∃ s ∈ ledger.steps, s.runId = a ∧
    (links.childRunOf? config.isAgentKind s = some b ∨ links.agentRunOf? s.key = some b)

/-- Whether a run can be reached from another one through any number of links. -/
def Reaches : String → String → Prop := ReflTransGen (Leads ledger links config)

variable {ledger links config root}

theorem mem_targetsOf_runLinks_iff {a b : String} :
    b ∈ targetsOf (runLinks ledger links config) a ↔ Leads ledger links config a b := by
  rw [targetsOf_runLinks, List.mem_flatMap, Leads]
  simp only [List.mem_filter, beq_iff_eq, stepTargets, List.mem_append, Option.mem_toList,
    and_assoc]

theorem mem_treeRunIds_iff {run : String} :
    run ∈ treeRunIds root ledger links config ↔ Reaches ledger links config root run := by
  rw [treeRunIds, mem_reachableRuns_iff, Reaches]
  simp only [mem_targetsOf_runLinks_iff]

instance (run : String) : Decidable (Reaches ledger links config root run) :=
  decidable_of_iff _ mem_treeRunIds_iff

theorem length_runLinks_le : (runLinks ledger links config).length ≤ 2 * ledger.steps.length := by
  have hstep : ∀ s, (stepLinks links config s).length ≤ 2 := fun s => by
    unfold stepLinks
    cases links.childRunOf? config.isAgentKind s <;> cases links.agentRunOf? s.key <;> simp
  unfold runLinks
  induction ledger.steps with
  | nil => simp
  | cons s steps ih =>
    have := hstep s
    rw [List.flatMap_cons, List.length_append, List.length_cons]
    omega

end

/-! ### Views -/

namespace RunView

theorem map_step_ofRoot (root : String) (n : Nat) (ledger : Ledger) (links : Links)
    (config : LedgerConfig) : (ofRoot root n ledger links config).steps.map StepView.step =
      ledger.steps.filter fun s => Reaches ledger links config root s.runId := by
  have hstep : StepView.step ∘ stepView links config = id := rfl
  rw [steps_ofRoot, List.map_map, hstep, List.map_id, History.partOf]
  refine List.filter_congr fun s _ => ?_
  rw [History.inRuns, Bool.eq_iff_iff, List.contains_iff_mem, decide_eq_true_iff]
  exact mem_treeRunIds_iff

/-- The scope of a root run is that run first, and then each run that can be reached from it once.
So the steps that a view of this root shows are those of the runs that can be reached, each once and
in the order of their creation. -/
theorem scope_exact :
    (∀ (ledger : Ledger) (links : Links) (config : LedgerConfig) (root : String),
      let runs := treeRunIds root ledger links config
      runs.head? = some root ∧ runs.Nodup ∧ runs.length ≤ 2 * ledger.steps.length + 1 ∧
        ∀ run, run ∈ runs ↔ Reaches ledger links config root run) ∧
    ∀ (catalog : Catalog) (config : LedgerConfig) (events : List Event) (root : String),
      let v := derive events catalog config
      let ledger := Ledger.ofEvents catalog config events
      v.rootRunId = some root →
        (v.steps.map StepView.step = ledger.steps.filter fun s =>
          Reaches ledger (Links.ofEvents events) config root s.runId) ∧
        v.steps.Pairwise fun x y => x.step.arrival < y.step.arrival := by
  refine ⟨fun ledger links config root => ?_, fun catalog config events root => ?_⟩
  · intro runs
    have hlength := length_reachableRuns_le (runLinks ledger links config) root
    have hlinks : (runLinks ledger links config).length ≤ 2 * ledger.steps.length :=
      length_runLinks_le
    refine ⟨head?_reachableRuns _ root, nodup_reachableRuns _ root, ?_, fun run =>
      mem_treeRunIds_iff⟩
    exact Nat.le_trans hlength (by omega)
  · intro v ledger hroot
    have hv : v = ofRoot root events.length ledger (Links.ofEvents events) config := by
      rw [rootRunId_derive] at hroot
      exact derive_eq_ofRoot hroot
    have hsteps := map_step_ofRoot root events.length ledger (Links.ofEvents events) config
    rw [← hv] at hsteps
    refine ⟨hsteps, ?_⟩
    have hrise := (Ledger.arrivals_rise catalog config events).filter
      fun s => decide (Reaches ledger (Links.ofEvents events) config root s.runId)
    rwa [← hsteps, List.pairwise_map] at hrise

/-- A child run that links back to itself through another run, a run of an agent, a child run
without steps, and a run out of reach. -/
theorem scope_exact_of_cycle :
    let events : List Event := [.flowStart "r" none none, .nodeStart "r" "a" none none,
      .subworkflowUpdate "r" "a" "c", .nodeStart "c" "b" none none, .subworkflowUpdate "c" "b" "d",
      .nodeStart "d" "e" none none, .subworkflowUpdate "d" "e" "c",
      .traceUpdate "g" "a" (some "r") [], .nodeStart "g" "t" none none,
      .nodeStart "x" "y" none none, .nodeStart "d" "z" none none, .subworkflowUpdate "d" "z" "w"]
    let v := derive events .empty .standard
    let ledger := Ledger.ofEvents .empty .standard events
    v.rootRunId = some "r" ∧
      (v.steps.map StepView.step = ledger.steps.filter fun s =>
        Reaches ledger (Links.ofEvents events) .standard "r" s.runId) ∧
      v.steps.Pairwise fun x y => x.step.arrival < y.step.arrival := by
  intro events v ledger
  have hroot : v.rootRunId = some "r" := by decide +kernel
  exact ⟨hroot, scope_exact.2 .empty .standard events "r" hroot⟩

end RunView

end RunWatch
