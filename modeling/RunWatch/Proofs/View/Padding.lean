import RunWatch.Proofs.Ledger.Identity
import RunWatch.Proofs.Ledger.Padding
import RunWatch.Proofs.View.Isolation

/-!
# Views of padded streams

Events that do nothing may be put into a stream anywhere. The view shows the same, but for the
numbers in the identifiers of the steps: they become the places of the same events in the padded
stream.

* `renumberId`: an identifier with another number, whatever the names of its run and node are.
* `RunView.renumbered_ofRoot`: a ledger with renumbered steps gives a renumbered view.
* `RunView.derive_of_padded`: the view of a padded stream.
-/

namespace RunWatch

open Text

/-! ### Identifiers -/

/-- An identifier of a step with another number. -/
def renumberId (place : Nat → Nat) (id : String) : String :=
  match splitLast? ':' id.toList with
  | some (name, digits) =>
    String.ofList name ++ ":" ++ String.ofList (digitsOf (place (Nat.ofDigitChars 10 digits 0)))
  | none => id

theorem renumberId_stepId (place : Nat → Nat) (runId nodeId : String) (arrival : Nat) :
    renumberId place (stepId runId nodeId arrival) = stepId runId nodeId (place arrival) := by
  have hname : String.ofList (runId.toList ++ ':' :: nodeId.toList) = runId ++ ":" ++ nodeId := by
    rw [← String.toList_inj]
    simp
  have hdigits : Nat.ofDigitChars 10 (digitsOf arrival) 0 = arrival :=
    Nat.ofDigitChars_ten_toDigits
  rw [renumberId, splitLast?_stepId]
  simp only [hname, hdigits, stepId]

theorem Step.id_renumbered (place : Nat → Nat) (s : Step) :
    (s.renumbered place).id = renumberId place s.id :=
  (renumberId_stepId place s.runId s.nodeId s.arrival).symm

/-- The step that is shown with another number. -/
def StepView.renumbered (place : Nat → Nat) (x : StepView) : StepView :=
  { x with step := x.step.renumbered place }

/-! ### Ledgers with renumbered steps -/

section

variable {place : Nat → Nat} {l l' : Ledger}
  (hsteps : l'.steps = l.steps.map (Step.renumbered place)) (links : Links) (config : LedgerConfig)

include hsteps

/-- No number is read to find the runs in scope. -/
theorem treeRunIds_of_renumbered (root : String) :
    treeRunIds root l' links config = treeRunIds root l links config := by
  have hlinks : stepLinks links config ∘ Step.renumbered place = stepLinks links config := rfl
  have hrunLinks : runLinks l' links config = runLinks l links config := by
    rw [runLinks, runLinks, hsteps, List.flatMap_map]
    exact congrArg (fun f => l.steps.flatMap f) hlinks
  rw [treeRunIds, treeRunIds, hrunLinks]

theorem scopedSteps_of_renumbered (runs : List String) :
    RunView.scopedSteps l' links config runs =
      (RunView.scopedSteps l links config runs).map (StepView.renumbered place) := by
  rw [RunView.scopedSteps, RunView.scopedSteps, hsteps, List.filter_map, List.map_map, List.map_map]
  rfl

theorem filter_runId_of_renumbered (run : String) : (l'.steps.filter fun s => s.runId == run) =
    (l.steps.filter fun s => s.runId == run).map (Step.renumbered place) := by
  rw [hsteps, List.filter_map]
  rfl

variable (hl : l.Indexed) (hl' : l'.Indexed)

include hl hl'

theorem hasSteps_of_renumbered (run : String) : l'.hasSteps run = l.hasSteps run := by
  rw [hl'.hasSteps_eq, hl.hasSteps_eq, hsteps, List.any_map]
  rfl

/-- The rows of a tree have the identifiers of renumbered steps. -/
theorem stepTree_of_renumbered (root : String) :
    stepTree root l' links config = mapIds (renumberId place) (stepTree root l links config) := by
  have hagree : TreeSource.AgreeUpTo (renumberId place)
      ⟨links.childRunOf? config.isAgentKind, l.stepsOfRun⟩
      ⟨links.childRunOf? config.isAgentKind, l'.stepsOfRun⟩ fun _ => True := by
    refine ⟨fun run _ => ?_, fun _ _ _ _ _ _ => trivial⟩
    simp only [hl.stepsOfRun_eq, hl'.stepsOfRun_eq, filter_runId_of_renumbered hsteps]
    refine List.forall₂_map_right_iff.2 (List.forall₂_same.2 fun s _ => ⟨?_, rfl⟩)
    exact (s.id_renumbered place).symm
  exact hagree.tree_eq trivial config.maxDepth

end

namespace RunView

/-- Whether a view shows the same as another one, from the same steps and with the same links, but
for the numbers in the identifiers of the steps. -/
structure Renumbered (place : Nat → Nat) (v w : RunView) : Prop where
  rootRunId_eq : w.rootRunId = v.rootRunId
  status_eq : w.status = v.status
  summary_eq : w.summary = v.summary
  steps_eq : w.steps = v.steps.map (StepView.renumbered place)
  tree_eq : w.tree = mapIds (renumberId place) v.tree
  ledgerSteps_eq : w.ledger.steps = v.ledger.steps.map (Step.renumbered place)
  links_eq : w.links = v.links

theorem viewStatus_renumbered (place : Nat → Nat) (summary : Option RunSummary) (hasSteps : Bool)
    (steps : List StepView) : viewStatus summary hasSteps (steps.map (StepView.renumbered place)) =
      viewStatus summary hasSteps steps := by
  have hwaiting : ((steps.map (StepView.renumbered place)).any fun s => s.step.status == .waiting) =
      steps.any fun s => s.step.status == .waiting := List.any_map
  rw [viewStatus, viewStatus, hwaiting]

/-- A ledger with renumbered steps and the same summaries gives a renumbered view. -/
theorem renumbered_ofRoot {place : Nat → Nat} {l l' : Ledger} (hl : l.Indexed) (hl' : l'.Indexed)
    (hsteps : l'.steps = l.steps.map (Step.renumbered place)) {root : String}
    (hsummary : l'.summary? root = l.summary? root) (n n' : Nat) (links : Links)
    (config : LedgerConfig) :
    Renumbered place (ofRoot root n l links config) (ofRoot root n' l' links config) := by
  have hshown : (ofRoot root n' l' links config).steps =
      (ofRoot root n l links config).steps.map (StepView.renumbered place) := by
    simp only [ofRoot]
    rw [treeRunIds_of_renumbered hsteps, scopedSteps_of_renumbered hsteps]
  have hstatus : (ofRoot root n' l' links config).status =
      (ofRoot root n l links config).status := by
    rw [status_ofRoot, status_ofRoot, hshown, hsummary, hasSteps_of_renumbered hsteps hl hl',
      viewStatus_renumbered]
  exact ⟨rfl, hstatus, hsummary, hshown, stepTree_of_renumbered hsteps links config hl hl' root,
    hsteps, rfl⟩

/-- A view without a root run shows no step. -/
theorem renumbered_of_no_root {place : Nat → Nat} {l l' : Ledger}
    (hsteps : l'.steps = l.steps.map (Step.renumbered place)) (n n' : Nat) (links : Links) :
    Renumbered place { empty with eventCount := n, ledger := l, links }
      { empty with eventCount := n', ledger := l', links } :=
  ⟨rfl, rfl, rfl, rfl, by rw [empty, mapIds], hsteps, rfl⟩

end RunView

theorem Padded.rootRunId?_eq {events padded : List Event} {places : List Nat}
    (h : Padded events padded places) (links : Links) :
    rootRunId? padded links = rootRunId? events links := by
  have hstarts : padded.filter Event.isRootStart = events.filter Event.isRootStart :=
    h.filter_eq fun e he => Event.isRootStart_of_isInert he
  have hruns : padded.filterMap Event.runId? = events.filterMap Event.runId? :=
    h.filterMap_eq fun e he => Event.runId?_of_isInert he
  rw [rootRunId?, rootRunId?, List.filter_reverse, List.filter_reverse, hstarts, hruns]

namespace RunView

theorem eventCount_derive (events : List Event) (catalog : Catalog) (config : LedgerConfig) :
    (derive events catalog config).eventCount = events.length := by
  simp only [derive]
  split <;> rfl

theorem renumbered_derive {events padded : List Event} {places : List Nat}
    (h : Padded events padded places) (catalog : Catalog) (config : LedgerConfig) :
    Renumbered (placeIn places) (derive events catalog config) (derive padded catalog config) := by
  have hsteps := h.steps_eq catalog config
  have hlinks := h.links_eq
  have hpaddedRoot : rootRunId? padded (Links.ofEvents padded) =
      rootRunId? events (Links.ofEvents events) := by rw [hlinks, h.rootRunId?_eq]
  cases hroot : rootRunId? events (Links.ofEvents events) with
  | none =>
    rw [derive_of_no_root hroot, derive_of_no_root (hpaddedRoot.trans hroot), hlinks]
    exact renumbered_of_no_root hsteps _ _ _
  | some root =>
    rw [derive_eq_ofRoot hroot, derive_eq_ofRoot (hpaddedRoot.trans hroot), hlinks]
    exact renumbered_ofRoot (Ledger.indexed_ofEvents catalog config events)
      (Ledger.indexed_ofEvents catalog config padded) hsteps (h.summary?_eq catalog config root)
      _ _ _ _

/-- Events that do nothing are put into a stream, anywhere and any number of them. The root run, its
status and summary, and the links are the same. The steps, with their links, and the tree are the
same once every number in an identifier is replaced by the place of the same event in the padded
stream. Only the number of events grows. -/
theorem derive_of_padded (events padded : List Event) (places : List Nat)
    (h : Padded events padded places) (catalog : Catalog) (config : LedgerConfig) :
    let v := derive events catalog config
    let w := derive padded catalog config
    Renumbered (placeIn places) v w ∧
      (v.eventCount = events.length ∧ w.eventCount = padded.length ∧
        v.eventCount ≤ w.eventCount) ∧
      places.Pairwise (· < ·) ∧ ∀ i < events.length, padded[placeIn places i]? = events[i]? := by
  intro v w
  have hv : v.eventCount = events.length := eventCount_derive events catalog config
  have hw : w.eventCount = padded.length := eventCount_derive padded catalog config
  refine ⟨renumbered_derive h catalog config, ⟨hv, hw, ?_⟩, h.places_rise, fun i =>
    h.getElem?_placeIn⟩
  rw [hv, hw]
  exact h.length_le

/-- Events that do nothing stand before, between and behind the others. The failure names a node, but
no run. -/
theorem derive_of_padded_between :
    let start : Event := .flowStart "r" none none
    let node : Event := .nodeStart "r" "a" none none
    let link : Event := .subworkflowUpdate "r" "a" "c"
    let child : Event := .nodeStart "c" "f" none none
    let events := [start, node, link, child]
    let padded := [.unknown, start, .nodeStart "" "a" none none, node,
      .flowError "" (some "a") none none, link, child, .flowComplete "" none none]
    let places := [1, 3, 5, 6]
    let v := derive events .empty .standard
    let w := derive padded .empty .standard
    Padded events padded places ∧ Renumbered (placeIn places) v w ∧
      ((flatten v.tree).map TreeNode.stepId, (flatten w.tree).map TreeNode.stepId) =
        (["r:a:1", "c:f:3"], ["r:a:3", "c:f:6"]) := by
  intro start node link child events padded places v w
  have hpadded : Padded events padded places :=
    ((((((Padded.nil.insert .unknown rfl).keep start).insert (.nodeStart "" "a" none none) rfl).keep
      node).insert (.flowError "" (some "a") none none) rfl).keep link).keep child
        |>.insert (.flowComplete "" none none) rfl
  obtain ⟨hrenumbered, -⟩ := derive_of_padded events padded places hpadded .empty .standard
  exact ⟨hpadded, hrenumbered, by decide +kernel⟩

/-- A failure without a run and without a node is not inert: it is noted on the last step. -/
example :
    let events : List Event := [.nodeStart "r" "a" none none]
    (derive (events ++ [.flowError "" none (some (.string "boom")) none]) .empty .standard).steps ≠
      (derive events .empty .standard).steps := by
  decide +kernel

end RunView

end RunWatch
