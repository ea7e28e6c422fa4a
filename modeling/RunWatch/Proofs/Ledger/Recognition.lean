import RunWatch.Proofs.Ledger.Matching
import RunWatch.Proofs.Ledger.Redelivery

/-!
# The step that a completion repeats

A completion that finds its node closed is merged into the step that it repeats, or makes a step of
its own. The step that it repeats is sought by what the completion says: the catalog has a kind for
the node whose completions are merged, or the event reports one. The kind that the newest step of
the node holds is not asked. So a step that learned its kind from the start of the node, or from an
earlier completion, is repeated without being recognised by a completion that reports no kind
(`Ledger.repetition_of_unreported_kind`).

* `Step.Catalogued`: the kind of a step is that of the catalog, where the catalog has one.
* `Ledger.repetition_recognised`: when a repetition of the newest step of a node is recognised.
-/

namespace RunWatch

open Text

/-! ### The kind of a step -/

namespace Step

/-- The kind of a step is that of the catalog, where the catalog has one for the node. -/
def Catalogued (catalog : Catalog) (s : Step) : Prop :=
  ∀ kind, catalog.kindOf s.nodeId = some kind → s.kind = some kind

variable {catalog : Catalog} {s t : Step}

theorem catalogued_running (key : NodeKey) (place : Nat) (nodeType : Option String)
    (ts : Option Instant) :
    (running key place (catalog.resolve key.nodeId nodeType) ts).Catalogued catalog := by
  intro kind hkind
  show (catalog.kindOf key.nodeId).or _ = some kind
  rw [show catalog.kindOf key.nodeId = some kind from hkind, Option.some_or]

theorem Catalogued.revised (h : s.Catalogued catalog) (hst : s.Revised t) :
    t.Catalogued catalog := by
  intro kind hkind
  have hnode : t.nodeId = s.nodeId := congrArg NodeKey.nodeId hst.key_eq
  have hs : s.kind = some kind := h kind (hnode ▸ hkind)
  cases hst with
  | complete hopen result details ts told =>
    show s.kind.or told = some kind
    rw [hs, Option.some_or]
  | blame message ts =>
    unfold blame
    split <;> exact hs
  | pause | merge | fail => exact hs

/-- A completion has the kind of a step of its node if the catalog has the node, or if it reports
this kind. -/
theorem Catalogued.resolve_eq (h : s.Catalogued catalog) {nodeType : Option String}
    (hknown : (catalog.kindOf s.nodeId).isSome = true ∨ nodeType.bind full? = s.kind) :
    catalog.resolve s.nodeId nodeType = s.kind := by
  unfold Catalog.resolve
  cases hkind : catalog.kindOf s.nodeId with
  | some kind => rw [Option.some_or, h kind hkind]
  | none =>
    rw [hkind] at hknown
    rcases hknown with hcatalog | htype
    · cases hcatalog
    · rw [Option.none_or, htype]

end Step

namespace Ledger

open History

theorem catalogued_of_mem_steps {catalog : Catalog} {config : LedgerConfig} {events : List Event}
    {s : Step} (hs : s ∈ (ofEvents catalog config events).steps) : s.Catalogued catalog := by
  refine forall_mem_steps_of_resolved catalog config events ?_ ?_ s hs
  · intro key place nodeType ts
    exact Step.catalogued_running key place nodeType ts
  · intro s t hs hst
    exact hs.revised hst

/-! ### The newest step of a node -/

/-- The step at a place is the newest one of a node and completed, and its output names a child
run. -/
structure NewestCompleted (l : Ledger) (key : NodeKey) (subRun : String) (place : Nat) (s : Step) :
    Prop where
  at_place : l.steps[place]? = some s
  of_node : s.key = key
  completed : s.status = .completed
  names_run : s.outputSubRunId? = some subRun
  newest : ∀ later t, place < later → l.steps[later]? = some t → t.key ≠ key

namespace NewestCompleted

variable {l : Ledger} {key : NodeKey} {subRun : String} {place : Nat} {s : Step}

/-- The last step of all is the newest one of its node. -/
theorem of_last {steps : List Step} (hsteps : l.steps = steps ++ [s]) (hkey : s.key = key)
    (hstatus : s.status = .completed) (hsub : s.outputSubRunId? = some subRun) :
    l.NewestCompleted key subRun steps.length s where
  at_place := by rw [hsteps, List.getElem?_concat_length]
  of_node := hkey
  completed := hstatus
  names_run := hsub
  newest later t hlater ht := by
    have hlt : later < l.steps.length := (List.getElem?_eq_some_iff.1 ht).1
    rw [hsteps, List.length_append, List.length_singleton] at hlt
    omega

variable (h : l.NewestCompleted key subRun place s) (hl : l.Indexed)

include h hl

theorem openSteps_eq : l.openSteps.get? key = none := by
  by_contra hopen
  obtain ⟨i, hi⟩ := Option.ne_none_iff_exists'.1 hopen
  obtain ⟨t, ht⟩ := (hl.openSteps_get?_iff key i).1 hi
  rcases Nat.lt_trichotomy place i with hlt | rfl | hgt
  · exact h.newest i t hlt ht.at_place ht.of_node
  · obtain rfl : s = t := Option.some.inj (h.at_place.symm.trans ht.at_place)
    simpa [h.completed] using ht.runs_or_waits
  · exact ht.newest place s hgt h.at_place h.of_node

variable {c : Completion} (hsub : c.output.bind subRunIdOf? = some subRun)

include hsub

/-- A completion of the node that names the same child run repeats this step, if its kind is one
whose completions are merged, and no step otherwise. -/
theorem duplicate?_eq (kind : Option String) :
    l.duplicate? key kind c = if l.config.isDedupKind kind then some place else none := by
  cases hkind : l.config.isDedupKind kind with
  | false => simp [duplicate?, hkind]
  | true =>
    rw [hl.duplicate?_eq, if_pos rfl, lastWhere?_eq_some_iff]
    refine ⟨⟨s, h.at_place, ?_⟩, ?_⟩
    · simp [repeats, hkind, hsub, h.of_node, h.completed, h.names_run]
    · intro later t hlater ht
      rw [Bool.eq_false_iff]
      intro hrepeats
      exact h.newest later t hlater ht (key_of_repeats l.config hrepeats)

theorem steps_completeStep (n : Nat) (nodeType : Option String) :
    let kind := l.catalog.resolve key.nodeId nodeType
    (l.completeStep n key nodeType c).steps =
      if l.config.isDedupKind kind then l.steps.set place (s.merge c)
      else l.steps ++ [(Step.running key n kind none).complete c kind] := by
  intro kind
  simp only [completeStep, h.openSteps_eq hl, h.duplicate?_eq hl hsub]
  cases l.config.isDedupKind kind with
  | true =>
    show l.steps.modify place _ = l.steps.set place _
    rw [List.modify_eq_set_getElem?, h.at_place]
    rfl
  | false => rfl

end NewestCompleted

/-! ### Recognition -/

/-- A completion repeats the newest step of its node, whose kind is one whose completions are
merged: both name the same child run. It is merged into this step when the kind in the catalog, or
else the one that it reports itself, is such a kind, and it makes another step otherwise. So it is
recognised if the catalog has the node or the completion reports the kind that the step holds. -/
theorem repetition_recognised (catalog : Catalog) (config : LedgerConfig) (events : List Event)
    (key : NodeKey) (subRun : String) (place : Nat) (s : Step) (runId nodeId : String)
    (nodeType : Option String) (result : Json) (details : Option Json) (ts : Option Instant)
    (hs : (ofEvents catalog config events).NewestCompleted key subRun place s)
    (hkind : config.isDedupKind s.kind = true)
    (hnode : (Event.nodeComplete runId nodeId nodeType (some result) details ts).addresses key =
      true)
    (hsub : subRunIdOf? result = some subRun) :
    let l := ofEvents catalog config events
    let c := Completion.of (some result) details ts
    let kind := catalog.resolve nodeId nodeType
    ((l.apply (.nodeComplete runId nodeId nodeType (some result) details ts)).steps =
      if config.isDedupKind kind then l.steps.set place (s.merge c)
      else l.steps ++ [(Step.running key l.arrival kind none).complete c kind]) ∧
    ((catalog.kindOf nodeId).isSome = true ∨ nodeType.bind full? = s.kind →
      config.isDedupKind kind = true) := by
  have hl : (ofEvents catalog config events).Indexed := indexed_ofEvents catalog config events
  obtain ⟨hcatalog, hconfig⟩ := catalog_config_ofEvents catalog config events
  have hmem : s ∈ (ofEvents catalog config events).steps := List.mem_of_getElem? hs.at_place
  obtain rfl : s.key = key := hs.of_node
  cases Event.ofNode_of_addresses hnode with
  | complete _ _ _ _ hrun hid =>
    intro l c kind
    refine ⟨?_, fun hknown => ?_⟩
    · have hcsub : c.output.bind subRunIdOf? = some subRun := hsub
      have hsteps := hs.steps_completeStep hl hcsub l.arrival nodeType
      rw [hcatalog, hconfig] at hsteps
      rw [apply_nodeComplete hrun hid]
      exact hsteps
    · have hsame : kind = s.kind := (catalogued_of_mem_steps hmem).resolve_eq hknown
      rw [hsame, hkind]

/-- The catalog has the node, and the repetition reports no kind; the first completion learned it
from the catalog as well. -/
theorem repetition_recognised_of_catalogued_node :
    let catalog : Catalog := .ofList [("a", "agent")]
    let result : Json := .object [("sub_run_id", .string "x")]
    let e (model : String) : Event := .nodeComplete "r" "a" none (some result)
      (some (.object [("model", .string model)])) none
    let l := ofEvents catalog .standard [e "first", .nodeStart "r" "b" none none]
    (∃ s, l.NewestCompleted ⟨"r", "a"⟩ "x" 0 s ∧ LedgerConfig.standard.isDedupKind s.kind = true) ∧
      (e "second").addresses ⟨"r", "a"⟩ = true ∧ subRunIdOf? result = some "x" ∧
      ((l.apply (e "second")).steps.map fun s => s.model) = [some "second", none] := by
  intro catalog result e l
  let s : Step := (Step.running ⟨"r", "a"⟩ 0 (some "agent") none).complete
    (.of (some result) (some (.object [("model", .string "first")])) none) none
  have hsteps : l.steps = [s, .running ⟨"r", "b"⟩ 1 none none] := by decide +kernel
  have hnewest : l.NewestCompleted ⟨"r", "a"⟩ "x" 0 s := by
    refine ⟨by rw [hsteps]; rfl, rfl, rfl, by decide, ?_⟩
    intro later t hlater ht
    rw [hsteps] at ht
    match later with
    | 1 =>
      cases ht
      decide
  obtain ⟨hmerged, hrecognised⟩ := repetition_recognised catalog .standard _ ⟨"r", "a"⟩ "x" 0 s
    "r" "a" none result (some (.object [("model", .string "second")])) none hnewest (by decide)
    (by decide) (by decide)
  refine ⟨⟨s, hnewest, by decide⟩, by decide, by decide, ?_⟩
  rw [show l.apply (e "second") = _ from rfl, hmerged, if_pos (hrecognised (.inl (by decide)))]
  decide +kernel

/-- A step that learned its kind from the start of its node is repeated by a completion that reports
no kind, which makes a second step for the same child run. -/
theorem repetition_of_unreported_kind :
    let result : Json := .object [("sub_run_id", .string "x")]
    let e : Event := .nodeComplete "r" "a" none (some result) none none
    let l := ofEvents .empty .standard [.nodeStart "r" "a" (some "agent") none, e]
    (∃ s, l.NewestCompleted ⟨"r", "a"⟩ "x" 0 s ∧ LedgerConfig.standard.isDedupKind s.kind = true) ∧
      l.openStep? ⟨"r", "a"⟩ = none ∧ e.addresses ⟨"r", "a"⟩ = true ∧
      subRunIdOf? result = some "x" ∧
      ((l.apply e).steps.map fun s => s.outputSubRunId?) = [some "x", some "x"] := by
  intro result e l
  let s : Step := (Step.running ⟨"r", "a"⟩ 0 (some "agent") none).complete
    (.of (some result) none none) none
  have hsteps : l.steps = [] ++ [s] := by decide +kernel
  have hnewest : l.NewestCompleted ⟨"r", "a"⟩ "x" 0 s := .of_last hsteps rfl rfl (by decide)
  exact ⟨⟨s, hnewest, by decide⟩, by decide +kernel, by decide, by decide, by decide +kernel⟩

end Ledger

end RunWatch
