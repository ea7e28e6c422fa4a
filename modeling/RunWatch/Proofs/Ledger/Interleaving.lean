import RunWatch.Proofs.Ledger.Locality
import RunWatch.Proofs.Ledger.OpenTable

/-!
# Interleaving

When every event of waiting or failure names a node, the steps of a node depend on the events of
that node alone, in whatever order these stand among the events of other nodes.

`Ledger.steps_of_node_alone` compares a stream with its events of one node: the steps of the node
are the same in both, up to the numbers in their identifiers, which are the places of the same
events in the two streams. Two interleavings of the same events of each node differ in these numbers
only.
-/

namespace RunWatch

/-! ### Numbered members -/

section

variable {α : Type*}

/-- The members that pass a test, numbered among all members and numbered among themselves. -/
theorem forall₂_numbered (p : α → Bool) (as : List α) :
    List.Forall₂ (fun a b => a.1 = b.1 ∧ (placesWhere p as)[b.2]? = some a.2)
      (as.zipIdx.filter fun a => p a.1) (as.filter p).zipIdx := by
  induction as using List.reverseRecOn with
  | nil => exact .nil
  | append_singleton as a ih =>
    have hold : List.Forall₂ (fun a' b => a'.1 = b.1 ∧
        (placesWhere p (as ++ [a]))[b.2]? = some a'.2)
        (as.zipIdx.filter fun a => p a.1) (as.filter p).zipIdx := by
      refine ih.imp fun a' b hab => ⟨hab.1, ?_⟩
      rw [placesWhere_append_singleton, List.getElem?_append_left]
      · exact hab.2
      · exact (List.getElem?_eq_some_iff.1 hab.2).1
    have hzip : ((as ++ [a]).zipIdx.filter fun a => p a.1) =
        (as.zipIdx.filter fun a => p a.1) ++ if p a then [(a, as.length)] else [] := by
      rw [List.zipIdx_append, List.filter_append]
      by_cases h : p a <;> simp [h]
    rw [hzip, List.filter_append]
    by_cases h : p a
    · rw [if_pos h, List.filter_cons_of_pos h, List.filter_nil, List.zipIdx_append]
      refine List.rel_append hold (.cons ⟨rfl, ?_⟩ .nil)
      rw [placesWhere_append_singleton, if_pos h, Nat.zero_add, ← length_placesWhere p as]
      simp
    · rw [if_neg h, List.filter_cons_of_neg h, List.filter_nil, List.append_nil, List.append_nil]
      exact hold

/-- Numbered members that pass a test are the same, up to their numbers, in two lists where the
members themselves are. -/
theorem forall₂_fst_of_filter_eq {p : α → Bool} {as bs : List α} (h : as.filter p = bs.filter p) :
    List.Forall₂ (fun a b => a.1 = b.1) (as.zipIdx.filter fun a => p a.1)
      (bs.zipIdx.filter fun b => p b.1) := by
  have hfst : ∀ cs : List α,
      (cs.zipIdx.filter fun c => p c.1).map Prod.fst = cs.filter p := fun cs => by
    conv_rhs => rw [← List.zipIdx_map_fst 0 cs, List.filter_map]
    rfl
  have heq : List.Forall₂ Eq ((as.zipIdx.filter fun a => p a.1).map Prod.fst)
      ((bs.zipIdx.filter fun b => p b.1).map Prod.fst) := by
    rw [hfst, hfst, h, List.forall₂_eq_eq_eq]
  rwa [List.forall₂_map_left_iff, List.forall₂_map_right_iff] at heq

end

namespace History

variable (catalog : Catalog) (config : LedgerConfig)

/-- The steps of a node come from the events that name the node. -/
theorem filter_run {events : List (Event × Nat)} (h : ∀ e ∈ events, e.1.isNodeless = false)
    (key : NodeKey) (steps : List Step) :
    partOf (fun k => k == key) (run catalog config events steps) =
      run catalog config (events.filter fun e => e.1.addresses key)
        (partOf (fun k => k == key) steps) := by
  induction events generalizing steps with
  | nil => rfl
  | cons e events ih =>
    have he : e.1.isNodeless = false := h e List.mem_cons_self
    have hstray := Event.strays_of_not_isNodeless he steps
    rw [run, List.foldl_cons, ← run, ih fun e he => h e (List.mem_cons_of_mem _ he)]
    by_cases hkey : e.1.addresses key
    · have hin : ∀ k, e.1.concerns k = true → (k == key) = true := fun k hk => by
        rw [beq_iff_eq]
        exact Event.eq_of_concerns he hkey hk
      rw [List.filter_cons, if_pos hkey, partOf_record hin hstray, if_pos rfl, run, run,
        List.foldl_cons]
    · have hout : ∀ k, e.1.concerns k = true → (k == key) = false := fun k hk => by
        rw [beq_eq_false_iff_ne]
        rintro rfl
        rw [Event.concerns, he, Bool.false_and, Bool.or_false] at hk
        exact hkey hk
      rw [List.filter_cons, if_neg hkey, partOf_record hout hstray, if_neg Bool.false_ne_true]

end History

namespace Ledger

/-- The steps of a node, in order of creation. -/
def stepsOfNode (l : Ledger) (key : NodeKey) : List Step := l.steps.filter fun s => s.key == key

variable (catalog : Catalog) (config : LedgerConfig)

theorem stepsOfNode_ofEvents {events : List Event} (h : ∀ e ∈ events, e.isNodeless = false)
    (key : NodeKey) :
    (ofEvents catalog config events).stepsOfNode key =
      History.run catalog config (events.zipIdx.filter fun e => e.1.addresses key) [] := by
  have hzip : ∀ e ∈ events.zipIdx, e.1.isNodeless = false := fun e he =>
    h e.1 (List.fst_mem_of_mem_zipIdx he)
  rw [stepsOfNode, steps_ofEvents]
  exact History.filter_run catalog config hzip key []

/-- The steps of a node are those of its events alone, in the same order. A step and its counterpart
differ in their numbers at most: that of the counterpart is the place of an event among the events
of the node, and that of the step is the place of the same event in the stream. So the steps of a
node are the same, up to these numbers, in every other stream with the same events of the node. -/
theorem steps_of_node_alone (catalog : Catalog) (config : LedgerConfig) (events : List Event)
    (h : ∀ e ∈ events, e.isNodeless = false) (runId nodeId : String) :
    let key : NodeKey := ⟨runId, nodeId⟩
    let own := fun e : Event => e.addresses key
    List.Forall₂ (Step.Alike fun i j => (placesWhere own events)[j]? = some i)
        ((ofEvents catalog config events).stepsOfNode key)
        (ofEvents catalog config (events.filter own)).steps ∧
      ∀ others : List Event, (∀ e ∈ others, e.isNodeless = false) →
        others.filter own = events.filter own →
        List.Forall₂ (Step.Alike fun _ _ => True)
          ((ofEvents catalog config events).stepsOfNode key)
          ((ofEvents catalog config others).stepsOfNode key) := by
  intro key own
  refine ⟨?_, fun others hothers heq => ?_⟩
  · rw [stepsOfNode_ofEvents catalog config h, steps_ofEvents]
    exact History.forall₂_run catalog config (forall₂_numbered own events) .nil
  · rw [stepsOfNode_ofEvents catalog config h, stepsOfNode_ofEvents catalog config hothers]
    refine History.forall₂_run catalog config ?_ .nil
    exact (forall₂_fst_of_filter_eq heq.symm).imp fun e f hef => ⟨hef, trivial⟩

/-- Two nodes of a run that overlap, and the same events one node after the other. -/
theorem steps_of_node_alone_overlap :
    let events : List Event := [.nodeStart "r" "a" none none, .nodeStart "r" "b" none none,
      .nodeComplete "r" "a" none none none none, .nodeComplete "r" "b" none none none none]
    let others : List Event := [.nodeStart "r" "b" none none,
      .nodeComplete "r" "b" none none none none, .nodeStart "r" "a" none none,
      .nodeComplete "r" "a" none none none none]
    let own := fun e : Event => e.addresses ⟨"r", "b"⟩
    ((∀ e ∈ events, e.isNodeless = false) ∧ (∀ e ∈ others, e.isNodeless = false) ∧
        others.filter own = events.filter own) ∧
      List.Forall₂ (Step.Alike fun i j => (placesWhere own events)[j]? = some i)
        ((ofEvents .empty .standard events).stepsOfNode ⟨"r", "b"⟩)
        (ofEvents .empty .standard (events.filter own)).steps ∧
      List.Forall₂ (Step.Alike fun _ _ => True)
        ((ofEvents .empty .standard events).stepsOfNode ⟨"r", "b"⟩)
        ((ofEvents .empty .standard others).stepsOfNode ⟨"r", "b"⟩) := by
  intro events others own
  have hevents : ∀ e ∈ events, e.isNodeless = false := by decide
  have hothers : ∀ e ∈ others, e.isNodeless = false := by decide
  have hsame : others.filter own = events.filter own := by decide
  obtain ⟨halone, hinterleaved⟩ := steps_of_node_alone .empty .standard events hevents "r" "b"
  exact ⟨⟨hevents, hothers, hsame⟩, halone, hinterleaved others hothers hsame⟩

end Ledger

end RunWatch
