import RunWatch.Proofs.Ledger.Resumption
import RunWatch.Proofs.View.Isolation

/-!
# Waiting views

A view waits when a step that it shows waits. Such a step can be resumed, unless its node was
started again meanwhile: then the end of the node belongs to the later start, and the earlier step
waits for ever.
-/

namespace RunWatch

namespace RunView

section

variable {catalog : Catalog} {config : LedgerConfig} {events : List Event}

theorem step_mem_of_mem_steps {x : StepView} (hx : x ∈ (derive events catalog config).steps) :
    x.step ∈ (Ledger.ofEvents catalog config events).steps := by
  cases hroot : rootRunId? events (Links.ofEvents events) with
  | none =>
    simp only [derive, hroot, empty] at hx
    cases hx
  | some root =>
    rw [derive_eq_ofRoot hroot, steps_ofRoot] at hx
    obtain ⟨s, hs, rfl⟩ := List.mem_map.1 hx
    exact (List.mem_filter.1 hs).1

theorem exists_waiting_of_status (h : (derive events catalog config).status = .waiting) :
    ∃ x ∈ (derive events catalog config).steps, x.step.status = .waiting := by
  cases hroot : rootRunId? events (Links.ofEvents events) with
  | none =>
    simp only [derive, hroot, empty] at h
    cases h
  | some root =>
    rw [derive_eq_ofRoot hroot] at h ⊢
    rw [status_ofRoot, viewStatus] at h
    split at h
    · cases h
    · cases h
    · cases h
    all_goals
      split at h
      · next hany => simpa using hany
      · split at h <;> cases h

end

/-- When a view waits, so does a step that it shows. Such a step is the open one of its node unless
a start has superseded it, and as long as none does, an end of the node ends the wait of this very
step. So a stream in which no node starts while a step of it is open can always be resumed. -/
theorem waiting_resumes (catalog : Catalog) (config : LedgerConfig) (events : List Event)
    (hwaiting : (derive events catalog config).status = .waiting) :
    let v := derive events catalog config
    (∃ x ∈ v.steps, x.step.status = .waiting) ∧
      (∀ x ∈ v.steps, x.step.status = .waiting →
        (v.ledger.openStep? x.step.key = some x.step ↔
          ¬ Ledger.Superseded catalog config events x.step) ∧
        ∀ more t e status,
          let l := Ledger.ofEvents catalog config (events ++ more)
          l.step? x.step.id = some t → t.status = .waiting →
            ¬ Ledger.Superseded catalog config (events ++ more) t →
              e.addresses x.step.key = true → e.endStatus? = some status →
                l.Ends (Ledger.ofEvents catalog config (events ++ more ++ [e])) t status) ∧
      (Ledger.NeverOverlaps catalog config events →
        ∃ x ∈ v.steps, x.step.status = .waiting ∧
          v.ledger.openStep? x.step.key = some x.step) := by
  intro v
  have hisOpen : ∀ {s : Step}, s.status = .waiting → s.status.isOpen = true := fun h => by
    rw [h]
    rfl
  have hopen : ∀ x ∈ v.steps, x.step.status = .waiting →
      (v.ledger.openStep? x.step.key = some x.step ↔
        ¬ Ledger.Superseded catalog config events x.step) := fun x hx hw => by
    rw [ledger_derive]
    exact Ledger.openStep?_eq_some_iff_not_superseded (step_mem_of_mem_steps hx) (hisOpen hw)
  have hsome : ∃ x ∈ v.steps, x.step.status = .waiting := exists_waiting_of_status hwaiting
  refine ⟨hsome, fun x hx hw => ⟨hopen x hx hw, ?_⟩, fun hnever => ?_⟩
  · intro more t e status l ht htw hnot haddr hend
    obtain ⟨htmem, htid⟩ := (Ledger.step?_eq_some_iff catalog config _ _ t).1 ht
    -- The step found is the one shown, as it stands after more events.
    have hkey : t.key = x.step.key := by
      obtain ⟨place, hplace⟩ := List.mem_iff_getElem?.1 (step_mem_of_mem_steps hx)
      obtain ⟨u, hu, hevolves⟩ := Ledger.steps_evolve catalog config events more hplace
      obtain ⟨i, hi⟩ := List.mem_iff_getElem?.1 htmem
      obtain rfl := Ledger.place_eq_of_id_eq hi hu (hevolves.id_eq.trans htid.symm)
      rw [Option.some.inj (hi.symm.trans hu), hevolves.key_eq]
    have htopen : l.openStep? t.key = some t :=
      (Ledger.openStep?_eq_some_iff_not_superseded htmem (hisOpen htw)).2 hnot
    rw [hkey] at htopen
    exact Ledger.ends_of_openStep? htopen haddr hend
  · obtain ⟨x, hx, hw⟩ := hsome
    exact ⟨x, hx, hw, (hopen x hx hw).2 (Ledger.not_superseded_of_neverOverlaps hnever)⟩

/-- A run that waits without naming a node: its last running step waits, still does when another
node of the run has completed, and completes with the answer. -/
theorem waiting_resumes_of_run_wait :
    let events : List Event := [.nodeStart "r" "a" none none, .nodeStart "r" "b" none none,
      .flowWaiting "r" none ⟨some "go on?", ["yes"], true, none, none⟩ none]
    let more : List Event := [.nodeComplete "r" "a" none none none none]
    let answer : Event := .nodeComplete "r" "b" none (some (.string "yes")) none none
    let v := derive events .empty .standard
    let l := Ledger.ofEvents .empty .standard (events ++ more)
    v.status = .waiting ∧ ∃ x ∈ v.steps, x.step.status = .waiting ∧
      (v.ledger.openStep? x.step.key = some x.step ↔
        ¬ Ledger.Superseded .empty .standard events x.step) ∧
      l.step? x.step.id = some x.step ∧
      ¬ Ledger.Superseded .empty .standard (events ++ more) x.step ∧
      l.Ends (Ledger.ofEvents .empty .standard (events ++ more ++ [answer])) x.step .completed := by
  intro events more answer v l
  have hwaiting : v.status = .waiting := by decide +kernel
  -- The only step that waits is the one of the second node.
  have honly : ∀ x ∈ v.steps, x.step.status = .waiting →
      x.step = (Step.running ⟨"r", "b"⟩ 1 none none).pause
        ⟨some "go on?", ["yes"], true, none, none⟩ := by
    decide +kernel
  obtain ⟨⟨x, hx, hw⟩, hall, -⟩ := waiting_resumes .empty .standard events hwaiting
  obtain ⟨hopen, hresumes⟩ := hall x hx hw
  have hstep := honly x hx hw
  have hstill : l.step? x.step.id = some x.step := by
    rw [hstep]
    decide +kernel
  have hfirst : l.openStep? x.step.key = some x.step := by
    rw [hstep]
    decide +kernel
  have hnot := (Ledger.openStep?_eq_some_iff_not_superseded
    ((Ledger.step?_eq_some_iff _ _ _ _ _).1 hstill).1 (by rw [hw]; rfl)).1 hfirst
  have hend : answer.addresses x.step.key = true := by
    rw [hstep]
    decide
  exact ⟨hwaiting, x, hx, hw, hopen, hstill, hnot,
    hresumes more x.step answer .completed hstill hw hnot hend rfl⟩

/-- A node that waits and is started again: the view waits, and nothing that waits is open. -/
theorem waiting_superseded :
    let events : List Event := [.nodeStart "r" "a" none none,
      .flowWaiting "r" (some "a") ⟨none, [], false, none, none⟩ none,
      .nodeStart "r" "a" none none]
    let v := derive events .empty .standard
    v.status = .waiting ∧
      ∀ x ∈ v.steps, x.step.status = .waiting → v.ledger.openStep? x.step.key ≠ some x.step := by
  decide +kernel

end RunView

end RunWatch
