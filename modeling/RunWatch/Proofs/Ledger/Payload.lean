import RunWatch.Proofs.Ledger.Recorded

/-!
# What a step holds

The fields of a step are written by several kinds of events, and none of these clears what another
one wrote. Yet what a step holds always agrees with its status (`Step.Consistent`): a step that runs
or waits holds nothing of an end, a failed one holds a message and no report, and metrics hold at
least one number. A running step is consistent (`Step.Consistent.running`), and so is every revision
of a consistent step (`Step.Consistent.revised`).
-/

namespace RunWatch

/-! ### Metrics -/

namespace Metrics

theorem isEmpty_of_full? {m n : Metrics} (h : m.full? = some n) : n.isEmpty = false := by
  unfold full? at h
  split at h
  · cases h
  · next hm =>
    cases h
    simpa using hm

theorem isEmpty_of_ofDetails? {details : Json} {m : Metrics} (h : ofDetails? details = some m) :
    m.isEmpty = false :=
  isEmpty_of_full? h

end Metrics

theorem isEmpty_of_mergeMetrics {prior next : Option Metrics} {m : Metrics}
    (h : mergeMetrics prior next = some m) : m.isEmpty = false := by
  unfold mergeMetrics at h
  split at h
  · cases h
  · exact Metrics.isEmpty_of_full? h
  · exact Metrics.isEmpty_of_full? h
  · split at h <;> exact Metrics.isEmpty_of_full? h

namespace Step

/-! ### Consistent steps -/

/-- Nothing has been reported of the work of a step. -/
structure Unreported (s : Step) : Prop where
  output_eq : s.output = none
  metrics_eq : s.metrics = none
  provider_eq : s.provider = none
  model_eq : s.model = none

/-- Nothing is known of the end of a step. -/
structure Unended (s : Step) : Prop extends s.Unreported where
  error_eq : s.error = none
  endedAt_eq : s.endedAt = none

/-- What a step holds agrees with its status. -/
structure Consistent (s : Step) : Prop where
  of_running : s.status = .running → s.Unended ∧ s.waiting = none
  of_waiting : s.status = .waiting → s.Unended ∧ s.waiting.isSome = true
  of_failed : s.status = .failed → s.Unreported ∧ s.error.isSome = true
  metrics_full (m : Metrics) : s.metrics = some m → m.isEmpty = false

namespace Consistent

variable {s t : Step}

theorem running (key : NodeKey) (place : Nat) (kind : Option String) (ts : Option Instant) :
    (Step.running key place kind ts).Consistent where
  of_running _ := ⟨⟨⟨rfl, rfl, rfl, rfl⟩, rfl, rfl⟩, rfl⟩
  of_waiting h := nomatch h
  of_failed h := nomatch h
  metrics_full _ h := nomatch h

theorem unended (h : s.Consistent) (hopen : s.status.isOpen = true) : s.Unended := by
  rcases (Ledger.isOpen_iff s.status).1 hopen with hrunning | hwaiting
  · exact (h.of_running hrunning).1
  · exact (h.of_waiting hwaiting).1

theorem pause (h : s.Consistent) (hopen : s.status.isOpen = true) (waiting : WaitingInfo) :
    (s.pause waiting).Consistent where
  of_running hstatus := nomatch hstatus
  of_waiting _ := by
    obtain ⟨⟨houtput, hmetrics, hprovider, hmodel⟩, herror, hended⟩ := h.unended hopen
    exact ⟨⟨⟨houtput, hmetrics, hprovider, hmodel⟩, herror, hended⟩, rfl⟩
  of_failed hstatus := nomatch hstatus
  metrics_full := h.metrics_full

theorem complete (s : Step) (result details : Option Json) (ts : Option Instant)
    (kind : Option String) : (s.complete (.of result details ts) kind).Consistent where
  of_running hstatus := nomatch hstatus
  of_waiting hstatus := nomatch hstatus
  of_failed hstatus := nomatch hstatus
  metrics_full m hm := by
    obtain ⟨v, -, hv⟩ := Option.bind_eq_some_iff.1 hm
    exact Metrics.isEmpty_of_ofDetails? hv

/-- A step that is open, or that has failed before, fails without a report. -/
theorem of_unreported (hfailed : s.status = .failed) (hreport : s.Unreported)
    (herror : s.error.isSome = true) : s.Consistent where
  of_running hstatus := by rw [hfailed] at hstatus; cases hstatus
  of_waiting hstatus := by rw [hfailed] at hstatus; cases hstatus
  of_failed _ := ⟨hreport, herror⟩
  metrics_full m hm := by rw [hreport.metrics_eq] at hm; cases hm

theorem fail (h : s.Consistent) (hopen : s.status.isOpen = true) (message : String)
    (ts : Option Instant) : (s.fail message ts).Consistent := by
  obtain ⟨houtput, hmetrics, hprovider, hmodel⟩ := (h.unended hopen).toUnreported
  exact of_unreported rfl ⟨houtput, hmetrics, hprovider, hmodel⟩ rfl

/-- A completed step may hold anything, as long as its metrics are not empty. -/
theorem of_completed (hcompleted : s.status = .completed)
    (hmetrics : ∀ m, s.metrics = some m → m.isEmpty = false) : s.Consistent where
  of_running hstatus := by rw [hcompleted] at hstatus; cases hstatus
  of_waiting hstatus := by rw [hcompleted] at hstatus; cases hstatus
  of_failed hstatus := by rw [hcompleted] at hstatus; cases hstatus
  metrics_full := hmetrics

theorem blame (h : s.Consistent) (message : String) (ts : Option Instant) :
    (s.blame message ts).Consistent := by
  unfold Step.blame
  split
  · next hopen => exact h.fail hopen message _
  · next hclosed =>
    cases hstatus : s.status with
    | running | waiting =>
      rw [hstatus] at hclosed
      exact absurd rfl hclosed
    | completed => exact of_completed rfl h.metrics_full
    | failed =>
      obtain ⟨⟨houtput, hmetrics, hprovider, hmodel⟩, -⟩ := h.of_failed hstatus
      exact of_unreported rfl ⟨houtput, hmetrics, hprovider, hmodel⟩ rfl

theorem revised (h : s.Consistent) (hst : s.Revised t) : t.Consistent := by
  cases hst with
  | pause hopen waiting => exact h.pause hopen waiting
  | complete _ result details ts kind => exact complete s result details ts kind
  | merge hcompleted result details ts =>
    exact of_completed hcompleted fun m hm => isEmpty_of_mergeMetrics hm
  | fail hopen message ts => exact h.fail hopen message ts
  | blame message ts => exact h.blame message ts

/-! ### What the fields say of the status -/

theorem completed_of_report (h : s.Consistent)
    (hreport : s.output.isSome ∨ s.metrics.isSome ∨ s.provider.isSome ∨ s.model.isSome) :
    s.status = .completed := by
  have hreported : ¬ s.Unreported := by
    rintro ⟨houtput, hmetrics, hprovider, hmodel⟩
    simp [houtput, hmetrics, hprovider, hmodel] at hreport
  cases hstatus : s.status with
  | running => exact absurd (h.of_running hstatus).1.toUnreported hreported
  | waiting => exact absurd (h.of_waiting hstatus).1.toUnreported hreported
  | failed => exact absurd (h.of_failed hstatus).1 hreported
  | completed => rfl

theorem ended_of_end (h : s.Consistent) (hend : s.error.isSome ∨ s.endedAt.isSome) :
    s.status = .completed ∨ s.status = .failed := by
  have hended : ¬ s.Unended := by
    rintro ⟨-, herror, hendedAt⟩
    simp [herror, hendedAt] at hend
  cases hstatus : s.status with
  | running => exact absurd (h.of_running hstatus).1 hended
  | waiting => exact absurd (h.of_waiting hstatus).1 hended
  | completed => exact .inl rfl
  | failed => exact .inr rfl

end Consistent

end Step

/-! ### Ledgers -/

namespace Ledger

/-- What the steps of a ledger hold agrees with their status. So a report is that of a completed
step, and an error or a time of the end is that of a step that has completed or failed. -/
theorem consistent_of_mem_steps (catalog : Catalog) (config : LedgerConfig) (events : List Event) :
    ∀ s ∈ (ofEvents catalog config events).steps, s.Consistent ∧
      (s.output.isSome ∨ s.metrics.isSome ∨ s.provider.isSome ∨ s.model.isSome →
        s.status = .completed) ∧
      (s.error.isSome ∨ s.endedAt.isSome → s.status = .completed ∨ s.status = .failed) := by
  intro s hs
  have hconsistent : s.Consistent :=
    forall_mem_steps Step.Consistent.running (fun _ _ h => h.revised) catalog config events s hs
  exact ⟨hconsistent, hconsistent.completed_of_report, hconsistent.ended_of_end⟩

/-- A step fails after it waited, and the failure of the run is noted on it as well. -/
theorem consistent_of_mem_steps_failed_twice :
    let waiting : WaitingInfo := ⟨some "Go on?", [], true, none, none⟩
    let events : List Event := [.nodeComplete "r" "a" none (some (.string "text")) none none,
      .flowWaiting "r" (some "b") waiting none, .flowError "r" (some "b") none none,
      .flowError "r" none (some (.string "stopped")) none]
    let l := ofEvents .empty .standard events
    let s := (((Step.running ⟨"r", "b"⟩ 1 none none).pause waiting).fail "unknown error" none).blame
      "stopped" none
    (l.steps.map Step.status = [.completed, .failed] ∧ s ∈ l.steps) ∧ s.Consistent ∧
      (s.output.isSome ∨ s.metrics.isSome ∨ s.provider.isSome ∨ s.model.isSome →
        s.status = .completed) ∧
      (s.error.isSome ∨ s.endedAt.isSome → s.status = .completed ∨ s.status = .failed) := by
  intro waiting events l s
  have hs : s ∈ l.steps := by decide
  exact ⟨⟨by decide, hs⟩, consistent_of_mem_steps .empty .standard events s hs⟩

end Ledger

end RunWatch
