import RunWatch.Proofs.Session.Freshness

/-!
# Batches of events

Events may come one by one or in batches: the session is the same at the end, but for the selection,
and the totals of the batches count the outcomes of the single events.

A session and the same session with its view derived (`shown`) take every event alike
(`push_shown`), so it does not matter when between the events the view is derived.

* `ingest_batches`: one by one, as a whole, and in batches.
-/

namespace RunWatch

/-! ### Totals -/

namespace IngestTotals

/-- Whether an event was accepted after the events of an earlier run were dropped. -/
def isReset : Except SessionFault IngestOutcome → Bool
  | .ok .acceptedAfterReset => true
  | _ => false

/-- The totals of several batches. -/
def sum : List IngestTotals → IngestTotals
  | [] => ⟨0, 0, 0⟩
  | t :: ts =>
    ⟨t.accepted + (sum ts).accepted, t.rejected + (sum ts).rejected, t.resets + (sum ts).resets⟩

/-- Whether totals count some outcomes. -/
structure Counts (t : IngestTotals) (outcomes : List (Except SessionFault IngestOutcome)) :
    Prop where
  accepted_eq : t.accepted = outcomes.countP fun o => o.isOk
  rejected_eq : t.rejected = outcomes.countP fun o => !o.isOk
  resets_eq : t.resets = outcomes.countP isReset

namespace Counts

variable {outcomes : List (Except SessionFault IngestOutcome)}

theorem add {t : IngestTotals} (h : t.Counts outcomes)
    (outcome : Except SessionFault IngestOutcome) :
    (t.add outcome).Counts (outcomes ++ [outcome]) := by
  obtain ⟨haccepted, hrejected, hresets⟩ := h
  cases outcome with
  | ok o => cases o <;> constructor <;>
      simp [IngestTotals.add, haccepted, hrejected, hresets, Except.isOk, Except.toBool, isReset]
  | error => constructor <;>
      simp [IngestTotals.add, haccepted, hrejected, hresets, Except.isOk, Except.toBool, isReset]

theorem foldl (outcomes : List (Except SessionFault IngestOutcome)) :
    (outcomes.foldl IngestTotals.add ⟨0, 0, 0⟩).Counts outcomes := by
  induction outcomes using List.reverseRecOn with
  | nil => exact ⟨rfl, rfl, rfl⟩
  | append_singleton outcomes outcome ih =>
    rw [List.foldl_append]
    exact ih.add outcome

theorem sum_cons {t : IngestTotals} {ts : List IngestTotals}
    {later : List (Except SessionFault IngestOutcome)} (h : t.Counts outcomes)
    (hlater : (sum ts).Counts later) : (sum (t :: ts)).Counts (outcomes ++ later) where
  accepted_eq := by rw [List.countP_append, ← h.accepted_eq, ← hlater.accepted_eq]; rfl
  rejected_eq := by rw [List.countP_append, ← h.rejected_eq, ← hlater.rejected_eq]; rfl
  resets_eq := by rw [List.countP_append, ← h.resets_eq, ← hlater.resets_eq]; rfl

/-- Every event is accepted or rejected. -/
theorem accepted_add_rejected {t : IngestTotals} (h : t.Counts outcomes) :
    t.accepted + t.rejected = outcomes.length := by
  have hlength : outcomes.length = _ := List.length_eq_countP_add_countP fun o => o.isOk
  rw [h.accepted_eq, h.rejected_eq, hlength]
  simp

end Counts

end IngestTotals

namespace WatchSession

variable (s : WatchSession) (e : Event)

/-! ### What a session shows -/

/-- The session with its view derived, without the selection. -/
def shown : WatchSession := { s.refresh with selected := none }

variable {s} in
theorem shown_of_not_stale (h : s.stale = false) : s.shown = { s with selected := none } := by
  rw [shown, refresh_of_not_stale h]

theorem stale_shown : s.shown.stale = false := s.stale_refresh

@[simp] theorem connection_shown : s.shown.connection = s.connection := s.connection_refresh

@[simp] theorem shown_refresh : s.refresh.shown = s.shown := by
  rw [shown, refresh_refresh, shown]

@[simp] theorem refresh_shown : s.shown.refresh = s.shown :=
  refresh_of_not_stale s.stale_shown

@[simp] theorem shown_shown : s.shown.shown = s.shown := by
  rw [shown_of_not_stale s.stale_shown]
  rfl

/-- An event makes the view anew, so it does not matter what the view was before. -/
theorem shown_append : (s.append e).shown = (s.shown.append e).shown := by
  have hstale : (s.append e).stale = true := rfl
  have hstale' : (s.shown.append e).stale = true := rfl
  rw [shown, shown, refresh_of_stale hstale, refresh_of_stale hstale', shown, refresh_eq]
  rfl

/-- A session and what it shows take an event alike. -/
theorem push_shown : (s.shown.push e).1 = (s.push e).1 ∧
    (s.shown.push e).2.shown = (s.push e).2.shown := by
  cases h : s.connection.connected with
  | false =>
    have h' : s.shown.connection.connected = false := by rw [connection_shown, h]
    rw [push_of_disconnected e h, push_of_disconnected e h', connection_shown]
    exact ⟨rfl, s.shown_shown⟩
  | true =>
    have h' : s.shown.connection.connected = true := by rw [connection_shown, h]
    cases he : e.isRootStart with
    | false =>
      rw [push_of_not_isRootStart h he, push_of_not_isRootStart h' he]
      exact ⟨rfl, (s.shown_append e).symm⟩
    | true =>
      -- A boundary is judged by the derived view, which both sessions have, and a reset drops the
      -- selection.
      have hboundary : s.shown.isRunBoundary e = s.refresh.isRunBoundary e := rfl
      rw [push_of_isRootStart h he, push_of_isRootStart h' he, refresh_shown, hboundary]
      split
      · exact ⟨rfl, rfl⟩
      · refine ⟨rfl, ?_⟩
        simp only
        rw [shown_append s.refresh, shown_refresh]

variable {s} in
theorem push_congr {t : WatchSession} (h : t.shown = s.shown) :
    (t.push e).1 = (s.push e).1 ∧ (t.push e).2.shown = (s.push e).2.shown := by
  have hs := s.push_shown e
  have ht := t.push_shown e
  rw [h] at ht
  exact ⟨ht.1.symm.trans hs.1, ht.2.symm.trans hs.2⟩

/-- An event that is taken at once has the outcome that it has when it is pushed. -/
theorem ingest_shown :
    (s.ingest e).1 = (s.push e).1 ∧ (s.ingest e).2.shown = (s.push e).2.shown := by
  cases h : s.connection.connected with
  | false =>
    rw [ingest_of_disconnected e h]
    exact ⟨rfl, rfl⟩
  | true =>
    rw [ingest_of_connected e h]
    exact ⟨rfl, shown_refresh _⟩

/-! ### Lists of events -/

section

variable {s} {t : WatchSession}

/-- Two operations that do the same to what sessions show do so in turn as well. -/
theorem inTurn_congr {α β : Type} {op op' : WatchSession → α → β × WatchSession}
    (hop : ∀ s t a, t.shown = s.shown →
      (op t a).1 = (op' s a).1 ∧ (op t a).2.shown = (op' s a).2.shown)
    (h : t.shown = s.shown) (as : List α) : (inTurn op t as).1 = (inTurn op' s as).1 ∧
      (inTurn op t as).2.shown = (inTurn op' s as).2.shown := by
  induction as generalizing s t with
  | nil => exact ⟨rfl, h⟩
  | cons a as ih =>
    obtain ⟨hanswer, hshown⟩ := hop s t a h
    obtain ⟨hanswers, hend⟩ := ih hshown
    exact ⟨by rw [inTurn, inTurn, hanswer, hanswers], hend⟩

theorem inTurn_push_congr (h : t.shown = s.shown) (events : List Event) :
    (inTurn push t events).1 = (inTurn push s events).1 ∧
      (inTurn push t events).2.shown = (inTurn push s events).2.shown :=
  inTurn_congr (fun _ _ e h => push_congr e h) h events

end

theorem inTurn_ingest (events : List Event) :
    (inTurn ingest s events).1 = (inTurn push s events).1 ∧
      (inTurn ingest s events).2.shown = (inTurn push s events).2.shown := by
  refine inTurn_congr (fun s t e h => ?_) rfl events
  have hingest := t.ingest_shown e
  have hpush := push_congr e h
  exact ⟨hingest.1.trans hpush.1, hingest.2.trans hpush.2⟩

theorem counts_ingestAll (events : List Event) :
    (s.ingestAll events).1.Counts (inTurn push s events).1 := by
  rw [ingestAll_eq]
  exact .foldl _

theorem shown_ingestAll (events : List Event) :
    (s.ingestAll events).2.shown = (inTurn push s events).2.shown := by
  rw [ingestAll_eq]
  exact shown_refresh _

/-- Batches do what their events do. -/
theorem inTurn_ingestAll (batches : List (List Event)) :
    (IngestTotals.sum (inTurn ingestAll s batches).1).Counts (inTurn push s batches.flatten).1 ∧
      (inTurn ingestAll s batches).2.shown = (inTurn push s batches.flatten).2.shown := by
  induction batches generalizing s with
  | nil => exact ⟨⟨rfl, rfl, rfl⟩, rfl⟩
  | cons batch batches ih =>
    obtain ⟨hcounts, hshown⟩ := ih (s.ingestAll batch).2
    obtain ⟨houtcomes, hend⟩ := inTurn_push_congr (s.shown_ingestAll batch) batches.flatten
    rw [houtcomes] at hcounts
    rw [hend] at hshown
    rw [List.flatten_cons, inTurn_append, inTurn]
    exact ⟨.sum_cons (s.counts_ingestAll batch) hcounts, hshown⟩

/-! ### Batches -/

variable {s} in
/-- Sessions that show the same differ in the selection only. -/
theorem eq_of_shown_eq {t : WatchSession} (hs : s.stale = false) (ht : t.stale = false)
    (h : s.shown = t.shown) : { s with selected := t.selected } = t := by
  rw [shown_of_not_stale hs, shown_of_not_stale ht] at h
  cases s
  cases t
  simp only [mk.injEq] at h ⊢
  tauto

theorem stale_ingestAll (events : List Event) : (s.ingestAll events).2.stale = false := by
  rw [ingestAll_eq]
  exact stale_refresh _

/-- A session that takes events one by one, all at once, or in batches is the same at the end, but
for the selected step. The totals, added up, count the outcomes of the single events. -/
theorem ingest_batches (catalog : Catalog) (config : LedgerConfig) (calls : List SessionCall)
    (batches : List (List Event)) :
    let s := (new catalog config).performAll calls
    let events := batches.flatten
    let single := inTurn ingest s events
    let whole := s.ingestAll events
    let parts := inTurn ingestAll s batches
    { whole.2 with selected := single.2.selected } = single.2 ∧
      { parts.2 with selected := single.2.selected } = single.2 ∧
      whole.1.Counts single.1 ∧ (IngestTotals.sum parts.1).Counts single.1 ∧
      whole.1.accepted + whole.1.rejected = events.length ∧
      (IngestTotals.sum parts.1).accepted + (IngestTotals.sum parts.1).rejected =
        events.length := by
  intro s events single whole parts
  have hs : s.Fresh := fresh_performAll catalog config calls
  have hsingle : single.2.Fresh := inTurn_induction (P := Fresh) (fun _ e h => h.ingest e) hs events
  have hwhole : whole.2.stale = false := s.stale_ingestAll events
  have hparts : parts.2.Fresh :=
    inTurn_induction (P := Fresh) (fun _ batch h => h.ingestAll batch) hs batches
  obtain ⟨houtcomes, hshown⟩ := s.inTurn_ingest events
  have hcounts : whole.1.Counts single.1 := houtcomes ▸ s.counts_ingestAll events
  obtain ⟨hparts_counts, hparts_shown⟩ := s.inTurn_ingestAll batches
  rw [← houtcomes] at hparts_counts
  have hlength : single.1.length = events.length := length_inTurn ingest s events
  refine ⟨eq_of_shown_eq hwhole hsingle.not_stale ?_,
    eq_of_shown_eq hparts.not_stale hsingle.not_stale ?_, hcounts, hparts_counts, ?_, ?_⟩
  · exact (s.shown_ingestAll events).trans hshown.symm
  · exact hparts_shown.trans hshown.symm
  · rw [hcounts.accepted_add_rejected, hlength]
  · rw [hparts_counts.accepted_add_rejected, hlength]

end WatchSession

end RunWatch
