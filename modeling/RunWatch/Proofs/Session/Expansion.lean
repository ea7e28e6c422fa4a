import RunWatch.Proofs.Session.Log
import RunWatch.Proofs.View.Agreement

/-!
# The expanded rows of a session

A row is expanded if the operator has chosen so or, without a choice, if it stands at the top level
and its step is open (`WatchSession.isExpanded`). A choice is kept by the identifier of the step, and
the rows of a session have different identifiers, so a choice for one row is none for another
(`WatchSession.isExpanded_chosen_of_ne`). Only a reset and another choice for the same step take a
choice away (`WatchSession.choice?_performAll`), and while it is there it decides, whatever becomes
of the step and of its place in the tree.
-/

namespace RunWatch

/-! ### Choices -/

namespace Expansion

variable {x y : Expansion} {t : TreeNode} {status : Option StepStatus}

theorem choice?_set (x : Expansion) (stepId id : String) (expanded : Bool) :
    (x.set stepId expanded).choice? id = if stepId = id then some expanded else x.choice? id :=
  Table.get?_insert x stepId id expanded

theorem isExpanded_of_choice {expanded : Bool} (h : x.choice? t.stepId = some expanded) :
    x.isExpanded t status = expanded := by
  rw [isExpanded, h, Option.getD_some]

theorem isExpanded_congr (h : x.choice? t.stepId = y.choice? t.stepId) :
    x.isExpanded t status = y.isExpanded t status := by
  rw [isExpanded, h, isExpanded]

end Expansion

/-- The step whose row a call expands, collapses or turns over. -/
def SessionCall.chosenRow? : SessionCall → Option String
  | toggleExpanded stepId | setExpanded stepId _ => some stepId
  | _ => none

namespace WatchSession

/-- The rows of a session, in display order. -/
def rows (s : WatchSession) : List TreeNode := flatten s.view.tree

/-- Whether a session shows a row as expanded. -/
def isExpanded (s : WatchSession) (row : TreeNode) : Bool :=
  s.expansion.isExpanded row (s.view.statusOf? row.stepId)

/-- A session with one more choice. -/
def chosen (s : WatchSession) (stepId : String) (expanded : Bool) : WatchSession :=
  { s with expansion := s.expansion.set stepId expanded }

section

variable {s : WatchSession} {row other : TreeNode} {expanded : Bool}

theorem expandedIds_eq (s : WatchSession) : s.expandedIds =
    (s.rows.filter fun row => s.isExpanded row && !row.children.isEmpty).map TreeNode.stepId := by
  rw [expandedIds, RunView.expandedIds, List.filter_filter]
  rfl

theorem isExpanded_chosen (s : WatchSession) (row : TreeNode) (expanded : Bool) :
    (s.chosen row.stepId expanded).isExpanded row = expanded := by
  refine Expansion.isExpanded_of_choice ?_
  rw [chosen, Expansion.choice?_set, if_pos rfl]

theorem isExpanded_chosen_of_ne (h : other.stepId ≠ row.stepId) :
    (s.chosen row.stepId expanded).isExpanded other = s.isExpanded other := by
  refine Expansion.isExpanded_congr ?_
  rw [chosen, Expansion.choice?_set, if_neg (Ne.symm h)]

/-- A choice for a row is not noticed where the others are expanded. -/
theorem filter_expandedIds_chosen (s : WatchSession) (row : TreeNode) (expanded : Bool) :
    (s.chosen row.stepId expanded).expandedIds.filter (· ≠ row.stepId) =
      s.expandedIds.filter (· ≠ row.stepId) := by
  rw [expandedIds_eq, expandedIds_eq, List.filter_map, List.filter_map, List.filter_filter,
    List.filter_filter]
  refine congrArg (List.map TreeNode.stepId) (List.filter_congr fun other _ => ?_)
  by_cases heq : other.stepId = row.stepId
  · simp [heq]
  · rw [isExpanded_chosen_of_ne heq]

/-! ### One row -/

theorem Fresh.nodup_rows (h : s.Fresh) : (s.rows.map TreeNode.stepId).Nodup := by
  rw [rows, h.agrees.tree_eq]
  exact RunView.nodup_row_ids

variable (h : s.Fresh) (hrow : row ∈ s.rows)

include h hrow

theorem Fresh.row?_eq : s.view.row? row.stepId = some row :=
  (find?_key_eq_some_iff h.nodup_rows).2 ⟨hrow, rfl⟩

theorem Fresh.stepId_ne (hother : other ∈ s.rows) (hne : other ≠ row) :
    other.stepId ≠ row.stepId :=
  fun heq => hne (List.inj_on_of_nodup_map h.nodup_rows hother hrow heq)

theorem Fresh.setExpanded_eq (expanded : Bool) :
    s.setExpanded row.stepId expanded = (true, s.chosen row.stepId expanded) := by
  rw [setExpanded, h.row?_eq hrow]
  rfl

theorem Fresh.toggleExpanded_eq : s.toggleExpanded row.stepId =
    (some (!s.isExpanded row), s.chosen row.stepId !s.isExpanded row) := by
  simp only [toggleExpanded, h.row?_eq hrow]
  rfl

theorem Fresh.mem_expandedIds_chosen_iff (expanded : Bool) :
    row.stepId ∈ (s.chosen row.stepId expanded).expandedIds ↔
      row.children ≠ [] ∧ expanded = true := by
  rw [expandedIds_eq, List.mem_map]
  constructor
  · rintro ⟨other, hother, heq⟩
    obtain ⟨hother, hshown⟩ := List.mem_filter.1 hother
    obtain rfl : other = row := by
      by_contra hne
      exact h.stepId_ne hrow hother hne heq
    rw [isExpanded_chosen] at hshown
    simpa [and_comm] using hshown
  · rintro ⟨hbelow, rfl⟩
    refine ⟨row, List.mem_filter.2 ⟨hrow, ?_⟩, rfl⟩
    rw [isExpanded_chosen]
    simpa using hbelow

end

/-! ### Choices last -/

section

variable {s : WatchSession} {stepId : String}

@[simp] theorem expansion_refresh (s : WatchSession) : s.refresh.expansion = s.expansion := by
  rw [refresh_eq]

theorem expansion_push {e : Event} (hstays : LogEntry.reset ∉ LogEntry.ofAnswer e (s.push e).1) :
    (s.push e).2.expansion = s.expansion := by
  cases hconnected : s.connection.connected with
  | false => rw [push_of_disconnected e hconnected]
  | true =>
    cases he : e.isRootStart with
    | false =>
      rw [push_of_not_isRootStart hconnected he]
      rfl
    | true =>
      rw [push_of_isRootStart hconnected he] at hstays ⊢
      split at hstays
      · simp [LogEntry.ofAnswer] at hstays
      · next hboundary =>
        rw [if_neg hboundary]
        exact s.expansion_refresh

theorem expansion_ingest {e : Event} (hstays : LogEntry.reset ∉ s.entries (.ingest e)) :
    (s.ingest e).2.expansion = s.expansion := by
  have hpush : LogEntry.reset ∉ LogEntry.ofAnswer e (s.push e).1 := by
    rw [← (s.ingest_shown e).1]
    exact hstays
  cases hconnected : s.connection.connected with
  | false =>
    rw [ingest_of_disconnected e hconnected]
    exact expansion_push hpush
  | true =>
    rw [ingest_of_connected e hconnected, expansion_refresh]
    exact expansion_push hpush

theorem expansion_inTurn {events : List Event} (hstays : LogEntry.reset ∉
      (List.zipWith LogEntry.ofAnswer events (inTurn push s events).1).flatten) :
    (inTurn push s events).2.expansion = s.expansion := by
  induction events generalizing s with
  | nil => rfl
  | cons e events ih =>
    rw [inTurn, List.zipWith_cons_cons, List.flatten_cons, List.mem_append, not_or] at hstays
    exact (ih hstays.2).trans (expansion_push hstays.1)

/-- A call that resets nothing leaves the choice for a step, if it makes none itself. -/
theorem choice?_perform {call : SessionCall} (hstays : LogEntry.reset ∉ s.entries call)
    (hother : call.chosenRow? ≠ some stepId) :
    (s.perform call).expansion.choice? stepId = s.expansion.choice? stepId := by
  cases call with
  | watch | beginRun => simp [entries] at hstays
  | ingest e => rw [perform, expansion_ingest hstays]
  | ingestAll events => rw [perform, ingestAll_eq, expansion_refresh, expansion_inTurn hstays]
  | select id =>
    rw [perform, select]
    split <;> rfl
  | toggleExpanded id =>
    have hne : id ≠ stepId := fun heq => hother (congrArg some heq)
    rw [perform, toggleExpanded]
    split
    · next row hrow =>
      rw [RunView.row?] at hrow
      have hid : row.stepId = id := by simpa using List.find?_some hrow
      rw [Expansion.toggle, hid, Expansion.choice?_set, if_neg hne]
    · rfl
  | setExpanded id expanded =>
    have hne : id ≠ stepId := fun heq => hother (congrArg some heq)
    rw [perform, setExpanded]
    split
    · rw [Expansion.choice?_set, if_neg hne]
    · rfl
  | markConnected | markDisconnected => rfl
  | setCatalog catalog => rw [perform, setCatalog, expansion_refresh]

/-- A choice for a step outlasts all calls that neither reset the session nor choose for the step
again. -/
theorem choice?_performAll {calls : List SessionCall} (hstays : LogEntry.reset ∉ s.history calls)
    (hother : ∀ call ∈ calls, call.chosenRow? ≠ some stepId) :
    (s.performAll calls).expansion.choice? stepId = s.expansion.choice? stepId := by
  induction calls generalizing s with
  | nil => rfl
  | cons call calls ih =>
    rw [history, List.mem_append, not_or] at hstays
    have hrest := ih hstays.2 fun later hlater => hother later (List.mem_cons_of_mem call hlater)
    exact hrest.trans (choice?_perform hstays.1 (hother call List.mem_cons_self))

end

/-! ### Sessions -/

/-- Expanding a row concerns that row only, and lasts. To turn a row over is to set it to the
opposite of what the session shows, which is the answer; and to do so twice shows every row as
before. To set a row makes it as chosen and changes nothing of the session but the choices: the
other rows stay as they are, so the expanded rows are the same but for this one, which is among them
if it is to be expanded and has rows below it. After any further calls that neither reset the session
nor choose for this step again, the row is shown as chosen, if it is still there: with whatever
status of its step, at whatever level. -/
theorem row_choice_alone_and_lasting (catalog : Catalog) (config : LedgerConfig)
    (calls : List SessionCall) :
    let s := (new catalog config).performAll calls
    ∀ row ∈ s.rows,
      s.toggleExpanded row.stepId =
          (some (!s.isExpanded row), (s.setExpanded row.stepId (!s.isExpanded row)).2) ∧
      (∀ other ∈ s.rows, ((s.toggleExpanded row.stepId).2.toggleExpanded row.stepId).2.isExpanded
        other = s.isExpanded other) ∧
      ∀ expanded,
        let t := (s.setExpanded row.stepId expanded).2
        (s.setExpanded row.stepId expanded).1 = true ∧
          t = { s with expansion := t.expansion } ∧ t.isExpanded row = expanded ∧
          (∀ other ∈ s.rows, other ≠ row → t.isExpanded other = s.isExpanded other) ∧
          t.expandedIds.filter (· ≠ row.stepId) = s.expandedIds.filter (· ≠ row.stepId) ∧
          (row.stepId ∈ t.expandedIds ↔ row.children ≠ [] ∧ expanded = true) ∧
          t.expandedIds.Sublist (s.rows.map TreeNode.stepId) ∧
          ∀ later, LogEntry.reset ∉ t.history later →
            (∀ call ∈ later, call.chosenRow? ≠ some row.stepId) →
            ∀ row' ∈ (t.performAll later).rows, row'.stepId = row.stepId →
              (t.performAll later).isExpanded row' = expanded := by
  intro s row hrow
  have hs : s.Fresh := fresh_performAll catalog config calls
  have hset := hs.setExpanded_eq hrow
  have htoggle := hs.toggleExpanded_eq hrow
  refine ⟨by rw [htoggle, hset], fun other hother => ?_, fun expanded => ?_⟩
  · -- The session in between shows the same rows, and this one the other way round.
    have hbetween : (s.chosen row.stepId !s.isExpanded row).Fresh :=
      hs.of_eq rfl ⟨rfl, rfl⟩ rfl rfl
    have hback := hbetween.toggleExpanded_eq hrow
    rw [htoggle, hback, isExpanded_chosen, Bool.not_not]
    by_cases hsame : other = row
    · rw [hsame, isExpanded_chosen]
    · have hne := hs.stepId_ne hrow hother hsame
      rw [isExpanded_chosen_of_ne hne, isExpanded_chosen_of_ne hne]
  · rw [hset expanded]
    refine ⟨rfl, rfl, isExpanded_chosen s row expanded, fun other hother hne => ?_,
      filter_expandedIds_chosen s row expanded, hs.mem_expandedIds_chosen_iff hrow expanded,
      RunView.expandedIds_sublist _ _, fun later hstays hother row' hrow' hid => ?_⟩
    · exact isExpanded_chosen_of_ne (hs.stepId_ne hrow hother hne)
    · have hkept := choice?_performAll hstays hother
      rw [chosen, Expansion.choice?_set, if_pos rfl] at hkept
      refine Expansion.isExpanded_of_choice ?_
      rw [hid]
      exact hkept

/-- A row of the top level is chosen to be expanded. Then its step completes, another row is turned
over, and its run becomes the child of a new root run, so it stands one level deeper: it is expanded
still. -/
theorem row_choice_of_nested_row :
    let calls : List SessionCall := [.watch "w", .ingestAll [.nodeStart "r" "a" none none,
      .subworkflowUpdate "r" "a" "c", .nodeStart "c" "x" none none, .nodeStart "r" "b" none none]]
    let later : List SessionCall := [.ingest (.nodeComplete "r" "a" none none none none),
      .toggleExpanded "r:b:3", .ingestAll [.flowStart "p" none none, .nodeStart "p" "n" none none,
        .subworkflowUpdate "p" "n" "r"]]
    let s := (new .empty .standard).performAll calls
    let t := (s.setExpanded "r:a:0" true).2
    let u := t.performAll later
    LogEntry.reset ∉ t.history later ∧ (∀ call ∈ later, call.chosenRow? ≠ some "r:a:0") ∧
      (∃ row ∈ s.rows, row.stepId = "r:a:0" ∧ row.depth = 0 ∧
        (s.toggleExpanded "r:a:0").1 = some (!s.isExpanded row) ∧ t.isExpanded row = true) ∧
      (∃ row ∈ u.rows, row.stepId = "r:a:0" ∧ row.depth = 1 ∧ u.isExpanded row = true) ∧
      s.expandedIds = ["r:a:0"] ∧ u.expandedIds = ["p:n:6", "r:a:0"] ∧
      u.view.statusOf? "r:a:0" = some .completed := by
  intro calls later s t u
  have hmem : ("r:a:0", 0) ∈ s.rows.map fun row => (row.stepId, row.depth) := by decide +kernel
  have hmem' : ("r:a:0", 1) ∈ u.rows.map fun row => (row.stepId, row.depth) := by decide +kernel
  obtain ⟨row, hrow, hid⟩ := List.mem_map.1 hmem
  obtain ⟨row', hrow', hid'⟩ := List.mem_map.1 hmem'
  obtain ⟨hid, hdepth⟩ := Prod.mk.inj hid
  obtain ⟨hid', hdepth'⟩ := Prod.mk.inj hid'
  have hstays : LogEntry.reset ∉ t.history later := fun hreset => by
    have hall : (t.history later).all (fun entry => !entry.isReset) = true := by decide +kernel
    simpa [LogEntry.isReset] using List.all_eq_true.1 hall _ hreset
  have hother : ∀ call ∈ later, call.chosenRow? ≠ some "r:a:0" := by decide +kernel
  obtain ⟨htoggle, -, hchoice⟩ := row_choice_alone_and_lasting .empty .standard calls row hrow
  obtain ⟨-, -, hchosen, -, -, -, -, hlasts⟩ := hchoice true
  rw [hid] at htoggle hchosen hlasts
  exact ⟨hstays, hother, ⟨row, hrow, hid, hdepth, congrArg Prod.fst htoggle, hchosen⟩,
    ⟨row', hrow', hid', hdepth', hlasts later hstays hother row' hrow' hid'⟩, by decide +kernel,
    by decide +kernel, by decide +kernel⟩

end WatchSession

end RunWatch
