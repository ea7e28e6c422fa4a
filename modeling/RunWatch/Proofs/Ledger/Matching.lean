import Mathlib.Data.List.TakeWhile
import RunWatch.Proofs.Ledger.Identity
import RunWatch.Proofs.Ledger.Interleaving

/-!
# Starts and ends

Which steps a stream has, and what becomes of each, told by looking at the events of one node at a
time. An event of a node starts it, pauses it, completes it or fails it. The node is open after a
start or a wait and closed after an end.

A start creates a step, and so does any event that finds its node closed (`History.outcome`). A step
that is open at first meets the events that follow up to the first one that is not a wait, and no
others (`History.fate`).

* `History.run_eventsOf`: what the events of one node make of a list of steps.
* `Ledger.mem_steps_iff_created`: the steps of a stream are those outcomes, and no others.
-/

namespace RunWatch

open Text

namespace Event

/-- Whether an event starts a node. -/
def isNodeStart : Event → Bool
  | nodeStart .. => true
  | _ => false

/-- Whether an event is a wait. -/
def isWait : Event → Bool
  | flowWaiting .. => true
  | _ => false

/-- Whether an event leaves its node open. -/
def opens (e : Event) : Bool := e.isNodeStart || e.isWait

/-- The kind of node that an event reports. -/
def nodeType? : Event → Option String
  | nodeStart _ _ nodeType _ | nodeComplete _ _ nodeType _ _ _ => nodeType
  | _ => none

/-- The time at which an event opens its node. -/
def openedAt? : Event → Option Instant
  | nodeStart _ _ _ ts | flowWaiting _ _ _ ts => ts
  | _ => none

/-- An event that is about the steps of a node and names it, by its kind. -/
inductive OfNode (key : NodeKey) : Event → Prop where
  | start (nodeType : Option String) (ts : Option Instant) (hrun : key.runId ≠ "")
      (hnode : key.nodeId ≠ "") : OfNode key (.nodeStart key.runId key.nodeId nodeType ts)
  | complete (nodeType : Option String) (result details : Option Json) (ts : Option Instant)
      (hrun : key.runId ≠ "") (hnode : key.nodeId ≠ "") :
      OfNode key (.nodeComplete key.runId key.nodeId nodeType result details ts)
  | wait (nodeId : Option String) (waiting : WaitingInfo) (ts : Option Instant)
      (hrun : key.runId ≠ "") (hnode : nodeId.bind full? = some key.nodeId) :
      OfNode key (.flowWaiting key.runId nodeId waiting ts)
  | error (nodeId : Option String) (error : Option Json) (ts : Option Instant)
      (hrun : key.runId ≠ "") (hnode : nodeId.bind full? = some key.nodeId) :
      OfNode key (.flowError key.runId nodeId error ts)

theorem ofNode_of_addresses {e : Event} {key : NodeKey} (h : e.addresses key = true) :
    OfNode key e := by
  rw [addresses, Bool.and_eq_true, Bool.and_eq_true, beq_iff_eq, beq_iff_eq] at h
  obtain ⟨hsteps, hrun, hnode⟩ := h
  cases e with
  | nodeStart | nodeComplete =>
    obtain ⟨rfl, hrun⟩ := full?_eq_some_iff.1 hrun
    obtain ⟨rfl, hnode⟩ := full?_eq_some_iff.1 hnode
    constructor <;> assumption
  | flowWaiting | flowError =>
    obtain ⟨rfl, hrun⟩ := full?_eq_some_iff.1 hrun
    constructor <;> assumption
  | flowStart | flowComplete | flowCancelled | subworkflowUpdate | traceUpdate | unknown =>
    cases hsteps

end Event

namespace History

section

variable (catalog : Catalog) (key : NodeKey) (place : Nat)

/-- What an event of a node does to the open step of the node. A new start leaves it as it is. -/
def meet (s : Step) : Event → Step
  | .nodeComplete _ _ nodeType result details ts =>
    s.complete (.of result details ts) (catalog.resolve key.nodeId nodeType)
  | .flowWaiting _ _ waiting _ => s.pause waiting
  | .flowError _ _ error ts => s.fail (Event.errorText error) ts
  | _ => s

/-- The step that an event of a node creates. -/
def begun (e : Event) : Step :=
  meet catalog key (.running key place (catalog.resolve key.nodeId e.nodeType?) e.openedAt?) e

/-- What becomes of an open step, given the events of its node that follow: it meets the last one of
the waits that they begin with, and then the first event that is not a wait. -/
def fate (s : Step) (later : List Event) : Step :=
  let lastWait? := (later.takeWhile Event.isWait).getLast?
  let ending? := later.find? fun e => !e.isWait
  (lastWait?.toList ++ ending?.toList).foldl (meet catalog key) s

/-- What becomes of the step that an event of a node creates, given the events that follow. -/
def outcome (e : Event) (later : List Event) : Step :=
  if e.opens then fate catalog key (begun catalog key place e) later else begun catalog key place e

end

/-- The events of a node among those of a stream. -/
def eventsOf (key : NodeKey) (events : List Event) : List Event :=
  events.filter fun e => e.addresses key

theorem eventsOf_cons (key : NodeKey) (e : Event) (events : List Event) :
    eventsOf key (e :: events) =
      if e.addresses key then e :: eventsOf key events else eventsOf key events :=
  List.filter_cons

/-- Whether a node is closed after its events so far: there are none, or the last one is an end. -/
def isClosed (past : List Event) : Bool := past.getLast?.all fun e => !e.opens

/-! ### One event -/

section

variable {catalog : Catalog} {config : LedgerConfig} {key : NodeKey} {place : Nat} {e : Event}

@[simp] theorem key_meet (s : Step) : (meet catalog key s e).key = s.key := by
  cases e <;> rfl

theorem beq_key_meet (s : Step) : ((meet catalog key s e).key == key) = (s.key == key) := by
  rw [key_meet]

theorem id_meet (s : Step) : (meet catalog key s e).id = s.id := by
  cases e <;> rfl

theorem meet_of_isNodeStart (h : e.isNodeStart = true) (s : Step) : meet catalog key s e = s := by
  cases e with
  | nodeStart => rfl
  | _ => cases h

/-- A wait makes an earlier one forgotten. -/
theorem meet_meet_of_isWait {e' : Event} (h : e.isWait = true) (h' : e'.isWait = true)
    (s : Step) : meet catalog key (meet catalog key s e) e' = meet catalog key s e' := by
  cases e with
  | flowWaiting =>
    cases e' with
    | flowWaiting => rfl
    | _ => cases h'
  | _ => cases h

theorem isOpen_meet (haddr : e.addresses key = true) (hstart : e.isNodeStart = false)
    (s : Step) : (meet catalog key s e).status.isOpen = e.isWait := by
  cases Event.ofNode_of_addresses haddr with
  | start => cases hstart
  | complete | wait | error => rfl

@[simp] theorem key_begun : (begun catalog key place e).key = key := by
  rw [begun, key_meet, Step.key_running]

theorem isOpen_append_begun (haddr : e.addresses key = true) (steps : List Step) :
    isOpen (steps ++ [begun catalog key place e]) key = e.opens := by
  have hkey : ((begun catalog key place e).key == key) = true := by simp
  have hopen : (begun catalog key place e).status.isOpen = e.opens := by
    cases Event.ofNode_of_addresses haddr <;> rfl
  rw [isOpen, newest?, findRev?_append_singleton, if_pos hkey, Option.any_some, hopen]

theorem isOpen_updateLast_meet (haddr : e.addresses key = true) (hstart : e.isNodeStart = false)
    {steps : List Step} (hopen : isOpen steps key = true) :
    isOpen (updateLast (fun s => s.key == key) (fun s => meet catalog key s e) steps) key =
      e.opens := by
  have hopens : e.opens = e.isWait := by rw [Event.opens, hstart, Bool.false_or]
  rw [isOpen, newest?] at hopen ⊢
  rw [findRev?_updateLast beq_key_meet, hopens]
  cases hs : steps.findRev? fun s => s.key == key with
  | none =>
    rw [hs] at hopen
    cases hopen
  | some s => rw [Option.map_some, Option.any_some, isOpen_meet haddr hstart]

theorem repeats_eq_false (hdedup : config.dedupKinds = []) (kind : Option String)
    (c : Completion) : repeats config key kind c = fun _ => false := by
  have hkind : config.isDedupKind kind = false := by
    rw [LedgerConfig.isDedupKind, hdedup]
    cases kind <;> rfl
  funext s
  rw [repeats, hkind, Bool.false_and]

/-- An event of a node adds a step if it starts the node or finds it closed, and otherwise the open
step meets it. Only a completion that finds the node closed may be merged instead. -/
theorem record_of_addresses {steps : List Step}
    (hdedup : config.dedupKinds = [] ∨ isOpen steps key = true) (haddr : e.addresses key = true) :
    record catalog config place steps e =
      if e.isNodeStart || !isOpen steps key then steps ++ [begun catalog key place e]
      else updateLast (fun s => s.key == key) (fun s => meet catalog key s e) steps := by
  have hsettle : ∀ f new, settle steps key f new =
      if !isOpen steps key then steps ++ [new] else updateLast (fun s => s.key == key) f steps := by
    intro f new
    unfold settle
    cases isOpen steps key <;> rfl
  cases Event.ofNode_of_addresses haddr with
  | start nodeType ts hrun hnode =>
    rw [record, if_neg (not_or.2 ⟨hrun, hnode⟩)]
    rfl
  | complete nodeType result details ts hrun hnode =>
    have hnone : ∀ kind c, (!isOpen steps key && steps.any (repeats config key kind c)) = false := by
      intro kind c
      rcases hdedup with hdedup | hopen
      · rw [repeats_eq_false hdedup, Bool.and_eq_false_iff, List.any_eq_false]
        exact .inr fun _ _ => Bool.false_ne_true
      · rw [hopen, Bool.not_true, Bool.false_and]
    rw [record, if_neg (not_or.2 ⟨hrun, hnode⟩), complete]
    simp only [hnone, Bool.false_eq_true, if_false]
    exact hsettle _ _
  | wait nodeId waiting ts hrun hnode =>
    simp only [record, hrun, if_false, hnode]
    exact hsettle _ _
  | error nodeId error ts hrun hnode =>
    simp only [record, hnode, hrun, if_false]
    exact hsettle _ _

end

/-! ### The events of a node -/

section

variable (catalog : Catalog) {config : LedgerConfig} (key : NodeKey)

theorem fate_nil (s : Step) : fate catalog key s [] = s := rfl

/-- A step that meets a wait stays open for the next event; after any other event it stays as it
is. -/
theorem fate_cons (s : Step) (e : Event) (later : List Event) :
    fate catalog key s (e :: later) =
      if e.isWait then fate catalog key (meet catalog key s e) later else meet catalog key s e := by
  by_cases he : e.isWait
  · rw [if_pos he, fate, fate, List.takeWhile_cons_of_pos he, List.find?_cons_of_neg (by simp [he])]
    simp only [List.foldl_append]
    congr 1
    rw [List.getLast?_cons]
    cases hlast : (later.takeWhile Event.isWait).getLast? with
    | none => rfl
    | some w =>
      have hw : w.isWait = true :=
        List.mem_takeWhile_imp (List.mem_of_getLast? hlast)
      exact (meet_meet_of_isWait he hw s).symm
  · rw [if_neg he, fate, List.takeWhile_cons_of_neg he, List.find?_cons_of_pos (by simp [he])]
    rfl

theorem id_fate (s : Step) (later : List Event) : (fate catalog key s later).id = s.id := by
  induction later generalizing s with
  | nil => rfl
  | cons e later ih =>
    rw [fate_cons]
    split
    · rw [ih, id_meet]
    · exact id_meet s

theorem id_outcome (place : Nat) (e : Event) (later : List Event) :
    (outcome catalog key place e later).id = stepId key.runId key.nodeId place := by
  have hbegun : (begun catalog key place e).id = stepId key.runId key.nodeId place := id_meet _
  unfold outcome
  split
  · rw [id_fate, hbegun]
  · exact hbegun

/-- The steps after the later events of a node have decided the fate of its open step. -/
def decided (steps : List Step) (later : List Event) : List Step :=
  if isOpen steps key then
    updateLast (fun s => s.key == key) (fun s => fate catalog key s later) steps
  else steps

theorem decided_nil (steps : List Step) : decided catalog key steps [] = steps := by
  have hsame : updateLast (fun s => s.key == key) (fun s => fate catalog key s []) steps = steps :=
    updateLast_of_fixed (fun s _ => fate_nil catalog key s) steps
  rw [decided, hsame, ite_self]

variable {catalog key} {place : Nat} {e : Event} {steps : List Step}

theorem decided_append_begun (haddr : e.addresses key = true) (later : List Event) :
    decided catalog key (steps ++ [begun catalog key place e]) later =
      steps ++ [outcome catalog key place e later] := by
  have hkey : ((begun catalog key place e).key == key) = true := by simp
  rw [decided, isOpen_append_begun haddr, updateLast_append_singleton, if_pos hkey, outcome]
  split <;> rfl

/-- A start leaves an open step open for ever, and any event leaves the steps of a closed node. -/
theorem decided_cons_of_new (hnew : (e.isNodeStart || !isOpen steps key) = true)
    (later : List Event) : decided catalog key steps (e :: later) = steps := by
  unfold decided
  split
  · next hopen =>
    have hstart : e.isNodeStart = true := by simpa [hopen] using hnew
    have hwait : ¬ e.isWait = true := by cases e <;> simp_all [Event.isNodeStart, Event.isWait]
    refine updateLast_of_fixed (fun s _ => ?_) steps
    rw [fate_cons, if_neg hwait, meet_of_isNodeStart hstart]
  · rfl

theorem decided_cons_of_met (haddr : e.addresses key = true) (hstart : e.isNodeStart = false)
    (hopen : isOpen steps key = true) (later : List Event) :
    decided catalog key
        (updateLast (fun s => s.key == key) (fun s => meet catalog key s e) steps) later =
      decided catalog key steps (e :: later) := by
  have hopens : e.opens = e.isWait := by rw [Event.opens, hstart, Bool.false_or]
  rw [decided, decided, isOpen_updateLast_meet haddr hstart hopen, if_pos hopen, hopens]
  simp only [fate_cons]
  split
  · exact updateLast_updateLast beq_key_meet _ steps
  · rfl

variable (catalog key)

/-- The steps that the events of a node create, given whether the node is open before them. -/
def created : Bool → Nat → List Event → List Step
  | _, _, [] => []
  | isOpen, place, e :: events =>
    (if e.addresses key && (e.isNodeStart || !isOpen) then
        [outcome catalog key place e (eventsOf key events)]
      else []) ++
      created (if e.addresses key then e.opens else isOpen) (place + 1) events

/-- The events of a node decide the fate of its open step, if it has one, and create others. -/
theorem run_eventsOf (hdedup : config.dedupKinds = []) (events : List Event) (place : Nat)
    (steps : List Step) :
    run catalog config ((events.zipIdx place).filter fun e => e.1.addresses key) steps =
      decided catalog key steps (eventsOf key events) ++
        created catalog key (isOpen steps key) place events := by
  induction events generalizing place steps with
  | nil =>
    rw [eventsOf, List.filter_nil, decided_nil, created, List.append_nil]
    rfl
  | cons e events ih =>
    rw [List.zipIdx_cons, List.filter_cons, eventsOf_cons, created]
    by_cases haddr : e.addresses key = true
    · rw [if_pos haddr, if_pos haddr, if_pos haddr, run, List.foldl_cons, ← run, ih,
        record_of_addresses (.inl hdedup) haddr, haddr, Bool.true_and]
      by_cases hnew : (e.isNodeStart || !isOpen steps key) = true
      · rw [if_pos hnew, if_pos hnew, decided_append_begun haddr, isOpen_append_begun haddr,
          decided_cons_of_new hnew, List.append_assoc]
      · obtain ⟨hstart, hopen⟩ : e.isNodeStart = false ∧ isOpen steps key = true := by
          simpa using hnew
        rw [if_neg hnew, if_neg hnew, decided_cons_of_met haddr hstart hopen,
          isOpen_updateLast_meet haddr hstart hopen, List.nil_append]
    · rw [if_neg haddr, if_neg haddr, if_neg haddr, ih, if_neg (by simp [haddr]), List.nil_append]

/-- An event creates a step of its node if it starts the node or finds it closed. -/
theorem mem_created_iff {isOpen : Bool} {place : Nat} {events : List Event} {s : Step} :
    s ∈ created catalog key isOpen place events ↔
      ∃ before e after, events = before ++ e :: after ∧ e.addresses key = true ∧
        (e.isNodeStart = true ∨
          ((eventsOf key before).getLast?.map Event.opens).getD isOpen = false) ∧
        s = outcome catalog key (place + before.length) e (eventsOf key after) := by
  induction events generalizing isOpen place with
  | nil => simp [created]
  | cons e events ih =>
    -- Whether the node is open, with this event among the past ones and without it.
    have hpast : ∀ before : List Event,
        ((eventsOf key (e :: before)).getLast?.map Event.opens).getD isOpen =
          ((eventsOf key before).getLast?.map Event.opens).getD
            (if e.addresses key then e.opens else isOpen) := by
      intro before
      rw [eventsOf_cons]
      split
      · rw [List.getLast?_cons]
        cases (eventsOf key before).getLast? <;> rfl
      · rfl
    have hcreated : s ∈ created catalog key isOpen place (e :: events) ↔
        (e.addresses key = true ∧ (e.isNodeStart = true ∨ isOpen = false) ∧
          s = outcome catalog key place e (eventsOf key events)) ∨
        s ∈ created catalog key (if e.addresses key then e.opens else isOpen) (place + 1)
          events := by
      rw [created, List.mem_append]
      refine or_congr_left ?_
      rw [← and_assoc, List.mem_ite_nil_right, List.mem_singleton, Bool.and_eq_true,
        Bool.or_eq_true, Bool.not_eq_true']
    rw [hcreated, ih]
    constructor
    · rintro (⟨haddr, hnew, rfl⟩ | ⟨before, e', after, rfl, haddr, hnew, rfl⟩)
      · exact ⟨[], e, events, rfl, haddr, hnew, rfl⟩
      · refine ⟨e :: before, e', after, rfl, haddr, by rwa [hpast], ?_⟩
        rw [List.length_cons, Nat.add_right_comm, Nat.add_assoc]
    · rintro ⟨before, e', after, heq, haddr, hnew, rfl⟩
      cases before with
      | nil =>
        obtain ⟨rfl, rfl⟩ := List.cons.inj heq
        exact .inl ⟨haddr, hnew, rfl⟩
      | cons b before =>
        obtain ⟨rfl, rfl⟩ := List.cons.inj heq
        rw [hpast] at hnew
        refine .inr ⟨before, e', after, rfl, haddr, hnew, ?_⟩
        rw [List.length_cons, Nat.add_right_comm, Nat.add_assoc]

end

end History

namespace Ledger

variable {catalog : Catalog} {config : LedgerConfig} {events : List Event}

theorem stepsOfNode_eq_created (hdedup : config.dedupKinds = [])
    (hnodes : ∀ e ∈ events, e.isNodeless = false) (key : NodeKey) :
    (ofEvents catalog config events).stepsOfNode key =
      History.created catalog key false 0 events := by
  rw [stepsOfNode_ofEvents catalog config hnodes, History.run_eventsOf catalog key hdedup]
  rfl

/-- The steps of a stream are those that its events create, in the order of these events, and no
others. An event of a node creates one if it starts the node or finds it closed, numbered by its own
place in the stream; and the later events of the node decide what becomes of it. -/
theorem mem_steps_iff_created (catalog : Catalog) (config : LedgerConfig) (events : List Event)
    (hdedup : config.dedupKinds = []) (hnodes : ∀ e ∈ events, e.isNodeless = false) :
    let steps := (ofEvents catalog config events).steps
    steps.Pairwise (fun s t => s.arrival < t.arrival) ∧
      ∀ s, s ∈ steps ↔ ∃ key before e after,
        events = before ++ e :: after ∧ e.addresses key = true ∧
          (e.isNodeStart = true ∨ History.isClosed (History.eventsOf key before) = true) ∧
          s.id = stepId key.runId key.nodeId before.length ∧
          s = History.outcome catalog key before.length e (History.eventsOf key after) := by
  intro steps
  refine ⟨arrivals_rise catalog config events, fun s => ?_⟩
  have hnode : s ∈ steps ↔ ∃ key, s ∈ (ofEvents catalog config events).stepsOfNode key := by
    simp [stepsOfNode, steps]
  have hclosed : ∀ past : List Event,
      (past.getLast?.map Event.opens).getD false = false ↔ History.isClosed past = true := by
    intro past
    rw [History.isClosed]
    cases past.getLast? <;> simp
  have hid : ∀ {key : NodeKey} {place : Nat} {e : Event} {later : List Event},
      s = History.outcome catalog key place e later →
        s.id = stepId key.runId key.nodeId place := by
    rintro key place e later rfl
    exact History.id_outcome catalog key place e later
  rw [hnode]
  refine exists_congr fun key => ?_
  rw [stepsOfNode_eq_created hdedup hnodes, History.mem_created_iff]
  simp only [hclosed, Nat.zero_add, and_iff_right_of_imp hid]

/-- A node that waits and is started again before it ends, and that reports two ends. The first
start stays open, the second one ends, and the second end makes a step of its own; each of the two
ended steps holds what its own end reports. -/
theorem mem_steps_iff_created_overlap :
    let waiting : WaitingInfo := ⟨some "go on?", [], true, none, none⟩
    let config := LedgerConfig.standard.withDedupKinds []
    let key : NodeKey := ⟨"r", "a"⟩
    let details (model : String) (tokens : Nat) : Json :=
      .object [("provider", .string "p"), ("model", .string model), ("total_tokens", .ofNat tokens)]
    let five : Instant := ⟨5, 0, by decide, by decide, by decide, by decide⟩
    let eight : Instant := ⟨8, 0, by decide, by decide, by decide, by decide⟩
    let start : Event := .nodeStart "r" "a" none none
    let first : Event :=
      .nodeComplete "r" "a" none (some (.string "one")) (some (details "m" 7)) (some five)
    let second : Event :=
      .nodeComplete "r" "a" none (some (.string "two")) (some (details "n" 9)) (some eight)
    let past : List Event := [start, .flowWaiting "r" (some "a") waiting none]
    let events := past ++ [start, first, second]
    let steps := (ofEvents .empty config events).steps
    let report (s : Step) := (s.output, s.metrics, s.provider, s.model, s.endedAt)
    let tokens (n : Nat) : Metrics := { Metrics.empty with totalTokens := some n }
    let resumed := History.outcome .empty key 2 start [first, second]
    let repeated := History.outcome .empty key 4 second []
    (config.dedupKinds = [] ∧ ∀ e ∈ events, e.isNodeless = false) ∧
      steps.Pairwise (fun s t => s.arrival < t.arrival) ∧
      (resumed ∈ steps ∧ report resumed =
        (some (.string "one"), some (tokens 7), some "p", some "m", some five)) ∧
      (repeated ∈ steps ∧ report repeated =
        (some (.string "two"), some (tokens 9), some "p", some "n", some eight)) ∧
      steps.map Step.status = [.waiting, .completed, .completed] := by
  intro waiting config key details five eight start first second past events steps report tokens
    resumed repeated
  have hdedup : config.dedupKinds = [] := rfl
  have hnodes : ∀ e ∈ events, e.isNodeless = false := by decide
  obtain ⟨hrise, hmem⟩ := mem_steps_iff_created .empty config events hdedup hnodes
  have hclosed : History.isClosed (History.eventsOf key (past ++ [start, first])) = true := by
    decide
  have hresumed := (hmem resumed).2
    ⟨key, past, start, [first, second], rfl, by decide, .inl rfl,
      History.id_outcome .empty key 2 start _, rfl⟩
  have hrepeated := (hmem repeated).2
    ⟨key, past ++ [start, first], second, [], rfl, by decide, .inr hclosed,
      History.id_outcome .empty key 4 second [], rfl⟩
  exact ⟨⟨hdedup, hnodes⟩, hrise, ⟨hresumed, by decide +kernel⟩, ⟨hrepeated, by decide +kernel⟩,
    by decide +kernel⟩

end Ledger

end RunWatch
