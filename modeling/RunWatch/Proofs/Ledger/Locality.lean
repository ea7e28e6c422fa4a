import RunWatch.Proofs.Ledger.History

/-!
# What an event reaches

An event reaches the steps of one node, or, when it names no node, those of one run
(`Event.concerns`). The exception is the failure of a run without steps, which is noted on the last
step of all (`Event.strays`).

* `History.partOf_record`: a part of the steps that holds all an event concerns is changed as if
  there were no other steps, and a part that holds nothing of it stays as it is.
* `History.forall₂_record`, `History.forall₂_run`: lists of steps that differ in their numbers only
  (`Step.Alike`) are changed alike.
-/

namespace RunWatch

open Text

/-! ### What an event is about -/

namespace Event

/-- Whether an event is of a kind that creates or changes steps. -/
def isOfSteps : Event → Bool
  | nodeStart .. | nodeComplete .. | flowWaiting .. | flowError .. => true
  | _ => false

/-- Whether an event is about the steps of a node and names it. -/
def addresses (e : Event) (key : NodeKey) : Bool :=
  e.isOfSteps && (e.runId? == some key.runId && e.nodeId? == some key.nodeId)

/-- Whether an event of waiting or failure names no node. -/
def isNodeless : Event → Bool
  | flowWaiting _ nodeId .. | flowError _ nodeId .. => (nodeId.bind full?).isNone
  | _ => false

/-- Whether an event may change the steps of a node: it names the node, or it names the run and no
node. -/
def concerns (e : Event) (key : NodeKey) : Bool :=
  e.addresses key || (e.isNodeless && e.runId? == some key.runId)

/-- Whether an event is a failure without a node, of a run that has no steps. -/
def strays (e : Event) (steps : List Step) : Bool :=
  match e with
  | flowError runId .. => e.isNodeless && (runId == "" || !steps.any fun s => s.runId == runId)
  | _ => false

theorem strays_of_not_isNodeless {e : Event} (h : e.isNodeless = false) (steps : List Step) :
    e.strays steps = false := by
  cases e <;> simp [strays, h]

theorem full?_of_ne {s : String} (h : s ≠ "") : full? s = some s := if_neg h

theorem concerns_of_node {e : Event} {key : NodeKey} (h : e.isOfSteps = true)
    (hrun : e.runId? = some key.runId) (hnode : e.nodeId? = some key.nodeId) :
    e.concerns key = true := by
  simp [concerns, addresses, h, hrun, hnode]

theorem concerns_of_run {e : Event} {key : NodeKey} (h : e.isNodeless = true)
    (hrun : e.runId? = some key.runId) : e.concerns key = true := by
  simp [concerns, h, hrun]

theorem runId?_of_concerns {e : Event} {key : NodeKey} (h : e.concerns key = true) :
    e.runId? = some key.runId := by
  simp only [concerns, addresses, Bool.or_eq_true, Bool.and_eq_true, beq_iff_eq] at h
  rcases h with ⟨-, h, -⟩ | ⟨-, h⟩ <;> exact h

/-- An event that names a node concerns that node alone. -/
theorem eq_of_concerns {e : Event} {key key' : NodeKey} (h : e.isNodeless = false)
    (hkey : e.addresses key = true) (hkey' : e.concerns key' = true) : key' = key := by
  simp only [concerns, h, Bool.false_and, Bool.or_false] at hkey'
  simp only [addresses, Bool.and_eq_true, beq_iff_eq] at hkey hkey'
  cases key
  cases key'
  have hrun := Option.some.inj (hkey.2.1.symm.trans hkey'.2.1)
  have hnode := Option.some.inj (hkey.2.2.symm.trans hkey'.2.2)
  simp_all

end Event

namespace History

variable (catalog : Catalog) (config : LedgerConfig) (place : Nat)

/-! ### Parts of the steps -/

section Parts

/-- The steps of some nodes. -/
def partOf (part : NodeKey → Bool) (steps : List Step) : List Step :=
  steps.filter fun s => part s.key

variable {part : NodeKey → Bool} {inside : Bool} {key : NodeKey} {p : Step → Bool}
  {f : Step → Step} {new : Step}

theorem partOf_append_singleton (steps : List Step) (s : Step) :
    partOf part (steps ++ [s]) =
      if part s.key then partOf part steps ++ [s] else partOf part steps := by
  rw [partOf, List.filter_append]
  by_cases h : part s.key <;> simp [h, partOf]

/-- A change of the last one of some steps, which are all in the part or all outside of it. -/
theorem partOf_updateLast (hp : ∀ s, p s = true → part s.key = inside)
    (hf : ∀ s, (f s).key = s.key) (steps : List Step) :
    partOf part (updateLast p f steps) =
      if inside then updateLast p f (partOf part steps) else partOf part steps := by
  cases inside with
  | true => exact filter_updateLast hp (fun s => by rw [hf]) steps
  | false => exact filter_updateLast_of_disjoint hp (fun s => by rw [hf]) steps

theorem isOpen_partOf (hkey : part key = true) (steps : List Step) :
    isOpen (partOf part steps) key = isOpen steps key := by
  rw [isOpen, isOpen, newest?, newest?, partOf, findRev?_filter]
  intro s hs
  rwa [beq_iff_eq.1 hs]

theorem partOf_settle (hkey : part key = inside) (hf : ∀ s, (f s).key = s.key)
    (hnew : new.key = key) (steps : List Step) :
    partOf part (settle steps key f new) =
      if inside then settle (partOf part steps) key f new else partOf part steps := by
  have hpart : ∀ s : Step, (s.key == key) = true → part s.key = inside := fun s hs => by
    rw [beq_iff_eq.1 hs, hkey]
  unfold settle
  by_cases hopen : isOpen steps key
  · rw [if_pos hopen, partOf_updateLast hpart hf]
    cases inside with
    | true => rw [isOpen_partOf hkey, if_pos hopen]
    | false => rfl
  · rw [if_neg hopen, partOf_append_singleton, hnew, hkey]
    cases inside with
    | true => rw [isOpen_partOf hkey, if_neg hopen]
    | false => rfl

theorem key_of_repeats {kind : Option String} {c : Completion} {s : Step}
    (h : repeats config key kind c s = true) : s.key = key := by
  simp only [repeats, Bool.and_eq_true, Option.any_eq_true, beq_iff_eq] at h
  obtain ⟨-, -, -, ⟨hkey, -⟩, -⟩ := h
  exact hkey

theorem partOf_complete (hkey : part key = inside) (nodeType : Option String) (c : Completion)
    (steps : List Step) :
    partOf part (complete catalog config place steps key nodeType c) =
      if inside then complete catalog config place (partOf part steps) key nodeType c
      else partOf part steps := by
  have hpart : ∀ s, repeats config key (catalog.resolve key.nodeId nodeType) c s = true →
      part s.key = inside := fun s hs => by rw [key_of_repeats config hs, hkey]
  cases inside with
  | true =>
    have hany : (partOf part steps).any
        (repeats config key (catalog.resolve key.nodeId nodeType) c) =
          steps.any (repeats config key (catalog.resolve key.nodeId nodeType) c) :=
      any_filter_of_imp hpart steps
    simp only [complete, isOpen_partOf hkey, hany, if_true]
    split
    · exact partOf_updateLast hpart (fun s => s.key_merge c) steps
    · exact partOf_settle hkey (fun s => s.key_complete _ c) (Step.key_complete ..) steps
  | false =>
    simp only [complete, Bool.false_eq_true, if_false]
    split
    · exact partOf_updateLast hpart (fun s => s.key_merge c) steps
    · exact partOf_settle hkey (fun s => s.key_complete _ c) (Step.key_complete ..) steps

end Parts

section Record

variable {catalog config place}
variable {part : NodeKey → Bool} {inside : Bool} {e : Event}

/-- A part of the steps that holds all an event concerns is changed as if there were no others, and
a part that holds nothing of it stays as it is. -/
theorem partOf_record (h : ∀ key, e.concerns key = true → part key = inside) {steps : List Step}
    (hstray : e.strays steps = false) :
    partOf part (record catalog config place steps e) =
      if inside then record catalog config place (partOf part steps) e else partOf part steps := by
  have hsame : partOf part steps = if inside then partOf part steps else partOf part steps := by
    rw [ite_self]
  cases e with
  | nodeStart runId nodeId nodeType ts =>
    simp only [record]
    split
    · exact hsame
    · next hid =>
      rw [not_or] at hid
      have hkey := h ⟨runId, nodeId⟩
        (Event.concerns_of_node rfl (Event.full?_of_ne hid.1) (Event.full?_of_ne hid.2))
      rw [partOf_append_singleton, Step.key_running, hkey]
  | nodeComplete runId nodeId nodeType result details ts =>
    simp only [record]
    split
    · exact hsame
    · next hid =>
      rw [not_or] at hid
      have hkey := h ⟨runId, nodeId⟩
        (Event.concerns_of_node rfl (Event.full?_of_ne hid.1) (Event.full?_of_ne hid.2))
      exact partOf_complete catalog config place hkey nodeType _ steps
  | flowWaiting runId nodeId waiting ts =>
    simp only [record]
    split
    · exact hsame
    · next hrun =>
      cases hnode : nodeId.bind full? with
      | some node =>
        have hkey := h ⟨runId, node⟩
          (Event.concerns_of_node rfl (Event.full?_of_ne hrun) hnode)
        exact partOf_settle hkey (fun s => s.key_pause waiting) (Step.key_pause ..) steps
      | none =>
        refine partOf_updateLast (fun s hs => ?_) (fun s => s.key_pause waiting) steps
        rw [Bool.and_eq_true, beq_iff_eq] at hs
        refine h s.key (Event.concerns_of_run ?_ ?_)
        · rw [Event.isNodeless, hnode, Option.isNone_none]
        · rw [Step.key, hs.1]
          exact Event.full?_of_ne hrun
  | flowError runId nodeId error ts =>
    simp only [record]
    cases hnode : nodeId.bind full? with
    | some node =>
      simp only
      split
      · exact hsame
      · next hrun =>
        have hkey := h ⟨runId, node⟩
          (Event.concerns_of_node rfl (Event.full?_of_ne hrun) hnode)
        exact partOf_settle hkey (fun s => s.key_fail ts _) (Step.key_fail ..) steps
    | none =>
      simp only [Event.strays, Event.isNodeless, hnode, Option.isNone_none, Bool.true_and,
        Bool.or_eq_false_iff, beq_eq_false_iff_ne, Bool.not_eq_false'] at hstray
      have hpart : ∀ s : Step, (s.runId == runId) = true → part s.key = inside := fun s hs => by
        refine h s.key (Event.concerns_of_run ?_ ?_)
        · rw [Event.isNodeless, hnode, Option.isNone_none]
        · rw [Step.key, beq_iff_eq.1 hs]
          exact Event.full?_of_ne hstray.1
      simp only [blame]
      rw [if_pos hstray.2, partOf_updateLast hpart fun s => s.key_blame ts _]
      cases inside with
      | true => rw [partOf, any_filter_of_imp hpart, if_pos hstray.2]
      | false => rfl
  | flowStart | flowComplete | flowCancelled | subworkflowUpdate | traceUpdate | unknown =>
    exact hsame

/-- A failure that strays is noted on the last step of all. -/
theorem record_of_strays {runId run : String} {nodeId : Option String} {error : Option Json}
    {ts : Option Instant} {steps : List Step}
    (hrun : (Event.flowError runId nodeId error ts).runId? = some run)
    (h : (Event.flowError runId nodeId error ts).strays steps = true) :
    record catalog config place steps (.flowError runId nodeId error ts) =
      updateLast (fun _ => true) (fun s => s.blame (Event.errorText error) ts) steps := by
  have hne : runId ≠ "" := by
    rintro rfl
    cases hrun
  simp only [Event.strays, Event.isNodeless, Bool.and_eq_true, Option.isNone_iff_eq_none,
    Bool.or_eq_true, beq_iff_eq, hne, false_or, Bool.not_eq_true'] at h
  simp only [record, h.1, blame, h.2, Bool.false_eq_true, if_false]

end Record

end History

/-! ### Steps that differ in their numbers -/

/-- Two steps that are the same but for their places in the streams that they come from, which are
related. -/
structure Step.Alike (R : Nat → Nat → Prop) (s t : Step) : Prop where
  arrival_rel : R s.arrival t.arrival
  eq_renumbered : s = { t with arrival := s.arrival }

namespace Step.Alike

variable {R : Nat → Nat → Prop} {s t : Step}

theorem key_eq (h : s.Alike R t) : s.key = t.key := by rw [h.eq_renumbered]; rfl

theorem runId_eq (h : s.Alike R t) : s.runId = t.runId := by rw [h.eq_renumbered]

theorem status_eq (h : s.Alike R t) : s.status = t.status := by rw [h.eq_renumbered]

theorem outputSubRunId?_eq (h : s.Alike R t) : s.outputSubRunId? = t.outputSubRunId? := by
  rw [h.eq_renumbered]
  rfl

/-- A change that neither reads the place of a step nor writes it. -/
theorem of_change {f : Step → Step} (h : s.Alike R t)
    (hf : ∀ u i, f { u with arrival := i } = { f u with arrival := i })
    (harrival : ∀ u, (f u).arrival = u.arrival) : (f s).Alike R (f t) where
  arrival_rel := by rw [harrival, harrival]; exact h.arrival_rel
  eq_renumbered := by
    rw [harrival]
    conv_lhs => rw [h.eq_renumbered]
    exact hf t s.arrival

theorem pause (h : s.Alike R t) (waiting : WaitingInfo) :
    (s.pause waiting).Alike R (t.pause waiting) :=
  h.of_change (f := fun s => s.pause waiting) (fun _ _ => rfl) fun _ => rfl

theorem complete (h : s.Alike R t) (c : Completion) (kind : Option String) :
    (s.complete c kind).Alike R (t.complete c kind) :=
  h.of_change (f := fun s => s.complete c kind) (fun _ _ => rfl) fun _ => rfl

theorem merge (h : s.Alike R t) (c : Completion) : (s.merge c).Alike R (t.merge c) :=
  h.of_change (f := fun s => s.merge c) (fun _ _ => rfl) fun _ => rfl

theorem fail (h : s.Alike R t) (message : String) (ts : Option Instant) :
    (s.fail message ts).Alike R (t.fail message ts) :=
  h.of_change (f := fun s => s.fail message ts) (fun _ _ => rfl) fun _ => rfl

theorem blame (h : s.Alike R t) (message : String) (ts : Option Instant) :
    (s.blame message ts).Alike R (t.blame message ts) := by
  refine h.of_change (f := fun s => s.blame message ts) (fun u i => ?_) fun u => ?_
  · unfold Step.blame
    split <;> rfl
  · unfold Step.blame
    split <;> rfl

theorem running {i j : Nat} (h : R i j) (key : NodeKey) (kind : Option String)
    (ts : Option Instant) : (Step.running key i kind ts).Alike R (Step.running key j kind ts) :=
  ⟨h, rfl⟩

end Step.Alike

namespace History

section Alike

variable (catalog : Catalog) (config : LedgerConfig)
variable {R : Nat → Nat → Prop} {ss ts : List Step} {i j : Nat}

theorem isOpen_eq_of_alike (h : List.Forall₂ (Step.Alike R) ss ts) (key : NodeKey) :
    isOpen ss key = isOpen ts key := by
  have hrel : Option.Rel (Step.Alike R) (newest? ss key) (newest? ts key) :=
    rel_findRev? (fun s t hst => by rw [hst.key_eq]) h
  unfold isOpen
  generalize newest? ss key = x at hrel ⊢
  generalize newest? ts key = y at hrel ⊢
  cases hrel with
  | none => rfl
  | some hst => rw [Option.any_some, Option.any_some, hst.status_eq]

theorem forall₂_append_singleton {s t : Step} (h : List.Forall₂ (Step.Alike R) ss ts)
    (hst : s.Alike R t) : List.Forall₂ (Step.Alike R) (ss ++ [s]) (ts ++ [t]) :=
  List.rel_append h (.cons hst .nil)

theorem forall₂_settle (h : List.Forall₂ (Step.Alike R) ss ts) (key : NodeKey) {f : Step → Step}
    {s t : Step} (hf : ∀ u v : Step, u.Alike R v → (f u).Alike R (f v)) (hnew : s.Alike R t) :
    List.Forall₂ (Step.Alike R) (settle ss key f s) (settle ts key f t) := by
  unfold settle
  rw [isOpen_eq_of_alike h]
  split
  · exact forall₂_updateLast (fun u v huv => by rw [huv.key_eq]) hf h
  · exact forall₂_append_singleton h hnew

theorem repeats_eq_of_alike (key : NodeKey) (kind : Option String)
    (c : Completion) {s t : Step} (h : s.Alike R t) :
    repeats config key kind c s = repeats config key kind c t := by
  unfold repeats
  rw [h.key_eq, h.status_eq, h.outputSubRunId?_eq]

theorem forall₂_complete (h : List.Forall₂ (Step.Alike R) ss ts) (hij : R i j) (key : NodeKey)
    (nodeType : Option String) (c : Completion) :
    List.Forall₂ (Step.Alike R) (complete catalog config i ss key nodeType c)
      (complete catalog config j ts key nodeType c) := by
  have hrepeats := fun s t => repeats_eq_of_alike (R := R) (s := s) (t := t) config key
    (catalog.resolve key.nodeId nodeType) c
  unfold complete
  simp only [isOpen_eq_of_alike h, any_eq_of_forall₂ hrepeats h]
  split
  · exact forall₂_updateLast hrepeats (fun s t hst => hst.merge c) h
  · exact forall₂_settle h key (fun s t hst => hst.complete c _)
      ((Step.Alike.running hij ..).complete c _)

/-- An event changes lists of steps alike that differ in the numbers of the steps only. -/
theorem forall₂_record (h : List.Forall₂ (Step.Alike R) ss ts) (hij : R i j) (e : Event) :
    List.Forall₂ (Step.Alike R) (record catalog config i ss e) (record catalog config j ts e) := by
  cases e with
  | nodeStart runId nodeId nodeType ts =>
    simp only [record]
    split
    · exact h
    · exact forall₂_append_singleton h (.running hij ..)
  | nodeComplete runId nodeId nodeType result details ts =>
    simp only [record]
    split
    · exact h
    · exact forall₂_complete catalog config h hij ..
  | flowWaiting runId nodeId waiting ts =>
    simp only [record]
    split
    · exact h
    · cases nodeId.bind full? with
      | some node =>
        exact forall₂_settle h _ (fun s t hst => hst.pause waiting)
          ((Step.Alike.running hij ..).pause _)
      | none =>
        exact forall₂_updateLast (fun s t hst => by rw [hst.runId_eq, hst.status_eq])
          (fun s t hst => hst.pause waiting) h
  | flowError runId nodeId error ts =>
    simp only [record]
    cases nodeId.bind full? with
    | some node =>
      simp only
      split
      · exact h
      · exact forall₂_settle h _ (fun s t hst => hst.fail _ _)
          ((Step.Alike.running hij ..).fail _ _)
    | none =>
      have hrun : ∀ s t : Step, s.Alike R t → (s.runId == runId) = (t.runId == runId) :=
        fun s t hst => by rw [hst.runId_eq]
      simp only [blame, any_eq_of_forall₂ hrun h]
      split
      · exact forall₂_updateLast hrun (fun s t hst => hst.blame _ _) h
      · exact forall₂_updateLast (fun _ _ _ => rfl) (fun s t hst => hst.blame _ _) h
  | flowStart | flowComplete | flowCancelled | subworkflowUpdate | traceUpdate | unknown => exact h

theorem forall₂_run {es fs : List (Event × Nat)}
    (hes : List.Forall₂ (fun e f => e.1 = f.1 ∧ R e.2 f.2) es fs)
    (h : List.Forall₂ (Step.Alike R) ss ts) :
    List.Forall₂ (Step.Alike R) (run catalog config es ss) (run catalog config fs ts) := by
  induction hes generalizing ss ts with
  | nil => exact h
  | @cons e f es fs hef _ ih =>
    rw [run, run, List.foldl_cons, List.foldl_cons, hef.1]
    exact ih (forall₂_record catalog config h hef.2 f.1)

end Alike

end History

end RunWatch
