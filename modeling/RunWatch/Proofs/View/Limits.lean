import RunWatch.Proofs.View.Coverage

/-!
# Trees with different limits

A run is nested below the first row above the limit that leads to it. A higher limit brings more
rows above it, so a run may be nested earlier in display order, and deeper, where less room is left
below it. A step that is shown with the lower limit may be hidden by the higher one for this reason,
and for no other.

* `TreeSource.ExpandsOnce.kept_or_displaced`: a row is kept with a higher limit, or a row above it
  has moved down to that limit, where nothing is nested.
* `TreeSource.ExpandsOnce.kept_of_unshared`: if no run is the child run of two steps, no row moves
  and every row is kept.
* `stepTree_keeps_or_displaces`: both of the trees of a run of a ledger.
-/

namespace RunWatch

/-- Whether a step has a row at a level of a tree. -/
def StandsAt (tree : List TreeNode) (level : Nat) (stepId : String) : Prop :=
  ∃ t ∈ flatten tree, t.stepId = stepId ∧ t.depth = level

namespace TreeSource

/-- Whether no run is the child run of two steps. -/
def Unshared (src : TreeSource) : Prop :=
  ∀ a b child, ∀ s ∈ src.stepsOf a, ∀ t ∈ src.stepsOf b,
    src.childRun? s = some child → src.childRun? t = some child → s = t

namespace ExpandsOnce

variable {src : TreeSource} {root : String}

section

variable {maxDepth : Nat} {tree : List TreeNode} {t : TreeNode} {s : Step} {run : String}
  (h : src.ExpandsOnce maxDepth root tree)

include h

/-- A row is one of the top, or it shows a step of the child run of the row that it stands below,
which is not the root run. -/
theorem top_or_below (ht : t ∈ flatten tree) :
    t ∈ tree ∨ ∃ u ∈ flatten tree, t ∈ u.children ∧ ∃ run ≠ root, u.childRunId = some run ∧
      ∃ s ∈ src.stepsOf run, src.Shows (u.depth + 1) s t := by
  rcases List.mem_append.1 ((perm_flatten tree).mem_iff.1 ht) with htop | hbelow
  · exact .inl htop
  · right
    obtain ⟨u, hu, htu⟩ := List.mem_flatMap.1 hbelow
    obtain ⟨-, run, hchild, hroot, hrows⟩ := h.below u hu (List.ne_nil_of_mem htu)
    exact ⟨u, hu, htu, run, hroot, hchild, exists_left_of_forall₂ hrows htu⟩

/-- The steps of the root run stand at the top. -/
theorem depth_eq_zero (hdistinct : src.Distinct) (ht : t ∈ flatten tree)
    (hs : s ∈ src.stepsOf root) (hid : t.stepId = s.id) : t.depth = 0 := by
  rcases h.top_or_below ht with htop | ⟨u, -, -, run, hroot, -, s', hs', hshows⟩
  · exact depth_of_shows h.top htop
  · have hids : s'.id = s.id := hshows.stepId_eq.symm.trans hid
    exact absurd (hdistinct.run_eq hs' hs hids) hroot

/-- The steps of the child run of a row above the limit are shown, below this row or elsewhere. -/
theorem exists_row_of_childRunId (ht : t ∈ flatten tree) (hdepth : t.depth < maxDepth)
    (hchild : t.childRunId = some run) (hs : s ∈ src.stepsOf run) :
    ∃ u ∈ flatten tree, u.stepId = s.id := by
  have hrun := h.mem_shownRuns_of_childRunId ht hdepth hchild (List.ne_nil_of_mem hs)
  obtain ⟨u, hu, hshows⟩ := h.exists_row hrun hs
  exact ⟨u, hu, hshows.stepId_eq⟩

end

/-! ### Two trees -/

variable {d d' : Nat} {lower higher : List TreeNode} {t u : TreeNode}
  (hlower : src.ExpandsOnce d root lower) (hhigher : src.ExpandsOnce d' root higher)
  (hdistinct : src.Distinct)

include hlower hhigher hdistinct

/-- The rows of one step lead to the same run. -/
theorem childRunId_eq (ht : t ∈ flatten lower) (hu : u ∈ flatten higher)
    (hid : u.stepId = t.stepId) : u.childRunId = t.childRunId := by
  obtain ⟨a, s, hs, hshows⟩ := hlower.exists_step ht
  obtain ⟨b, s', hs', hshows'⟩ := hhigher.exists_step hu
  have hids : s'.id = s.id := by rw [← hshows'.stepId_eq, hid, hshows.stepId_eq]
  rw [hshows.childRunId_eq, hshows'.childRunId_eq, hdistinct.eq_of_id_eq hs' hs hids]

/-- A row of the lower limit is kept, or some row above it stands at the higher limit. -/
theorem kept_or_displaced : ∀ t ∈ flatten lower, (∃ u ∈ flatten higher, u.stepId = t.stepId) ∨
    ∃ a ∈ flatten lower, t ∈ flatten a.children ∧ StandsAt higher d' a.stepId := by
  refine forall_mem_flatten (fun t ht => ?_) fun t ht hbefore u hu => ?_
  · obtain ⟨s, hs, hshows⟩ := exists_left_of_forall₂ hlower.top ht
    obtain ⟨v, hv, hshows'⟩ := hhigher.exists_row List.mem_cons_self hs
    exact .inl ⟨v, hv, hshows'.stepId_eq.trans hshows.stepId_eq.symm⟩
  · rcases hbefore with ⟨v, hv, hid⟩ | ⟨a, ha, hta, hmoved⟩
    · obtain ⟨-, run, hchild, -, hrows⟩ := hlower.below t ht (List.ne_nil_of_mem hu)
      obtain ⟨s, hs, hshows⟩ := exists_left_of_forall₂ hrows hu
      by_cases hdepth : v.depth < d'
      · left
        have hchild' : v.childRunId = some run :=
          (hlower.childRunId_eq hhigher hdistinct ht hv hid).trans hchild
        obtain ⟨w, hw, hwid⟩ := hhigher.exists_row_of_childRunId hv hdepth hchild' hs
        exact ⟨w, hw, hwid.trans hshows.stepId_eq.symm⟩
      · right
        have hlimit : v.depth = d' := by
          have := hhigher.depth_le v hv
          omega
        exact ⟨t, ht, mem_flatten_of_mem hu, v, hv, hid, hlimit⟩
    · exact .inr ⟨a, ha, mem_flatten_of_mem_children hta hu, hmoved⟩

/-- A row that has moved down to the higher limit does not stand at the top. -/
theorem depth_pos_of_standsAt (hlimit : 0 < d') (ht : t ∈ flatten lower)
    (hmoved : StandsAt higher d' t.stepId) : 0 < t.depth := by
  obtain ⟨u, hu, hid, hdepth⟩ := hmoved
  rcases hlower.top_or_below ht with htop | ⟨a, -, -, run, -, -, s, -, hshows⟩
  · obtain ⟨s, hs, hshows⟩ := exists_left_of_forall₂ hlower.top htop
    have hzero := hhigher.depth_eq_zero hdistinct hu hs (hid.trans hshows.stepId_eq)
    omega
  · rw [hshows.depth_eq]
    omega

/-- If no run is the child run of two steps, the rows of one step stand at the same level: by
induction on the levels, for they stand below rows of one step. -/
theorem depth_eq_of_unshared (hshared : src.Unshared) : ∀ t ∈ flatten lower,
    ∀ u ∈ flatten higher, u.stepId = t.stepId → u.depth = t.depth := by
  refine forall_mem_flatten (fun t ht u hu hid => ?_) fun t ht hbefore v hv u hu hid => ?_
  · obtain ⟨s, hs, hshows⟩ := exists_left_of_forall₂ hlower.top ht
    rw [hshows.depth_eq]
    exact hhigher.depth_eq_zero hdistinct hu hs (hid.trans hshows.stepId_eq)
  · obtain ⟨-, run, hchild, hroot, hrows⟩ := hlower.below t ht (List.ne_nil_of_mem hv)
    obtain ⟨s, hs, hshows⟩ := exists_left_of_forall₂ hrows hv
    rcases hhigher.top_or_below hu with htop | ⟨w, hw, -, run', -, hchild', s', hs', hshows'⟩
    · obtain ⟨s', hs', hshows'⟩ := exists_left_of_forall₂ hhigher.top htop
      have hids : s.id = s'.id := by rw [← hshows.stepId_eq, ← hid, hshows'.stepId_eq]
      exact absurd (hdistinct.run_eq hs hs' hids) hroot
    · have hids : s'.id = s.id := by rw [← hshows'.stepId_eq, hid, hshows.stepId_eq]
      obtain rfl : run' = run := hdistinct.run_eq hs' hs hids
      -- The rows above lead to one run, so they show the one step that does.
      have habove : w.stepId = t.stepId := by
        obtain ⟨a, x, hx, hxt⟩ := hlower.exists_step ht
        obtain ⟨b, y, hy, hyw⟩ := hhigher.exists_step hw
        have hyx : y = x := hshared b a run' y hy x hx (hyw.childRunId_eq.symm.trans hchild')
          (hxt.childRunId_eq.symm.trans hchild)
        rw [hyw.stepId_eq, hyx, hxt.stepId_eq]
      have hdepth := hbefore w hw habove
      rw [hshows'.depth_eq, hshows.depth_eq, hdepth]

theorem kept_of_unshared (hshared : src.Unshared) (hle : d ≤ d') (ht : t ∈ flatten lower) :
    StandsAt higher t.depth t.stepId := by
  have hlevel := hlower.depth_eq_of_unshared hhigher hdistinct hshared
  rcases hlower.kept_or_displaced hhigher hdistinct t ht with ⟨u, hu, hid⟩ | ⟨a, ha, hta, hmoved⟩
  · exact ⟨u, hu, hid, hlevel t ht u hu hid⟩
  · obtain ⟨v, hv, hid, hdepth⟩ := hmoved
    have hsame := hlevel a ha v hv hid
    have habove := (hlower.below a ha (ne_nil_of_mem_flatten hta)).1
    omega

end ExpandsOnce

end TreeSource

/-! ### Ledgers -/

section

variable (ledger : Ledger) (links : Links) (config : LedgerConfig)

/-- Whether no run is the child run of two steps of a ledger. -/
def ChildRunsUnshared : Prop :=
  ∀ s ∈ ledger.steps, ∀ t ∈ ledger.steps,
    (links.childRunOf? config.isAgentKind s).isSome = true →
      links.childRunOf? config.isAgentKind s = links.childRunOf? config.isAgentKind t → s = t

instance : Decidable (ChildRunsUnshared ledger links config) :=
  inferInstanceAs (Decidable (∀ s ∈ ledger.steps, ∀ t ∈ ledger.steps, _ → _ → s = t))

variable {ledger links config}

theorem Ledger.Indexed.unshared (hl : ledger.Indexed)
    (h : ChildRunsUnshared ledger links config) :
    TreeSource.Unshared ⟨links.childRunOf? config.isAgentKind, ledger.stepsOfRun⟩ := by
  intro a b child s hs t ht hchild hchild'
  apply h s (hl.mem_stepsOfRun.1 hs).1 t (hl.mem_stepsOfRun.1 ht).1
  · exact Option.isSome_iff_exists.2 ⟨child, hchild⟩
  · exact hchild.trans hchild'.symm

end

/-- A step that a tree shows is shown with a higher limit as well, unless a row above it moves down
to the higher limit; this row stands at neither the top nor the lower limit. If no run is the child
run of two steps, every step keeps its row and its level. -/
theorem stepTree_keeps_or_displaces (catalog : Catalog) (config : LedgerConfig)
    (events : List Event) (links : Links) (treeConfig : LedgerConfig) (root : String) (d d' : Nat)
    (hle : d ≤ d') :
    let ledger := Ledger.ofEvents catalog config events
    let lower := stepTree root ledger links (treeConfig.withMaxDepth d)
    let higher := stepTree root ledger links (treeConfig.withMaxDepth d')
    (∀ t ∈ flatten lower, t.stepId ∈ (flatten higher).map TreeNode.stepId ∨
      ∃ a ∈ flatten lower, t ∈ flatten a.children ∧ 0 < a.depth ∧ a.depth < d ∧
        StandsAt higher d' a.stepId) ∧
    (ChildRunsUnshared ledger links treeConfig →
      ∀ t ∈ flatten lower, StandsAt higher t.depth t.stepId) := by
  intro ledger lower higher
  have hl : ledger.Indexed := Ledger.indexed_ofEvents catalog config events
  have hdistinct := hl.distinct (Ledger.nodup_ids catalog config events)
    (links.childRunOf? treeConfig.isAgentKind)
  have hlower : TreeSource.ExpandsOnce _ d root lower :=
    TreeSource.expandsOnce_tree hdistinct d root
  have hhigher : TreeSource.ExpandsOnce _ d' root higher :=
    TreeSource.expandsOnce_tree hdistinct d' root
  constructor
  · intro t ht
    rcases hlower.kept_or_displaced hhigher hdistinct t ht with ⟨u, hu, hid⟩ | ⟨a, ha, hta, hmoved⟩
    · exact .inl (List.mem_map.2 ⟨u, hu, hid⟩)
    · have habove : a.depth < d := (hlower.below a ha (ne_nil_of_mem_flatten hta)).1
      have htop := hlower.depth_pos_of_standsAt hhigher hdistinct (by omega) ha hmoved
      exact .inr ⟨a, ha, hta, htop, habove, hmoved⟩
  · intro hshared t ht
    exact hlower.kept_of_unshared hhigher hdistinct (hl.unshared hshared) hle ht

/-- Two ways lead to `c`: in one step from the root run, and by `x` and `y`, which come first. With
a limit of 3 the longer way is open, `c` is nested at its end, and there is no room for `z`. Without
the shorter way all steps stay where they are. -/
theorem stepTree_keeps_or_displaces_of_two_ways :
    let oneWay : List Event := [.nodeStart "r" "a" none none, .nodeStart "r" "b" none none,
      .nodeStart "x" "p" none none, .nodeStart "y" "q" none none, .nodeStart "c" "m" none none,
      .nodeStart "z" "n" none none, .subworkflowUpdate "r" "a" "x", .subworkflowUpdate "x" "p" "y",
      .subworkflowUpdate "y" "q" "c", .subworkflowUpdate "c" "m" "z"]
    let twoWays := oneWay ++ [.subworkflowUpdate "r" "b" "c"]
    let tree := fun events d => stepTree "r" (Ledger.ofEvents .empty .standard events)
      (Links.ofEvents events) (LedgerConfig.standard.withMaxDepth d)
    2 ≤ 3 ∧
      (∀ t ∈ flatten (tree twoWays 2),
        t.stepId ∈ (flatten (tree twoWays 3)).map TreeNode.stepId ∨
        ∃ a ∈ flatten (tree twoWays 2), t ∈ flatten a.children ∧ 0 < a.depth ∧ a.depth < 2 ∧
          StandsAt (tree twoWays 3) 3 a.stepId) ∧
      ChildRunsUnshared (Ledger.ofEvents .empty .standard oneWay) (Links.ofEvents oneWay)
        .standard ∧
      ∀ t ∈ flatten (tree oneWay 2), StandsAt (tree oneWay 3) t.depth t.stepId := by
  intro oneWay twoWays tree
  have hle : 2 ≤ 3 := by omega
  have hunshared : ChildRunsUnshared (Ledger.ofEvents .empty .standard oneWay)
      (Links.ofEvents oneWay) .standard := by decide +kernel
  obtain ⟨hkept, -⟩ := stepTree_keeps_or_displaces .empty .standard twoWays
    (Links.ofEvents twoWays) .standard "r" 2 3 hle
  obtain ⟨-, hstays⟩ := stepTree_keeps_or_displaces .empty .standard oneWay
    (Links.ofEvents oneWay) .standard "r" 2 3 hle
  exact ⟨hle, hkept, hunshared, hstays hunshared⟩

/-- A higher limit may hide a step: the same two ways to `c`, with `z` shown below it or not. -/
theorem stepTree_hides_with_higher_limit :
    let events : List Event := [.nodeStart "r" "a" none none, .nodeStart "r" "b" none none,
      .nodeStart "x" "p" none none, .nodeStart "y" "q" none none, .nodeStart "c" "m" none none,
      .nodeStart "z" "n" none none, .subworkflowUpdate "r" "a" "x",
      .subworkflowUpdate "x" "p" "y", .subworkflowUpdate "y" "q" "c",
      .subworkflowUpdate "r" "b" "c", .subworkflowUpdate "c" "m" "z"]
    let ids := fun d => (flatten (stepTree "r" (Ledger.ofEvents .empty .standard events)
      (Links.ofEvents events) (LedgerConfig.standard.withMaxDepth d))).map TreeNode.stepId
    ids 2 = ["r:a:0", "x:p:2", "y:q:3", "r:b:1", "c:m:4", "z:n:5"] ∧
      ids 3 = ["r:a:0", "x:p:2", "y:q:3", "c:m:4", "r:b:1"] ∧ ¬ ids 2 ⊆ ids 3 := by
  decide +kernel

end RunWatch
