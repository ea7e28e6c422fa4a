import Mathlib.Data.List.Basic
import Mathlib.Logic.Function.Iterate
import RunWatch.Tree

/-!
# Display order

The display order of the rows of a list of trees in three forms, which always agree:

* `preorder` recurses through the rows;
* a `Walk` keeps the trees that wait on a stack, the next one last, and each step shows one row.
  What a walk shows in the end does not change from step to step (`Walk.listing_step`), and the
  trees that wait lose one row (`Walk.room_step`);
* addresses in lexicographic order (`addressesFrom`) lead to one row after the other. A row is at an
  address when the numbers in it lead there, the first one among the trees and each later one among
  the rows below (`rowAt?`).

Rows may look alike, but no two have the same address, so `flatten_lists_once` says that `flatten`
lists each row of the trees once.
-/

namespace RunWatch

/-! ### Recursion -/

mutual

theorem TreeNode.preorder_eq : ∀ t : TreeNode, t.preorder = t :: flatten t.children
  | .mk stepId depth children childRunId => by
    rw [TreeNode.preorder, TreeNode.children, flatten_eq_preorder children]

theorem flatten_eq_preorder : ∀ ts : List TreeNode, flatten ts = preorder ts
  | [] => by rw [flatten_nil, preorder]
  | t :: ts => by
    rw [flatten_cons, preorder, t.preorder_eq, flatten_eq_preorder ts, List.cons_append]

end

/-- Each tree in turn: its first row, and then all the rows below it. -/
theorem flatten_eq_flatMap (ts : List TreeNode) :
    flatten ts = ts.flatMap fun t => t :: flatten t.children := by
  induction ts with
  | nil => rw [flatten_nil, List.flatMap_nil]
  | cons t ts ih => rw [flatten_cons, List.flatMap_cons, ih, List.cons_append]

/-! ### A walk with a stack -/

/-- How far a walk through trees has come. -/
structure Walk where
  /-- The trees that wait, the next one last. -/
  waiting : List TreeNode
  shown : List TreeNode

namespace Walk

/-- The walk before its first step. -/
def start (ts : List TreeNode) : Walk := ⟨ts.reverse, []⟩

/-- Takes the last tree that waits, shows its first row, and puts the rows below in its place. -/
def step (w : Walk) : Walk :=
  match w.waiting.getLast? with
  | none => w
  | some t => ⟨w.waiting.dropLast ++ t.children.reverse, w.shown ++ [t]⟩

/-- What a walk has shown in the end. -/
def listing (w : Walk) : List TreeNode := w.shown ++ flatten w.waiting.reverse

/-- The number of rows that a walk has yet to show. -/
def room (w : Walk) : Nat := forestSize w.waiting.reverse

/-- A walk is at its end, or some tree is next. -/
theorem cases_waiting (w : Walk) : w.waiting = [] ∧ w.step = w ∨ ∃ ts t,
    w.waiting.reverse = t :: ts ∧ w.step = ⟨(t.children ++ ts).reverse, w.shown ++ [t]⟩ := by
  rcases List.eq_nil_or_concat w.waiting with hnil | ⟨before, t, hlast⟩
  · exact .inl ⟨hnil, by rw [step, hnil]; rfl⟩
  · refine .inr ⟨before.reverse, t, by rw [hlast, List.concat_eq_append, List.reverse_concat], ?_⟩
    simp [step, hlast]

theorem listing_step (w : Walk) : w.step.listing = w.listing := by
  rcases w.cases_waiting with ⟨-, hstep⟩ | ⟨ts, t, hwaiting, hstep⟩
  · rw [hstep]
  · rw [listing, listing, hstep, hwaiting, List.reverse_reverse, flatten, List.append_assoc,
      List.singleton_append]

theorem room_step (w : Walk) : w.step.room = w.room - 1 := by
  rcases w.cases_waiting with ⟨hnil, hstep⟩ | ⟨ts, t, hwaiting, hstep⟩
  · rw [hstep, room, hnil, List.reverse_nil, forestSize]
  · cases t
    simp only [room, hstep, hwaiting, List.reverse_reverse, forestSize_append, forestSize,
      TreeNode.size, TreeNode.children]
    omega

/-- No row is left exactly when no tree waits. -/
theorem room_eq_zero_iff (w : Walk) : w.room = 0 ↔ w.waiting = [] := by
  constructor
  · intro hroom
    rcases w.cases_waiting with ⟨hnil, -⟩ | ⟨ts, t, hwaiting, -⟩
    · exact hnil
    · cases t
      simp only [room, hwaiting, forestSize, TreeNode.size] at hroom
      omega
  · intro hnil
    rw [room, hnil, List.reverse_nil, forestSize]

section

variable (w : Walk) (n : Nat)

theorem listing_iterate : (step^[n] w).listing = w.listing := by
  induction n with
  | zero => rfl
  | succ n ih => rw [Function.iterate_succ_apply', listing_step, ih]

theorem room_iterate : (step^[n] w).room = w.room - n := by
  induction n with
  | zero => rfl
  | succ n ih =>
    rw [Function.iterate_succ_apply', room_step, ih]
    omega

end

theorem listing_start (ts : List TreeNode) : (start ts).listing = flatten ts := by
  rw [start, listing, List.reverse_reverse, List.nil_append]

theorem room_start (ts : List TreeNode) : (start ts).room = forestSize ts := by
  rw [start, room, List.reverse_reverse]

/-- A walk goes on until it has made as many steps as there are rows. -/
theorem waiting_iterate_eq_nil_iff (ts : List TreeNode) (n : Nat) :
    (step^[n] (start ts)).waiting = [] ↔ forestSize ts ≤ n := by
  rw [← room_eq_zero_iff, room_iterate, room_start, Nat.sub_eq_zero_iff_le]

/-- What a walk has shown when no tree waits any more. -/
theorem shown_of_waiting_eq_nil {ts : List TreeNode} {n : Nat}
    (h : (step^[n] (start ts)).waiting = []) : (step^[n] (start ts)).shown = flatten ts := by
  have hlisting : (step^[n] (start ts)).listing = flatten ts := by
    rw [listing_iterate, listing_start]
  rwa [listing, h, List.reverse_nil, flatten_nil, List.append_nil] at hlisting

end Walk

/-! ### Addresses -/

/-- The row at an address below a row, the empty one being that of the row itself. -/
def TreeNode.rowAt? : TreeNode → List Nat → Option TreeNode
  | t, [] => some t
  | t, i :: address => (t.children[i]?).bind fun u => u.rowAt? address

/-- The row at an address in a list of trees. -/
def rowAt? (ts : List TreeNode) : List Nat → Option TreeNode
  | [] => none
  | i :: address => (ts[i]?).bind fun t => t.rowAt? address

mutual

/-- The addresses of a row and the rows below it. -/
def TreeNode.addresses : TreeNode → List (List Nat)
  | .mk _ _ children _ => [] :: addressesFrom 0 children

/-- The addresses of the rows of a list of trees, the first of which has the number `n`. -/
def addressesFrom (n : Nat) : List TreeNode → List (List Nat)
  | [] => []
  | t :: ts => t.addresses.map (n :: ·) ++ addressesFrom (n + 1) ts

end

/-- An address in a list of trees starts with the number of a tree. -/
theorem exists_cons_of_mem_addressesFrom {ts : List TreeNode} {n : Nat} {address : List Nat}
    (h : address ∈ addressesFrom n ts) : ∃ m rest, n ≤ m ∧ address = m :: rest := by
  induction ts generalizing n with
  | nil => simp [addressesFrom] at h
  | cons t ts ih =>
    rw [addressesFrom] at h
    rcases List.mem_append.1 h with h | h
    · obtain ⟨rest, -, rfl⟩ := List.mem_map.1 h
      exact ⟨n, rest, Nat.le_refl n, rfl⟩
    · obtain ⟨m, rest, hm, rfl⟩ := ih h
      exact ⟨m, rest, Nat.le_of_succ_le hm, rfl⟩

mutual

theorem TreeNode.map_rowAt?_addresses :
    ∀ t : TreeNode, t.addresses.map t.rowAt? = t.preorder.map some
  | .mk stepId depth children childRunId => by
    have hbelow : (addressesFrom 0 children).map
        (TreeNode.mk stepId depth children childRunId).rowAt? =
        (addressesFrom 0 children).map (RunWatch.rowAt? children) := by
      refine List.map_congr_left fun address haddress => ?_
      obtain ⟨m, rest, -, rfl⟩ := exists_cons_of_mem_addressesFrom haddress
      rfl
    rw [TreeNode.addresses, TreeNode.preorder, List.map_cons, List.map_cons, hbelow]
    exact congrArg _ (map_rowAt?_addressesFrom children [])

/-- The addresses lead to the rows in display order. -/
theorem map_rowAt?_addressesFrom : ∀ ts before : List TreeNode,
    (addressesFrom before.length ts).map (rowAt? (before ++ ts)) = (preorder ts).map some
  | [], _ => by simp [addressesFrom, preorder]
  | t :: ts, before => by
    have hrest := map_rowAt?_addressesFrom ts (before ++ [t])
    rw [List.length_append, List.length_singleton, List.append_assoc,
      List.singleton_append] at hrest
    have hhere : rowAt? (before ++ t :: ts) ∘ (before.length :: ·) = t.rowAt? := by
      funext address
      simp [rowAt?]
    rw [addressesFrom, preorder, List.map_append, List.map_map, hhere, t.map_rowAt?_addresses,
      hrest, List.map_append]

end

theorem cons_mem_addressesFrom {ts : List TreeNode} {t : TreeNode} {i n : Nat} {address : List Nat}
    (ht : ts[i]? = some t) (h : address ∈ t.addresses) :
    (n + i) :: address ∈ addressesFrom n ts := by
  induction ts generalizing i n with
  | nil => simp at ht
  | cons u ts ih =>
    rw [addressesFrom]
    cases i with
    | zero =>
      obtain rfl : u = t := by simpa using ht
      exact List.mem_append_left _ (List.mem_map_of_mem h)
    | succ i =>
      rw [List.getElem?_cons_succ] at ht
      have hlater : (n + 1 + i) :: address ∈ addressesFrom (n + 1) ts := ih ht
      rw [show n + (i + 1) = n + 1 + i by omega]
      exact List.mem_append_right _ hlater

theorem TreeNode.mem_addresses {t : TreeNode} {address : List Nat}
    (h : (t.rowAt? address).isSome) : address ∈ t.addresses := by
  induction address generalizing t with
  | nil =>
    cases t
    exact List.mem_cons_self
  | cons i address ih =>
    obtain ⟨stepId, depth, children, childRunId⟩ := t
    rw [TreeNode.rowAt?, TreeNode.children, Option.isSome_bind] at h
    obtain ⟨u, hu, hrow⟩ := (Option.any_eq_true _ _).1 h
    have hchild : (0 + i) :: address ∈ addressesFrom 0 children :=
      cons_mem_addressesFrom hu (ih hrow)
    rw [Nat.zero_add] at hchild
    exact List.mem_cons_of_mem _ hchild

/-- The addresses are those where there is a row. -/
theorem mem_addressesFrom_zero_iff {ts : List TreeNode} {address : List Nat} :
    address ∈ addressesFrom 0 ts ↔ (rowAt? ts address).isSome := by
  constructor
  · intro h
    have hrow : rowAt? ts address ∈ (addressesFrom 0 ts).map (rowAt? ts) := List.mem_map_of_mem h
    rw [show (addressesFrom 0 ts).map (rowAt? ts) = (preorder ts).map some from
      map_rowAt?_addressesFrom ts []] at hrow
    obtain ⟨t, -, ht⟩ := List.mem_map.1 hrow
    rw [← ht, Option.isSome_some]
  · intro h
    cases address with
    | nil => simp [rowAt?] at h
    | cons i address =>
      rw [rowAt?, Option.isSome_bind] at h
      obtain ⟨t, ht, hrow⟩ := (Option.any_eq_true _ _).1 h
      rw [← Nat.zero_add i]
      exact cons_mem_addressesFrom ht (TreeNode.mem_addresses hrow)

mutual

theorem TreeNode.pairwise_addresses : ∀ t : TreeNode, t.addresses.Pairwise (· < ·)
  | .mk _ _ children _ => by
    rw [TreeNode.addresses, List.pairwise_cons]
    refine ⟨fun address haddress => ?_, pairwise_addressesFrom 0 children⟩
    obtain ⟨m, rest, -, rfl⟩ := exists_cons_of_mem_addressesFrom haddress
    exact List.nil_lt_cons m rest

/-- A row comes before the rows below it, and these before the next tree. -/
theorem pairwise_addressesFrom : ∀ (n : Nat) (ts : List TreeNode),
    (addressesFrom n ts).Pairwise (· < ·)
  | _, [] => List.Pairwise.nil
  | n, t :: ts => by
    rw [addressesFrom, List.pairwise_append, List.pairwise_map]
    refine ⟨t.pairwise_addresses.imp fun hlt => List.cons_lt_cons_iff.2 (.inr ⟨rfl, hlt⟩),
      pairwise_addressesFrom (n + 1) ts, fun address haddress later hlater => ?_⟩
    obtain ⟨rest, -, rfl⟩ := List.mem_map.1 haddress
    obtain ⟨m, rest', hm, rfl⟩ := exists_cons_of_mem_addressesFrom hlater
    exact List.cons_lt_cons_iff.2 (.inl hm)

end

/-! ### The listing -/

/-- The rows are listed tree after tree, each row before the rows below it: that is what the
recursion gives, and what the walk has shown when it stops, after one step for each row. There is an
address for every row, each later than the one before it, that the listing goes through. -/
theorem flatten_lists_once (ts : List TreeNode) :
    flatten ts = preorder ts ∧
      flatten ts = ts.flatMap (fun t => t :: flatten t.children) ∧
      (∀ n, (Walk.step^[n] (.start ts)).waiting = [] ↔ forestSize ts ≤ n) ∧
      (Walk.step^[forestSize ts] (.start ts)).shown = flatten ts ∧
      ∃ addresses : List (List Nat), addresses.map (rowAt? ts) = (flatten ts).map some ∧
        (∀ address, address ∈ addresses ↔ (rowAt? ts address).isSome) ∧
        addresses.Pairwise (· < ·) := by
  refine ⟨flatten_eq_preorder ts, flatten_eq_flatMap ts, Walk.waiting_iterate_eq_nil_iff ts,
    Walk.shown_of_waiting_eq_nil ((Walk.waiting_iterate_eq_nil_iff ts _).2 (Nat.le_refl _)),
    addressesFrom 0 ts, ?_, fun address => mem_addressesFrom_zero_iff, pairwise_addressesFrom 0 ts⟩
  rw [flatten_eq_preorder]
  exact map_rowAt?_addressesFrom ts []

example :
    let below : List TreeNode := [.mk "b" 1 [] none, .mk "c" 1 [] none]
    addressesFrom 0 [.mk "a" 0 below none, .mk "d" 0 [] none] =
      [[0], [0, 0], [0, 1], [1]] := by
  decide

end RunWatch
