/-!
# Association tables

A `Table κ α` maps keys to values and keeps its keys in the order in which they first came. A key
stands in a table at most once, which the type itself says (`nodup`).

Every operation is described by what it does to a look-up: `get?_insert`, `get?_erase`,
`get?_mapValues` and `get?_empty`; `mem_keys_iff` ties the list of keys to look-ups.
-/

namespace RunWatch

universe u v w

/-- A finite map with its keys in order of first insertion. -/
structure Table (κ : Type u) (α : Type v) where
  entries : List (κ × α)
  nodup : (entries.map Prod.fst).Nodup
  deriving DecidableEq

namespace Table

variable {κ : Type u} {α : Type v}

/-- The table without keys. -/
def empty : Table κ α := ⟨[], List.nodup_nil⟩

instance : Inhabited (Table κ α) := ⟨empty⟩

/-- The keys, in order of first insertion. -/
def keys (t : Table κ α) : List κ := t.entries.map Prod.fst

/-- The number of keys. -/
def size (t : Table κ α) : Nat := t.entries.length

/-- Whether there is no key. -/
def isEmpty (t : Table κ α) : Bool := t.entries.isEmpty

/-- The table with a function applied to every value. -/
def mapValues {β : Type w} (t : Table κ α) (f : α → β) : Table κ β where
  entries := t.entries.map fun e => (e.1, f e.2)
  nodup := by simpa [List.map_map, Function.comp_def] using t.nodup

theorem nodup_keys (t : Table κ α) : t.keys.Nodup := t.nodup

section

variable [DecidableEq κ]

/-- The value of a key in a list of pairs: that of the first pair with the key. -/
def lookup (k : κ) : List (κ × α) → Option α
  | [] => none
  | (k', a) :: rest => if k' = k then some a else lookup k rest

/-- The value of a key. -/
def get? (t : Table κ α) (k : κ) : Option α := lookup k t.entries

/-- Whether the key has a value. -/
def contains (t : Table κ α) (k : κ) : Bool := (t.get? k).isSome

/-- Replaces the value of the pair with the key, or appends a pair. -/
def put (k : κ) (a : α) : List (κ × α) → List (κ × α)
  | [] => [(k, a)]
  | (k', a') :: rest => if k' = k then (k', a) :: rest else (k', a') :: put k a rest

theorem map_fst_put (k : κ) (a : α) (es : List (κ × α)) :
    (put k a es).map Prod.fst =
      if k ∈ es.map Prod.fst then es.map Prod.fst else es.map Prod.fst ++ [k] := by
  induction es with
  | nil => simp [put]
  | cons e rest ih =>
    obtain ⟨k', a'⟩ := e
    by_cases h : k' = k
    · simp [put, h]
    · have h' : ¬ k = k' := fun e => h e.symm
      simp only [put, h, if_false, List.map_cons, ih, List.mem_cons, h', false_or]
      split <;> simp

theorem lookup_put (k k' : κ) (a : α) (es : List (κ × α)) :
    lookup k' (put k a es) = if k = k' then some a else lookup k' es := by
  induction es with
  | nil => simp [put, lookup]
  | cons e rest ih =>
    obtain ⟨j, b⟩ := e
    by_cases h : j = k
    · subst h
      by_cases h' : j = k' <;> simp [put, lookup, h']
    · by_cases h' : j = k'
      · subst h'
        have hne : ¬ k = j := fun e => h e.symm
        simp [put, lookup, h, hne]
      · simp [put, lookup, h, h', ih]

/-- Gives a key a value: in the place of the key when it is known, at the end when it is new. -/
def insert (t : Table κ α) (k : κ) (a : α) : Table κ α where
  entries := put k a t.entries
  nodup := by
    rw [map_fst_put]
    split
    · exact t.nodup
    · next h => exact List.nodup_append.2 ⟨t.nodup, by simp, by
        intro x hx y hy hxy
        simp only [List.mem_singleton] at hy
        exact h (hy ▸ hxy ▸ hx)⟩

/-- Gives a key a value unless it has one. -/
def insertIfNew (t : Table κ α) (k : κ) (a : α) : Table κ α :=
  if t.contains k then t else t.insert k a

/-- The pairs that pass a test. -/
def filter (t : Table κ α) (p : κ → α → Bool) : Table κ α where
  entries := t.entries.filter fun e => p e.1 e.2
  nodup := t.nodup.sublist ((List.filter_sublist).map Prod.fst)

/-- Takes a key out. -/
def erase (t : Table κ α) (k : κ) : Table κ α := t.filter fun k' _ => decide (k' ≠ k)

/-- The pairs of a list put in one after another, so the last value of a key stands. -/
def ofList (es : List (κ × α)) : Table κ α := es.foldl (fun t e => t.insert e.1 e.2) empty

/-! ### What a look-up finds -/

@[simp] theorem get?_empty (k : κ) : (empty : Table κ α).get? k = none := rfl

theorem get?_insert (t : Table κ α) (k k' : κ) (a : α) :
    (t.insert k a).get? k' = if k = k' then some a else t.get? k' :=
  lookup_put k k' a t.entries

@[simp] theorem get?_insert_self (t : Table κ α) (k : κ) (a : α) :
    (t.insert k a).get? k = some a := by simp [get?_insert]

theorem put_of_lookup_eq_some {k : κ} {a : α} {es : List (κ × α)} (h : lookup k es = some a) :
    put k a es = es := by
  induction es with
  | nil => cases h
  | cons e rest ih =>
    obtain ⟨k', a'⟩ := e
    by_cases hk : k' = k
    · simp only [lookup, hk, if_true, Option.some.injEq] at h
      simp [put, hk, h]
    · simp only [lookup, hk, if_false] at h
      simp [put, hk, ih h]

/-- A value that a key has already may as well not be given to it. -/
theorem insert_of_get?_eq_some {t : Table κ α} {k : κ} {a : α} (h : t.get? k = some a) :
    t.insert k a = t := by
  obtain ⟨es, hnodup⟩ := t
  simp only [insert, mk.injEq]
  exact put_of_lookup_eq_some h

theorem contains_insert (t : Table κ α) (k k' : κ) (a : α) :
    (t.insert k a).contains k' = (decide (k = k') || t.contains k') := by
  unfold contains
  rw [get?_insert]
  by_cases h : k = k' <;> simp [h]

theorem contains_insertIfNew (t : Table κ α) (k k' : κ) (a : α) :
    (t.insertIfNew k a).contains k' = (decide (k = k') || t.contains k') := by
  unfold insertIfNew
  split
  · next hk =>
    by_cases h : k = k'
    · subst h
      simp [hk]
    · simp [h]
  · exact contains_insert t k k' a

/-- The value that a key has already stays. -/
theorem get?_insertIfNew (t : Table κ α) (k k' : κ) (a : α) :
    (t.insertIfNew k a).get? k' = (t.get? k').or (if k = k' then some a else none) := by
  unfold insertIfNew
  by_cases h : k = k'
  · subst h
    rw [if_pos rfl]
    cases hold : t.get? k with
    | none => simp [contains, hold]
    | some old => simp [contains, hold]
  · rw [if_neg h, Option.or_none]
    split
    · rfl
    · rw [get?_insert, if_neg h]

theorem lookup_filter_of_not_mem {k : κ} {es : List (κ × α)} (p : κ → α → Bool)
    (h : k ∉ es.map Prod.fst) : lookup k (es.filter fun e => p e.1 e.2) = none := by
  induction es with
  | nil => rfl
  | cons e rest ih =>
    obtain ⟨j, b⟩ := e
    simp only [List.map_cons, List.mem_cons, not_or] at h
    have hj : ¬ j = k := fun e => h.1 e.symm
    by_cases hp : p j b = true
    · simp [List.filter, hp, lookup, hj, ih h.2]
    · simp [List.filter, hp, ih h.2]

theorem lookup_filter {es : List (κ × α)} (hn : (es.map Prod.fst).Nodup) (p : κ → α → Bool)
    (k : κ) :
    lookup k (es.filter fun e => p e.1 e.2) = (lookup k es).filter fun a => p k a := by
  induction es with
  | nil => rfl
  | cons e rest ih =>
    obtain ⟨j, b⟩ := e
    simp only [List.map_cons, List.nodup_cons] at hn
    by_cases hj : j = k
    · subst hj
      by_cases hp : p j b = true
      · simp [List.filter, hp, lookup, Option.filter]
      · simp [List.filter, hp, lookup, Option.filter, lookup_filter_of_not_mem p hn.1]
    · by_cases hp : p j b = true
      · simp [List.filter, hp, lookup, hj, ih hn.2]
      · simp [List.filter, hp, lookup, hj, ih hn.2]

theorem get?_filter (t : Table κ α) (p : κ → α → Bool) (k : κ) :
    (t.filter p).get? k = (t.get? k).filter fun a => p k a :=
  lookup_filter t.nodup p k

theorem get?_erase (t : Table κ α) (k k' : κ) :
    (t.erase k).get? k' = if k = k' then none else t.get? k' := by
  rw [erase, get?_filter]
  by_cases h : k = k'
  · subst h
    cases t.get? k <;> simp [Option.filter]
  · have h' : ¬ k' = k := fun e => h e.symm
    cases t.get? k' <;> simp [Option.filter, h, h']

theorem lookup_map {β : Type w} (f : α → β) (k : κ) (es : List (κ × α)) :
    lookup k (es.map fun e => (e.1, f e.2)) = (lookup k es).map f := by
  induction es with
  | nil => rfl
  | cons e rest ih =>
    obtain ⟨j, b⟩ := e
    by_cases h : j = k <;> simp [lookup, h, ih]

theorem get?_mapValues {β : Type w} (t : Table κ α) (f : α → β) (k : κ) :
    (t.mapValues f).get? k = (t.get? k).map f :=
  lookup_map f k t.entries

theorem mem_keys_iff (t : Table κ α) (k : κ) : k ∈ t.keys ↔ (t.get? k).isSome = true := by
  unfold keys get?
  induction t.entries with
  | nil => simp [lookup]
  | cons e rest ih =>
    obtain ⟨j, b⟩ := e
    by_cases h : j = k
    · simp [lookup, h]
    · have h' : ¬ k = j := fun e => h e.symm
      simp only [List.map_cons, List.mem_cons, h', false_or, lookup, h, if_false, ih]

theorem keys_insert (t : Table κ α) (k : κ) (a : α) :
    (t.insert k a).keys = if k ∈ t.keys then t.keys else t.keys ++ [k] :=
  map_fst_put k a t.entries

end

end Table

end RunWatch
