import Mathlib.Data.List.Forall2
import Mathlib.Data.List.Induction

/-!
# The last member that passes a test

A ledger grows at the end and is searched from the end. `placesWhere` lists the places of the
members of a list that pass a test, `lastWhere?` is the last one of them, and `updateLast` changes
the member that stands there. All three are described by what they do when a member is added at the
end, and the laws follow by induction from that end.
-/

namespace RunWatch

variable {α β : Type*}

/-! ### Places -/

/-- The places of the members that pass a test, in ascending order. -/
def placesWhere (p : α → Bool) (as : List α) : List Nat :=
  (List.range as.length).filter fun i => (as[i]?).any p

@[simp] theorem placesWhere_nil (p : α → Bool) : placesWhere p [] = [] := rfl

theorem placesWhere_append_singleton (p : α → Bool) (as : List α) (a : α) :
    placesWhere p (as ++ [a]) = placesWhere p as ++ if p a then [as.length] else [] := by
  have hold : (List.range as.length).filter (fun i => ((as ++ [a])[i]?).any p) =
      placesWhere p as := by
    refine List.filter_congr fun i hi => ?_
    rw [List.getElem?_append_left (List.mem_range.1 hi)]
  rw [placesWhere, List.length_append, List.length_singleton, List.range_succ, List.filter_append,
    hold]
  by_cases h : p a <;> simp [h]

theorem mem_placesWhere {p : α → Bool} {as : List α} {i : Nat} :
    i ∈ placesWhere p as ↔ ∃ a, as[i]? = some a ∧ p a = true := by
  simp only [placesWhere, List.mem_filter, List.mem_range, Option.any_eq_true]
  refine ⟨fun h => h.2, fun ⟨a, ha, hp⟩ => ⟨?_, a, ha, hp⟩⟩
  exact (List.getElem?_eq_some_iff.1 ha).1

/-- A change of one member that the test does not notice moves no place. -/
theorem placesWhere_modify {p : α → Bool} {as : List α} {i : Nat} {f : α → α}
    (h : ∀ a, as[i]? = some a → p (f a) = p a) :
    placesWhere p (as.modify i f) = placesWhere p as := by
  unfold placesWhere
  rw [List.length_modify]
  refine List.filter_congr fun j _ => ?_
  rw [List.getElem?_modify]
  by_cases hij : i = j
  · subst hij
    cases ha : as[i]? with
    | none => simp
    | some a => simpa using h a ha
  · simp [hij]

/-- The places of the members that pass two tests, found among those that pass the first one. -/
theorem filter_placesWhere (p q : α → Bool) (as : List α) :
    (placesWhere p as).filter (fun i => (as[i]?).any q) = placesWhere (fun a => p a && q a) as := by
  unfold placesWhere
  rw [List.filter_filter]
  refine List.filter_congr fun i _ => ?_
  cases as[i]? <;> simp [Bool.and_comm]

/-- The members at the places where a test passes are those that pass it. -/
theorem filterMap_placesWhere (p : α → Bool) (as : List α) :
    (placesWhere p as).filterMap (fun i => as[i]?) = as.filter p := by
  induction as using List.reverseRecOn with
  | nil => rfl
  | append_singleton as a ih =>
    have hold : (placesWhere p as).filterMap (fun i => (as ++ [a])[i]?) =
        (placesWhere p as).filterMap fun i => as[i]? := by
      refine List.filterMap_congr fun i hi => ?_
      obtain ⟨b, hb, -⟩ := mem_placesWhere.1 hi
      rw [List.getElem?_append_left (List.getElem?_eq_some_iff.1 hb).1]
    rw [placesWhere_append_singleton, List.filterMap_append, hold, ih, List.filter_append]
    by_cases h : p a <;> simp [h]

theorem length_placesWhere (p : α → Bool) (as : List α) :
    (placesWhere p as).length = (as.filter p).length := by
  induction as using List.reverseRecOn with
  | nil => rfl
  | append_singleton as a ih =>
    rw [placesWhere_append_singleton, List.length_append, ih, List.filter_append,
      List.length_append]
    by_cases h : p a <;> simp [h]

/-! ### The last place -/

theorem filter_congr_of_eq_some {o : Option α} {p q : α → Bool}
    (h : ∀ a, o = some a → p a = q a) : o.filter p = o.filter q := by
  cases o with
  | none => rfl
  | some a => rw [Option.filter_some, Option.filter_some, h a rfl]

/-- The place of the last member that passes a test. -/
def lastWhere? (p : α → Bool) (as : List α) : Option Nat := (placesWhere p as).getLast?

@[simp] theorem lastWhere?_nil (p : α → Bool) : lastWhere? p [] = none := rfl

theorem lastWhere?_append_singleton (p : α → Bool) (as : List α) (a : α) :
    lastWhere? p (as ++ [a]) = if p a then some as.length else lastWhere? p as := by
  unfold lastWhere?
  rw [placesWhere_append_singleton]
  by_cases h : p a <;> simp [h]

theorem lastWhere?_modify {p : α → Bool} {as : List α} {i : Nat} {f : α → α}
    (h : ∀ a, as[i]? = some a → p (f a) = p a) :
    lastWhere? p (as.modify i f) = lastWhere? p as := by
  rw [lastWhere?, placesWhere_modify h, lastWhere?]

theorem exists_of_lastWhere?_eq_some {p : α → Bool} {as : List α} {i : Nat}
    (h : lastWhere? p as = some i) : ∃ a, as[i]? = some a ∧ p a = true :=
  mem_placesWhere.1 (List.mem_of_getLast? h)

theorem lt_length_of_lastWhere?_eq_some {p : α → Bool} {as : List α} {i : Nat}
    (h : lastWhere? p as = some i) : i < as.length := by
  obtain ⟨a, ha, -⟩ := exists_of_lastWhere?_eq_some h
  exact (List.getElem?_eq_some_iff.1 ha).1

theorem any_of_lastWhere?_eq_some {p : α → Bool} {as : List α} {i : Nat}
    (h : lastWhere? p as = some i) : as.any p = true := by
  obtain ⟨a, ha, hp⟩ := exists_of_lastWhere?_eq_some h
  exact List.any_eq_true.2 ⟨a, List.mem_of_getElem? ha, hp⟩

theorem lastWhere?_eq_none_iff {p : α → Bool} {as : List α} :
    lastWhere? p as = none ↔ as.any p = false := by
  induction as using List.reverseRecOn with
  | nil => simp
  | append_singleton as a ih =>
    rw [lastWhere?_append_singleton, List.any_append]
    by_cases h : p a <;> simp [h, ih]

/-- The last place is one where the test passes, and no later one is. -/
theorem lastWhere?_eq_some_iff {p : α → Bool} {as : List α} {i : Nat} :
    lastWhere? p as = some i ↔ (∃ a, as[i]? = some a ∧ p a = true) ∧
      ∀ j a, i < j → as[j]? = some a → p a = false := by
  induction as using List.reverseRecOn with
  | nil => simp
  | append_singleton as a ih =>
    rw [lastWhere?_append_singleton]
    by_cases h : p a
    · rw [if_pos h, Option.some.injEq]
      constructor
      · rintro rfl
        refine ⟨⟨a, by simp, h⟩, fun j b hj hb => ?_⟩
        have := (List.getElem?_eq_some_iff.1 hb).1
        rw [List.length_append, List.length_singleton] at this
        omega
      · rintro ⟨⟨b, hb, -⟩, hlater⟩
        have hi := (List.getElem?_eq_some_iff.1 hb).1
        rw [List.length_append, List.length_singleton] at hi
        by_contra hne
        exact absurd (hlater as.length a (by omega) (by simp)) (by simp [h])
    · rw [if_neg h, ih]
      constructor
      · rintro ⟨⟨b, hb, hp⟩, hlater⟩
        refine ⟨⟨b, ?_, hp⟩, fun j c hj hc => ?_⟩
        · rwa [List.getElem?_append_left (List.getElem?_eq_some_iff.1 hb).1]
        · rcases Nat.lt_or_ge j as.length with hlt | hge
          · exact hlater j c hj (by rwa [List.getElem?_append_left hlt] at hc)
          · rw [List.getElem?_append_right hge, List.getElem?_singleton] at hc
            split at hc
            · cases hc
              simpa using h
            · cases hc
      · rintro ⟨⟨b, hb, hp⟩, hlater⟩
        rcases Nat.lt_or_ge i as.length with hlt | hge
        · refine ⟨⟨b, by rwa [List.getElem?_append_left hlt] at hb, hp⟩, fun j c hj hc => ?_⟩
          refine hlater j c hj ?_
          rwa [List.getElem?_append_left (List.getElem?_eq_some_iff.1 hc).1]
        · rw [List.getElem?_append_right hge, List.getElem?_singleton] at hb
          split at hb
          · cases hb
            exact absurd hp h
          · cases hb

/-! ### The last member -/

theorem findRev?_append_singleton (p : α → Bool) (as : List α) (a : α) :
    (as ++ [a]).findRev? p = if p a then some a else as.findRev? p := by
  by_cases h : p a <;> simp [h]

theorem findRev?_append_toList (p : α → Bool) (as : List α) (o : Option α) :
    (as ++ o.toList).findRev? p = (o.filter p).or (as.findRev? p) := by
  cases o with
  | none => simp
  | some a =>
    rw [Option.toList_some, findRev?_append_singleton]
    by_cases h : p a <;> simp [h, Option.filter]

/-- The last member that passes a test stands at the last place. -/
theorem findRev?_eq_bind (p : α → Bool) (as : List α) :
    as.findRev? p = (lastWhere? p as).bind fun i => as[i]? := by
  induction as using List.reverseRecOn with
  | nil => rfl
  | append_singleton as a ih =>
    rw [findRev?_append_singleton, lastWhere?_append_singleton]
    by_cases h : p a
    · simp [h]
    · rw [if_neg h, if_neg h, ih]
      cases hi : lastWhere? p as with
      | none => rfl
      | some i =>
        obtain ⟨b, hb, -⟩ := exists_of_lastWhere?_eq_some hi
        simp only [Option.bind_some]
        rw [List.getElem?_append_left (List.getElem?_eq_some_iff.1 hb).1]

/-- A search for members that all pass a second test may look at those only. -/
theorem findRev?_filter {p q : α → Bool} (h : ∀ a, p a = true → q a = true) (as : List α) :
    (as.filter q).findRev? p = as.findRev? p := by
  induction as using List.reverseRecOn with
  | nil => rfl
  | append_singleton as a ih =>
    rw [List.filter_append, findRev?_append_singleton]
    by_cases hq : q a
    · rw [List.filter_cons_of_pos hq, List.filter_nil, findRev?_append_singleton, ih]
    · have hp : ¬ p a = true := fun hp => hq (h a hp)
      rw [List.filter_cons_of_neg hq, List.filter_nil, List.append_nil, ih, if_neg hp]

theorem any_filter_of_imp {p q : α → Bool} (h : ∀ a, p a = true → q a = true) (as : List α) :
    (as.filter q).any p = as.any p := by
  rw [List.any_filter]
  congr 1
  funext a
  cases hp : p a
  · simp
  · simp [h a hp]

/-! ### Changing the last member -/

/-- Changes the last member that passes a test. -/
def updateLast (p : α → Bool) (f : α → α) : List α → List α
  | [] => []
  | a :: as => if as.any p then a :: updateLast p f as else if p a then f a :: as else a :: as

@[simp] theorem updateLast_nil (p : α → Bool) (f : α → α) : updateLast p f [] = [] := rfl

theorem updateLast_append_singleton (p : α → Bool) (f : α → α) (as : List α) (a : α) :
    updateLast p f (as ++ [a]) = if p a then as ++ [f a] else updateLast p f as ++ [a] := by
  induction as with
  | nil => by_cases h : p a <;> simp [updateLast, h]
  | cons b as ih =>
    simp only [List.cons_append, updateLast, ih, List.any_append, List.any_cons, List.any_nil,
      Bool.or_false]
    by_cases h : p a
    · simp [h]
    · by_cases has : as.any p
      · simp [h, has]
      · by_cases hb : p b <;> simp [h, has, hb]

theorem updateLast_eq_self {p : α → Bool} {as : List α} (f : α → α) (h : as.any p = false) :
    updateLast p f as = as := by
  induction as using List.reverseRecOn with
  | nil => rfl
  | append_singleton as a ih =>
    rw [List.any_append, Bool.or_eq_false_iff] at h
    have ha : p a = false := by simpa using h.2
    rw [updateLast_append_singleton, ha, ih h.1, if_neg Bool.false_ne_true]

/-- The last member is changed at the last place. -/
theorem updateLast_eq_modify {p : α → Bool} {as : List α} {i : Nat} (f : α → α)
    (h : lastWhere? p as = some i) : updateLast p f as = as.modify i f := by
  induction as using List.reverseRecOn with
  | nil => simp at h
  | append_singleton as a ih =>
    rw [lastWhere?_append_singleton] at h
    rw [updateLast_append_singleton]
    by_cases hp : p a
    · rw [if_pos hp, Option.some.injEq] at h
      subst h
      rw [if_pos hp, List.modify_eq_take_cons_drop (by simp)]
      simp
    · rw [if_neg hp] at h
      obtain ⟨b, hb, -⟩ := exists_of_lastWhere?_eq_some h
      have hi := (List.getElem?_eq_some_iff.1 hb).1
      rw [if_neg hp, ih h, List.modify_eq_take_cons_drop hi,
        List.modify_eq_take_cons_drop (by simp; omega)]
      rw [List.take_append_of_le_length (by omega), List.drop_append_of_le_length (by omega),
        List.getElem_append_left hi]
      simp

theorem updateLast_of_fixed {p : α → Bool} {f : α → α} (h : ∀ a, p a = true → f a = a)
    (as : List α) : updateLast p f as = as := by
  induction as using List.reverseRecOn with
  | nil => rfl
  | append_singleton as a ih =>
    rw [updateLast_append_singleton, ih]
    by_cases hp : p a
    · rw [if_pos hp, h a hp]
    · rw [if_neg hp]

/-- Two changes of the last member, one after the other. -/
theorem updateLast_updateLast {p : α → Bool} {f : α → α} (hf : ∀ a, p (f a) = p a) (g : α → α)
    (as : List α) : updateLast p g (updateLast p f as) = updateLast p (fun a => g (f a)) as := by
  induction as using List.reverseRecOn with
  | nil => rfl
  | append_singleton as a ih =>
    rw [updateLast_append_singleton, updateLast_append_singleton]
    by_cases hp : p a
    · rw [if_pos hp, if_pos hp, updateLast_append_singleton, hf, if_pos hp]
    · rw [if_neg hp, if_neg hp, updateLast_append_singleton, if_neg hp, ih]

theorem findRev?_updateLast {p : α → Bool} {f : α → α} (hf : ∀ a, p (f a) = p a) (as : List α) :
    (updateLast p f as).findRev? p = (as.findRev? p).map f := by
  induction as using List.reverseRecOn with
  | nil => rfl
  | append_singleton as a ih =>
    rw [updateLast_append_singleton, findRev?_append_singleton]
    by_cases hp : p a
    · rw [if_pos hp, if_pos hp, findRev?_append_singleton, hf, if_pos hp, Option.map_some]
    · rw [if_neg hp, if_neg hp, findRev?_append_singleton, if_neg hp, ih]

/-- What a change leaves as it was is the same along the whole list. -/
theorem map_updateLast {p : α → Bool} {f : α → α} {g : α → β} (hf : ∀ a, g (f a) = g a)
    (as : List α) : (updateLast p f as).map g = as.map g := by
  induction as using List.reverseRecOn with
  | nil => rfl
  | append_singleton as a ih =>
    rw [updateLast_append_singleton]
    by_cases h : p a
    · simp [h, hf]
    · simp [h, ih]

theorem length_updateLast (p : α → Bool) (f : α → α) (as : List α) :
    (updateLast p f as).length = as.length := by
  induction as using List.reverseRecOn with
  | nil => rfl
  | append_singleton as a ih =>
    rw [updateLast_append_singleton]
    split
    · simp
    · simp [ih]

/-- A change that stays among the members that pass a second test is seen by looking at those
only. -/
theorem filter_updateLast {p q : α → Bool} {f : α → α} (h : ∀ a, p a = true → q a = true)
    (hf : ∀ a, q (f a) = q a) (as : List α) :
    (updateLast p f as).filter q = updateLast p f (as.filter q) := by
  induction as using List.reverseRecOn with
  | nil => rfl
  | append_singleton as a ih =>
    rw [updateLast_append_singleton, List.filter_append]
    by_cases hp : p a
    · have hq : q a = true := h a hp
      rw [if_pos hp, List.filter_append, List.filter_cons_of_pos hq, List.filter_nil,
        List.filter_cons_of_pos (by rw [hf, hq]), List.filter_nil, updateLast_append_singleton,
        if_pos hp]
    · rw [if_neg hp, List.filter_append, ih]
      by_cases hq : q a
      · rw [List.filter_cons_of_pos hq, List.filter_nil, updateLast_append_singleton, if_neg hp]
      · rw [List.filter_cons_of_neg hq, List.filter_nil, List.append_nil, List.append_nil]

/-- A change outside of the members that pass a second test is not seen among them. -/
theorem filter_updateLast_of_disjoint {p q : α → Bool} {f : α → α}
    (h : ∀ a, p a = true → q a = false) (hf : ∀ a, q (f a) = q a) (as : List α) :
    (updateLast p f as).filter q = as.filter q := by
  induction as using List.reverseRecOn with
  | nil => rfl
  | append_singleton as a ih =>
    rw [updateLast_append_singleton, List.filter_append]
    by_cases hp : p a
    · have hq : ¬ q a = true := by simp [h a hp]
      rw [if_pos hp, List.filter_append, List.filter_cons_of_neg hq,
        List.filter_cons_of_neg (by rw [hf]; exact hq)]
    · rw [if_neg hp, List.filter_append, ih]

/-! ### The last value -/

theorem filterMap_append_singleton (f : α → Option β) (as : List α) (a : α) :
    (as ++ [a]).filterMap f = as.filterMap f ++ (f a).toList := by
  rw [List.filterMap_append]
  cases h : f a <;> simp [h]

/-- The last value that the members of a list give, if any member gives one. -/
def lastValue? (f : α → Option β) (as : List α) : Option β := (as.filterMap f).getLast?

theorem lastValue?_append_singleton (f : α → Option β) (as : List α) (a : α) :
    lastValue? f (as ++ [a]) = (f a).or (lastValue? f as) := by
  rw [lastValue?, filterMap_append_singleton, lastValue?]
  cases f a <;> simp

theorem isSome_lastValue? (f : α → Option β) (as : List α) :
    (lastValue? f as).isSome = as.any fun a => (f a).isSome := by
  induction as using List.reverseRecOn with
  | nil => rfl
  | append_singleton as a ih =>
    rw [lastValue?_append_singleton, Option.isSome_or, ih, List.any_append, Bool.or_comm]
    simp

theorem exists_of_lastValue?_eq_some {f : α → Option β} {as : List α} {b : β}
    (h : lastValue? f as = some b) : ∃ a ∈ as, f a = some b :=
  List.mem_filterMap.1 (List.mem_of_getLast? h)

/-! ### Two lists side by side -/

section

variable {R : α → β → Prop} {p : α → Bool} {q : β → Bool}

theorem any_eq_of_forall₂ (hpq : ∀ a b, R a b → p a = q b) {as : List α} {bs : List β}
    (h : List.Forall₂ R as bs) : as.any p = bs.any q := by
  induction h with
  | nil => rfl
  | cons hab _ ih => rw [List.any_cons, List.any_cons, hpq _ _ hab, ih]

theorem forall₂_updateLast (hpq : ∀ a b, R a b → p a = q b) {f : α → α} {g : β → β}
    (hfg : ∀ a b, R a b → R (f a) (g b)) {as : List α} {bs : List β}
    (h : List.Forall₂ R as bs) : List.Forall₂ R (updateLast p f as) (updateLast q g bs) := by
  induction h with
  | nil => exact .nil
  | @cons a b as bs hab hrest ih =>
    rw [updateLast, updateLast, any_eq_of_forall₂ hpq hrest, hpq a b hab]
    split
    · exact .cons hab ih
    · split
      · exact .cons (hfg a b hab) hrest
      · exact .cons hab hrest

theorem rel_findRev? (hpq : ∀ a b, R a b → p a = q b) {as : List α} {bs : List β}
    (h : List.Forall₂ R as bs) : Option.Rel R (as.findRev? p) (bs.findRev? q) := by
  induction h with
  | nil => exact .none
  | @cons a b as bs hab _ ih =>
    rw [List.findRev?, List.findRev?, hpq a b hab]
    generalize as.findRev? p = x at ih ⊢
    generalize bs.findRev? q = y at ih ⊢
    cases ih with
    | none =>
      simp only
      split
      · exact .some hab
      · exact .none
    | some hab' => exact .some hab'

end

end RunWatch
