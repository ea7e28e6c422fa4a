import Mathlib.Tactic.TypeStar
import RunWatch.Preview

/-!
# The first place that gives something

A reader that has several places to look at takes what the first place gives which gives anything.
`FirstHit` says so without a search: a place that gives nothing is passed over, for whatever reason
it gives nothing, and no place that gives something is. It is what `List.findSome?` computes
(`firstHit_iff`).

A reader may also stop at the first place where there is something (`upTo`), before it knows whether
that is of use. Such a search finds the first hit unless the hit is hidden
(`findSome?_eq_iff_not_hidden`).

`Json.Holds` is the case of places in a value, where a value that is there but of no use gives
nothing.
-/

namespace RunWatch

section

variable {α β : Type*} {gives : β → α → Prop}

/-- What the first of some places gives that gives anything, if there is one. -/
inductive FirstHit (gives : β → α → Prop) : List β → Option α → Prop where
  | nowhere : FirstHit gives [] none
  | hit {place : β} {a : α} (h : gives place a) (rest : List β) :
      FirstHit gives (place :: rest) (some a)
  | miss {place : β} (h : ∀ a, ¬ gives place a) {rest : List β} {found : Option α}
      (hrest : FirstHit gives rest found) : FirstHit gives (place :: rest) found

variable {read : β → Option α} {places : List β} {found : Option α}

/-- A search finds the first hit when each of its steps reads what the place gives. -/
theorem firstHit_iff (hread : ∀ place a, read place = some a ↔ gives place a) :
    FirstHit gives places found ↔ places.findSome? read = found := by
  constructor
  · intro h
    induction h with
    | nowhere => rfl
    | hit h rest => rw [List.findSome?_cons, (hread _ _).2 h]
    | miss h hrest ih =>
      have hnone : read _ = none := Option.eq_none_iff_forall_ne_some.2 fun a ha =>
        h a ((hread _ a).1 ha)
      rw [List.findSome?_cons, hnone, ih]
  · rintro rfl
    induction places with
    | nil => exact .nowhere
    | cons place places ih =>
      rw [List.findSome?_cons]
      cases ha : read place with
      | some a => exact .hit ((hread place a).1 ha) places
      | none =>
        refine .miss (fun a h => ?_) ih
        rw [(hread place a).2 h] at ha
        cases ha

/-! ### Searches that stop early -/

variable {γ : Type*} {peek : β → Option γ}

/-- The places up to the first where there is something. -/
def upTo (peek : β → Option γ) : List β → List β
  | [] => []
  | place :: rest => if (peek place).isSome then [place] else place :: upTo peek rest

theorem upTo_isPrefix (peek : β → Option γ) (places : List β) : upTo peek places <+: places := by
  induction places with
  | nil => exact List.prefix_rfl
  | cons place rest ih =>
    rw [upTo]
    split
    · exact List.prefix_append [place] rest
    · exact (List.prefix_cons_inj place).2 ih

/-- To use the first thing there is is to search the places up to it. -/
theorem bind_findSome?_eq (use : γ → Option α) : (places.findSome? peek).bind use =
    (upTo peek places).findSome? fun place => (peek place).bind use := by
  induction places with
  | nil => rfl
  | cons place rest ih =>
    rw [upTo, List.findSome?_cons]
    cases hpeek : peek place with
    | some c => simp [hpeek]
    | none => simp [hpeek, ih]

theorem findSome?_pair (place place' : β) :
    [place, place'].findSome? read = (read place).or (read place') := by
  rw [List.findSome?_cons, List.findSome?_singleton]
  cases read place <;> rfl

/-- Something is given among some places, but nothing among those that are searched. -/
def Hidden (gives : β → α → Prop) (searched places : List β) : Prop :=
  FirstHit gives searched none ∧ ∃ a, FirstHit gives places (some a)

/-- A search that stops early misses what it hides, and nothing else. -/
theorem findSome?_eq_iff_not_hidden {searched : List β}
    (hread : ∀ place a, read place = some a ↔ gives place a) (hsearched : searched <+: places) :
    searched.findSome? read = places.findSome? read ↔ ¬ Hidden gives searched places := by
  simp only [Hidden, firstHit_iff hread]
  cases hfound : searched.findSome? read with
  | some a => simp [hsearched.findSome?_eq_some hfound]
  | none => simp [eq_comm, Option.eq_none_iff_forall_ne_some]

/-- Leaving out one value of all loses nothing. -/
theorem ite_none_some_inj [DecidableEq α] {e a b : α} :
    (if a = e then none else some a) = (if b = e then none else some b) ↔ a = b := by
  by_cases ha : a = e <;> by_cases hb : b = e <;> simp_all [eq_comm]

end

/-! ### Places in a value -/

namespace Json

/-- Whether something usable stands at a place of a value, and what it is used as. -/
def Holds {α : Type*} (v : Json) (uses : Json → α → Prop) (place : Place) (a : α) : Prop :=
  ∃ w, v.at? place = some w ∧ uses w a

theorem bind_at?_eq_some_iff {α : Type*} {v : Json} {read : Json → Option α}
    {uses : Json → α → Prop} (hread : ∀ w a, read w = some a ↔ uses w a) (place : Place) (a : α) :
    (v.at? place).bind read = some a ↔ v.Holds uses place a := by
  simp only [Option.bind_eq_some_iff, hread, Holds]

theorem firstHit_singleton_iff {α : Type*} {v : Json} {read : Json → Option α}
    {uses : Json → α → Prop} (hread : ∀ w a, read w = some a ↔ uses w a) {place : Place}
    {found : Option α} :
    FirstHit (v.Holds uses) [place] found ↔ (v.at? place).bind read = found := by
  rw [firstHit_iff (bind_at?_eq_some_iff hread), List.findSome?_singleton]

theorem at?_singleton (v : Json) (key : String) : v.at? [key] = v.get? key := by
  rw [at?]
  cases v.get? key <;> rfl

theorem at?_append (v : Json) (place place' : Place) :
    v.at? (place ++ place') = (v.at? place).bind fun w => w.at? place' := by
  induction place generalizing v with
  | nil => rfl
  | cons key place ih =>
    rw [List.cons_append, at?, at?, Option.bind_assoc]
    exact Option.bind_congr fun w _ => ih w

end Json

end RunWatch
