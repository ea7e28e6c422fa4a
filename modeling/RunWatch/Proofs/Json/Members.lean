import Mathlib.Data.List.Perm.Basic
import RunWatch.Json.Basic

/-!
# Members of objects

Members whose keys are all different form a table: a key has one value, wherever its member stands
(`Json.member?_eq_some_iff`), and an object that is built of them has these members in some order
(`Json.perm_sortMembers`).
-/

namespace RunWatch.Json

variable {key : String} {v : Json} {ms : List (String × Json)}

theorem member?_eq_none_iff : member? key ms = none ↔ key ∉ ms.map Prod.fst := by
  induction ms with
  | nil => simp [member?]
  | cons m ms ih =>
    obtain ⟨k, w⟩ := m
    rw [member?, List.map_cons, List.mem_cons, not_or]
    by_cases hk : k = key
    · simp [hk]
    · rw [if_neg hk, ih]
      exact (and_iff_right (Ne.symm hk)).symm

theorem member?_eq_some_iff (h : (ms.map Prod.fst).Nodup) :
    member? key ms = some v ↔ (key, v) ∈ ms := by
  induction ms with
  | nil => simp [member?]
  | cons m ms ih =>
    obtain ⟨k, w⟩ := m
    obtain ⟨hnew, hrest⟩ := List.nodup_cons.1 h
    rw [member?, List.mem_cons, Prod.mk.injEq]
    by_cases hk : k = key
    · subst hk
      have hnot : (k, v) ∉ ms := fun hmem => hnew (List.mem_map.2 ⟨(k, v), hmem, rfl⟩)
      rw [if_pos rfl, Option.some.injEq]
      exact ⟨fun hw => .inl ⟨rfl, hw.symm⟩, fun hv => (hv.resolve_right hnot).2.symm⟩
    · rw [if_neg hk, ih hrest]
      exact ⟨.inr, fun hv => hv.resolve_left fun hboth => hk hboth.1.symm⟩

theorem perm_insertMember (h : key ∉ ms.map Prod.fst) :
    (insertMember key v ms).Perm ((key, v) :: ms) := by
  induction ms with
  | nil => exact .refl _
  | cons m ms ih =>
    obtain ⟨k, w⟩ := m
    rw [List.map_cons, List.mem_cons, not_or] at h
    rw [insertMember]
    split
    · exact .refl _
    · rw [if_neg h.1]
      exact ((ih h.2).cons (k, w)).trans (.swap (key, v) (k, w) ms)

theorem perm_sortMembers (h : (ms.map Prod.fst).Nodup) : (sortMembers ms).Perm ms := by
  induction ms with
  | nil => exact .refl _
  | cons m ms ih =>
    obtain ⟨hnew, hrest⟩ := List.nodup_cons.1 h
    have hperm : (sortMembers ms).Perm ms := ih hrest
    have hkey : m.1 ∉ (sortMembers ms).map Prod.fst := fun hmem =>
      hnew ((hperm.map Prod.fst).mem_iff.1 hmem)
    exact (perm_insertMember hkey).trans (hperm.cons m)

end RunWatch.Json
