import Mathlib.Data.List.Nodup
import RunWatch.Proofs.Json.Members
import RunWatch.Wire.Shape

/-!
# Written records

A record is written as the members of those of its fields that have a value. When all fields have
different names, every reader finds in such members what was written (`Members.Holds`), in whatever
order they stand, and so does the search for faults.
-/

namespace RunWatch.Wire

/-- The members of the fields that have a value. -/
def writtenMembers (fs : List (String × Option Json)) : Members :=
  fs.filterMap fun f => f.2.map fun v => (f.1, v)

section

variable {fs : List (String × Option Json)} {name : String} {v : Json}

theorem mem_writtenMembers_iff : (name, v) ∈ writtenMembers fs ↔ (name, some v) ∈ fs := by
  simp [writtenMembers]

theorem keys_writtenMembers_sublist :
    ((writtenMembers fs).map Prod.fst).Sublist (fs.map Prod.fst) := by
  induction fs with
  | nil => exact .refl _
  | cons f fs ih =>
    obtain ⟨name, o⟩ := f
    cases o with
    | none => exact ih.cons name
    | some v => exact ih.cons_cons name

end

/-- Members hold the fields of a record: those with a value, each once, and nothing else. -/
structure Members.Holds (ms : Members) (fs : List (String × Option Json)) : Prop where
  nodup : (fs.map Prod.fst).Nodup
  perm : ms.Perm (writtenMembers fs)

/-! ### No faults -/

section

variable {name : String}

@[simp] theorem name_optional (kind : Kind) : (Field.optional name kind).name = name := rfl

@[simp] theorem fault?_optional_text (s : String) :
    (Field.optional name .text).fault? (.string s) = none := rfl

@[simp] theorem fault?_optional_flag (b : Bool) :
    (Field.optional name .flag).fault? (.bool b) = none := rfl

@[simp] theorem fault?_optional_anythings (vs : List Json) :
    (Field.optional name .anythings).fault? (.array vs) = none := rfl

@[simp] theorem fault?_optional_texts (ss : List String) :
    (Field.optional name .texts).fault? (.array (ss.map .string)) = none := by
  have hnone : (ss.map Json.string).findSome? textFault? = none := by
    rw [List.findSome?_eq_none_iff]
    intro v hv
    obtain ⟨s, -, rfl⟩ := List.mem_map.1 hv
    rfl
  exact hnone

end

namespace Shape

variable {fields : List Field} {seen : List String} {ms : Members}

theorem name_eq_of_field? {key : String} {f : Field} (hnames : ∀ f ∈ fields, f.otherNames = [])
    (hf : field? fields key = some f) : f ∈ fields ∧ f.name = key := by
  have hmem : f ∈ fields := List.mem_of_find?_eq_some hf
  have hnamed := List.find?_some hf
  exact ⟨hmem, by simpa [Field.isNamed, hnames f hmem] using hnamed⟩

/-- Of members with different keys no one repeats a field, so the first fault is that of the first
value which does not suit the field that its key names. -/
theorem memberFault?_eq_findSome? (hnames : ∀ f ∈ fields, f.otherNames = [])
    (hnodup : (ms.map Prod.fst).Nodup) (hseen : ∀ m ∈ ms, m.1 ∉ seen) :
    memberFault? fields seen ms =
      ms.findSome? fun m => (field? fields m.1).bind fun f => f.fault? m.2 := by
  induction ms generalizing seen with
  | nil => rfl
  | cons m ms ih =>
    obtain ⟨key, v⟩ := m
    obtain ⟨hnew, hrest⟩ := List.nodup_cons.1 hnodup
    rw [memberFault?, List.findSome?_cons]
    cases hf : field? fields key with
    | none => exact ih hrest fun m hm => hseen m (List.mem_cons_of_mem _ hm)
    | some f =>
      obtain ⟨-, rfl⟩ := name_eq_of_field? hnames hf
      have hfresh : ¬ seen.contains f.name = true := by
        simpa using hseen _ List.mem_cons_self
      have hnext : ∀ m ∈ ms, m.1 ∉ f.name :: seen := fun m hm => by
        rw [List.mem_cons, not_or]
        exact ⟨fun heq => hnew (List.mem_map.2 ⟨m, hm, heq⟩),
          hseen m (List.mem_cons_of_mem _ hm)⟩
      simp only [if_neg hfresh, Option.bind_some]
      cases f.fault? v with
      | some fault => rfl
      | none => exact ih hrest hnext

/-- Members with different keys have no fault when each value suits the field that its key names. -/
theorem memberFault?_eq_none (hnames : ∀ f ∈ fields, f.otherNames = [])
    (hnodup : (ms.map Prod.fst).Nodup) (hseen : ∀ m ∈ ms, m.1 ∉ seen)
    (hsuits : ∀ f ∈ fields, ∀ v, (f.name, v) ∈ ms → f.fault? v = none) :
    memberFault? fields seen ms = none := by
  rw [memberFault?_eq_findSome? hnames hnodup hseen, List.findSome?_eq_none_iff]
  rintro ⟨key, v⟩ hm
  rw [Option.bind_eq_none_iff]
  intro f hf
  obtain ⟨hmem, rfl⟩ := name_eq_of_field? hnames hf
  exact hsuits f hmem v hm

theorem missing?_eq_none (h : ∀ f ∈ fields, f.required = false) : missing? fields ms = none := by
  rw [missing?, Option.map_eq_none_iff, List.find?_eq_none]
  intro f hf
  simp [h f hf]

end Shape

/-! ### Readers -/

namespace Members.Holds

variable {ms : Members} {fs : List (String × Option Json)} {name : String} (h : ms.Holds fs)

include h

theorem nodup_keys : (ms.map Prod.fst).Nodup :=
  (h.perm.map Prod.fst).nodup_iff.2 (h.nodup.sublist keys_writtenMembers_sublist)

theorem mem_iff {v : Json} : (name, v) ∈ ms ↔ (name, some v) ∈ fs :=
  h.perm.mem_iff.trans mem_writtenMembers_iff

theorem eq_of_mem {o o' : Option Json} (ho : (name, o) ∈ fs) (ho' : (name, o') ∈ fs) : o = o' :=
  congrArg Prod.snd (List.inj_on_of_nodup_map h.nodup ho ho' rfl)

theorem member?_eq {o : Option Json} (ho : (name, o) ∈ fs) : Json.member? name ms = o := by
  cases o with
  | some v => exact (Json.member?_eq_some_iff h.nodup_keys).2 (h.mem_iff.2 ho)
  | none =>
    rw [Json.member?_eq_none_iff]
    intro hkey
    obtain ⟨⟨_, v⟩, hv, rfl⟩ := List.mem_map.1 hkey
    cases h.eq_of_mem ho (h.mem_iff.1 hv)

theorem value?_eq {o : Option Json} (ho : (name, o) ∈ fs) (hnull : o ≠ some .null) :
    ms.value? name = o := by
  rw [Members.value?, h.member?_eq ho]
  cases o with
  | none => rfl
  | some v =>
    cases v with
    | null => exact absurd rfl hnull
    | bool | number | string | array | object => rfl

theorem text?_eq {s : Option String} (hs : (name, s.map Json.string) ∈ fs) :
    ms.text? name = s := by
  have hnull : s.map Json.string ≠ some .null := by cases s <;> simp
  rw [Members.text?, h.value?_eq hs hnull]
  cases s <;> rfl

theorem text_eq {s : String} (hs : (name, some (.string s)) ∈ fs) : ms.text name = s := by
  have htext : ms.text? name = some s := h.text?_eq hs
  rw [Members.text, htext, Option.getD_some]

theorem flag_eq {b : Bool} (hb : (name, some (.bool b)) ∈ fs) : ms.flag name = b := by
  rw [Members.flag, h.value?_eq hb (by simp)]
  rfl

theorem items_eq {vs : List Json} (hvs : (name, some (.array vs)) ∈ fs) : ms.items name = vs := by
  rw [Members.items, h.value?_eq hvs (by simp)]
  rfl

theorem texts_eq {ss : List String} (hss : (name, some (.array (ss.map .string))) ∈ fs) :
    ms.texts name = ss := by
  have htexts : (ss.map Json.string).filterMap Json.toText? = ss := by
    rw [List.filterMap_map]
    exact List.filterMap_some
  rw [Members.texts, Members.texts?, h.value?_eq hss (by simp)]
  simp [Json.toItems?, htexts]

/-- Held fields have no fault when every one may be missing and each value suits its own. -/
theorem fault?_eq_none {fields : List Field}
    (hfields : ∀ f ∈ fields, f.otherNames = [] ∧ f.required = false)
    (hsuits : ∀ f ∈ fields, ∀ v, (f.name, some v) ∈ fs → f.fault? v = none) :
    Shape.fault? fields ms = none := by
  have hmembers : Shape.memberFault? fields [] ms = none :=
    Shape.memberFault?_eq_none (fun f hf => (hfields f hf).1) h.nodup_keys (fun _ _ => List.not_mem_nil)
      fun f hf v hv => hsuits f hf v (h.mem_iff.1 hv)
  rw [Shape.fault?, hmembers, Option.none_or,
    Shape.missing?_eq_none fun f hf => (hfields f hf).2]

end Members.Holds

end RunWatch.Wire
