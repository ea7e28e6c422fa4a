import RunWatch.Proofs.Wire.Event

/-!
# Fields that are `null`

A field of an event that is `null` is as good as one that is missing. It is never a fault, since a
field of an event may be `null` whatever its kind, and the readers take no value from it. So such
fields may be left out before an event is read (`Members.without`), and what is read, be it an event
or a fault, is the same (`Event.decode_without`).
-/

namespace RunWatch.Wire

/-- Members without those under some keys. -/
def Members.without (ms : Members) (dropped : List String) : Members :=
  ms.filter fun m => !dropped.contains m.1

/-- Whether members have nothing but `null` under some keys. -/
def Members.NullAt (ms : Members) (dropped : List String) : Prop :=
  ∀ key ∈ dropped, ∀ v, (key, v) ∈ ms → v = .null

namespace Members

variable {ms : Members} {dropped : List String} {name : String}

theorem without_cons_of_mem {m : String × Json} (h : m.1 ∈ dropped) :
    without (m :: ms) dropped = ms.without dropped :=
  List.filter_cons_of_neg (by simpa using h)

theorem without_cons_of_notMem {m : String × Json} (h : m.1 ∉ dropped) :
    without (m :: ms) dropped = m :: ms.without dropped :=
  List.filter_cons_of_pos (by simpa using h)

theorem nodup_without (h : (ms.map Prod.fst).Nodup) :
    ((ms.without dropped).map Prod.fst).Nodup :=
  h.sublist (List.filter_sublist.map Prod.fst)

theorem NullAt.of_subset {ms' : Members} (h : ms.NullAt dropped) (hsub : ms' ⊆ ms) :
    ms'.NullAt dropped :=
  fun key hkey v hv => h key hkey v (hsub hv)

/-! ### Values -/

theorem member?_without (h : name ∉ dropped) :
    Json.member? name (ms.without dropped) = Json.member? name ms := by
  induction ms with
  | nil => rfl
  | cons m ms ih =>
    by_cases hm : m.1 ∈ dropped
    · have hne : m.1 ≠ name := fun heq => h (heq ▸ hm)
      rw [without_cons_of_mem hm, ih, Json.member?, if_neg hne]
    · rw [without_cons_of_notMem hm, Json.member?, Json.member?, ih]

/-- A field that is left out has no value, and had none before. -/
theorem value?_without (hnodup : (ms.map Prod.fst).Nodup) (hnull : ms.NullAt dropped) :
    (ms.without dropped).value? name = ms.value? name := by
  by_cases hname : name ∈ dropped
  · have hgone : Json.member? name (ms.without dropped) = none := by
      rw [Json.member?_eq_none_iff]
      intro hmem
      obtain ⟨m, hm, rfl⟩ := List.mem_map.1 hmem
      simpa [hname] using (List.mem_filter.1 hm).2
    rw [value?, value?, hgone, Option.filter_none, eq_comm, Option.filter_eq_none_iff]
    intro v hv
    rw [hnull name hname v ((Json.member?_eq_some_iff hnodup).1 hv)]
    decide
  · rw [value?, value?, member?_without hname]

end Members

/-! ### Faults -/

namespace Shape

variable {fields : List Field} {ms : Members} {dropped : List String}

/-- A member that is `null` is no fault, and with different keys it is no cause of one either. -/
theorem memberFault?_without (hnames : ∀ f ∈ fields, f.otherNames = [])
    (hnullable : ∀ f ∈ fields, f.nullable = true) (hnodup : (ms.map Prod.fst).Nodup)
    (hnull : ms.NullAt dropped) :
    memberFault? fields [] (ms.without dropped) = memberFault? fields [] ms := by
  rw [memberFault?_eq_findSome? hnames hnodup fun _ _ => List.not_mem_nil,
    memberFault?_eq_findSome? hnames (Members.nodup_without hnodup) fun _ _ => List.not_mem_nil]
  induction ms with
  | nil => rfl
  | cons m ms ih =>
    have hrest := ih (List.nodup_cons.1 hnodup).2 (hnull.of_subset (List.subset_cons_self m ms))
    by_cases hm : m.1 ∈ dropped
    · have hnone : ((field? fields m.1).bind fun f => f.fault? m.2) = none := by
        rw [hnull m.1 hm m.2 List.mem_cons_self, Option.bind_eq_none_iff]
        intro f hf
        simp [Field.fault?, hnullable f (List.mem_of_find?_eq_some hf), Json.isNull]
      rw [Members.without_cons_of_mem hm, hrest, List.findSome?_cons, hnone]
    · rw [Members.without_cons_of_notMem hm, List.findSome?_cons, List.findSome?_cons, hrest]

end Shape

end RunWatch.Wire

namespace RunWatch.Event

open Wire

variable {ms ms' : Members} {dropped : List String}

theorem nullable_of_mem_fields {name : String} {f : Field} (hf : f ∈ fields name) :
    f.nullable = true := by
  unfold fields at hf
  split at hf <;> revert f <;> simp [Field.optional]

theorem fault?_without (name : String) (hnodup : (ms.map Prod.fst).Nodup)
    (hnull : ms.NullAt dropped) :
    Shape.fault? (fields name) (ms.without dropped) = Shape.fault? (fields name) ms := by
  have hnames : ∀ f ∈ fields name, f.otherNames = [] := fun _ hf => (optional_of_mem_fields hf).1
  have hmissing : ∀ ms' : Members, Shape.missing? (fields name) ms' = none := fun _ =>
    Shape.missing?_eq_none fun _ hf => (optional_of_mem_fields hf).2
  rw [Shape.fault?, Shape.fault?, hmissing, hmissing,
    Shape.memberFault?_without hnames (fun _ => nullable_of_mem_fields) hnodup hnull]

/-- An event is made of the values of its fields. -/
theorem ofMembers_congr (h : ∀ name, ms.value? name = ms'.value? name) :
    ofMembers ms = ofMembers ms' := by
  funext name
  unfold ofMembers
  simp only [timeOf, Members.text, Members.text?, Members.texts, Members.texts?, Members.flag,
    Members.items, h]

theorem withoutType_without :
    withoutType (ms.without dropped) = (withoutType ms).without dropped := by
  rw [withoutType, withoutType, Members.without, Members.without, List.filter_filter,
    List.filter_filter]
  exact List.filter_congr fun m _ => Bool.and_comm _ _

theorem typeOf_without (h : "type" ∉ dropped) : typeOf (ms.without dropped) = typeOf ms := by
  rw [typeOf, typeOf, Members.member?_without h]

/-- A `null` field counts as absent, whatever the type of the event, known or unknown. Of an object,
whose keys are all different, any fields that are `null` may be left out, but for the type: what is
read is the same event or the same fault, whatever other fields the object has, good or bad. -/
theorem decode_without (ms : Members) (dropped : List String) (hnodup : (ms.map Prod.fst).Nodup)
    (htype : "type" ∉ dropped) (hnull : ms.NullAt dropped) :
    decode (.object (ms.without dropped)) = decode (.object ms) := by
  have hsub : withoutType ms ⊆ ms := List.filter_sublist.subset
  have hnodup' : ((withoutType ms).map Prod.fst).Nodup :=
    hnodup.sublist (List.filter_sublist.map Prod.fst)
  have hnull' : (withoutType ms).NullAt dropped := hnull.of_subset hsub
  have hread : decodeMembers (ms.without dropped) = decodeMembers ms := by
    rw [decodeMembers, decodeMembers, typeOf_without htype, withoutType_without]
    refine bind_congr fun name => ?_
    rw [fault?_without name hnodup' hnull',
      ofMembers_congr fun _ => Members.value?_without hnodup' hnull']
  rw [decode, decode, hread]

/-- Fields of every kind that are `null`, known and unknown, around one that is no text: with them and
without them the fault of this one is found. -/
theorem decode_without_of_bad_field :
    let ms : Members := [("allow_free_text", .null), ("choices", .null), ("extra", .null),
      ("prompt", .bool true), ("reason", .null), ("ts", .null), ("type", .string "flow_waiting")]
    let dropped := ["choices", "extra", "ts", "reason", "wait_key"]
    (ms.map Prod.fst).Nodup ∧ "type" ∉ dropped ∧ ms.NullAt dropped ∧
      decode (.object (ms.without dropped)) = decode (.object ms) ∧
      (ms.without dropped).map Prod.fst = ["allow_free_text", "prompt", "type"] ∧
      decode (.object ms) =
        .error (.undecodable "invalid type: boolean `true`, expected a string") := by
  intro ms dropped
  have hnodup : (ms.map Prod.fst).Nodup := by decide
  have htype : "type" ∉ dropped := by decide
  have hnull : ms.NullAt dropped := by
    intro key hkey v hv
    simp only [ms, List.mem_cons, Prod.mk.injEq, List.not_mem_nil, or_false] at hv
    rcases hv with ⟨rfl, rfl⟩ | ⟨rfl, rfl⟩ | ⟨rfl, rfl⟩ | ⟨rfl, rfl⟩ | ⟨rfl, rfl⟩ | ⟨rfl, rfl⟩ |
      ⟨rfl, rfl⟩
    case inr.inr.inr.inl => simp [dropped] at hkey
    case inr.inr.inr.inr.inr.inr => exact absurd hkey htype
    all_goals rfl
  exact ⟨hnodup, htype, hnull, decode_without ms dropped hnodup htype hnull, by decide,
    by decide +kernel⟩

end RunWatch.Event
