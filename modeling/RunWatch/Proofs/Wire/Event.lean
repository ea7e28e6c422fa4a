import Mathlib.Data.Option.Basic
import RunWatch.Proofs.Time.Rfc3339
import RunWatch.Proofs.Wire.Shape
import RunWatch.Wire.Event

/-!
# Events there and back

An event that was read, written and read again is the same event, but for a time whose year is
written with a sign: such a time is lost. The members that are written stand in another order than
the fields (`Event.holds_withoutType`), and each reader finds what was written all the same.
-/

namespace RunWatch

open Wire

namespace Event

/-! ### The time of an event -/

/-- The time of an event. -/
def time? : Event → Option Instant
  | flowStart _ _ ts | flowComplete _ _ ts | flowCancelled _ ts | nodeStart _ _ _ ts
  | nodeComplete _ _ _ _ _ ts | flowWaiting _ _ _ ts | flowError _ _ _ ts => ts
  | subworkflowUpdate .. | traceUpdate .. | unknown => none

/-- An event with another time, all else being the same; events that have no time stay. -/
def withTime (ts : Option Instant) : Event → Event
  | flowStart runId parentRunId _ => flowStart runId parentRunId ts
  | flowComplete runId details _ => flowComplete runId details ts
  | flowCancelled runId _ => flowCancelled runId ts
  | nodeStart runId nodeId nodeType _ => nodeStart runId nodeId nodeType ts
  | nodeComplete runId nodeId nodeType result details _ =>
    nodeComplete runId nodeId nodeType result details ts
  | flowWaiting runId nodeId waiting _ => flowWaiting runId nodeId waiting ts
  | flowError runId nodeId error _ => flowError runId nodeId error ts
  | subworkflowUpdate runId nodeId subRunId => subworkflowUpdate runId nodeId subRunId
  | traceUpdate runId nodeId parentRunId steps => traceUpdate runId nodeId parentRunId steps
  | unknown => unknown

theorem withTime_time? (e : Event) : e.withTime e.time? = e := by cases e <;> rfl

/-! ### Payloads -/

/-- The values of any kind that an event holds. -/
def payloads : Event → List Json
  | flowComplete _ details _ => details.toList
  | nodeComplete _ _ _ result details _ => result.toList ++ details.toList
  | flowError _ _ error _ => error.toList
  | _ => []

/-- A value that is read is not `null`, which is as good as none. -/
theorem null_notMem_toList_value? (ms : Members) (name : String) :
    Json.null ∉ (ms.value? name).toList := by
  intro hmem
  have hnull := (Option.filter_eq_some_iff.1 (Option.mem_toList.1 hmem)).2
  cases hnull

theorem null_notMem_payloads_ofMembers (ms : Members) (name : String) :
    Json.null ∉ (ofMembers ms name).payloads := by
  have hvalue := null_notMem_toList_value? ms
  unfold ofMembers
  split <;> simp only [payloads, List.mem_append, not_or, List.not_mem_nil, not_false_eq_true]
  · exact hvalue "meta"
  · exact ⟨hvalue "result", hvalue "meta"⟩
  · exact hvalue "error"

theorem exists_ofMembers_of_decode {v : Json} {e : Event} (h : decode v = .ok e) :
    ∃ ms name, e = ofMembers ms name := by
  cases v with
  | object ms =>
    simp only [decode, decodeMembers] at h
    cases hname : typeOf ms with
    | error => rw [hname] at h; cases h
    | ok name =>
      rw [hname] at h
      simp only [bind, Except.bind] at h
      split at h
      · cases h
      · cases h
        exact ⟨withoutType ms, name, rfl⟩
  | null | bool | number | string | array => cases h

theorem null_notMem_payloads_of_decode {v : Json} {e : Event} (h : decode v = .ok e) :
    Json.null ∉ e.payloads := by
  obtain ⟨ms, name, rfl⟩ := exists_ofMembers_of_decode h
  exact null_notMem_payloads_ofMembers ms name

/-! ### What is written -/

section

variable (e : Event)

theorem nodup_names : ((textField "type" e.kind :: e.toFields).map Prod.fst).Nodup := by
  cases e <;> simp [toFields, textField, textField?, timeField?]

/-- The members of a written event. -/
def members : Members := Json.sortMembers (writtenMembers (textField "type" e.kind :: e.toFields))

theorem toJson_eq : e.toJson = .object e.members := rfl

theorem holds_members : e.members.Holds (textField "type" e.kind :: e.toFields) where
  nodup := e.nodup_names
  perm := Json.perm_sortMembers (e.nodup_names.sublist keys_writtenMembers_sublist)

theorem typeOf_members : typeOf e.members = .ok e.kind := by
  have htype : Json.member? "type" e.members = some (.string e.kind) :=
    e.holds_members.member?_eq List.mem_cons_self
  rw [typeOf, htype]

theorem holds_withoutType : (withoutType e.members).Holds e.toFields where
  nodup := (List.nodup_cons.1 e.nodup_names).2
  perm := by
    have hnew : "type" ∉ e.toFields.map Prod.fst := (List.nodup_cons.1 e.nodup_names).1
    have hrest : (writtenMembers e.toFields).filter (fun m => m.1 != "type") =
        writtenMembers e.toFields := by
      refine List.filter_eq_self.2 fun m hm => bne_iff_ne.2 fun hkey => hnew ?_
      rw [← hkey]
      exact keys_writtenMembers_sublist.subset (List.mem_map_of_mem hm)
    have hwritten : withoutType (writtenMembers (textField "type" e.kind :: e.toFields)) =
        writtenMembers e.toFields := hrest
    rw [← hwritten]
    exact e.holds_members.perm.filter _

theorem optional_of_mem_fields {name : String} {f : Field} (hf : f ∈ fields name) :
    f.otherNames = [] ∧ f.required = false := by
  unfold fields at hf
  split at hf <;> revert f <;> simp [Field.optional]

/-- Every written value suits its field. -/
theorem fault?_of_mem_toFields : ∀ f ∈ fields e.kind, ∀ v, (f.name, some v) ∈ e.toFields →
    f.fault? v = none := by
  cases e <;> simp [fields, kind, toFields, textField, textField?, timeField?]

theorem fault?_withoutType : Shape.fault? (fields e.kind) (withoutType e.members) = none :=
  e.holds_withoutType.fault?_eq_none (fun _ => optional_of_mem_fields) e.fault?_of_mem_toFields

end

/-! ### What is read -/

theorem timeOf_eq {ms : Members} {fs : List (String × Option Json)} {ts : Option Instant}
    (h : ms.Holds fs) (hts : timeField? ts ∈ fs) :
    timeOf ms = ts.filter Instant.hasPlainYear := by
  have hnull : (ts.map fun t => Json.string t.text) ≠ some .null := by cases ts <;> simp
  rw [timeOf, h.value?_eq hts hnull]
  cases ts with
  | none => rfl
  | some t => rw [Option.map_some, Option.bind_some, Instant.ofJson?_text, Option.filter_some]

section

variable {ms : Members} {e : Event} (h : ms.Holds e.toFields) (hnull : Json.null ∉ e.payloads)

include h hnull

/-- What is read from the fields of an event is this event, with its time if the year is plain. -/
theorem ofMembers_of_holds :
    ofMembers ms e.kind = e.withTime (e.time?.filter Instant.hasPlainYear) := by
  have htext : ∀ {name s : String}, textField name s ∈ e.toFields → ms.text name = s := h.text_eq
  have htext? : ∀ {name : String} {s : Option String}, textField? name s ∈ e.toFields →
      ms.text? name = s := h.text?_eq
  have htime : timeField? e.time? ∈ e.toFields →
      timeOf ms = e.time?.filter Instant.hasPlainYear := timeOf_eq h
  cases e with
  | flowStart runId parentRunId ts =>
    have hrun : ms.text "run_id" = runId := htext (by simp [toFields])
    have hparent : ms.text? "parent_run_id" = parentRunId := htext? (by simp [toFields])
    rw [kind, ofMembers, hrun, hparent, htime (by simp [toFields, time?])]
    rfl
  | flowComplete runId details ts =>
    have hdetails : details ≠ some .null := by simpa [payloads] using hnull
    have hrun : ms.text "run_id" = runId := htext (by simp [toFields])
    have hmeta : ms.value? "meta" = details := h.value?_eq (by simp [toFields]) hdetails
    rw [kind, ofMembers, hrun, hmeta, htime (by simp [toFields, time?])]
    rfl
  | flowCancelled runId ts =>
    have hrun : ms.text "run_id" = runId := htext (by simp [toFields])
    rw [kind, ofMembers, hrun, htime (by simp [toFields, time?])]
    rfl
  | nodeStart runId nodeId nodeType ts =>
    have hrun : ms.text "run_id" = runId := htext (by simp [toFields])
    have hnode : ms.text "node_id" = nodeId := htext (by simp [toFields])
    have htype : ms.text? "node_type" = nodeType := htext? (by simp [toFields])
    rw [kind, ofMembers, hrun, hnode, htype, htime (by simp [toFields, time?])]
    rfl
  | nodeComplete runId nodeId nodeType result details ts =>
    have hpayloads : result ≠ some .null ∧ details ≠ some .null := by simpa [payloads] using hnull
    have hrun : ms.text "run_id" = runId := htext (by simp [toFields])
    have hnode : ms.text "node_id" = nodeId := htext (by simp [toFields])
    have htype : ms.text? "node_type" = nodeType := htext? (by simp [toFields])
    have hresult : ms.value? "result" = result := h.value?_eq (by simp [toFields]) hpayloads.1
    have hmeta : ms.value? "meta" = details := h.value?_eq (by simp [toFields]) hpayloads.2
    rw [kind, ofMembers, hrun, hnode, htype, hresult, hmeta, htime (by simp [toFields, time?])]
    rfl
  | flowWaiting runId nodeId waiting ts =>
    have hrun : ms.text "run_id" = runId := htext (by simp [toFields])
    have hnode : ms.text? "node_id" = nodeId := htext? (by simp [toFields])
    have hprompt : ms.text? "prompt" = waiting.prompt := htext? (by simp [toFields])
    have hchoices : ms.texts "choices" = waiting.choices := h.texts_eq (by simp [toFields])
    have hfree : ms.flag "allow_free_text" = waiting.allowFreeText := h.flag_eq (by simp [toFields])
    have hkey : ms.text? "wait_key" = waiting.waitKey := htext? (by simp [toFields])
    have hreason : ms.text? "reason" = waiting.reason := htext? (by simp [toFields])
    rw [kind, ofMembers, hrun, hnode, hprompt, hchoices, hfree, hkey, hreason,
      htime (by simp [toFields, time?])]
    rfl
  | flowError runId nodeId error ts =>
    have herror : error ≠ some .null := by simpa [payloads] using hnull
    have hrun : ms.text "run_id" = runId := htext (by simp [toFields])
    have hnode : ms.text? "node_id" = nodeId := htext? (by simp [toFields])
    have hvalue : ms.value? "error" = error := h.value?_eq (by simp [toFields]) herror
    rw [kind, ofMembers, hrun, hnode, hvalue, htime (by simp [toFields, time?])]
    rfl
  | subworkflowUpdate runId nodeId subRunId =>
    have hrun : ms.text "run_id" = runId := htext (by simp [toFields])
    have hnode : ms.text "node_id" = nodeId := htext (by simp [toFields])
    have hsub : ms.text "sub_run_id" = subRunId := htext (by simp [toFields])
    rw [kind, ofMembers, hrun, hnode, hsub]
    rfl
  | traceUpdate runId nodeId parentRunId steps =>
    have hrun : ms.text "run_id" = runId := htext (by simp [toFields])
    have hnode : ms.text "node_id" = nodeId := htext (by simp [toFields])
    have hparent : ms.text? "parent_run_id" = parentRunId := htext? (by simp [toFields])
    have hsteps : ms.items "steps" = steps := h.items_eq (by simp [toFields])
    rw [kind, ofMembers, hrun, hnode, hparent, hsteps]
    rfl
  | unknown => rfl

end

/-- An event without `null` among its payloads reads back as itself, with its time if the year is
plain and with none otherwise. -/
theorem decode_toJson_of_payloads {e : Event} (hnull : Json.null ∉ e.payloads) :
    decode e.toJson = .ok (e.withTime (e.time?.filter Instant.hasPlainYear)) := by
  have hread : decodeMembers e.members =
      .ok (e.withTime (e.time?.filter Instant.hasPlainYear)) := by
    rw [decodeMembers, e.typeOf_members]
    simp only [bind, Except.bind, e.fault?_withoutType]
    rw [ofMembers_of_holds e.holds_withoutType hnull]
  rw [toJson_eq, decode, hread]
  rfl

/-- What was read and is written reads back as the same event, in every field but the time; and the
time is the same as well, if there is none or its year lies between 0 and 9999. A time in any other
year is lost. -/
theorem decode_toJson {v : Json} {e : Event} (h : decode v = .ok e) :
    decode e.toJson = .ok (e.withTime (e.time?.filter Instant.hasPlainYear)) ∧
      ((∀ t, e.time? = some t → 0 ≤ t.date.year ∧ t.date.year ≤ 9999) →
        decode e.toJson = .ok e) ∧
      ∀ t, e.time? = some t → ¬ (0 ≤ t.date.year ∧ t.date.year ≤ 9999) →
        decode e.toJson = .ok (e.withTime none) := by
  have hback := decode_toJson_of_payloads (null_notMem_payloads_of_decode h)
  refine ⟨hback, fun hplain => ?_, fun t ht hsigned => ?_⟩
  · have hkept : e.time?.filter Instant.hasPlainYear = e.time? := by
      cases ht : e.time? with
      | none => rfl
      | some t => exact Option.filter_some_pos (Instant.hasPlainYear_iff.2 (hplain t ht))
    rw [hback, hkept, withTime_time?]
  · have hlost : e.time?.filter Instant.hasPlainYear = none := by
      rw [ht, Option.filter_some, if_neg (mt Instant.hasPlainYear_iff.1 hsigned)]
    rw [hback, hlost]

/-- A leap second that is given with an offset, fields that are `null`, and a nested payload. -/
theorem decode_toJson_of_leap_second :
    let result : Json := .object [("n", .null), ("xs", .array [.bool true, .string "x"])]
    let v : Json := .object [("type", .string "node_complete"), ("run_id", .string "r"),
      ("node_id", .null), ("result", result), ("meta", .null),
      ("ts", .string "2016-12-31T18:59:60.25-05:00")]
    let t : Instant := ⟨1483228799, 1250000000, by decide, by decide, by decide, by decide⟩
    let e : Event := .nodeComplete "r" "" none (some result) none (some t)
    decode v = .ok e ∧ decode e.toJson = .ok e := by
  intro result v t e
  have h : decode v = .ok e := by decide +kernel
  have hplain : 0 ≤ t.date.year ∧ t.date.year ≤ 9999 := by decide
  refine ⟨h, (decode_toJson h).2.1 fun t' ht => ?_⟩
  cases ht
  exact hplain

end Event

end RunWatch
