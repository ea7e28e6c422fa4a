import RunWatch.Net.Url.Path
import RunWatch.Proofs.Text.Percent

/-!
# Segments behind a path

What `Path.push` adds to a path. Most texts become one segment that they are read back from
(`Path.push_of_isSegment`). The others are dots, of which none is added, and texts with line breaks,
which are lost; what is left of these may be dots again, and then takes effect as such.
-/

namespace RunWatch

open Text

namespace Url

variable {k : SchemeKind}

/-- Characters that are encoded do not stand in the text that comes of it, unless they are part of
the encoding. -/
theorem mem_encodeWith {marks cs : List Char} {c : Char} (h : c ∈ (encodeWith marks cs).toList) :
    c ∉ marks ∨ c = '%' ∨ ∃ n < 16, c = upperHexDigit n := by
  rw [encodeWith, String.toList_ofList, Percent.encode, List.mem_flatMap] at h
  obtain ⟨d, -, hc⟩ := h
  split at hc
  next hd =>
    rw [Bool.and_eq_true, Bool.not_eq_true', List.contains_eq_mem, decide_eq_false_iff_not] at hd
    rw [List.mem_singleton.1 hc]
    exact .inl hd.2
  next =>
    rw [Percent.encodeChar, List.mem_flatMap] at hc
    obtain ⟨b, -, hc⟩ := hc
    have hb : b.toNat < 256 := b.toNat_lt
    simp only [Percent.encodeByte, List.mem_cons, List.not_mem_nil, or_false] at hc
    rcases hc with rfl | rfl | rfl
    · exact .inr (.inl rfl)
    · exact .inr (.inr ⟨b.toNat / 16, by omega, rfl⟩)
    · exact .inr (.inr ⟨b.toNat % 16, by omega, rfl⟩)

theorem mem_segmentMarks_of_startsPath {c : Char} (h : k.startsPath c = true) :
    c ∈ segmentMarks k := by
  simp only [SchemeKind.startsPath, SchemeKind.isSlash, Bool.or_eq_true, Bool.and_eq_true,
    beq_iff_eq, bne_iff_ne] at h
  rcases h with ((rfl | ⟨hk, rfl⟩) | rfl) | rfl
  · simp [segmentMarks]
  · simp [segmentMarks, hk]
  · simp [segmentMarks, pathMarks]
  · simp [segmentMarks, pathMarks]

/-- Nothing that ends a segment stands in one that was encoded. -/
theorem startsPath_of_mem_encodeWith {cs : List Char} {c : Char}
    (h : c ∈ (encodeWith (segmentMarks k) cs).toList) : k.startsPath c = false := by
  rw [Bool.eq_false_iff]
  intro hc
  rcases mem_encodeWith h with hmark | rfl | ⟨n, hn, rfl⟩
  · exact hmark (mem_segmentMarks_of_startsPath hc)
  · cases k <;> simp [SchemeKind.startsPath, SchemeKind.isSlash] at hc
  · have hall : ∀ m : Fin 16, k.startsPath (upperHexDigit m) = false := by cases k <;> decide
    exact Bool.false_ne_true ((hall ⟨n, hn⟩).symm.trans hc)

theorem decode?_encodeWith_segmentMarks (k : SchemeKind) (cs : List Char) :
    Percent.decode? (encodeWith (segmentMarks k) cs) = some (String.ofList cs) :=
  Percent.decode?_encode (by simp [segmentMarks]) cs

end Url

namespace Path

variable {k : SchemeKind}

/-! ### The path in front -/

/-- The segments of a path behind which others are put: an empty one at the end does not count, nor
does an only one that is empty. -/
def kept (path : List String) : List String :=
  if withoutEmptyEnd path = [""] then [] else withoutEmptyEnd path

theorem append_withoutEmptyEnd (path : List String) (segment : String) :
    append (withoutEmptyEnd path) segment = kept path ++ [segment] := by
  rw [append, kept]
  split <;> rfl

theorem append_of_ne {path : List String} (h : path ≠ [""]) (segment : String) :
    append path segment = path ++ [segment] := if_neg h

/-! ### Texts that become a segment -/

/-- Whether a text becomes one segment: it is no dots, and has no line breaks. -/
def IsSegment (s : String) : Prop := s ≠ "." ∧ s ≠ ".." ∧ ∀ c ∈ s.toList, Url.isLineBreak c = false

instance (s : String) : Decidable (IsSegment s) :=
  decidable_of_iff (s ≠ "." ∧ s ≠ ".." ∧ s.toList.all (!Url.isLineBreak ·) = true) <| by
    simp only [IsSegment, List.all_eq_true, Bool.not_eq_true']

theorem push_of_isSegment {segment : String} (h : IsSegment segment) (path : List String) :
    push k path segment =
      append path (Url.encodeWith (Url.segmentMarks k) segment.toList) := by
  obtain ⟨hdot, hdots, hbreaks⟩ := h
  have hcs : (segment.toList.filter fun c => !Url.isLineBreak c) = segment.toList :=
    List.filter_eq_self.2 fun c hc => by rw [hbreaks c hc]; rfl
  rw [push, if_neg (not_or.2 ⟨hdot, hdots⟩)]
  simp only [hcs, String.toList_inj]
  rw [if_neg hdots, if_neg hdot]

theorem eq_of_append_eq {path init : List String} {s t : String}
    (h : append path s = init ++ [t]) : s = t := by
  rw [append] at h
  split at h
  · simpa using congrArg List.getLast? h
  · simpa using congrArg List.getLast? h

/-- One segment that a text is read back from is added for exactly the texts that become one. For
the others the path stays as it is, or ends in an empty segment, or in one that lacks the line
breaks. -/
theorem exists_push_eq_append_iff {path : List String} (hpath : path ≠ [""]) {s : String} :
    (∃ t, push k path s = path ++ [t] ∧ (∀ c ∈ t.toList, k.startsPath c = false) ∧
      Percent.decode? t = some s) ↔ IsSegment s := by
  constructor
  · rintro ⟨t, hpush, -, ht⟩
    have hempty : Percent.decode? "" = some "" := by decide +kernel
    rw [push] at hpush
    split at hpush
    · simp at hpush
    next hdots =>
      dsimp only at hpush
      have hne : ∀ cs, cs ≠ [] → s.toList.filter (fun c => !Url.isLineBreak c) = cs → t ≠ "" := by
        rintro cs hcs hfilter rfl
        rw [← Option.some.inj (hempty.symm.trans ht)] at hfilter
        exact hcs hfilter.symm
      split at hpush
      next hfilter => exact absurd (eq_of_append_eq hpush).symm (hne _ (by decide) hfilter)
      split at hpush
      next hfilter => exact absurd (eq_of_append_eq hpush).symm (hne _ (by decide) hfilter)
      next =>
        -- What was encoded is read back without its line breaks, so there were none.
        rw [← eq_of_append_eq hpush, Url.decode?_encodeWith_segmentMarks, Option.some.injEq,
          ← String.toList_inj, String.toList_ofList, List.filter_eq_self] at ht
        refine ⟨fun h => hdots (.inl h), fun h => hdots (.inr h), fun c hc => ?_⟩
        simpa using ht c hc
  · intro h
    refine ⟨Url.encodeWith (Url.segmentMarks k) s.toList, ?_, ?_, ?_⟩
    · rw [push_of_isSegment h, append_of_ne hpath]
    · exact fun c hc => Url.startsPath_of_mem_encodeWith hc
    · rw [Url.decode?_encodeWith_segmentMarks, String.ofList_toList]

-- The tab is lost on the way, so this text is none that is read back.
example : push .service ["artifacts"] "a/\t%" = ["artifacts", "a%2F%25"] := by decide +kernel

/-! ### Texts that do not -/

/-- At most the last segment of a path is lost. -/
theorem isPrefix_push {last : String} (hdrive : namesDrive last = false) (hlast : last ≠ "")
    (path : List String) (s : String) : path <+: push k (path ++ [last]) s := by
  have hne : path ++ [last] ≠ [""] := fun h => hlast (by simpa using congrArg List.getLast? h)
  have hshort : (shortened (path ++ [last]).reverse).reverse = path := by
    rw [List.reverse_append, List.reverse_singleton, List.singleton_append, shortened, hdrive,
      if_neg Bool.false_ne_true, List.reverse_reverse]
  rw [push]
  split
  · exact List.prefix_append _ _
  · dsimp only
    rw [hshort, append_of_ne hne, append_of_ne hne, List.append_assoc, List.append_assoc]
    split
    · rw [append]
      split
      next h => exact h ▸ List.prefix_rfl
      next => exact List.prefix_append _ _
    · split <;> exact List.prefix_append _ _

/-! ### The text -/

theorem text_append_singleton (path : List String) (s : String) :
    text (path ++ [s]) = text path ++ ("/" ++ s) := by
  rw [text, text, List.map_append, String.join_append]
  simp

end Path

end RunWatch
