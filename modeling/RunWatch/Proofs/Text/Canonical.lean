import Mathlib.Data.List.Basic
import RunWatch.Text.Canonical

/-!
# Characters that the canonical form keeps

A blank or a control of ASCII is in no composite, so that it stands in the canonical form of each
text in which it stands (`mem_canonical`).
-/

namespace RunWatch.Text

variable {c : Char}

/-! ### Tables -/

namespace CodeBlock

/-- Whether an entry is about characters above a code point, and texts of such characters. -/
def IsAbove (n : Nat) (b : CodeBlock) : Prop :=
  n < b.first ∧ ∀ text ∈ b.texts, ∀ c ∈ text, n < c.toNat

instance (n : Nat) (b : CodeBlock) : Decidable (b.IsAbove n) :=
  decidable_of_iff (n < b.first ∧ b.texts.all (·.all fun c => n < c.toNat) = true) <| by
    simp only [IsAbove, List.all_eq_true, decide_eq_true_eq]

theorem forall_mem_listOf_nil (p : CodeBlock → Prop) : ∀ b ∈ listOf [], p b :=
  fun _ hb => absurd hb List.not_mem_nil

theorem forall_mem_listOf_cons {p : CodeBlock → Prop} {row : List Char} {rows : List String}
    (hrow : ∀ b ∈ (splitOn (· == ' ') row).map ofEntry, p b) (hrows : ∀ b ∈ listOf rows, p b) :
    ∀ b ∈ listOf (String.ofList row :: rows), p b := by
  intro b hb
  rw [listOf, List.flatMap_cons, String.toList_ofList, List.mem_append] at hb
  exact hb.elim (hrow b) (hrows b)

end CodeBlock

/-! ### Composites -/

-- The characters of a row are its literal: to compute them from the bytes of the row takes minutes.
theorem composites_isAbove : ∀ b ∈ composites, b.IsAbove 0x20 := by
  unfold composites
  repeat refine CodeBlock.forall_mem_listOf_cons (by decide +kernel) ?_
  exact CodeBlock.forall_mem_listOf_nil _

theorem parts?_of_le (h : c.toNat ≤ 0x20) : parts? c = none := by
  have hangul : Hangul.parts? c = none := by
    rw [Hangul.parts?, Hangul.index?, if_neg (by simp only [Hangul.syllable]; omega)]
    rfl
  have hlisted : composites.findSome? (·.text? c) = none := by
    rw [List.findSome?_eq_none_iff]
    intro b hb
    rw [CodeBlock.text?, if_neg]
    exact fun hfirst => absurd (composites_isAbove b hb).1 (by omega)
  rw [parts?, hangul, hlisted]

theorem char?_of_mem {b : CodeBlock} (hb : b ∈ composites) {text : List Char} (hc : c ∈ text)
    (h : c.toNat ≤ 0x20) : b.char? text = none := by
  have hfind : b.texts.findIdx? (· == text) = none := by
    rw [List.findIdx?_eq_none_iff]
    intro t ht
    rw [beq_eq_false_iff_ne]
    rintro rfl
    exact absurd ((composites_isAbove b hb).2 t ht c hc) (by omega)
  rw [CodeBlock.char?, hfind]
  rfl

theorem whole?_of_le {a b : Char} (h : a.toNat ≤ 0x20 ∨ b.toNat ≤ 0x20) : whole? a b = none := by
  have hangul : Hangul.whole? a b = none := by
    rw [Hangul.whole?, if_neg (by simp only [Hangul.leading, Hangul.vowel]; omega)]
    split
    next i hi =>
      rw [if_neg]
      rintro ⟨-, hlow, -⟩
      rw [Hangul.index?, Option.ite_none_right_eq_some] at hi
      simp only [Hangul.syllable, Hangul.trailing] at hi hlow
      omega
    next => rfl
  have hlisted : composites.findSome? (·.char? [a, b]) = none := by
    rw [List.findSome?_eq_none_iff]
    intro block hblock
    rcases h with h | h
    · exact char?_of_mem hblock (by simp) h
    · exact char?_of_mem hblock (by simp) h
  rw [whole?, hangul, hlisted]
  rfl

/-! ### Canonical texts -/

theorem placeMark_perm (c : Char) (cs : List Char) : (placeMark c cs).Perm (c :: cs) := by
  induction cs with
  | nil => exact .refl _
  | cons d rest ih =>
    rw [placeMark]
    split
    · exact (ih.cons d).trans (.swap c d rest)
    · exact .refl _

theorem withOrderedMarks_perm (cs : List Char) : (withOrderedMarks cs).Perm cs := by
  induction cs with
  | nil => exact .refl _
  | cons c cs ih => exact (placeMark_perm c _).trans (ih.cons c)

theorem mem_composeFrom (h : c.toNat ≤ 0x20) {base : Char} {marks cs : List Char}
    (hc : c = base ∨ c ∈ marks ∨ c ∈ cs) : c ∈ composeFrom base marks cs := by
  induction cs generalizing base marks with
  | nil =>
    rw [composeFrom, List.mem_cons, List.mem_reverse]
    exact hc.imp_right fun h => h.resolve_right List.not_mem_nil
  | cons d rest ih =>
    rw [List.mem_cons] at hc
    rw [composeFrom]
    split
    next joined hjoined =>
      -- The character is none of the two that are put together.
      have hwhole : whole? base d = some joined := by
        split at hjoined
        · exact absurd hjoined (by simp)
        · exact hjoined
      have hapart : ¬(base.toNat ≤ 0x20 ∨ d.toNat ≤ 0x20) := fun hle => by
        simp [whole?_of_le hle] at hwhole
      rcases hc with rfl | hmarks | rfl | hrest
      · exact absurd (.inl h) hapart
      · exact ih (.inr (.inl hmarks))
      · exact absurd (.inr h) hapart
      · exact ih (.inr (.inr hrest))
    next =>
      split
      · rw [List.cons_append, List.mem_cons, List.mem_append, List.mem_reverse]
        rcases hc with hbase | hmarks | hd | hrest
        · exact .inl hbase
        · exact .inr (.inl hmarks)
        · exact .inr (.inr (ih (.inl hd)))
        · exact .inr (.inr (ih (.inr (.inr hrest))))
      · apply ih
        rcases hc with hbase | hmarks | hd | hrest
        · exact .inl hbase
        · exact .inr (.inl (List.mem_cons_of_mem d hmarks))
        · exact .inr (.inl (hd ▸ List.mem_cons_self))
        · exact .inr (.inr hrest)

theorem mem_compose (h : c.toNat ≤ 0x20) {cs : List Char} (hc : c ∈ cs) : c ∈ compose cs := by
  cases cs with
  | nil => exact absurd hc List.not_mem_nil
  | cons d rest =>
    rw [List.mem_cons] at hc
    exact mem_composeFrom h (hc.imp_right .inr)

theorem mem_canonical (h : c.toNat ≤ 0x20) {cs : List Char} (hc : c ∈ cs) : c ∈ canonical cs := by
  rw [canonical]
  split
  · exact hc
  · refine mem_compose h ((withOrderedMarks_perm _).mem_iff.2 (List.mem_flatMap.2 ⟨c, hc, ?_⟩))
    rw [compositeDepth, decomposed, parts?_of_le h]
    exact List.mem_singleton.2 rfl

end RunWatch.Text
