import Mathlib.Data.List.Basic
import RunWatch.Net.Domain
import RunWatch.Proofs.Text.Canonical
import RunWatch.Proofs.Text.Percent

/-!
# No blank stands in a domain

A blank or a control of ASCII is not lost on the way from a text to the written form of a domain:
it is spelled as itself, the canonical form keeps it, and neither way of writing a label in Punycode
drops it. No domain is written with it, and so a text with it is no domain
(`Domain.ofText?_eq_none_of_mem`).
-/

namespace RunWatch

open Text

variable {c : Char}

/-! ### Parts of lists -/

theorem exists_mem_of_mapM_eq_some {α β : Type} {f : α → Option β} {xs : List α} {ys : List β}
    (h : xs.mapM f = some ys) {x : α} (hx : x ∈ xs) : ∃ y ∈ ys, f x = some y := by
  induction xs generalizing ys with
  | nil => exact absurd hx List.not_mem_nil
  | cons z zs ih =>
    rw [List.mapM_cons] at h
    simp only [Option.bind_eq_bind, Option.bind_eq_some_iff, Option.pure_def,
      Option.some.injEq] at h
    obtain ⟨y, hy, rest, hrest, rfl⟩ := h
    rcases List.mem_cons.1 hx with rfl | hx
    · exact ⟨y, List.mem_cons_self, hy⟩
    · obtain ⟨y', hmem, hy'⟩ := ih hrest hx
      exact ⟨y', List.mem_cons_of_mem y hmem, hy'⟩

theorem foldlM_eq_none_of_mem {α β : Type} {f : β → α → Option β} {x : α}
    (hf : ∀ b, f b x = none) {xs : List α} (hx : x ∈ xs) (b : β) : xs.foldlM f b = none := by
  induction xs generalizing b with
  | nil => exact absurd hx List.not_mem_nil
  | cons y ys ih =>
    rw [List.foldlM_cons]
    rcases List.mem_cons.1 hx with rfl | hx
    · rw [hf]
      rfl
    · cases f b y with
      | none => rfl
      | some b' => exact ih hx b'

theorem exists_mem_splitOn {p : Char → Bool} (hp : p c = false) {cs : List Char} (hc : c ∈ cs) :
    ∃ part ∈ splitOn p cs, c ∈ part := by
  induction cs with
  | nil => exact absurd hc List.not_mem_nil
  | cons d rest ih =>
    rw [splitOn]
    rcases List.mem_cons.1 hc with rfl | hc
    · rw [hp, if_neg Bool.false_ne_true]
      split <;> exact ⟨_, List.mem_cons_self, List.mem_cons_self⟩
    · obtain ⟨part, hpart, hcpart⟩ := ih hc
      split
      · exact ⟨part, List.mem_cons_of_mem _ hpart, hcpart⟩
      · split
        next hnil => exact absurd hnil (splitOn_ne_nil p rest)
        next first others hsplit =>
          rw [hsplit, List.mem_cons] at hpart
          rcases hpart with rfl | hpart
          · exact ⟨d :: part, List.mem_cons_self, List.mem_cons_of_mem d hcpart⟩
          · exact ⟨part, List.mem_cons_of_mem _ hpart, hcpart⟩

theorem mem_intercalate_of_mem {sep : List Char} {parts : List (List Char)} {part : List Char}
    (hpart : part ∈ parts) (hc : c ∈ part) : c ∈ sep.intercalate parts := by
  induction parts with
  | nil => exact absurd hpart List.not_mem_nil
  | cons first others ih =>
    cases others with
    | nil =>
      rw [List.mem_singleton.1 hpart] at hc
      simpa [List.intercalate] using hc
    | cons second others =>
      rw [List.intercalate_cons_cons, List.mem_append, List.mem_append]
      rcases List.mem_cons.1 hpart with rfl | hpart
      · exact .inl (.inl hc)
      · exact .inr (ih hpart)

/-! ### Punycode -/

namespace Text.Punycode

theorem digitValue?_of_le (h : c.toNat ≤ 0x20) : digitValue? c = none := by
  rw [digitValue?, if_neg, if_neg, if_neg]
  · exact fun hd => not_le_of_toNat_le h (by decide) hd.1
  · exact fun hd => not_le_of_toNat_le h (by decide) hd.1
  · exact fun hd => not_le_of_toNat_le h (by decide) hd.1

theorem mem_text_insert? {d e : Decoder} {number : Nat} (h : d.insert? number = some e)
    (hc : c ∈ d.text) : c ∈ e.text := by
  rw [Decoder.insert?, Option.ite_none_right_eq_some, Option.some.injEq] at h
  obtain ⟨-, rfl⟩ := h
  have hplace : (d.place + number) % (d.text.length + 1) < d.text.length + 1 :=
    Nat.mod_lt _ (Nat.succ_pos _)
  exact (List.mem_insertIdx (Nat.le_of_lt_succ hplace)).2 (.inr hc)

theorem mem_text_step? {d e : Decoder} {x : Char} (h : d.step? x = some e) (hc : c ∈ d.text) :
    c ∈ e.text := by
  simp only [Decoder.step?, Option.bind_eq_bind, Option.bind_eq_some_iff] at h
  obtain ⟨digit, -, h⟩ := h
  split at h
  · exact mem_text_insert? h hc
  · obtain rfl := Option.some.inj h
    exact hc

theorem mem_text_foldlM {xs : List Char} {d e : Decoder}
    (h : xs.foldlM Decoder.step? d = some e) (hc : c ∈ d.text) : c ∈ e.text := by
  induction xs generalizing d with
  | nil =>
    obtain rfl := Option.some.inj h
    exact hc
  | cons x xs ih =>
    rw [List.foldlM_cons] at h
    obtain ⟨d', hstep, h⟩ := Option.bind_eq_some_iff.1 h
    exact ih h (mem_text_step? hstep hc)

theorem foldlM_step?_of_mem (h : c.toNat ≤ 0x20) {xs : List Char} (hc : c ∈ xs) (d : Decoder) :
    xs.foldlM Decoder.step? d = none :=
  foldlM_eq_none_of_mem (fun d => by rw [Decoder.step?, digitValue?_of_le h]; rfl) hc d

theorem mem_decode? (h : c.toNat ≤ 0x20) {cs ds : List Char} (hdecode : decode? cs = some ds)
    (hc : c ∈ cs) : c ∈ ds := by
  rw [decode?] at hdecode
  split at hdecode
  next basic numbers hsplit =>
    -- What stands before the last hyphen is kept, and behind it stand only digits.
    have hmem : c ∈ basic ∨ c ∈ numbers := by
      split at hsplit
      next b front back hlast =>
        obtain ⟨rfl, rfl⟩ := Prod.mk.inj hsplit
        rw [eq_append_of_splitLast? hlast, List.mem_append] at hc
        have hne : c ≠ '-' := by
          rintro rfl
          exact absurd h (by decide)
        exact hc.imp_right fun hc => (List.mem_cons.1 hc).resolve_left hne
      next =>
        obtain ⟨rfl, rfl⟩ := Prod.mk.inj hsplit
        exact .inr hc
    rw [Option.ite_none_right_eq_some] at hdecode
    obtain ⟨d, hd, hds⟩ := Option.bind_eq_some_iff.1 hdecode.2
    rw [Option.ite_none_right_eq_some, Option.some.injEq] at hds
    rw [← hds.2]
    rcases hmem with hmem | hmem
    · exact mem_text_foldlM hd hmem
    · simp [foldlM_step?_of_mem h hmem] at hd

end Text.Punycode

/-! ### Domains -/

namespace Domain

theorem spell?_of_le (h : c.toNat ≤ 0x20) : spell? c = some [c] := by
  have hlower : c.toLower = c :=
    dif_neg fun hc => not_le_of_toNat_le h (show 0x20 < 'A'.toNat by decide) hc.1
  rw [spell?, if_pos (by omega), hlower]

theorem mem_decodeLabel? (h : c.toNat ≤ 0x20) {cs ds : List Char}
    (hdecode : decodeLabel? cs = some ds) (hc : c ∈ cs) : c ∈ ds := by
  rw [decodeLabel?] at hdecode
  split at hdecode
  next hmark =>
    obtain ⟨rest, rfl⟩ := List.isPrefixOf_iff_prefix.1 hmark
    obtain ⟨decoded, hdecoded, hif⟩ := Option.bind_eq_some_iff.1 hdecode
    rw [Option.ite_none_right_eq_some, Option.some.injEq] at hif
    rw [List.drop_left] at hdecoded
    have hnotMark : c ∉ codeMark := fun hmem => by
      have hall : codeMark.all (0x20 < ·.toNat) = true := by decide
      exact absurd (of_decide_eq_true (List.all_eq_true.1 hall c hmem)) (by omega)
    rw [← hif.2]
    exact Punycode.mem_decode? h hdecoded ((List.mem_append.1 hc).resolve_left hnotMark)
  next =>
    rw [← Option.some.inj hdecode]
    exact hc

theorem mem_encodeLabel (h : c.toNat ≤ 0x20) {cs : List Char} (hc : c ∈ cs) :
    c ∈ encodeLabel cs := by
  rw [encodeLabel]
  split
  · exact hc
  · have hbasic : c ∈ cs.filter Punycode.isBasic :=
      List.mem_filter.2 ⟨hc, decide_eq_true (by omega)⟩
    refine List.mem_append_right _ ?_
    rw [Punycode.encode, if_neg (by simpa using List.ne_nil_of_mem hbasic)]
    exact List.mem_append_left _ hbasic

/-- A text with a blank or a control is no domain. -/
theorem ofText?_eq_none_of_mem (h : c.toNat ≤ 0x20) {cs : List Char} (hc : c ∈ cs) :
    ofText? cs = none := by
  rw [Option.eq_none_iff_forall_ne_some]
  intro written hwritten
  obtain ⟨labels, hlabels, hwritten⟩ := Option.bind_eq_some_iff.1 hwritten
  obtain ⟨spelled, hspelled, hlabels⟩ := Option.bind_eq_some_iff.1 hlabels
  obtain ⟨decoded, hdecoded, hlabels⟩ := Option.bind_eq_some_iff.1 hlabels
  rw [Option.ite_none_right_eq_some, Option.some.injEq] at hlabels
  rw [Option.ite_none_left_eq_some, ← hlabels.2] at hwritten
  obtain ⟨text, htext, hspell⟩ := exists_mem_of_mapM_eq_some hspelled hc
  rw [spell?_of_le h, Option.some.injEq] at hspell
  have hcanonical : c ∈ canonical spelled.flatten :=
    mem_canonical h (List.mem_flatten.2 ⟨text, htext, hspell ▸ List.mem_singleton.2 rfl⟩)
  have hdot : (c == '.') = false := by
    rw [beq_eq_false_iff_ne]
    rintro rfl
    exact absurd h (by decide)
  obtain ⟨part, hpart, hcpart⟩ := exists_mem_splitOn (p := (· == '.')) hdot hcanonical
  obtain ⟨label, hlabel, hdecode⟩ := exists_mem_of_mapM_eq_some hdecoded hpart
  have hcwritten : c ∈ ['.'].intercalate (decoded.map encodeLabel) :=
    mem_intercalate_of_mem (List.mem_map_of_mem hlabel)
      (mem_encodeLabel h (mem_decodeLabel? h hdecode hcpart))
  have hforbidden : isForbidden c = true := by simp [isForbidden, h]
  exact hwritten.1 (List.any_eq_true.2 ⟨c, hcwritten, hforbidden⟩)

example : ofText? "a b".toList = none := by decide +kernel

end Domain

end RunWatch
