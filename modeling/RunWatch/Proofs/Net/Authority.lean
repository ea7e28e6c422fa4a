import Mathlib.Data.List.TakeWhile
import RunWatch.Net.Authority
import RunWatch.Proofs.Net.Domain

/-!
# Where an authority ends

In a scheme with domains, an authority is read from all that stands before the path, and what is
given back is the text from the path on (`Authority.read_service_eq_ok_iff`). It does not end in a
blank or a control of ASCII (`Authority.readFront_eq_ok`): an endpoint ends in digits, an address of
version 6 in a bracket, and a domain has no blanks.
-/

namespace RunWatch

open Text

/-! ### Readers -/

/-- A reader that gives back the end of the text that it reads. -/
def GivesEnd {α : Type} (read? : List Char → Option (α × List Char)) : Prop :=
  ∀ {cs : List Char} {a : α} {rest : List Char}, read? cs = some (a, rest) → rest <:+ cs

theorem leadingDigits_isSuffix (digit? : Char → Option Nat) (cs : List Char) :
    (leadingDigits digit? cs).2 <:+ cs := by
  induction cs with
  | nil => exact List.suffix_rfl
  | cons c rest ih =>
    rw [leadingDigits]
    split
    · exact ih.trans (List.suffix_cons c rest)
    · exact List.suffix_rfl

theorem givesEnd_readOctet? : GivesEnd readOctet? := by
  intro cs a rest h
  have hsuffix := leadingDigits_isSuffix digit? cs
  rw [readOctet?] at h
  split at h
  · simp at h
  · simp at h
  next ds after _ _ hread =>
    simp only [Option.ite_none_right_eq_some, Option.some.injEq, Prod.mk.injEq] at h
    rw [hread] at hsuffix
    exact h.2.2 ▸ hsuffix

theorem givesEnd_readGroup? : GivesEnd readGroup? := by
  intro cs a rest h
  have hsuffix := leadingDigits_isSuffix hexDigit? cs
  rw [readGroup?] at h
  split at h
  · simp at h
  next ds after _ hread =>
    simp only [Option.ite_none_right_eq_some, Option.some.injEq, Prod.mk.injEq] at h
    rw [hread] at hsuffix
    exact h.2.2 ▸ hsuffix

theorem GivesEnd.after {α : Type} {read? : List Char → Option (α × List Char)}
    (hread : GivesEnd read?) (c : Char) : GivesEnd (readAfter? c read?) := by
  intro cs a rest h
  cases cs with
  | nil => simp [readAfter?] at h
  | cons d cs =>
    rw [readAfter?, Option.ite_none_right_eq_some] at h
    exact (hread h.2).trans (List.suffix_cons d cs)

namespace Ipv4

theorem givesEnd_read? : GivesEnd read? := by
  intro cs x rest h
  have hafter : GivesEnd (readAfter? '.' readOctet?) := GivesEnd.after givesEnd_readOctet? '.'
  obtain ⟨⟨a, cs₁⟩, ha, h⟩ := Option.bind_eq_some_iff.1 h
  obtain ⟨⟨b, cs₂⟩, hb, h⟩ := Option.bind_eq_some_iff.1 h
  obtain ⟨⟨c, cs₃⟩, hc, h⟩ := Option.bind_eq_some_iff.1 h
  obtain ⟨⟨d, cs₄⟩, hd, h⟩ := Option.bind_eq_some_iff.1 h
  obtain ⟨-, rfl⟩ := Prod.mk.inj (Option.some.inj h)
  exact (((hafter hd).trans (hafter hc)).trans (hafter hb)).trans (givesEnd_readOctet? ha)

end Ipv4

namespace Ipv6

theorem givesEnd_separated? {α : Type} {read? : List Char → Option (α × List Char)}
    (hread : GivesEnd read?) (first : Bool) : GivesEnd (separated? first read?) := by
  intro cs a rest h
  rw [separated?] at h
  split at h
  · exact hread h
  · exact GivesEnd.after hread ':' h

theorem readGroups_isSuffix (room : Nat) (first : Bool) (cs : List Char) :
    (readGroups room first cs).2.2 <:+ cs := by
  induction room generalizing first cs with
  | zero => exact List.suffix_rfl
  | succ room ih =>
    rw [readGroups]
    split
    next x rest hv4 =>
      rw [Option.ite_none_left_eq_some] at hv4
      exact givesEnd_separated? Ipv4.givesEnd_read? first hv4.2
    next =>
      split
      · exact List.suffix_rfl
      next g rest hgroup =>
        exact (ih false rest).trans (givesEnd_separated? givesEnd_readGroup? first hgroup)

theorem givesEnd_read? : GivesEnd read? := by
  intro cs x rest h
  have hhead := readGroups_isSuffix 8 true cs
  rw [read?] at h
  dsimp only at h
  split at h
  · simp only [Option.some.injEq, Prod.mk.injEq] at h
    exact h.2 ▸ hhead
  · split at h
    · simp at h
    · split at h
      next after hrest =>
        simp only [Option.some.injEq, Prod.mk.injEq] at h
        have htail := readGroups_isSuffix (7 - (readGroups 8 true cs).1.length) true after
        rw [hrest] at hhead
        rw [← h.2]
        exact (htail.trans (List.suffix_append [':', ':'] after)).trans hhead
      · simp at h

end Ipv6

/-! ### Hosts -/

namespace Host

theorem ofDomain_of_mem {c : Char} (h : c.toNat ≤ 0x20) {cs : List Char} (hc : c ∈ cs) :
    ofDomain cs = .error .domain := by
  have hnone : ((Percent.decode? (String.ofList cs)).bind fun s => Domain.ofText? s.toList) =
      none := by
    cases hdecode : Percent.decode? (String.ofList cs) with
    | none => rfl
    | some s =>
      have hcs : c ∈ (String.ofList cs).toList := by rwa [String.toList_ofList]
      exact Domain.ofText?_eq_none_of_mem h (Percent.mem_of_decode? h hdecode hcs)
  rw [ofDomain, hnone]

/-- The text of a host does not end in a blank. -/
theorem lt_of_parse_eq_ok {init : List Char} {c : Char} {host : Host}
    (h : parse true (init ++ [c]) = .ok host) : 0x20 < c.toNat := by
  by_contra hle
  have hc : c.toNat ≤ 0x20 := Nat.le_of_not_lt hle
  generalize hcs : init ++ [c] = cs at h
  rw [parse.eq_def] at h
  split at h
  next rest =>
    split at h
    next x hread =>
      -- What is left behind the address is a bracket, so the text ends in it.
      obtain ⟨front, hfront⟩ := Ipv6.givesEnd_read? hread
      have hlast : (init ++ [c]).getLast? = ('[' :: front ++ [']']).getLast? := by
        rw [hcs, ← hfront]
        rfl
      rw [List.getLast?_concat, List.getLast?_concat, Option.some.injEq] at hlast
      exact absurd hc (by rw [hlast]; decide)
    next => simp at h
  next =>
    rw [if_pos rfl, ← hcs,
      ofDomain_of_mem hc (List.mem_append_right _ List.mem_cons_self)] at h
    simp at h

end Host

/-! ### Authorities -/

namespace Authority

theorem splitHost_append (inBrackets : Bool) (cs : List Char) :
    (splitHost inBrackets cs).1 ++ (splitHost inBrackets cs).2 = cs := by
  induction cs generalizing inBrackets with
  | nil => rfl
  | cons c rest ih =>
    rw [splitHost]
    split
    · rfl
    · exact congrArg (c :: ·) (ih _)

theorem head?_splitHost (inBrackets : Bool) (cs : List Char) :
    ∀ c ∈ (splitHost inBrackets cs).2.head?, c = ':' := by
  induction cs generalizing inBrackets with
  | nil => simp [splitHost]
  | cons c rest ih =>
    rw [splitHost]
    split
    next h => simp [h.1]
    next => exact ih _

theorem isSome_of_leadingDigits {digit? : Char → Option Nat} {cs : List Char}
    (h : (leadingDigits digit? cs).2 = []) : ∀ c ∈ cs, (digit? c).isSome = true := by
  induction cs with
  | nil => simp
  | cons c rest ih =>
    rw [leadingDigits] at h
    split at h
    next d hd =>
      intro x hx
      rcases List.mem_cons.1 hx with rfl | hx
      · rw [hd]
        rfl
      · exact ih h x hx
    next => simp at h

/-- What stands behind a host is read to its end, and consists of digits. -/
theorem readEndpoint_eq_ok {standard endpoint : Option Nat} {mark : Char} {cs rest : List Char}
    (hcs : '\\' ∉ cs) (h : readEndpoint standard (mark :: cs) = .ok (endpoint, rest)) :
    rest = [] ∧ ∀ c ∈ cs, (digit? c).isSome = true := by
  have hsuffix := leadingDigits_isSuffix digit? cs
  rw [readEndpoint] at h
  dsimp only at h
  split at h
  · simp at h
  next hhead =>
    have hnil : (leadingDigits digit? cs).2 = [] := by
      cases hafter : (leadingDigits digit? cs).2 with
      | nil => rfl
      | cons c after =>
        rw [hafter] at hhead hsuffix
        have hc : c = '\\' := by
          by_contra hne
          exact hhead (.inl (by simpa using hne))
        exact absurd (hc ▸ hsuffix.subset List.mem_cons_self) hcs
    refine ⟨?_, isSome_of_leadingDigits hnil⟩
    rw [hnil] at h
    split at h <;> simp_all

/-- What stands before the path of a text after its scheme. -/
def front (cs : List Char) : List Char := cs.takeWhile (!SchemeKind.service.startsPath ·)

theorem backslash_notMem_front {cs : List Char} : '\\' ∉ front cs := fun hmem =>
  absurd (List.mem_takeWhile_imp hmem) (by decide)

/-- A text after its scheme, from its path on. -/
def behind (cs : List Char) : List Char := cs.dropWhile (!SchemeKind.service.startsPath ·)

/-- What stands before the last at sign, if there is one, and what stands behind it. -/
def sides (cs : List Char) : Option (List Char) × List Char :=
  match splitLast? '@' cs with
  | some (before, place) => (some before, place)
  | none => (none, cs)

/-- Reads an authority from what stands before a path, in a scheme with domains. -/
def readFront (standard : Option Nat) (cs : List Char) :
    Except AuthorityFault (Authority × List Char) :=
  if (splitHost false (sides cs).2).1.isEmpty then .error (.host .empty)
  else do
    let host ← (Host.parse true (splitHost false (sides cs).2).1).mapError .host
    let (endpoint, rest) ← readEndpoint standard (splitHost false (sides cs).2).2
    let (user, password) := userOf ((sides cs).1.getD [])
    return (⟨user, password, host, endpoint⟩, rest)

variable {standard : Option Nat}

theorem read_service (cs : List Char) :
    read .service standard cs =
      (readFront standard (front cs)).map fun r => (r.1, r.2 ++ behind cs) := by
  rw [read, readFront]
  dsimp only
  rw [beq_self_eq_true, Bool.true_or, Bool.true_or, Bool.and_true]
  change (if (splitHost false (sides (front cs)).2).1.isEmpty then _ else
    (Host.parse true (splitHost false (sides (front cs)).2).1).mapError _ >>= fun host =>
      readEndpoint standard (splitHost false (sides (front cs)).2).2 >>= _) = _
  split
  · rfl
  · cases Host.parse true (splitHost false (sides (front cs)).2).1 with
    | error fault => rfl
    | ok host =>
      cases readEndpoint standard (splitHost false (sides (front cs)).2).2 with
      | error fault => rfl
      | ok r => rfl

theorem sides_isSuffix (cs : List Char) : (sides cs).2 <:+ cs := by
  rw [sides]
  split
  next before place h =>
    rw [eq_append_of_splitLast? h]
    exact (List.suffix_cons '@' place).trans (List.suffix_append before _)
  next => exact List.suffix_rfl

/-- An authority is read to its end, which is no blank. -/
theorem readFront_eq_ok {cs rest : List Char} {a : Authority} (hcs : '\\' ∉ cs)
    (h : readFront standard cs = .ok (a, rest)) :
    rest = [] ∧ ∃ init c, cs = init ++ [c] ∧ 0x20 < c.toNat := by
  obtain ⟨before, hsides⟩ := sides_isSuffix cs
  have happend := splitHost_append false (sides cs).2
  have hhead := head?_splitHost false (sides cs).2
  rw [readFront] at h
  generalize (splitHost false (sides cs).2).1 = name at h happend
  generalize (splitHost false (sides cs).2).2 = after at h happend hhead
  split at h
  · simp at h
  next hname =>
    cases hhost : Host.parse true name with
    | error fault =>
      rw [hhost] at h
      cases h
    | ok host =>
      rw [hhost] at h
      cases hafter : readEndpoint standard after with
      | error fault =>
        rw [hafter] at h
        cases h
      | ok r =>
        rw [hafter] at h
        obtain ⟨-, rfl⟩ := Prod.mk.inj (Except.ok.inj h)
        rw [← hsides, ← happend]
        cases after with
        | nil =>
          obtain rfl := Except.ok.inj hafter
          obtain rfl | ⟨init, c, rfl⟩ := List.eq_nil_or_concat name
          · exact absurd rfl hname
          · refine ⟨rfl, before ++ init, c, by simp, ?_⟩
            rw [List.concat_eq_append] at hhost
            exact Host.lt_of_parse_eq_ok hhost
        | cons mark ds =>
          obtain rfl : mark = ':' := hhead mark rfl
          have hds : '\\' ∉ ds := fun hmem => hcs <| by
            rw [← hsides, ← happend]
            exact List.mem_append_right _ (List.mem_append_right _ (List.mem_cons_of_mem _ hmem))
          obtain ⟨hrest, hdigits⟩ := readEndpoint_eq_ok hds hafter
          refine ⟨hrest, ?_⟩
          obtain rfl | ⟨init, c, rfl⟩ := List.eq_nil_or_concat ds
          · exact ⟨before ++ name, ':', by simp, by decide⟩
          · refine ⟨before ++ name ++ ':' :: init, c, by simp, ?_⟩
            have hdigit := hdigits c (by simp)
            rw [digit?, Option.isSome_ite] at hdigit
            exact Nat.lt_of_lt_of_le (by decide) hdigit.1

/-- What it takes to read an authority in a scheme with domains, and what is left. -/
theorem read_service_eq_ok_iff {cs rest : List Char} {a : Authority} :
    read .service standard cs = .ok (a, rest) ↔
      readFront standard (front cs) = .ok (a, []) ∧ rest = behind cs := by
  rw [read_service]
  cases hread : readFront standard (front cs) with
  | error fault => simp [Except.map]
  | ok r =>
    have hback : r.2 = [] := (readFront_eq_ok backslash_notMem_front hread).1
    simp only [Except.map, hback, List.nil_append, Except.ok.injEq, Prod.mk.injEq]
    rw [Prod.ext_iff]
    simp [hback, eq_comm]

end Authority

end RunWatch
