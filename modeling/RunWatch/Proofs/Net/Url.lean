import Mathlib.Data.List.TakeWhile
import RunWatch.Net.Url
import RunWatch.Proofs.Net.Authority

/-!
# Slashes at the end of a URL

A URL with a domain, and with no query and no fragment, is still one without the slashes at its end,
with the same authority (`Url.exists_parse_trimEndSlashes`). A blank may stand before these slashes.
It then belongs to the path, or the text is no URL at all, since no authority ends in a blank.
-/

namespace RunWatch

open Text

/-! ### Ends of texts -/

theorem exists_eq_dropEndWhile_append (p : Char → Bool) (cs : List Char) :
    ∃ ends, cs = dropEndWhile p cs ++ ends ∧ ∀ c ∈ ends, p c = true := by
  refine ⟨(cs.reverse.takeWhile p).reverse, ?_, ?_⟩
  · rw [dropEndWhile, ← List.reverse_append, List.takeWhile_append_dropWhile, List.reverse_reverse]
  · intro c hc
    exact List.mem_takeWhile_imp (List.mem_reverse.1 hc)

theorem dropEndWhile_append_of_neg {p : Char → Bool} {ends : List Char}
    (hends : ∀ c ∈ ends, p c = false) (hne : ends ≠ []) (cs : List Char) :
    dropEndWhile p (cs ++ ends) = cs ++ ends := by
  obtain rfl | ⟨init, c, rfl⟩ := List.eq_nil_or_concat ends
  · exact absurd rfl hne
  · have hc : p c = false := hends c (by simp)
    rw [List.concat_eq_append, dropEndWhile, ← List.append_assoc, List.reverse_append,
      List.reverse_singleton, List.singleton_append, List.dropWhile_cons_of_neg (by simp [hc]),
      List.reverse_cons, List.reverse_reverse]

namespace Url

/-- A text of blanks, controls and slashes. -/
def IsTrail (cs : List Char) : Prop := ∀ c ∈ cs, c.toNat ≤ 0x20 ∨ c = '/'

/-- Slashes at the end of a text are read as such, and blanks before them too. -/
theorem exists_cleaned_append {slashes : List Char} (h : ∀ c ∈ slashes, c = '/')
    (cs : List Char) : ∃ trail, IsTrail trail ∧ cleaned (cs ++ slashes) = cleaned cs ++ trail := by
  obtain rfl | hne := eq_or_ne slashes []
  · exact ⟨[], fun c hc => absurd hc List.not_mem_nil, by rw [List.append_nil, List.append_nil]⟩
  let isEdge (c : Char) : Bool := c.toNat ≤ 0x20
  have hedge : ∀ c ∈ slashes, isEdge c = false := fun c hc => by rw [h c hc]; decide
  have hslashes : slashes.dropWhile isEdge = slashes := by
    cases slashes with
    | nil => rfl
    | cons c rest => exact List.dropWhile_cons_of_neg (by rw [hedge c List.mem_cons_self]; simp)
  have hfront : (cs ++ slashes).dropWhile isEdge = cs.dropWhile isEdge ++ slashes := by
    rw [List.dropWhile_append, hslashes]
    split
    next hnil => rw [List.isEmpty_iff.1 hnil, List.nil_append]
    next => rfl
  obtain ⟨ends, hends, hall⟩ := exists_eq_dropEndWhile_append isEdge (cs.dropWhile isEdge)
  refine ⟨(ends ++ slashes).filter (!isLineBreak ·), fun c hc => ?_, ?_⟩
  · rcases List.mem_append.1 (List.mem_of_mem_filter hc) with hc | hc
    · exact .inl (of_decide_eq_true (hall c hc))
    · exact .inr (h c hc)
  · change (dropEndWhile isEdge ((cs ++ slashes).dropWhile isEdge)).filter _ =
      (dropEndWhile isEdge (cs.dropWhile isEdge)).filter _ ++ _
    rw [hfront, dropEndWhile_append_of_neg hedge hne, ← List.filter_append, ← List.append_assoc,
      ← hends]

/-! ### Schemes -/

/-- Whether a character may stand in a scheme. -/
def isSchemeMark (c : Char) : Bool := c.isAlphanum || c == '+' || c == '-' || c == '.'

theorem splitScheme?_eq_some_iff {cs rest : List Char} {scheme : String} :
    splitScheme? cs = some (scheme, rest) ↔
      ∃ name, cs = name ++ ':' :: rest ∧ name.head?.any Char.isAlpha = true ∧
        (∀ c ∈ name, isSchemeMark c = true) ∧ scheme = String.ofList (name.map Char.toLower) := by
  have hmark : ¬isSchemeMark ':' = true := by decide
  have hmarks : (fun c : Char => c.isAlphanum || c == '+' || c == '-' || c == '.') =
      isSchemeMark := rfl
  rw [splitScheme?, hmarks]
  constructor
  · intro h
    split at h
    next after halpha hdrop =>
      obtain ⟨rfl, rfl⟩ := Prod.mk.inj (Option.some.inj h)
      have hcs : cs = cs.takeWhile isSchemeMark ++ ':' :: after := by
        rw [← hdrop, List.takeWhile_append_dropWhile]
      refine ⟨cs.takeWhile isSchemeMark, hcs, ?_, fun c hc => List.mem_takeWhile_imp hc, rfl⟩
      rw [hcs] at halpha
      cases hname : cs.takeWhile isSchemeMark with
      | nil =>
        rw [hname] at halpha
        exact absurd halpha (show ¬Char.isAlpha ':' = true by decide)
      | cons c name =>
        rw [hname] at halpha
        exact halpha
    next => simp at h
  · rintro ⟨name, rfl, halpha, hname, rfl⟩
    have hhead : (name ++ ':' :: rest).head?.any Char.isAlpha = true := by
      cases name with
      | nil => exact absurd halpha (by decide)
      | cons c name => exact halpha
    rw [hhead, List.dropWhile_append_of_pos hname, List.takeWhile_append_of_pos hname,
      List.dropWhile_cons_of_neg hmark, List.takeWhile_cons_of_neg hmark, List.append_nil]
    rfl

variable {trail : List Char}

theorem exists_splitScheme?_of_append (htrail : ':' ∉ trail) {cs rest : List Char}
    {scheme : String} (h : splitScheme? (cs ++ trail) = some (scheme, rest)) :
    ∃ after, splitScheme? cs = some (scheme, after) ∧ rest = after ++ trail := by
  obtain ⟨name, happend, halpha, hname, hscheme⟩ := splitScheme?_eq_some_iff.1 h
  rcases List.append_eq_append_iff.1 happend with ⟨ends, -, hends⟩ | ⟨after, hcs, hafter⟩
  · exact absurd (hends ▸ by simp) htrail
  · cases after with
    | nil =>
      rw [List.nil_append] at hafter
      exact absurd (hafter ▸ List.mem_cons_self) htrail
    | cons c after =>
      obtain ⟨rfl, rfl⟩ := List.cons.inj hafter
      exact ⟨after, splitScheme?_eq_some_iff.2 ⟨name, hcs, halpha, hname, hscheme⟩, rfl⟩

/-! ### Queries and fragments -/

theorem partAfter_dropWhile_eq_none_iff {mark : Char} {marks cs : List Char} :
    partAfter mark marks (cs.dropWhile (· != mark)) = none ↔ mark ∉ cs := by
  induction cs with
  | nil => simp [partAfter]
  | cons c rest ih =>
    by_cases hc : c = mark
    · rw [List.dropWhile_cons_of_neg (by simp [hc]), partAfter, if_pos hc]
      simp [hc]
    · rw [List.dropWhile_cons_of_pos (by simp [hc]), ih, List.mem_cons, not_or]
      exact ⟨fun h => ⟨fun heq => hc heq.symm, h⟩, fun h => h.2⟩

/-- A URL has no query and no fragment if there is no mark of one in its text. -/
theorem withTail_eq_none_iff {scheme : String} {a : Option Authority} {cs : List Char} :
    (withTail scheme a cs).query = none ∧ (withTail scheme a cs).fragment = none ↔
      '?' ∉ cs ∧ '#' ∉ cs := by
  change partAfter '?' _ ((cs.takeWhile (· != '#')).dropWhile (· != '?')) = none ∧
    partAfter '#' _ (cs.dropWhile (· != '#')) = none ↔ _
  rw [partAfter_dropWhile_eq_none_iff, partAfter_dropWhile_eq_none_iff]
  refine and_congr_left fun hfragment => ?_
  rw [List.takeWhile_eq_self_iff.2 fun c hc => bne_iff_ne.2 (ne_of_mem_of_not_mem hc hfragment)]

/-! ### Authorities -/

variable {scheme : String} {cs : List Char} {u : Url}

theorem withAuthority_eq_ok_iff (hkind : SchemeKind.ofScheme scheme = .service) :
    withAuthority scheme cs = .ok u ↔
      ∃ a, Authority.readFront (standardEndpoint? scheme) (Authority.front cs) = .ok (a, []) ∧
        u = withTail scheme (some a) (Authority.behind cs) := by
  rw [withAuthority, hkind]
  cases hread : Authority.read .service (standardEndpoint? scheme) cs with
  | error fault =>
    constructor
    · intro h
      cases h
    · rintro ⟨a, ha, -⟩
      rw [Authority.read_service_eq_ok_iff.2 ⟨ha, rfl⟩] at hread
      cases hread
  | ok r =>
    obtain ⟨hfront, hrest⟩ := Authority.read_service_eq_ok_iff.1 hread
    constructor
    · intro h
      exact ⟨r.1, hfront, hrest ▸ (Except.ok.inj h).symm⟩
    · rintro ⟨a, ha, rfl⟩
      obtain rfl : r.1 = a := by simpa using hfront.symm.trans ha
      exact congrArg (fun rest => Except.ok (withTail scheme (some r.1) rest)) hrest

theorem scheme_of_withAuthority (h : withAuthority scheme cs = .ok u) : u.scheme = scheme := by
  rw [withAuthority] at h
  cases hread : Authority.read (.ofScheme scheme) (standardEndpoint? scheme) cs with
  | error fault =>
    rw [hread] at h
    cases h
  | ok r =>
    rw [hread] at h
    exact Except.ok.inj h ▸ rfl

theorem le_of_mem_front (htrail : IsTrail trail) {c : Char} (hc : c ∈ Authority.front trail) :
    c.toNat ≤ 0x20 := by
  rcases htrail c (List.takeWhile_subset _ hc) with hle | rfl
  · exact hle
  · exact absurd (List.mem_takeWhile_imp hc) (by decide)

/-- An authority ends before blanks and slashes at the end of a text. -/
theorem front_append (htrail : IsTrail trail) {standard : Option Nat} {a : Authority}
    (h : Authority.readFront standard (Authority.front (cs ++ trail)) = .ok (a, [])) :
    Authority.front (cs ++ trail) = Authority.front cs ∧
      Authority.behind (cs ++ trail) = Authority.behind cs ++ trail := by
  by_cases hcs : ∀ c ∈ cs, (!SchemeKind.service.startsPath c) = true
  · have hfront : Authority.front (cs ++ trail) = cs ++ Authority.front trail :=
      List.takeWhile_append_of_pos hcs
    have hbehind : Authority.behind (cs ++ trail) = Authority.behind trail :=
      List.dropWhile_append_of_pos hcs
    have hself : Authority.front cs = cs := List.takeWhile_eq_self_iff.2 hcs
    have hend : Authority.behind cs = [] := List.dropWhile_eq_nil_iff.2 hcs
    have hnil : Authority.front trail = [] := by
      obtain hnil | ⟨init, c, hconcat⟩ := List.eq_nil_or_concat (Authority.front trail)
      · exact hnil
      · -- The authority would end in a blank.
        obtain ⟨-, init', c', heq, hlt⟩ :=
          Authority.readFront_eq_ok Authority.backslash_notMem_front h
        rw [hfront, hconcat, List.concat_eq_append, ← List.append_assoc] at heq
        obtain rfl : c = c' := by simpa using List.append_inj_right' heq rfl
        have hle := le_of_mem_front htrail (show c ∈ Authority.front trail by simp [hconcat])
        omega
    have htrail' : Authority.front trail ++ Authority.behind trail = trail :=
      List.takeWhile_append_dropWhile
    rw [hnil, List.nil_append] at htrail'
    rw [hfront, hbehind, hself, hend, hnil, htrail', List.append_nil, List.nil_append]
    exact ⟨rfl, rfl⟩
  · constructor
    · rw [Authority.front, List.takeWhile_append, if_neg]
      · rfl
      · exact fun hlen => hcs (List.takeWhile_eq_self_iff.1
          ((List.takeWhile_prefix _).eq_of_length hlen))
    · rw [Authority.behind, List.dropWhile_append, if_neg]
      · rfl
      · exact fun hempty => hcs (List.dropWhile_eq_nil_iff.1 (List.isEmpty_iff.1 hempty))

/-! ### Slashes at the end -/

/-- Whether a URL has no query and no fragment. -/
def IsBare (u : Url) : Prop := u.query = none ∧ u.fragment = none

theorem exists_withAuthority_of_append (hkind : SchemeKind.ofScheme scheme = .service)
    (htrail : IsTrail trail) (h : withAuthority scheme (cs ++ trail) = .ok u) (hu : u.IsBare) :
    ∃ t, withAuthority scheme cs = .ok t ∧ t.authority = u.authority ∧ t.IsBare := by
  obtain ⟨a, ha, rfl⟩ := (withAuthority_eq_ok_iff hkind).1 h
  obtain ⟨hfront, hbehind⟩ := front_append htrail ha
  refine ⟨withTail scheme (some a) (Authority.behind cs),
    (withAuthority_eq_ok_iff hkind).2 ⟨a, hfront ▸ ha, rfl⟩, rfl, ?_⟩
  rw [IsBare, withTail_eq_none_iff, hbehind, List.mem_append, List.mem_append] at hu
  exact withTail_eq_none_iff.2 (hu.imp (mt .inl) (mt .inl))

theorem exists_dropWhile_append (htrail : IsTrail trail) (p : Char → Bool) (cs : List Char) :
    ∃ trail', IsTrail trail' ∧ (cs ++ trail).dropWhile p = cs.dropWhile p ++ trail' := by
  rw [List.dropWhile_append]
  split
  next hempty =>
    refine ⟨trail.dropWhile p, fun c hc => htrail c (List.dropWhile_subset _ hc), ?_⟩
    rw [List.isEmpty_iff.1 hempty, List.nil_append]
  next => exact ⟨trail, htrail, rfl⟩

theorem parse_of_splitScheme? {s : String} {rest : List Char}
    (hsplit : splitScheme? (cleaned s.toList) = some (scheme, rest))
    (hkind : SchemeKind.ofScheme scheme = .service) :
    parse s = withAuthority scheme (rest.dropWhile (SchemeKind.service.isSlash ·)) := by
  rw [parse, hsplit]
  dsimp only
  rw [hkind]

theorem kind_fileAt (host : Host) (cs : List Char) : (fileAt host cs).kind = .file := by
  rw [fileAt]
  dsimp only
  split
  · rfl
  · split <;> rfl

theorem kind_of_ofFile (h : ofFile cs = .ok u) : u.kind = .file := by
  rw [ofFile.eq_def] at h
  split at h
  · split at h
    · dsimp only at h
      split at h
      · exact Except.ok.inj h ▸ kind_fileAt _ _
      · split at h
        · cases h
        · exact Except.ok.inj h ▸ kind_fileAt _ _
    · exact Except.ok.inj h ▸ kind_fileAt _ _
  · exact Except.ok.inj h ▸ kind_fileAt _ _

/-- The scheme that a text starts with is the scheme of the URL that it is. -/
theorem exists_splitScheme?_of_parse {s : String} (h : parse s = .ok u)
    (hkind : u.kind = .service) :
    ∃ scheme rest, splitScheme? (cleaned s.toList) = some (scheme, rest) ∧
      SchemeKind.ofScheme scheme = .service := by
  rw [parse] at h
  split at h
  · cases h
  next scheme rest hsplit =>
    refine ⟨scheme, rest, hsplit, ?_⟩
    cases hscheme : SchemeKind.ofScheme scheme with
    | service => rfl
    | file =>
      rw [hscheme] at h
      exact absurd (hkind.symm.trans (kind_of_ofFile h)) (by decide)
    | plain =>
      have hne : u.scheme ≠ scheme := fun heq => by
        rw [kind, heq, hscheme] at hkind
        cases hkind
      rw [hscheme] at h
      split at h
      next heq => cases heq
      next heq => cases heq
      · exact absurd (scheme_of_withAuthority h) hne
      · exact absurd (Except.ok.inj h ▸ rfl) hne
      · cases h

/-- Without the slashes at its end, a URL that has a domain, and neither a query nor a fragment, is
still a URL, with the same scheme and the same authority. -/
theorem exists_parse_trimEndSlashes {base : String} (h : parse base = .ok u)
    (hkind : u.kind = .service) (hu : u.IsBare) :
    ∃ t, parse (trimEndSlashes base) = .ok t ∧ t.scheme = u.scheme ∧ t.authority = u.authority ∧
      t.IsBare := by
  obtain ⟨scheme, rest, hsplit, hscheme⟩ := exists_splitScheme?_of_parse h hkind
  rw [parse_of_splitScheme? hsplit hscheme] at h
  obtain ⟨slashes, hslashes, hall⟩ := exists_eq_dropEndWhile_append (· == '/') base.toList
  obtain ⟨trail, htrail, hcleaned⟩ := exists_cleaned_append
    (fun c hc => beq_iff_eq.1 (hall c hc)) (dropEndWhile (· == '/') base.toList)
  rw [hslashes, hcleaned] at hsplit
  have hcolon : ':' ∉ trail := fun hmem => absurd (htrail ':' hmem) (by decide)
  obtain ⟨after, hafter, rfl⟩ := exists_splitScheme?_of_append hcolon hsplit
  obtain ⟨trail', htrail', hdrop⟩ := exists_dropWhile_append htrail
    (SchemeKind.service.isSlash ·) after
  rw [hdrop] at h
  obtain ⟨t, ht, hauthority, hbare⟩ := exists_withAuthority_of_append hscheme htrail' h hu
  refine ⟨t, ?_, ?_, hauthority, hbare⟩
  · rw [← ht]
    refine parse_of_splitScheme? ?_ hscheme
    rw [trimEndSlashes, String.toList_ofList]
    exact hafter
  · rw [scheme_of_withAuthority ht, scheme_of_withAuthority h]

end Url

end RunWatch
