import RunWatch.Proofs.Number.Binary64
import RunWatch.Proofs.Text.Digits
import RunWatch.Proofs.Time.Rfc3339

/-!
# Integers as timestamps

An integer may stand for an instant in several notations (`Json.HoldsInteger`): as a number of JSON,
with or without a fraction, and as a text in decimal with any blanks around it. No such text is a
date, and none of the notations loses a digit of an integer up to `2 ^ 53`. So all of them give the
same instant, which is so many seconds after 1970-01-01 below `10 ^ 11`, and so many milliseconds
from there on (`Instant.ofJson?_of_holdsInteger`).
-/

namespace RunWatch

open Text

/-! ### Decimal texts -/

namespace Text

/-- The decimal texts of an integer, with any zeros in front of the digits. A sign stands before a
negative number and may stand before any other one. -/
inductive IsDecimal : List Char → Int → Prop where
  | plain (width n : Nat) : IsDecimal (padded width n) n
  | plus (width n : Nat) : IsDecimal ('+' :: padded width n) n
  | minus (width n : Nat) : IsDecimal ('-' :: padded width n) (-n)

variable {cs before after : List Char} {n : Int}

theorem padded_ne_nil (width n : Nat) : padded width n ≠ [] :=
  List.append_ne_nil_of_right_ne_nil _ Nat.toDigits_ne_nil

theorem isBlank_of_isDigit {c : Char} (h : c.isDigit = true) : isBlank c = false := by
  have hrange : 48 ≤ c.toNat ∧ c.toNat ≤ 57 := by
    rw [Char.isDigit, Bool.and_eq_true, decide_eq_true_iff, decide_eq_true_iff] at h
    exact h
  simp only [isBlank, Bool.or_eq_false_iff, Bool.and_eq_false_iff, decide_eq_false_iff_not,
    beq_eq_false_iff_ne]
  omega

theorem isBlank_of_mem_padded {c : Char} {width n : Nat} (hc : c ∈ padded width n) :
    isBlank c = false := isBlank_of_isDigit (isDigit_of_mem_padded width n hc)

namespace IsDecimal

theorem ne_nil (h : IsDecimal cs n) : cs ≠ [] := by
  cases h with
  | plain width m => exact padded_ne_nil width m
  | plus width m | minus width m => exact List.cons_ne_nil _ _

theorem isBlank_eq_false (h : IsDecimal cs n) : ∀ c ∈ cs, isBlank c = false := by
  cases h with
  | plain width m => exact fun c => isBlank_of_mem_padded
  | plus width m | minus width m =>
    rw [List.forall_mem_cons]
    exact ⟨by decide, fun c => isBlank_of_mem_padded⟩

end IsDecimal

/-- Blanks around a text without blanks do not count. -/
theorem trimChars_of_blanks (hbefore : ∀ c ∈ before, isBlank c = true)
    (hafter : ∀ c ∈ after, isBlank c = true) (hne : cs ≠ [])
    (hcs : ∀ c ∈ cs, isBlank c = false) : trimChars (before ++ (cs ++ after)) = cs := by
  have hfirst : (cs ++ after).dropWhile isBlank = cs ++ after := by
    cases cs with
    | nil => exact absurd rfl hne
    | cons c cs => exact List.dropWhile_cons_of_neg (by simp [hcs c List.mem_cons_self])
  have hlast : cs.reverse.dropWhile isBlank = cs.reverse := by
    cases hrev : cs.reverse with
    | nil => rfl
    | cons c rest =>
      have hmem : c ∈ cs := List.mem_reverse.1 (hrev ▸ List.mem_cons_self)
      exact List.dropWhile_cons_of_neg (by simp [hcs c hmem])
  rw [trimChars, List.dropWhile_append_of_pos hbefore, hfirst, dropEndWhile, List.reverse_append,
    List.dropWhile_append_of_pos fun c hc => hafter c (List.mem_reverse.1 hc), hlast,
    List.reverse_reverse]

/-! ### Reading a decimal text -/

theorem readNumeral_of_digits {negative : Bool} {width m : Nat}
    (hsign : readSign cs = (negative, padded width m)) :
    readNumeral cs = some ⟨negative, (padded width m).filterMap digit?, [], 0⟩ := by
  have htake : takeDigits (padded width m) = ((padded width m).filterMap digit?, []) := by
    have hend : ∀ c ∈ ([] : List Char).head?, digit? c = none := fun c hc => by cases hc
    have h := takeDigits_append (fun c => isDigit_of_mem_padded width m) hend
    rwa [List.append_nil] at h
  have hne : ((padded width m).filterMap digit?).isEmpty = false := by
    rw [List.isEmpty_eq_false_iff, ← List.length_pos_iff, length_filterMap_padded,
      List.length_pos_iff]
    exact padded_ne_nil width m
  rw [readNumeral, hsign]
  simp only [htake, hne, Bool.false_and, Bool.false_eq_true, if_false, readPower, Option.map_some]

/-- The digits of an integer are read, and its sign. -/
theorem IsDecimal.readNumeral_eq (h : IsDecimal cs n) : ∃ (negative : Bool) (width m : Nat),
    readNumeral cs = some ⟨negative, (padded width m).filterMap digit?, [], 0⟩ ∧
      n = if negative then -(m : Int) else m := by
  cases h with
  | plain width m =>
    refine ⟨false, width, m, readNumeral_of_digits ?_, rfl⟩
    cases hds : padded width m with
    | nil => exact absurd hds (padded_ne_nil width m)
    | cons c rest =>
      have hc : c.isDigit = true :=
        isDigit_of_mem_padded width m (hds ▸ List.mem_cons_self)
      have hminus : c ≠ '-' := fun h => by simp [h] at hc
      have hplus : c ≠ '+' := fun h => by simp [h] at hc
      rw [readSign]
      · exact fun _ h => hminus (List.cons.inj h).1
      · exact fun _ h => hplus (List.cons.inj h).1
  | plus width m => exact ⟨false, width, m, readNumeral_of_digits rfl, rfl⟩
  | minus width m => exact ⟨true, width, m, readNumeral_of_digits rfl, rfl⟩

end Text

/-- The value nearest to an integer is that of its digits. -/
theorem Numeral.nearest_of_digits (negative : Bool) (width : Nat) {m : Nat}
    (hm : m ≤ Nat.pow 2 53) :
    Numeral.nearest ⟨negative, (padded width m).filterMap digit?, [], 0⟩ =
      .ofRatio negative m 1 := by
  have hcount : digitCount m ≤ 16 :=
    (Nat.length_toDigits_le_iff (by decide) (by decide)).2 (Nat.lt_of_le_of_lt hm (by decide))
  have hdigits : Numeral.digits ⟨negative, (padded width m).filterMap digit?, [], 0⟩ = m := by
    rw [Numeral.digits, List.append_nil, ofDigits_padded]
  rw [Numeral.nearest, hdigits, Numeral.power, Numeral.nearestScaled]
  split
  · next hzero => rw [hzero, Binary64.ofRatio, if_pos rfl]
  · rw [if_neg (by simp; omega), if_neg (by simp; omega)]
    exact congrArg₂ _ (Nat.mul_one m) rfl

namespace Instant

/-! ### Dates -/

section

variable {c : Char} {cs : List Char}

theorem ofRfc3339?_of_not_isDigit (h : isDigit c = false) : ofRfc3339? (c :: cs) = none := by
  rw [ofRfc3339?, takeFixed_of_not_isDigit h]
  rfl

/-- A date has a dash behind its first digits. -/
theorem ofRfc3339?_of_no_dash (h : '-' ∉ cs) : ofRfc3339? cs = none := by
  rw [ofRfc3339?, takeFixed]
  split
  · have hdash : takeChar '-' (cs.drop 4) = none := by
      cases hrest : cs.drop 4 with
      | nil => rfl
      | cons d rest =>
        have hmem : d ∈ cs := List.mem_of_mem_drop (hrest ▸ List.mem_cons_self)
        exact if_neg fun hd : d = '-' => h (hd ▸ hmem)
    change (takeChar '-' (cs.drop 4)).bind _ = none
    rw [hdash]
    rfl
  · rfl

theorem isDigit_of_isBlank (h : isBlank c = true) : isDigit c = false := by
  by_contra hdigit
  rw [Bool.not_eq_false, isDigit, digit?, Option.isSome_ite] at hdigit
  have hc : c.isDigit = true := by
    rw [Char.isDigit, Bool.and_eq_true, decide_eq_true_iff, decide_eq_true_iff]
    exact hdigit
  rw [isBlank_of_isDigit hc] at h
  cases h

/-- A decimal text is no date, whatever blanks stand around it. -/
theorem ofRfc3339?_of_isDecimal {before after : List Char} {n : Int}
    (hbefore : ∀ c ∈ before, isBlank c = true) (hafter : ∀ c ∈ after, isBlank c = true)
    (h : IsDecimal cs n) : ofRfc3339? (before ++ (cs ++ after)) = none := by
  cases before with
  | cons c before =>
    exact ofRfc3339?_of_not_isDigit (isDigit_of_isBlank (hbefore c List.mem_cons_self))
  | nil =>
    cases h with
    | plus width m | minus width m => exact ofRfc3339?_of_not_isDigit (by decide)
    | plain width m =>
      refine ofRfc3339?_of_no_dash fun hdash => ?_
      rw [List.nil_append] at hdash
      rcases List.mem_append.1 hdash with hdash | hdash
      · exact absurd (isDigit_of_mem_padded width m hdash) (by decide)
      · exact absurd (hafter '-' hdash) (by decide)

end

/-! ### Counts -/

/-- The instant is exactly so many milliseconds after 1970-01-01, and in no leap second. -/
def IsAt (t : Instant) (millis : Int) : Prop :=
  t.nanos < 1000000000 ∧ t.seconds * 1000000000 + t.nanos = millis * 1000000

/-- The milliseconds that an integer stands for. -/
def millisOfInteger (n : Int) : Int := if n.natAbs < 100000000000 then n * 1000 else n

section

variable {millis n : Int} {x : Binary64} {t : Instant}

theorem ofMillis?_eq_some_iff : ofMillis? millis = some t ↔ t.IsAt millis := by
  constructor
  · rw [ofMillis?, of?, Option.dite_none_right_eq_some]
    rintro ⟨_, ht⟩
    rw [← Option.some.inj ht, IsAt]
    dsimp only
    omega
  · rintro ⟨hlt, heq⟩
    have hseconds : millis / 1000 = t.seconds := by omega
    have hnanos : (millis % 1000).toNat * 1000000 = t.nanos := by omega
    rw [ofMillis?, hseconds, hnanos, of?_self]

theorem ofMillis?_eq_none_iff :
    ofMillis? millis = none ↔ millis < leastSecond * 1000 ∨ mostSecond * 1000 + 999 < millis := by
  rw [ofMillis?, of?]
  split
  · next h => simp only [reduceCtorEq, false_iff]; omega
  · next h => simp only [true_iff]; omega

theorem ofCount?_of_isInteger (hx : x.IsInteger n) (hn : n.natAbs ≤ Nat.pow 2 53) :
    ofCount? x = ofMillis? (millisOfInteger n) := by
  have hfinite : x.isFinite = true :=
    hx.isFinite (Nat.lt_of_le_of_lt hn (by decide +kernel))
  have hcutoff : secondsCutoff.IsInteger 100000000000 := Binary64.isInteger_ofInt (by decide)
  have hseconds : x.rank < secondsCutoff.rank ↔ n.natAbs < 100000000000 :=
    hx.rank_lt_iff hcutoff
  rw [ofCount?, if_pos hfinite, millisOfCount, millisOfInteger]
  by_cases hlt : n.natAbs < 100000000000
  · have hbound : (100000000000 : Nat) * 1000 ≤ Nat.pow 2 53 := by decide
    have hproduct : n.natAbs * 1000 ≤ Nat.pow 2 53 :=
      Nat.le_trans (Nat.mul_le_mul_right 1000 (Nat.le_of_lt hlt)) hbound
    rw [if_pos (hseconds.2 hlt), if_pos hlt, (hx.scale hfinite 1000 hproduct).truncated_eq]
    rfl
  · rw [if_neg (mt hseconds.1 hlt), if_neg hlt, hx.truncated_eq]

end

end Instant

/-! ### Notations -/

/-- The values that hold an integer: as a number without or with a fraction, or as a decimal text
with blanks around it. -/
inductive Json.HoldsInteger (n : Int) : Json → Prop where
  | integer {w : WideInt} (h : w.value = n) : HoldsInteger n (.number (.integer w))
  | float {x : Binary64} (h : x.IsInteger n) : HoldsInteger n (.number (.float x))
  | text {before cs after : List Char} (hbefore : ∀ c ∈ before, isBlank c = true)
      (h : IsDecimal cs n) (hafter : ∀ c ∈ after, isBlank c = true) :
      HoldsInteger n (.string (String.ofList (before ++ (cs ++ after))))

namespace Instant

theorem ofJson?_eq_ofMillis? {n : Int} {v : Json} (hv : v.HoldsInteger n)
    (hn : n.natAbs ≤ Nat.pow 2 53) : ofJson? v = ofMillis? (millisOfInteger n) := by
  cases hv with
  | @integer w h =>
    obtain rfl := h
    exact ofCount?_of_isInteger (Binary64.isInteger_ofInt hn) hn
  | float h => exact ofCount?_of_isInteger h hn
  | text hbefore h hafter =>
    obtain ⟨negative, width, m, hread, rfl⟩ := h.readNumeral_eq
    have hm : m ≤ Nat.pow 2 53 := by
      cases negative <;> simpa using hn
    have hx := Binary64.isInteger_ofRatio negative hm Nat.one_pos
    rw [Nat.mul_one] at hx
    rw [ofJson?, ofText?, String.toList_ofList, ofRfc3339?_of_isDecimal hbefore hafter h,
      trimChars_of_blanks hbefore hafter h.ne_nil h.isBlank_eq_false, hread]
    show ofCount? (Numeral.nearest _) = _
    rw [Numeral.nearest_of_digits negative width hm]
    exact ofCount?_of_isInteger hx hn

/-- An integer up to `2 ^ 53` stands for the same instant in every notation: so many seconds after
1970-01-01 if it is below `10 ^ 11`, else so many milliseconds, and none exactly if there is no such
instant. So a count of seconds and the count of its milliseconds stand for the same instant as soon
as the latter reaches `10 ^ 11`. -/
theorem ofJson?_of_holdsInteger :
    (∀ (n : Int) (v : Json), n.natAbs ≤ Nat.pow 2 53 → v.HoldsInteger n →
      (∀ t, ofJson? v = some t ↔ t.IsAt (millisOfInteger n)) ∧
      (ofJson? v = none ↔ millisOfInteger n < leastSecond * 1000 ∨
        mostSecond * 1000 + 999 < millisOfInteger n)) ∧
    (∀ (n : Int) (v w : Json), n.natAbs ≤ Nat.pow 2 53 → v.HoldsInteger n → w.HoldsInteger n →
      ofJson? v = ofJson? w) ∧
    ∀ (s : Int) (v w : Json), 100000000 ≤ s.natAbs → s.natAbs < 100000000000 →
      v.HoldsInteger s → w.HoldsInteger (1000 * s) → ofJson? v = ofJson? w := by
  refine ⟨fun n v hn hv => ?_, fun n v w hn hv hw => ?_, fun s v w hge hlt hv hw => ?_⟩
  · rw [ofJson?_eq_ofMillis? hv hn]
    exact ⟨fun t => ofMillis?_eq_some_iff, ofMillis?_eq_none_iff⟩
  · rw [ofJson?_eq_ofMillis? hv hn, ofJson?_eq_ofMillis? hw hn]
  · have hbound : 100000000000000 ≤ Nat.pow 2 53 := by decide
    rw [ofJson?_eq_ofMillis? hv (by omega), ofJson?_eq_ofMillis? hw (by omega), millisOfInteger,
      if_pos hlt, millisOfInteger, if_neg (by omega), Int.mul_comm]

/-- The last count of seconds before the epoch, in decimal between blanks, and its milliseconds with
a fraction. -/
theorem ofJson?_of_holdsInteger_before_epoch :
    let early : Json := .string "\u2003-099999999999\n"
    let late : Json := .number (.float (.ofInt (-99999999999000)))
    early.HoldsInteger (-99999999999) ∧ late.HoldsInteger (1000 * -99999999999) ∧
      (∀ t, ofJson? early = some t ↔ t.IsAt (-99999999999000)) ∧ ofJson? early ≠ none ∧
      ofJson? early = ofJson? late := by
  intro early late
  have hblank (c : Char) (h : isBlank c = true) : ∀ d ∈ [c], isBlank d = true :=
    List.forall_mem_singleton.2 h
  have hearly : early.HoldsInteger (-99999999999) := by
    have htext : "\u2003-099999999999\n" =
        String.ofList (['\u2003'] ++ (('-' :: padded 12 99999999999) ++ ['\n'])) := by
      decide +kernel
    have h := Json.HoldsInteger.text (hblank '\u2003' (by decide)) (.minus 12 99999999999)
      (hblank '\n' (by decide))
    rwa [← htext] at h
  have hlate : late.HoldsInteger (1000 * -99999999999) :=
    .float (Binary64.isInteger_ofInt (by decide))
  obtain ⟨hsome, hnone⟩ := ofJson?_of_holdsInteger.1 _ early (by decide) hearly
  have hsame := ofJson?_of_holdsInteger.2.2 _ early late (by decide) (by decide) hearly hlate
  exact ⟨hearly, hlate, hsome, fun h => absurd (hnone.1 h) (by decide), hsame⟩

end Instant

end RunWatch
