import Mathlib.Data.List.Basic
import RunWatch.Text.Digits

/-!
# Written numbers

A number that is written with zeros in front (`padded`) has the wanted width when it is not too
large, and reads back as itself (`ofDigits_padded`).
-/

namespace RunWatch.Text

variable {c : Char} {cs rest : List Char}

theorem digit?_of_isDigit (h : c.isDigit = true) : digit? c = some (c.toNat - '0'.toNat) := by
  have hrange : '0' ≤ c ∧ c ≤ '9' := by
    rw [Char.isDigit, Bool.and_eq_true, decide_eq_true_iff, decide_eq_true_iff] at h
    exact h
  exact if_pos hrange

theorem isDigit_of_char_isDigit (h : c.isDigit = true) : isDigit c = true := by
  rw [isDigit, digit?_of_isDigit h, Option.isSome_some]

/-! ### Lists of digits -/

theorem filterMap_digit? (h : ∀ c ∈ cs, c.isDigit = true) :
    cs.filterMap digit? = cs.map fun c => c.toNat - '0'.toNat := by
  rw [← List.filterMap_eq_map]
  exact List.filterMap_congr fun c hc => digit?_of_isDigit (h c hc)

theorem ofDigits_filterMap_digit? (h : ∀ c ∈ cs, c.isDigit = true) :
    ofDigits (cs.filterMap digit?) = Nat.ofDigitChars 10 cs 0 := by
  rw [filterMap_digit? h, ofDigits, List.foldl_map, Nat.ofDigitChars_eq_foldl]

/-- The digits at the front of a text end where no digit stands. -/
theorem takeDigits_append (h : ∀ c ∈ cs, c.isDigit = true)
    (hrest : ∀ c ∈ rest.head?, digit? c = none) :
    takeDigits (cs ++ rest) = (cs.filterMap digit?, rest) := by
  induction cs with
  | nil =>
    cases rest with
    | nil => rfl
    | cons c rest => simp [takeDigits, hrest c rfl]
  | cons c cs ih =>
    have hc := digit?_of_isDigit (h c List.mem_cons_self)
    have htail := ih fun d hd => h d (List.mem_cons_of_mem c hd)
    simp [takeDigits, hc, htail]

/-! ### Zeros in front -/

variable (width n : Nat)

theorem isDigit_of_mem_padded (h : c ∈ padded width n) : c.isDigit = true := by
  rcases List.mem_append.1 h with h | h
  · rw [List.eq_of_mem_replicate h]
    rfl
  · exact Nat.isDigit_of_mem_toDigits (by decide) (by decide) h

theorem ofDigits_padded : ofDigits ((padded width n).filterMap digit?) = n := by
  rw [ofDigits_filterMap_digit? fun c => isDigit_of_mem_padded width n, padded, digitsOf,
    Nat.ofDigitChars_append, Nat.ofDigitChars_replicate_zero, Nat.mul_zero,
    Nat.ofDigitChars_ten_toDigits]

theorem length_filterMap_padded :
    ((padded width n).filterMap digit?).length = (padded width n).length := by
  rw [filterMap_digit? fun c => isDigit_of_mem_padded width n, List.length_map]

variable {width n}

theorem length_padded (hwidth : 0 < width) (h : n < Nat.pow 10 width) :
    (padded width n).length = width := by
  have hle : (digitsOf n).length ≤ width :=
    (Nat.length_toDigits_le_iff (by decide) hwidth).2 h
  rw [padded, List.length_append, List.length_replicate]
  omega

end RunWatch.Text
