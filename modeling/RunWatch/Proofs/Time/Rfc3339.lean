import RunWatch.Proofs.Text.Digits
import RunWatch.Proofs.Time.Calendar
import RunWatch.Time.Timestamp

/-!
# Written instants

The text of an instant reads back as this instant, fractions and leap seconds included, if its year
has four digits and no sign. Any other year is written with a sign, and such a text is no time.
-/

namespace RunWatch.Instant

open Text

/-! ### Readers -/

section

variable {width n : Nat} {rest : List Char}

theorem takeFixed_padded (hwidth : 0 < width) (h : n < Nat.pow 10 width) :
    takeFixed width (padded width n ++ rest) = some (n, rest) := by
  have hlength : (padded width n).length = width := length_padded hwidth h
  have hall : (padded width n).all isDigit = true :=
    List.all_eq_true.2 fun c hc => isDigit_of_char_isDigit (isDigit_of_mem_padded width n hc)
  rw [takeFixed, List.take_left' hlength, List.drop_left' hlength]
  simp only [hlength, hall, and_self, if_true, ofDigits_padded]

theorem takeChar_cons (c : Char) : takeChar c (c :: rest) = some rest := if_pos rfl

theorem takeSeparator_cons : takeSeparator ('T' :: rest) = some rest := rfl

theorem takeOffset_cons : takeOffset ('Z' :: rest) = some (0, rest) := rfl

/-- Up to nine digits behind a point are as many places. -/
theorem takeNanos_padded {nanos : Nat} (hwidth : 0 < width) (hnine : width ≤ 9)
    (h : n < Nat.pow 10 width) (hnanos : n * tenTo (9 - width : Nat) = nanos) :
    takeNanos ('.' :: padded width n ++ 'Z' :: rest) = some (nanos, 'Z' :: rest) := by
  have hlength : ((padded width n).filterMap digit?).length = width := by
    rw [length_filterMap_padded, length_padded hwidth h]
  have htake : takeDigits (padded width n ++ 'Z' :: rest) =
      ((padded width n).filterMap digit?, 'Z' :: rest) := by
    refine takeDigits_append (fun c => isDigit_of_mem_padded width n) ?_
    rintro c ⟨⟩
    rfl
  have hvalue : nanosOfDigits ((padded width n).filterMap digit?) = nanos := by
    rw [nanosOfDigits, List.take_of_length_le (by omega), ofDigits_padded, hlength, hnanos]
  rw [List.cons_append, takeNanos, htake]
  cases hds : (padded width n).filterMap digit? with
  | nil =>
    rw [hds] at hlength
    exact absurd hlength.symm (Nat.pos_iff_ne_zero.1 hwidth)
  | cons d ds =>
    rw [hds] at hvalue
    simp only [hvalue]

/-- The digits of a second are read as they were written. -/
theorem takeNanos_fractionText (h : n < 1000000000) :
    takeNanos (fractionText n ++ 'Z' :: rest) = some (n, 'Z' :: rest) := by
  unfold fractionText
  split
  · next hzero => rw [hzero]; rfl
  · split
    · next hmilli =>
      exact takeNanos_padded (by decide) (by decide) (show n / 1000000 < 1000 by omega)
        (Nat.div_mul_cancel (Nat.dvd_of_mod_eq_zero hmilli))
    · split
      · next hmicro =>
        exact takeNanos_padded (by decide) (by decide) (show n / 1000 < 1000000 by omega)
          (Nat.div_mul_cancel (Nat.dvd_of_mod_eq_zero hmicro))
      · exact takeNanos_padded (by decide) (by decide) (show n < 1000000000 by omega)
          (Nat.mul_one n)

end

/-! ### Whole instants -/

/-- The text of a date in a year of four digits and a time of day. -/
def civilText (year month day hour minute second nanos : Nat) : List Char :=
  padded 4 year ++ '-' :: padded 2 month ++ '-' :: padded 2 day ++
    'T' :: padded 2 hour ++ ':' :: padded 2 minute ++
    ':' :: padded 2 second ++ fractionText nanos ++ ['Z']

theorem ofRfc3339?_civilText {year month day hour minute second nanos : Nat} (hyear : year < 10000)
    (hmonth : month < 100) (hday : day < 100) (hhour : hour < 100) (hminute : minute < 100)
    (hsecond : second < 100) (hnanos : nanos < 1000000000) :
    ofRfc3339? (civilText year month day hour minute second nanos) =
      ofCivil? ⟨year, month, day⟩ hour minute second nanos 0 := by
  have htwo : ∀ {n : Nat} {rest : List Char}, n < 100 →
      takeFixed 2 (padded 2 n ++ rest) = some (n, rest) := fun h =>
    takeFixed_padded (by decide) h
  have hfour : ∀ {rest : List Char}, takeFixed 4 (padded 4 year ++ rest) = some (year, rest) :=
    takeFixed_padded (by decide) hyear
  simp only [civilText, List.append_assoc, List.cons_append]
  simp only [ofRfc3339?, hfour, htwo hmonth, htwo hday, htwo hhour, htwo hminute, htwo hsecond,
    takeChar_cons, takeSeparator_cons, takeNanos_fractionText hnanos, takeOffset_cons,
    Option.bind_eq_bind, Option.bind_some, List.isEmpty_nil, if_true]

/-- The parts of an instant make up the same instant. -/
theorem of?_self (t : Instant) : of? t.seconds t.nanos = some t :=
  dif_pos ⟨t.nanos_lt, t.leap, t.least, t.most⟩

/-- Whether the year of an instant is written with four digits and no sign. -/
def hasPlainYear (t : Instant) : Bool := decide (0 ≤ t.date.year ∧ t.date.year ≤ 9999)

theorem hasPlainYear_iff {t : Instant} :
    t.hasPlainYear = true ↔ 0 ≤ t.date.year ∧ t.date.year ≤ 9999 := decide_eq_true_iff

section

variable (t : Instant)

/-- The number that stands for the second in the text of an instant. -/
def writtenSecond : Nat :=
  if 1000000000 ≤ t.nanos then (t.seconds % 86400).toNat % 60 + 1
  else (t.seconds % 86400).toNat % 60

/-- The nanoseconds behind the written second. -/
def writtenNanos : Nat := if 1000000000 ≤ t.nanos then t.nanos - 1000000000 else t.nanos

/-- What stands in the text of an instant between the year and the last character. -/
def withinYearText : List Char :=
  padded 2 t.date.month ++ '-' :: padded 2 t.date.day ++
    'T' :: padded 2 ((t.seconds % 86400).toNat / 3600) ++
    ':' :: padded 2 ((t.seconds % 86400).toNat / 60 % 60) ++
    ':' :: padded 2 t.writtenSecond ++ fractionText t.writtenNanos

theorem textChars_eq :
    t.textChars = yearText t.date.year ++ '-' :: (t.withinYearText ++ ['Z']) := by
  simp only [textChars, withinYearText, writtenSecond, writtenNanos, List.append_assoc,
    List.cons_append]

/-- The written time of day makes up the instant, leap seconds included. -/
theorem of?_written (date : Int) (hdate : date = t.seconds / 86400) :
    of? (date * 86400 + ((t.seconds % 86400).toNat / 3600 : Nat) * 3600 +
        ((t.seconds % 86400).toNat / 60 % 60 : Nat) * 60 + (min t.writtenSecond 59 : Nat) - 0 * 60)
      (if t.writtenSecond = 60 then t.writtenNanos + 1000000000 else t.writtenNanos) = some t := by
  have hseconds : date * 86400 + ((t.seconds % 86400).toNat / 3600 : Nat) * 3600 +
      ((t.seconds % 86400).toNat / 60 % 60 : Nat) * 60 + (min t.writtenSecond 59 : Nat) - 0 * 60 =
      t.seconds := by
    have hleap := t.leap
    unfold writtenSecond
    split <;> omega
  have hnanos : (if t.writtenSecond = 60 then t.writtenNanos + 1000000000 else t.writtenNanos) =
      t.nanos := by
    have hleap := t.leap
    unfold writtenSecond writtenNanos
    by_cases hin : 1000000000 ≤ t.nanos
    · rw [if_pos hin, if_pos hin, if_pos (by omega)]
      omega
    · rw [if_neg hin, if_neg hin, if_neg (by omega)]
  rw [hseconds, hnanos, of?_self]

variable {t}

theorem ofRfc3339?_textChars (h : t.hasPlainYear = true) : ofRfc3339? t.textChars = some t := by
  have hyear : 0 ≤ t.date.year ∧ t.date.year ≤ 9999 := hasPlainYear_iff.1 h
  have hvalid : t.date.IsValid := Date.isValid_ofDays _
  have hmonth : t.date.month ≤ 12 := hvalid.2.1
  have hday : t.date.day ≤ 31 := by
    refine Nat.le_trans hvalid.2.2.2 ?_
    unfold Date.daysInMonth
    split
    · split <;> decide
    · split <;> decide
  have hsecond : t.writtenSecond ≤ 60 := by
    unfold writtenSecond
    split <;> omega
  have hnanos : t.writtenNanos < 1000000000 := by
    have hlt := t.nanos_lt
    unfold writtenNanos
    split <;> omega
  have htext : t.textChars = civilText t.date.year.toNat t.date.month t.date.day
      ((t.seconds % 86400).toNat / 3600) ((t.seconds % 86400).toNat / 60 % 60) t.writtenSecond
      t.writtenNanos := by
    rw [textChars_eq, yearText, if_pos hyear, withinYearText, civilText]
    simp only [List.append_assoc, List.cons_append]
  have hdate : (⟨t.date.year.toNat, t.date.month, t.date.day⟩ : Date) = t.date := by
    rw [Int.toNat_of_nonneg hyear.1]
  rw [htext, ofRfc3339?_civilText (by omega) (by omega) (by omega) (by omega) (by omega) (by omega)
    hnanos, hdate, ofCivil?, if_pos ⟨hvalid, by omega, by omega, hsecond⟩]
  exact t.of?_written _ (Date.toDays_ofDays _)

end

/-! ### Years with a sign -/

section

variable {sign : Char} {cs ds rest : List Char}

theorem takeFixed_of_not_isDigit {width : Nat} (h : isDigit sign = false) :
    takeFixed (width + 1) (sign :: rest) = none := by
  rw [takeFixed, List.take_succ_cons, List.all_cons, h, Bool.false_and]
  exact if_neg fun hall => Bool.false_ne_true hall.2

theorem trimChars_of_not_blank {last : Char} (hsign : isBlank sign = false)
    (hlast : isBlank last = false) : trimChars (sign :: (cs ++ [last])) = sign :: (cs ++ [last]) := by
  have hend : (sign :: (cs ++ [last])).reverse = last :: (sign :: cs).reverse := by simp
  rw [trimChars, List.dropWhile_cons_of_neg (by simp [hsign]), dropEndWhile, hend,
    List.dropWhile_cons_of_neg (by simp [hlast]), ← hend, List.reverse_reverse]

/-- Digits behind a sign and in front of another sign are no numeral. -/
theorem readNumeral_of_signed (hsign : sign = '+' ∨ sign = '-') (hds : ∀ c ∈ ds, c.isDigit = true) :
    readNumeral (sign :: (ds ++ '-' :: rest)) = none := by
  have hread : ∃ negative, readSign (sign :: (ds ++ '-' :: rest)) = (negative, ds ++ '-' :: rest) := by
    rcases hsign with rfl | rfl
    · exact ⟨false, rfl⟩
    · exact ⟨true, rfl⟩
  obtain ⟨negative, hread⟩ := hread
  have htake : takeDigits (ds ++ '-' :: rest) = (ds.filterMap digit?, '-' :: rest) := by
    refine takeDigits_append hds ?_
    rintro c ⟨⟩
    rfl
  rw [readNumeral, hread]
  simp only [htake]
  split
  · next hpoint => exact absurd (List.cons.inj hpoint).1 (by decide)
  · -- A sign is no mark of a power either.
    exact ite_self none

/-- The text of an instant in any other year is no time. -/
theorem ofText?_text_of_signed {t : Instant} (h : t.hasPlainYear = false) :
    ofText? t.text = none := by
  have hyear : ¬ (0 ≤ t.date.year ∧ t.date.year ≤ 9999) := of_decide_eq_false h
  obtain ⟨sign, hsign, hyearText⟩ : ∃ sign, (sign = '+' ∨ sign = '-') ∧
      yearText t.date.year = sign :: padded 4 t.date.year.natAbs := by
    refine ⟨_, ?_, if_neg hyear⟩
    split
    · exact .inr rfl
    · exact .inl rfl
  have htext : t.textChars =
      sign :: (padded 4 t.date.year.natAbs ++ '-' :: (t.withinYearText ++ ['Z'])) := by
    rw [textChars_eq, hyearText, List.cons_append]
  have hdigit : isDigit sign = false ∧ isBlank sign = false := by
    rcases hsign with rfl | rfl <;> decide
  have hrfc : ofRfc3339? t.textChars = none := by
    rw [htext, ofRfc3339?, takeFixed_of_not_isDigit hdigit.1]
    rfl
  have htrim : trimChars t.textChars = t.textChars := by
    have hlast : t.textChars =
        sign :: ((padded 4 t.date.year.natAbs ++ '-' :: t.withinYearText) ++ ['Z']) := by
      rw [htext, List.append_assoc, List.cons_append]
    rw [hlast, trimChars_of_not_blank hdigit.2 (by decide)]
  have hnumeral : readNumeral t.textChars = none := by
    rw [htext]
    exact readNumeral_of_signed hsign fun c => isDigit_of_mem_padded 4 _
  rw [ofText?, text, String.toList_ofList, hrfc, htrim, hnumeral]
  rfl

end

/-- What is read from the text of an instant: the instant itself, unless its year has a sign. -/
theorem ofJson?_text (t : Instant) :
    ofJson? (.string t.text) = if t.hasPlainYear then some t else none := by
  rw [ofJson?]
  split
  · next h => rw [ofText?, text, String.toList_ofList, ofRfc3339?_textChars h]
  · next h => exact ofText?_text_of_signed (by simpa using h)

end RunWatch.Instant
