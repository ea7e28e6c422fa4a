import Mathlib.Algebra.Order.Group.Nat
import Mathlib.Data.Nat.Log
import Mathlib.Tactic.Ring
import RunWatch.Number.Binary64

/-!
# Values of floating-point numbers

What the rank of a binary floating-point number says of its value, which is a quotient of natural
numbers (`numerator`, `denominator`), and which integers are such values.

* `rank_lt_iff`: order of ranks is order of magnitudes. The ranks are read binade by binade
  (`place`): within one the mantissa decides.
* `isInteger_ofRatio`: rounding is exact on integers up to `2 ^ 53`, however the quotient is
  written.
* `IsInteger.truncated_eq`, `IsInteger.scale`: such an integer loses nothing when its fraction is
  dropped, or when it is multiplied and the product is such an integer too.
-/

namespace RunWatch

theorem twoTo_natCast (k : Nat) : twoTo k = Nat.pow 2 k := by
  rw [twoTo, Int.toNat_natCast]

theorem twoTo_of_nonpos {e : Int} (h : e ≤ 0) : twoTo e = 1 := by
  rw [twoTo, Int.toNat_of_nonpos h, Nat.pow_eq, Nat.pow_zero]

/-- Powers with a sign in the exponent, as quotients: the quotient of two of them is a third one. -/
theorem twoTo_mul_twoTo_sub {e e' : Int} (h : e ≤ e') :
    twoTo e * twoTo (-e') * twoTo (e' - e) = twoTo e' * twoTo (-e) := by
  have hpow (a b : Nat) : Nat.pow 2 a * Nat.pow 2 b = Nat.pow 2 (a + b) := (Nat.pow_add 2 a b).symm
  simp only [twoTo, hpow]
  congr 1
  omega

theorem two_le_twoTo {e : Int} (h : 0 < e) : 2 ≤ twoTo e := by
  have hle : Nat.pow 2 1 ≤ Nat.pow 2 e.toNat := Nat.pow_le_pow_right (by decide) (by omega)
  exact hle

namespace Binary64

/-- The number of the binade of a magnitude, where zero and the values without a leading digit
belong to the first one. -/
def place (x : Binary64) : Nat := max (x.rank / leadingDigit) 1

theorem exponent_eq (x : Binary64) : x.exponent = x.place - 1075 := rfl

theorem mantissa_lt (x : Binary64) : x.mantissa < 2 * leadingDigit := by
  rw [mantissa]
  split <;> simp only [leadingDigit] at * <;> omega

theorem leadingDigit_le_mantissa {x : Binary64} (h : 1 < x.place) : leadingDigit ≤ x.mantissa := by
  rw [place] at h
  rw [mantissa]
  split <;> simp only [leadingDigit] at * <;> omega

theorem rank_add_leadingDigit (x : Binary64) :
    x.rank + leadingDigit = x.place * leadingDigit + x.mantissa := by
  rw [mantissa, place]
  split <;> simp only [leadingDigit] at * <;> omega

variable {x y : Binary64}

/-- A number of greater rank has the greater mantissa, or else it is in a later binade. -/
theorem place_lt_or_of_rank_lt (h : x.rank < y.rank) :
    x.place < y.place ∨ x.place = y.place ∧ x.mantissa < y.mantissa := by
  have hx := x.rank_add_leadingDigit
  have hy := y.rank_add_leadingDigit
  have hlt := y.mantissa_lt
  rcases Nat.lt_trichotomy x.place y.place with hplace | hplace | hplace
  · exact .inl hplace
  · rw [hplace] at hx
    exact .inr ⟨hplace, by omega⟩
  · have hpos : 1 ≤ y.place := Nat.le_max_right _ _
    have hge := leadingDigit_le_mantissa (Nat.lt_of_le_of_lt hpos hplace)
    have hmul : (y.place + 1) * leadingDigit ≤ x.place * leadingDigit :=
      Nat.mul_le_mul_right _ hplace
    rw [Nat.succ_mul] at hmul
    omega

/-- Order of ranks is order of magnitudes. -/
theorem value_lt_of_rank_lt (h : x.rank < y.rank) :
    x.numerator * y.denominator < y.numerator * x.denominator := by
  have hle : x.exponent ≤ y.exponent := by
    rw [exponent_eq, exponent_eq]
    rcases place_lt_or_of_rank_lt h with hplace | ⟨hplace, -⟩ <;> omega
  have hmantissa : x.mantissa < y.mantissa * twoTo (y.exponent - x.exponent) := by
    rcases place_lt_or_of_rank_lt h with hplace | ⟨hplace, hlt⟩
    · have hpos : 1 ≤ x.place := Nat.le_max_right _ _
      have hge := leadingDigit_le_mantissa (Nat.lt_of_le_of_lt hpos hplace)
      have htwo : 2 ≤ twoTo (y.exponent - x.exponent) :=
        two_le_twoTo (by rw [exponent_eq, exponent_eq]; omega)
      calc x.mantissa
        _ < leadingDigit * 2 := by rw [Nat.mul_comm]; exact x.mantissa_lt
        _ ≤ y.mantissa * twoTo (y.exponent - x.exponent) := Nat.mul_le_mul hge htwo
    · exact Nat.lt_of_lt_of_le hlt (Nat.le_mul_of_pos_right _ (twoTo_pos _))
  have hpos : 0 < twoTo x.exponent * twoTo (-y.exponent) :=
    Nat.mul_pos (twoTo_pos _) (twoTo_pos _)
  calc x.numerator * y.denominator
    _ = x.mantissa * (twoTo x.exponent * twoTo (-y.exponent)) := Nat.mul_assoc _ _ _
    _ < y.mantissa * twoTo (y.exponent - x.exponent) *
        (twoTo x.exponent * twoTo (-y.exponent)) := Nat.mul_lt_mul_of_pos_right hmantissa hpos
    _ = y.mantissa * (twoTo x.exponent * twoTo (-y.exponent) *
        twoTo (y.exponent - x.exponent)) := by ring
    _ = y.numerator * x.denominator := by
      rw [twoTo_mul_twoTo_sub hle, ← Nat.mul_assoc, numerator, denominator]

theorem value_eq_of_rank_eq (h : x.rank = y.rank) :
    x.numerator * y.denominator = y.numerator * x.denominator := by
  simp only [numerator, denominator, mantissa, exponent, h]

theorem rank_lt_iff :
    x.rank < y.rank ↔ x.numerator * y.denominator < y.numerator * x.denominator := by
  refine ⟨value_lt_of_rank_lt, fun h => ?_⟩
  rcases Nat.lt_trichotomy x.rank y.rank with hlt | heq | hgt
  · exact hlt
  · exact absurd (value_eq_of_rank_eq heq) (Nat.ne_of_lt h)
  · exact absurd (value_lt_of_rank_lt hgt) (Nat.lt_asymm h)

/-! ### Integers -/

/-- The number is an integer; zero has either sign. -/
structure IsInteger (x : Binary64) (n : Int) : Prop where
  magnitude : x.numerator = n.natAbs * x.denominator
  sign : if x.negative then n ≤ 0 else 0 ≤ n

theorem denominator_pos (x : Binary64) : 0 < x.denominator := twoTo_pos _

namespace IsInteger

variable {m n : Int}

theorem rank_lt_iff (hx : x.IsInteger m) (hy : y.IsInteger n) :
    x.rank < y.rank ↔ m.natAbs < n.natAbs := by
  have hpos : 0 < x.denominator * y.denominator := Nat.mul_pos x.denominator_pos y.denominator_pos
  rw [Binary64.rank_lt_iff, hx.magnitude, hy.magnitude, Nat.mul_assoc, Nat.mul_assoc,
    Nat.mul_comm y.denominator]
  exact Nat.mul_lt_mul_right hpos

theorem truncated_eq (hx : x.IsInteger n) : x.truncated = n := by
  have hmagnitude : x.truncatedMagnitude = n.natAbs := by
    rw [truncatedMagnitude, hx.magnitude, Nat.mul_div_cancel _ x.denominator_pos]
  have hsign := hx.sign
  rw [truncated, hmagnitude]
  split <;> simp_all only [if_true, if_false, Bool.false_eq_true] <;> omega

end IsInteger

/-- Infinity is read as `2 ^ 1024`, and every smaller integer is finite. -/
theorem IsInteger.isFinite {n : Int} (hx : x.IsInteger n) (hn : n.natAbs < twoTo 1024) :
    x.isFinite = true := by
  have hinfinity : (ofRank false infinityRank).IsInteger (twoTo 1024) := by
    constructor
    · decide +kernel
    · exact Int.natCast_nonneg _
  have hlt : x.rank < (ofRank false infinityRank).rank := by
    rwa [hx.rank_lt_iff hinfinity, Int.natAbs_natCast]
  exact decide_eq_true hlt

/-! ### Rounding integers -/

theorem roundDiv_mul (n : Nat) {den : Nat} (hden : 0 < den) : roundDiv (n * den) den = n := by
  simp only [roundDiv, Nat.mul_div_cancel n hden, Nat.mul_mod_left]
  rw [if_pos (by omega)]

theorem floorLog2_mul {m den : Nat} (hm : 0 < m) (hden : 0 < den) :
    floorLog2 (m * den) den = m.log2 := by
  have hm0 : m ≠ 0 := Nat.ne_of_gt hm
  have hden0 : den ≠ 0 := Nat.ne_of_gt hden
  have hlow : m.log2 + den.log2 ≤ (m * den).log2 := by
    rw [Nat.le_log2 (Nat.mul_ne_zero hm0 hden0), Nat.pow_add]
    exact Nat.mul_le_mul (Nat.log2_self_le hm0) (Nat.log2_self_le hden0)
  have hhigh : (m * den).log2 < m.log2 + 1 + (den.log2 + 1) := by
    rw [Nat.log2_lt (Nat.mul_ne_zero hm0 hden0), Nat.pow_add]
    exact Nat.mul_lt_mul'' Nat.lt_log2_self Nat.lt_log2_self
  rcases Nat.lt_or_ge (m.log2 + den.log2) (m * den).log2 with hlt | hge
  · have hk : ((m * den).log2 : Int) - den.log2 = (m.log2 + 1 : Nat) := by omega
    have hsmall : m * den * twoTo (-(m.log2 + 1 : Nat)) < den * twoTo (m.log2 + 1 : Nat) := by
      rw [twoTo_of_nonpos (by omega), Nat.mul_one, Nat.mul_comm, twoTo_natCast]
      exact Nat.mul_lt_mul_of_pos_left Nat.lt_log2_self hden
    simp only [floorLog2, hk, if_pos hsmall]
    omega
  · have hk : ((m * den).log2 : Int) - den.log2 = (m.log2 : Nat) := by omega
    have hlarge : ¬ m * den * twoTo (-(m.log2 : Nat)) < den * twoTo (m.log2 : Nat) := by
      rw [twoTo_of_nonpos (by omega), Nat.mul_one, Nat.mul_comm, twoTo_natCast]
      exact Nat.not_lt.2 (Nat.mul_le_mul_left _ (Nat.log2_self_le hm0))
    simp only [floorLog2, hk, if_neg hlarge]

/-- A positive integer up to `2 ^ 53` as a mantissa with all its digits and a power of two. -/
theorem exists_mantissa {m : Nat} (hm : 0 < m) (hle : m ≤ Nat.pow 2 53) :
    ∃ mantissa, leadingDigit ≤ mantissa ∧ mantissa < 2 * leadingDigit ∧
      m * twoTo (52 - m.log2 : Int) = mantissa * twoTo (m.log2 - 52 : Int) := by
  have hm0 : m ≠ 0 := Nat.ne_of_gt hm
  rcases Nat.lt_or_ge m (Nat.pow 2 53) with hlt | hge
  · have hlog : m.log2 < 53 := (Nat.log2_lt hm0).2 hlt
    have hcast : (52 - m.log2 : Int) = (52 - m.log2 : Nat) := by omega
    have hone : twoTo (m.log2 - 52 : Int) = 1 := twoTo_of_nonpos (by omega)
    have hlow : Nat.pow 2 m.log2 * Nat.pow 2 (52 - m.log2) = leadingDigit := by
      rw [show Nat.pow 2 m.log2 * Nat.pow 2 (52 - m.log2) = Nat.pow 2 (m.log2 + (52 - m.log2)) from
        (Nat.pow_add 2 _ _).symm, show m.log2 + (52 - m.log2) = 52 by omega]
      rfl
    have hpos : 0 < Nat.pow 2 (52 - m.log2) := Nat.pow_pos (by decide)
    refine ⟨m * Nat.pow 2 (52 - m.log2), ?_, ?_, ?_⟩
    · rw [← hlow]
      exact Nat.mul_le_mul_right _ (Nat.log2_self_le hm0)
    · rw [← hlow, ← Nat.mul_assoc]
      refine Nat.mul_lt_mul_of_pos_right ?_ hpos
      rw [Nat.mul_comm]
      exact Nat.lt_log2_self
    · rw [hcast, twoTo_natCast, hone, Nat.mul_one]
  · obtain rfl : m = Nat.pow 2 53 := Nat.le_antisymm hle hge
    exact ⟨leadingDigit, by decide, by decide, by decide +kernel⟩

section

variable (negative : Bool) {place mantissa : Nat}

/-- The parts of a rank. -/
theorem mantissa_ofRank (hge : leadingDigit ≤ mantissa) (hlt : mantissa < 2 * leadingDigit)
    (hle : place * leadingDigit + mantissa ≤ infinityRank) :
    (ofRank negative (place * leadingDigit + mantissa)).mantissa = mantissa ∧
      (ofRank negative (place * leadingDigit + mantissa)).exponent = place - 1074 := by
  have hrank : (ofRank negative (place * leadingDigit + mantissa)).rank =
      place * leadingDigit + mantissa := Nat.min_eq_left hle
  rw [Binary64.mantissa, exponent, hrank]
  constructor
  · rw [if_neg (by omega)]
    simp only [leadingDigit] at hge hlt ⊢
    omega
  · simp only [leadingDigit] at hge hlt ⊢
    omega

end

/-- The rank of a quotient that is a positive integer, given the mantissa of the integer. -/
theorem ofRatio_mul {negative : Bool} {m den mantissa : Nat} (hm : 0 < m) (hden : 0 < den)
    (hmantissa : m * twoTo (52 - m.log2 : Int) = mantissa * twoTo (m.log2 - 52 : Int)) :
    ofRatio negative (m * den) den =
      ofRank negative ((m.log2 + 1022) * leadingDigit + mantissa) := by
  have hplace : placeExponent (m * den) den = m.log2 - 52 := by
    rw [placeExponent, floorLog2_mul hm hden]
    omega
  have hsplit : m * den * twoTo (-(m.log2 - 52 : Int)) =
      mantissa * (den * twoTo (m.log2 - 52 : Int)) := by
    rw [Int.neg_sub, Nat.mul_right_comm, hmantissa, Nat.mul_assoc, Nat.mul_comm den]
  have hround : roundDiv (m * den * twoTo (-(m.log2 - 52 : Int)))
      (den * twoTo (m.log2 - 52 : Int)) = mantissa := by
    rw [hsplit, roundDiv_mul _ (Nat.mul_pos hden (twoTo_pos _))]
  have hbinades : (m.log2 - 52 + 1074 : Int).toNat = m.log2 + 1022 := by omega
  rw [ofRatio, if_neg (Nat.ne_of_gt (Nat.mul_pos hm hden))]
  simp only [hplace, hround, hbinades]

theorem numerator_ofRatio_mul (negative : Bool) {m den : Nat} (hm : m ≤ Nat.pow 2 53)
    (hden : 0 < den) : (ofRatio negative (m * den) den).numerator =
      m * (ofRatio negative (m * den) den).denominator := by
  rcases Nat.eq_zero_or_pos m with rfl | hpos
  · rw [Nat.zero_mul, Nat.zero_mul, ofRatio, if_pos rfl]
    exact Nat.zero_mul _
  · obtain ⟨mantissa, hge, hlt, hmantissa⟩ := exists_mantissa hpos hm
    have hlog : m.log2 < 54 :=
      (Nat.log2_lt (Nat.ne_of_gt hpos)).2 (Nat.lt_of_le_of_lt hm (by decide))
    have hle : (m.log2 + 1022) * leadingDigit + mantissa ≤ infinityRank := by
      simp only [leadingDigit, infinityRank] at hlt ⊢
      omega
    obtain ⟨hfactor, hexponent⟩ := mantissa_ofRank negative hge hlt hle
    have hexp : ((m.log2 + 1022 : Nat) : Int) - 1074 = m.log2 - 52 := by omega
    rw [ofRatio_mul hpos hden hmantissa, numerator, denominator, hfactor, hexponent, hexp,
      ← hmantissa, Int.neg_sub]

/-- A quotient that is an integer up to `2 ^ 53` is rounded to this integer. -/
theorem isInteger_ofRatio (negative : Bool) {m den : Nat} (hm : m ≤ Nat.pow 2 53)
    (hden : 0 < den) :
    (ofRatio negative (m * den) den).IsInteger (if negative then -(m : Int) else m) := by
  have habs : (if negative then -(m : Int) else m).natAbs = m := by
    cases negative <;> simp
  have hsign : (ofRatio negative (m * den) den).negative = negative := by
    rw [ofRatio]
    split <;> rfl
  constructor
  · rw [habs, numerator_ofRatio_mul negative hm hden]
  · rw [hsign]
    cases negative <;> simp

theorem isInteger_ofInt {n : Int} (hn : n.natAbs ≤ Nat.pow 2 53) : (ofInt n).IsInteger n := by
  have h := isInteger_ofRatio (decide (n < 0)) hn Nat.one_pos
  rw [Nat.mul_one] at h
  have hsigned : (if decide (n < 0) then -(n.natAbs : Int) else n.natAbs) = n := by
    by_cases hneg : n < 0
    · rw [if_pos (decide_eq_true hneg)]
      omega
    · rw [if_neg (by rw [decide_eq_true_eq]; exact hneg)]
      omega
  rwa [hsigned] at h

/-- The product of an integer and a natural number is exact, if it is not greater than `2 ^ 53`. -/
theorem IsInteger.scale {n : Int} (hx : x.IsInteger n) (hfinite : x.isFinite = true) (k : Nat)
    (hn : n.natAbs * k ≤ Nat.pow 2 53) : (x.scale k 1).IsInteger (n * k) := by
  have h := isInteger_ofRatio x.negative hn x.denominator_pos
  have hsigned : (if x.negative then -((n.natAbs * k : Nat) : Int) else (n.natAbs * k : Nat)) =
      n * k := by
    have hsign := hx.sign
    cases hneg : x.negative <;> simp only [hneg, if_true, if_false, Bool.false_eq_true] at hsign ⊢
    · rw [Int.natCast_mul, Int.natAbs_of_nonneg hsign]
    · rw [Int.natCast_mul, Int.ofNat_natAbs_of_nonpos hsign, Int.neg_mul, Int.neg_neg]
  rw [Binary64.scale, if_pos hfinite, hx.magnitude, Nat.mul_one, Nat.mul_right_comm]
  rwa [hsigned] at h

end Binary64

end RunWatch
