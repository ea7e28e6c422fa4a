import Mathlib.Data.List.Basic
import RunWatch.Text.Percent

/-!
# Percent encoding is read back

Whatever characters stand for themselves, a text reads back from its percent encoded form, as long
as a percent sign does not stand for itself (`decode?_encode`). So no two texts have the same form.
A blank or a control of ASCII is part of no encoding, and stands in the text that is read
(`mem_of_decode?`).
-/

namespace RunWatch.Text

/-- A blank or a control of ASCII stands before all other characters. -/
theorem not_le_of_toNat_le {c d : Char} (h : c.toNat ≤ 0x20) (hd : 0x20 < d.toNat) : ¬d ≤ c :=
  fun hle => absurd (show d.toNat ≤ c.toNat from hle) (by omega)

namespace Percent

variable {keep : Char → Bool}

theorem hexDigit?_upperHexDigit {n : Nat} (h : n < 16) : hexDigit? (upperHexDigit n) = some n := by
  have hall : ∀ m : Fin 16, hexDigit? (upperHexDigit m) = some m.val := by decide
  exact hall ⟨n, h⟩

theorem bytesOf_encodeByte (b : UInt8) (rest : List Char) :
    bytesOf (encodeByte b ++ rest) = b :: bytesOf rest := by
  have hlt : b.toNat < 256 := b.toNat_lt
  have hhigh : hexDigit? (upperHexDigit (b.toNat / 16)) = some (b.toNat / 16) :=
    hexDigit?_upperHexDigit (by omega)
  have hlow : hexDigit? (upperHexDigit (b.toNat % 16)) = some (b.toNat % 16) :=
    hexDigit?_upperHexDigit (by omega)
  simp only [encodeByte, List.cons_append, List.nil_append, bytesOf, hhigh, hlow]
  rw [Nat.div_add_mod, UInt8.ofNat_toNat]

theorem bytesOf_flatMap_encodeByte (bytes : List UInt8) (rest : List Char) :
    bytesOf (bytes.flatMap encodeByte ++ rest) = bytes ++ bytesOf rest := by
  induction bytes with
  | nil => rfl
  | cons b bytes ih =>
    rw [List.flatMap_cons, List.append_assoc, bytesOf_encodeByte, ih, List.cons_append]

theorem bytesOf_cons {c : Char} (h : c ≠ '%') (rest : List Char) :
    bytesOf (c :: rest) = String.utf8EncodeChar c ++ bytesOf rest := by
  rw [bytesOf]
  exact fun _ _ _ hc => absurd hc h

/-- The bytes of an encoded text are those of its characters. -/
theorem bytesOf_encode (hkeep : keep '%' = false) (cs : List Char) :
    bytesOf (encode keep cs) = cs.flatMap String.utf8EncodeChar := by
  induction cs with
  | nil => rfl
  | cons c cs ih =>
    rw [List.flatMap_cons, ← ih, encode, List.flatMap_cons]
    split
    · next hc =>
      have hne : c ≠ '%' := fun h => by simp [h, hkeep] at hc
      exact bytesOf_cons hne _
    · exact bytesOf_flatMap_encodeByte _ _

theorem fromUTF8?_utf8Encode (cs : List Char) :
    String.fromUTF8? ⟨(cs.flatMap String.utf8EncodeChar).toArray⟩ = some (String.ofList cs) := by
  have hbytes : (⟨(cs.flatMap String.utf8EncodeChar).toArray⟩ : ByteArray) = cs.utf8Encode :=
    ByteArray.ext List.data_toByteArray.symm
  rw [hbytes, String.fromUTF8?, dif_pos ByteArray.isValidUTF8_utf8Encode]
  exact congrArg some (String.toByteArray_inj.1 String.toByteArray_ofList.symm)

theorem decode?_encode (hkeep : keep '%' = false) (cs : List Char) :
    decode? (String.ofList (encode keep cs)) = some (String.ofList cs) := by
  rw [decode?, String.toList_ofList, bytesOf_encode hkeep, fromUTF8?_utf8Encode]

example : decode? (String.ofList (encode (· == 'a') "a b/é".toList)) = some "a b/é" := by
  decide +kernel

/-! ### Characters that stand for themselves -/

theorem eq_of_mem_utf8EncodeChar {c d : Char} (h : c.toNat < 0x80)
    (hc : UInt8.ofNat c.toNat ∈ String.utf8EncodeChar d) : c = d := by
  -- The bytes of a longer encoding are at least 0x80.
  have hlow : ∀ n, UInt8.ofNat c.toNat = UInt8.ofNat n → c.toNat = n % 256 := by
    intro n hn
    have hnat := congrArg UInt8.toNat hn
    rw [UInt8.toNat_ofNat', UInt8.toNat_ofNat'] at hnat
    omega
  have hd : d.val.toNat = d.toNat := rfl
  rw [String.utf8EncodeChar] at hc
  split at hc
  next hle =>
    have heq := hlow _ (List.mem_singleton.1 hc)
    exact Char.toNat_inj.1 (by omega)
  next =>
    split at hc
    · simp only [List.mem_cons, List.not_mem_nil, or_false] at hc
      rcases hc with hc | hc <;> have heq := hlow _ hc <;> omega
    · split at hc
      · simp only [List.mem_cons, List.not_mem_nil, or_false] at hc
        rcases hc with hc | hc | hc <;> have heq := hlow _ hc <;> omega
      · simp only [List.mem_cons, List.not_mem_nil, or_false] at hc
        rcases hc with hc | hc | hc | hc <;> have heq := hlow _ hc <;> omega

theorem hexDigit?_of_le {c : Char} (h : c.toNat ≤ 0x20) : hexDigit? c = none := by
  rw [hexDigit?, if_neg, if_neg, if_neg]
  · exact fun hd => not_le_of_toNat_le h (by decide) hd.1
  · exact fun hd => not_le_of_toNat_le h (by decide) hd.1
  · exact fun hd => not_le_of_toNat_le h (by decide) hd.1

theorem mem_bytesOf {c : Char} (h : c.toNat ≤ 0x20) {cs : List Char} (hc : c ∈ cs) :
    UInt8.ofNat c.toNat ∈ bytesOf cs := by
  have hself : UInt8.ofNat c.toNat ∈ String.utf8EncodeChar c := by
    rw [String.utf8EncodeChar, if_pos (show c.val.toNat ≤ 0x7f from Nat.le_trans h (by decide))]
    exact List.mem_singleton.2 rfl
  have hpercent : c ≠ '%' := by
    rintro rfl
    exact absurd h (by decide)
  induction cs using bytesOf.induct with
  | case1 => exact absurd hc List.not_mem_nil
  | case2 a b rest high low hb ha ih =>
    -- A percent sign and two digits are all another character.
    have hne : ∀ d : Char, hexDigit? d ≠ none → c ≠ d := by
      rintro d hd rfl
      exact hd (hexDigit?_of_le h)
    simp only [List.mem_cons, hpercent, hne a (by simp [ha]), hne b (by simp [hb]),
      false_or] at hc
    rw [bytesOf, ha, hb]
    exact List.mem_cons_of_mem _ (ih hc)
  | case3 a b rest hnone ih =>
    rw [bytesOf]
    split
    next high low ha hb => exact absurd hb (hnone high low ha)
    next => exact List.mem_cons_of_mem _ (ih ((List.mem_cons.1 hc).resolve_left hpercent))
  | case4 d rest hne ih =>
    rw [bytesOf, List.mem_append]
    · rcases List.mem_cons.1 hc with rfl | hc
      · exact .inl hself
      · exact .inr (ih hc)
    · exact hne

/-- A blank or a control of ASCII stands in what is read from a text in which it stands. -/
theorem mem_of_decode? {c : Char} (h : c.toNat ≤ 0x20) {s t : String} (hdecode : decode? s = some t)
    (hc : c ∈ s.toList) : c ∈ t.toList := by
  have hbytes : t.toByteArray = ⟨(bytesOf s.toList).toArray⟩ := by
    rw [decode?, String.fromUTF8?] at hdecode
    split at hdecode
    · rw [← Option.some.inj hdecode]
      rfl
    · exact absurd hdecode (by simp)
  rw [← String.utf8Encode_toList, List.utf8Encode] at hbytes
  have hlist : t.toList.flatMap String.utf8EncodeChar = bytesOf s.toList := by
    have hdata := congrArg ByteArray.data hbytes
    rw [List.data_toByteArray] at hdata
    exact congrArg Array.toList hdata
  have hmem : UInt8.ofNat c.toNat ∈ t.toList.flatMap String.utf8EncodeChar :=
    hlist ▸ mem_bytesOf h hc
  obtain ⟨d, hd, hcd⟩ := List.mem_flatMap.1 hmem
  rwa [eq_of_mem_utf8EncodeChar (Nat.lt_of_le_of_lt h (by decide)) hcd]

end Percent

end RunWatch.Text
