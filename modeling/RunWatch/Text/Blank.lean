/-!
# Blank characters

The characters with the Unicode property `White_Space`, and texts without the blanks at their ends.
-/

namespace RunWatch.Text

/-- Whether a character is white space in the sense of Unicode. -/
def isBlank (c : Char) : Bool :=
  let n := c.toNat
  (9 ≤ n && n ≤ 13) || n == 0x20 || n == 0x85 || n == 0xa0 || n == 0x1680 ||
    (0x2000 ≤ n && n ≤ 0x200a) || n == 0x2028 || n == 0x2029 || n == 0x202f || n == 0x205f ||
    n == 0x3000

/-- The characters left when those that pass a test are taken from the end. -/
def dropEndWhile (p : Char → Bool) (cs : List Char) : List Char :=
  (cs.reverse.dropWhile p).reverse

/-- The characters left when the blanks at both ends are taken away. -/
def trimChars (cs : List Char) : List Char := dropEndWhile isBlank (cs.dropWhile isBlank)

/-- A text without the blanks at its ends. -/
def trim (s : String) : String := String.ofList (trimChars s.toList)

/-- A text without the slashes at its end. -/
def trimEndSlashes (s : String) : String := String.ofList (dropEndWhile (· == '/') s.toList)

/-- A text that is not empty. -/
def full? (s : String) : Option String := if s = "" then none else some s

theorem full?_eq_none_iff {s : String} : full? s = none ↔ s = "" := by
  simp [full?]

theorem full?_eq_some_iff {s t : String} : full? s = some t ↔ s = t ∧ t ≠ "" := by
  rw [full?, Option.ite_none_left_eq_some, Option.some.injEq]
  constructor
  · rintro ⟨hne, rfl⟩
    exact ⟨rfl, hne⟩
  · rintro ⟨rfl, hne⟩
    exact ⟨hne, rfl⟩

end RunWatch.Text
