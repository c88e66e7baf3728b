/-
  ClusterAccess.Text.Blank

  White space in the sense of Unicode, and texts without it at their ends. A
  wider class has the four characters of ASCII, too, that separate files, groups,
  records and units.
-/

namespace ClusterAccess.Text

/-- The code points of white space beyond those of ASCII. -/
def wideBlanks : List Nat :=
  [0x85, 0xA0, 0x1680, 0x2028, 0x2029, 0x202F, 0x205F, 0x3000] ++ (List.range 11).map (0x2000 + ·)

/-- Whether a character is white space. -/
def isBlank (c : Char) : Bool :=
  c.toNat == 0x20 || (9 ≤ c.toNat && c.toNat ≤ 13) || wideBlanks.contains c.toNat

/-- Whether a character is white space or one of the four separators. -/
def isSpacing (c : Char) : Bool :=
  isBlank c || (0x1C ≤ c.toNat && c.toNat ≤ 0x1F)

/-- A text without the characters of a class at its ends. -/
def trimmedOf (drops : Char → Bool) (cs : List Char) : List Char :=
  ((cs.dropWhile drops).reverse.dropWhile drops).reverse

/-- A text without the white space at its ends. -/
def trimmed (cs : List Char) : List Char :=
  trimmedOf isBlank cs

/-- What counts as white space in ASCII is white space. -/
theorem isBlank_of_isWhitespace {c : Char} (h : c.isWhitespace) : isBlank c := by
  simp only [Char.isWhitespace, Bool.or_eq_true, decide_eq_true_eq] at h
  rcases h with ((rfl | rfl) | rfl) | rfl <;> decide

end ClusterAccess.Text
