import DataFormula.Text.CodeRanges

/-!
# Blank characters

The characters with the Unicode property White_Space, which may stand between
two tokens. They include the line feed.
-/

namespace DataFormula.Text

/-- The code points with the property White_Space. -/
def blanks : CodeRanges := [
  (0x09, 0x0D), (0x20, 0x20), (0x85, 0x85), (0xA0, 0xA0), (0x1680, 0x1680), (0x2000, 0x200A),
  (0x2028, 0x2029), (0x202F, 0x202F), (0x205F, 0x205F), (0x3000, 0x3000)]

/-- Whether a character may stand between two tokens. -/
def isBlank (c : Char) : Bool := blanks.holds c.toNat

/-- The table is in order. -/
theorem blanks_increasing : blanks.IncreasingFrom 0 := by decide

/-- What the standard library calls whitespace is blank. -/
theorem isBlank_of_isWhitespace {c : Char} (h : c.isWhitespace = true) : isBlank c = true := by
  simp only [Char.isWhitespace, Bool.or_eq_true, decide_eq_true_eq] at h
  rcases h with ((rfl | rfl) | rfl) | rfl <;> decide

/-- There are twenty-five blank characters. -/
example : (blanks.map fun range => range.2 + 1 - range.1).sum = 25 := by decide

end DataFormula.Text
