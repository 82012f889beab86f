import BoardQuery.Text.Ranges

/-!
# Blanks and line breaks

A blank is a character with the Unicode property White_Space; four of them end a line. Blanks
separate the parts of a query and are dropped at the ends of a keyword.
-/

namespace BoardQuery

namespace Text

/-- The characters with the property White_Space. -/
def blankRanges : List (Nat × Nat) := [
  (0x0009, 0x000D), (0x0020, 0x0020), (0x0085, 0x0085), (0x00A0, 0x00A0), (0x1680, 0x1680),
  (0x2000, 0x200A), (0x2028, 0x2029), (0x202F, 0x202F), (0x205F, 0x205F), (0x3000, 0x3000)]

def isBlank (c : Char) : Bool :=
  inClass blankRanges c

/-- Whether a character ends a line; a quoted value never holds one. -/
def isLineBreak (c : Char) : Bool :=
  c == '\n' || c == '\r' || c == '\u2028' || c == '\u2029'

theorem isBlank_of_isLineBreak {c : Char} (h : isLineBreak c = true) : isBlank c = true := by
  simp only [isLineBreak, Bool.or_eq_true, beq_iff_eq] at h
  rcases h with ((rfl | rfl) | rfl) | rfl <;> decide

def trimLeft (cs : List Char) : List Char :=
  cs.dropWhile isBlank

def trimRight (cs : List Char) : List Char :=
  (trimLeft cs.reverse).reverse

def trim (cs : List Char) : List Char :=
  trimRight (trimLeft cs)

end Text

end BoardQuery
