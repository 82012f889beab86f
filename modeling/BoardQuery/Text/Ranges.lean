/-!
# Classes of characters as ranges of code points

A class is a list of ranges in ascending order, both ends included. `inRanges` reads the list from
the front and stops at the first range that lies above the code point, so the common characters of
a query are decided after a few comparisons.
-/

namespace BoardQuery

namespace Text

/-- Whether a code point lies in one of the ascending ranges. -/
def inRanges : List (Nat × Nat) → Nat → Bool
  | [], _ => false
  | (first, last) :: ranges, n => if n < first then false else n ≤ last || inRanges ranges n

/-- Whether a character's code point lies in one of the ascending ranges. -/
def inClass (ranges : List (Nat × Nat)) (c : Char) : Bool :=
  inRanges ranges c.toNat

end Text

end BoardQuery
