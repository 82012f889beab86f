/-!
# Whole numbers in decimal

Numbers are written without leading zeros unless a width is asked for, and read from ASCII digits
alone. A count that is typed in a query has to fit in 32 bits.
-/

namespace BoardQuery

namespace Text

/-- The number that a run of digits stands for. -/
def digitsValue (cs : List Char) : Nat :=
  cs.foldl (fun n c => 10 * n + (c.toNat - '0'.toNat)) 0

/-- The number a text spells, provided that it is a non-empty run of ASCII digits. -/
def readNat? (cs : List Char) : Option Nat :=
  if !cs.isEmpty && cs.all Char.isDigit then some (digitsValue cs) else none

/-- The count a text spells, provided that it fits in 32 bits. -/
def readCount? (cs : List Char) : Option UInt32 :=
  (readNat? cs).bind fun n => if n < UInt32.size then some (UInt32.ofNat n) else none

/-- The count a text spells, a plus sign before it allowed. -/
def readSignedCount? : List Char → Option UInt32
  | '+' :: cs => readCount? cs
  | cs => readCount? cs

def writeNat (n : Nat) : List Char :=
  Nat.toDigits 10 n

/-- A number in decimal, with zeros before it up to a width. -/
def writePadded (width n : Nat) : List Char :=
  List.replicate (width - (writeNat n).length) '0' ++ writeNat n

end Text

end BoardQuery
