import BoardQuery.Json.Fault

/-!
# The numbers of JSON

No number is ever kept. One that is passed over has to be written correctly; one that stands where
another kind of value is expected is also refused when it is too large for a double, and that
counts as a fault of the number and not of its place.
-/

namespace BoardQuery

namespace Json

def startsDigit : List Char → Bool
  | [] => false
  | c :: _ => c.isDigit

theorem ne_of_isDigit {c d : Char} (h : c.isDigit = true) (hd : d.isDigit = false) : c ≠ d := by
  rintro rfl
  rw [h] at hd
  simp at hd

/-! ## Passing over a number -/

/-- Passes over digits, of which there has to be one. -/
def skipDigits (cs : List Char) : Except Fault (List Char) :=
  if startsDigit cs then .ok (cs.dropWhile Char.isDigit) else .error .malformed

def skipSign : List Char → List Char
  | '+' :: cs => cs
  | '-' :: cs => cs
  | cs => cs

def skipExponent : List Char → Except Fault (List Char)
  | 'e' :: cs => skipDigits (skipSign cs)
  | 'E' :: cs => skipDigits (skipSign cs)
  | cs => .ok cs

/-- Passes over what follows the whole part of a number. -/
def skipFraction : List Char → Except Fault (List Char)
  | '.' :: cs => (skipDigits cs).bind skipExponent
  | cs => skipExponent cs

/-- Passes over a number without its sign. A zero at its start is its whole part. -/
def skipUnsigned : List Char → Except Fault (List Char)
  | '0' :: cs => if startsDigit cs then .error .malformed else skipFraction cs
  | cs => (skipDigits cs).bind skipFraction

def skipNumber : List Char → Except Fault (List Char)
  | '-' :: cs => skipUnsigned cs
  | cs => skipUnsigned cs

/-! ## The size of a number -/

/-- The number nearest to `n` among those with 53 significant binary digits, the even one of two
that are equally near. -/
def toSignificant (n : Nat) : Nat :=
  let unit := Nat.pow 2 (n.log2 - 52)
  let whole := n / unit
  let twice := 2 * (n % unit)
  (if unit < twice || (twice == unit && whole % 2 == 1) then whole + 1 else whole) * unit

/-- The least number that is nearer to no finite double than to the power of two after them. -/
def doubleLimit : Nat :=
  Nat.pow 2 1024 - Nat.pow 2 970

/-- Whether a significand times a power of ten is too large for a double. Both factors are rounded
before they are multiplied. -/
def isTooLarge (significand : Nat) (exponent : Int) : Bool :=
  significand != 0 && 0 ≤ exponent &&
    (308 < exponent ||
      doubleLimit ≤ toSignificant significand * toSignificant (Nat.pow 10 exponent.toNat))

/-- Puts digits at the end of a significand as long as it fits in 64 bits, and counts those that
are put. -/
def takeDigits (significand : Nat) : List Char → Nat × Nat
  | [] => (significand, 0)
  | c :: cs =>
    let longer := 10 * significand + (c.toNat - '0'.toNat)
    if longer < UInt64.size then
      let (significand, count) := takeDigits longer cs
      (significand, count + 1)
    else (significand, 0)

/-! ## A number in the wrong place -/

/-- The fault of a number that is written correctly. Digits of the whole part that do not fit in
the significand scale it; those of the fraction are dropped. -/
def sizeFault (whole fraction : List Char) (exponent : Int) : Fault :=
  let (significand, wholeCount) := takeDigits 0 whole
  let (significand, fractionCount) := takeDigits significand fraction
  let scale : Int := (whole.length - wholeCount : Nat) - fractionCount + exponent
  if isTooLarge significand scale then .malformed else .mismatched

/-- Whether an exponent is negative, and the characters after its sign. -/
def exponentSign : List Char → Bool × List Char
  | '+' :: cs => (false, cs)
  | '-' :: cs => (true, cs)
  | cs => (false, cs)

def exponentFault (whole fraction : List Char) (cs : List Char) : Fault :=
  let (isNegative, digits) := exponentSign cs
  let value : Int := (digits.takeWhile Char.isDigit).foldl
    (fun n c => 10 * n + (c.toNat - '0'.toNat : Nat)) 0
  if digits.isEmpty then .cutShort
  else if startsDigit digits then
    sizeFault whole fraction (if isNegative then -value else value)
  else .malformed

/-- The fault of a number after its whole part and its fraction. -/
def tailFault (whole fraction : List Char) : List Char → Fault
  | 'e' :: cs => exponentFault whole fraction cs
  | 'E' :: cs => exponentFault whole fraction cs
  | _ => sizeFault whole fraction 0

def fractionFault (whole : List Char) : List Char → Fault
  | '.' :: cs =>
    if cs.isEmpty then .cutShort
    else if startsDigit cs then
      tailFault whole (cs.takeWhile Char.isDigit) (cs.dropWhile Char.isDigit)
    else .malformed
  | cs => tailFault whole [] cs

/-- The fault of a number without its sign that stands in the place of another kind of value. -/
def unsignedFault : List Char → Fault
  | [] => .cutShort
  | '0' :: cs => if startsDigit cs then .malformed else fractionFault ['0'] cs
  | cs =>
    if startsDigit cs then
      fractionFault (cs.takeWhile Char.isDigit) (cs.dropWhile Char.isDigit)
    else .malformed

/-- The fault of a number that stands in the place of another kind of value. -/
def numberFault : List Char → Fault
  | '-' :: cs => unsignedFault cs
  | cs => unsignedFault cs

end Json

end BoardQuery
