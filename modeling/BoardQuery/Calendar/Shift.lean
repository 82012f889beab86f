import BoardQuery.Calendar.Zone

/-!
# Dates some time away

A number of days, weeks, months, quarters or years from today, in either direction. A shift by
months keeps the day of the month, or takes the last day of a shorter month.
-/

namespace BoardQuery

namespace Calendar

/-- A count, provided that it fits in 32 bits. -/
def fitting? (count : Nat) : Option Nat :=
  if count < UInt32.size then some count else none

inductive ShiftUnit where
  | day | week | month | quarter | year
deriving DecidableEq, Repr

inductive Direction where
  | forward | backward
deriving DecidableEq, Repr

/-- An amount with the sign of a direction. -/
def Direction.signed : Direction → Nat → Int
  | forward, amount => amount
  | backward, amount => -amount

namespace Date

def addDays (d : Date) (days : Int) : Date :=
  ofNumber (d.number + days)

def addMonths (d : Date) (months : Int) : Date :=
  inMonth (d.monthNumber + months) d.day

/-- The largest number of days or of months that a date is shifted by at once. -/
def farthest : Nat := 2147483647

/-- The date a number of days away, if it is not too far and supported. -/
def addDays? (d : Date) (direction : Direction) (days : Nat) : Option Date :=
  if days ≤ farthest then (d.addDays (direction.signed days)).supported? else none

/-- The date a number of months away, if it is not too far and supported. -/
def addMonths? (d : Date) (direction : Direction) (months : Nat) : Option Date :=
  if months ≤ farthest then (d.addMonths (direction.signed months)).supported? else none

/-- The date a number of units away. Quarters and years are counted in months before that, and that
count has to fit in 32 bits. -/
def shift? (d : Date) (amount : Nat) (direction : Direction) : ShiftUnit → Option Date
  | .day => d.addDays? direction amount
  | .week => d.addDays? direction (7 * amount)
  | .month => d.addMonths? direction amount
  | .quarter => (fitting? (3 * amount)).bind (d.addMonths? direction)
  | .year => (fitting? (12 * amount)).bind (d.addMonths? direction)

end Date

/-- The date on which a search is read, and the zone in which it is. -/
structure Anchor where
  today : Date
  zone : Zone
deriving DecidableEq, Repr

namespace Anchor

/-- The start of the day that lies a number of units from today, if there is such a day. -/
def dayAway? (anchor : Anchor) (amount : Nat) (unit : ShiftUnit) (direction : Direction) :
    Option Moment :=
  (anchor.today.shift? amount direction unit).bind anchor.zone.dayStart?

end Anchor

end Calendar

end BoardQuery
