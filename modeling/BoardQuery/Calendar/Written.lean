import BoardQuery.Calendar.Zone
import BoardQuery.Text.Decimal

/-!
# Dates and timestamps in writing

The extended format of ISO 8601, such as `2026-10-26` and `2026-10-26T00:00:00+02:00`. A year has
at least four digits, and a sign unless it lies between 0 and 9999. What has passed of a second is
not written.
-/

namespace BoardQuery

open Text

namespace Calendar

/-- A moment with the part of its second that has passed. A leap second is told by the second before
it, which then lasts for two. -/
@[ext]
structure Timestamp extends Moment where
  nanosecond : Nat
  nanosecond_lt : nanosecond < 2000000000
deriving DecidableEq, Repr

def writeYear (year : Int) : List Char :=
  if 0 ≤ year ∧ year ≤ 9999 then writePadded 4 year.toNat
  else (if year < 0 then '-' else '+') :: writePadded 4 year.natAbs

/-- An offset in writing, to the nearest minute; half a minute counts as a whole one. The sign
stays where the minutes are none. -/
def writeOffset (offset : Int) : List Char :=
  let minutes := (offset.natAbs + 30) / 60
  (if offset < 0 then '-' else '+') ::
    (writePadded 2 (minutes / 60) ++ ':' :: writePadded 2 (minutes % 60))

/-- A time of day in writing, to the second. The leap second is second 60 of its minute. -/
def writeTime (second nanosecond : Nat) : List Char :=
  writePadded 2 (second / 3600) ++
    ':' :: (writePadded 2 (second / 60 % 60) ++
      ':' :: writePadded 2 (second % 60 + nanosecond / 1000000000))

namespace Date

def chars (d : Date) : List Char :=
  writeYear d.year ++ '-' :: (writePadded 2 d.month ++ '-' :: writePadded 2 d.day)

def written (d : Date) : String :=
  String.ofList d.chars

end Date

namespace Timestamp

def chars (t : Timestamp) : List Char :=
  t.date.chars ++ 'T' :: (writeTime t.second t.nanosecond ++ writeOffset t.offset)

def written (t : Timestamp) : String :=
  String.ofList t.chars

end Timestamp

namespace Moment

/-- The timestamp at which the second of a moment begins, or the leap second after it. -/
def timestamp (m : Moment) (leap : Bool) : Timestamp where
  toMoment := m
  nanosecond := if leap then 1000000000 else 0
  nanosecond_lt := by split <;> decide

def written (m : Moment) : String :=
  (m.timestamp false).written

end Moment

end Calendar

end BoardQuery
