import BoardQuery.Calendar.Date

/-!
# Time zones and midnights

A zone says how far local time is ahead of universal time at each instant. A local time may then
have one instant, or none where the clock is put forward, or two where it is put back.

Instants are seconds from the start of 1970 in universal time.
-/

namespace BoardQuery

namespace Calendar

/-- The number of 1 January 1970. -/
def epochDay : Int := 719162

def daySeconds : Int := 86400

/-- The first instant of a date in universal time. -/
def Date.start (d : Date) : Int :=
  (d.number - epochDay) * daySeconds

/-- A zone, by the seconds its local time is ahead. -/
inductive Zone where
  | fixed (offset : Int)
  /-- The offset is `alternate` from the instant `start` until before the instant `stop`, and
  `standard` at all other times. -/
  | seasonal (standard alternate start stop : Int)
deriving DecidableEq, Repr

namespace Zone

def offsetAt : Zone → Int → Int
  | fixed offset, _ => offset
  | seasonal standard alternate start stop, instant =>
    if start ≤ instant ∧ instant < stop then alternate else standard

/-- The offsets of a zone, the largest first. -/
def offsets : Zone → List Int
  | fixed offset => [offset]
  | seasonal standard alternate _ _ =>
    if standard ≤ alternate then [alternate, standard] else [standard, alternate]

end Zone

/-- A local date and time of day with the offset that holds there. -/
structure Moment where
  date : Date
  /-- The seconds from the start of the day. -/
  second : Nat
  offset : Int
deriving DecidableEq, Repr

namespace Moment

def instant (m : Moment) : Int :=
  m.date.start + m.second - m.offset

/-- Whether the instant of a moment falls on a supported date in universal time. -/
def isSupported (m : Moment) : Bool :=
  (Date.ofNumber (m.instant / daySeconds + epochDay)).isSupported

end Moment

namespace Zone

/-- The earliest moment at which a zone's clocks show a date and time of day. Of two offsets that
hold there the larger gives the earlier instant. -/
def earliest? (zone : Zone) (date : Date) (second : Nat) : Option Moment :=
  (zone.offsets.map (Moment.mk date second)).find? fun m =>
    zone.offsetAt m.instant == m.offset && m.isSupported

/-- The moment with which a date starts: midnight, or one o'clock where midnight is skipped. -/
def dayStart? (zone : Zone) (date : Date) : Option Moment :=
  (zone.earliest? date 0).or (zone.earliest? date 3600)

end Zone

end Calendar

end BoardQuery
