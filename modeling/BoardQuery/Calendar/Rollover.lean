import BoardQuery.Calendar.Date
import BoardQuery.Named

/-!
# Where the next period starts

A period of the calendar that is named in a search ends before the first day of the next one. Weeks
are those of ISO 8601: they start on Monday, and week 1 of a year is the one with 4 January.
-/

namespace BoardQuery

namespace Calendar

inductive Period where
  | week | month | quarter | year
deriving DecidableEq, Repr

instance : Named Period where
  all := [.week, .month, .quarter, .year]
  name
    | .week => "week"
    | .month => "month"
    | .quarter => "quarter"
    | .year => "year"

/-! ## Weeks -/

/-- A week, by the year it is counted in and its number there. -/
structure Week where
  year : Int
  number : Int
deriving DecidableEq, Repr

namespace Week

/-- The number of the Monday of a year's week 1. -/
def firstMonday (year : Int) : Int :=
  let january4 := Date.yearStart year + 3
  january4 - january4 % 7

def count (year : Int) : Int :=
  (firstMonday (year + 1) - firstMonday year) / 7

def monday (week : Week) : Int :=
  firstMonday week.year + 7 * (week.number - 1)

/-- The week of a date. It is counted in the year of its Thursday. -/
def ofDate (d : Date) : Week :=
  let year := Date.yearOf (d.number - d.number % 7 + 3)
  ⟨year, (d.number - firstMonday year) / 7 + 1⟩

/-- The week that a search takes to follow a week. Week 52 is followed by week 1, also in a year
that has a week 53. -/
def next (week : Week) : Week :=
  if week.number = 52 ∨ count week.year ≤ week.number then ⟨week.year + 1, 1⟩
  else ⟨week.year, week.number + 1⟩

end Week

/-! ## Rollover -/

namespace Date

def nextWeekStart (d : Date) : Date :=
  ofNumber (Week.ofDate d).next.monday

def nextMonthStart (d : Date) : Date :=
  inMonth (d.monthNumber + 1) 1

def nextQuarterStart (d : Date) : Date :=
  inMonth (3 * (d.monthNumber / 3 + 1)) 1

def nextYearStart (d : Date) : Date :=
  inMonth (12 * (d.year + 1)) 1

/-- The first day of the next period, if it is supported. -/
def rollover (d : Date) : Period → Option Date
  | .week => d.nextWeekStart.supported?
  | .month => d.nextMonthStart.supported?
  | .quarter => d.nextQuarterStart.supported?
  | .year => d.nextYearStart.supported?

end Date

end Calendar

end BoardQuery
