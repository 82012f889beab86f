/-!
# Dates

Dates of the proleptic Gregorian calendar, for all years, with year 0 before year 1. Each has a
number: the days from Monday, 1 January of year 1. The search works on dates of a bounded range
of years only.
-/

namespace BoardQuery

namespace Calendar

/-- Whether a year has a 29 February. -/
def isLeap (year : Int) : Bool :=
  year % 4 == 0 && (year % 100 != 0 || year % 400 == 0)

/-- The days of a month, January being 1. -/
def monthLength (year : Int) (month : Nat) : Nat :=
  match month with
  | 2 => if isLeap year then 29 else 28
  | 4 | 6 | 9 | 11 => 30
  | _ => 31

theorem monthLength_pos (year : Int) (month : Nat) : 1 ≤ monthLength year month := by
  simp only [monthLength]
  repeat' split
  all_goals omega

/-- A date: a year, a month from 1 to 12, and a day of that month. -/
@[ext]
structure Date where
  year : Int
  month : Nat
  day : Nat
  month_mem : 1 ≤ month ∧ month ≤ 12
  day_mem : 1 ≤ day ∧ day ≤ monthLength year month
deriving DecidableEq, Repr

namespace Date

def ofYmd? (year : Int) (month day : Nat) : Option Date :=
  if h : (1 ≤ month ∧ month ≤ 12) ∧ 1 ≤ day ∧ day ≤ monthLength year month then
    some ⟨year, month, day, h.1, h.2⟩
  else none

/-! ## Months in a row -/

/-- The number of a date's month, counted from January of year 0. -/
def monthNumber (d : Date) : Int :=
  12 * d.year + (d.month - 1)

/-- The date on a day of the month of a number, or on the day of that month that comes nearest. -/
def inMonth (number : Int) (day : Nat) : Date where
  year := number / 12
  month := (number % 12).toNat + 1
  day := max 1 (min day (monthLength (number / 12) ((number % 12).toNat + 1)))
  month_mem := by omega
  day_mem := by
    have := monthLength_pos (number / 12) ((number % 12).toNat + 1)
    omega

/-! ## Days in a row -/

def yearStart (year : Int) : Int :=
  365 * (year - 1) + (year - 1) / 4 - (year - 1) / 100 + (year - 1) / 400

/-- The days of a year that lie before a month, given as the number of months before it. -/
def daysBefore (year : Int) : Nat → Nat
  | 0 => 0
  | months + 1 => daysBefore year months + monthLength year (months + 1)

def number (d : Date) : Int :=
  yearStart d.year + daysBefore d.year (d.month - 1) + (d.day - 1)

/-- The year in which the day of a number lies. The average length of a year tells it but for one
year up or down; it is the last that does not start after the day. -/
def yearOf (number : Int) : Int :=
  let near := 400 * number / 146097 + 1
  if yearStart (near + 1) ≤ number then near + 1
  else if yearStart near ≤ number then near
  else near - 1

/-- The months of a year, looked for below a bound, that lie before its day `day`, the first day
being 0. -/
def monthsBefore (year : Int) (day : Nat) : Nat → Nat
  | 0 => 0
  | months + 1 =>
    if daysBefore year months ≤ day then months else monthsBefore year day months

def ofNumber (number : Int) : Date :=
  let year := yearOf number
  let day := (number - yearStart year).toNat
  let months := monthsBefore year day 12
  inMonth (12 * year + months) (day - daysBefore year months + 1)

/-! ## The supported years -/

def firstYear : Int := -262143

def lastYear : Int := 262142

/-- Whether the search can work with a date. -/
def isSupported (d : Date) : Bool :=
  firstYear ≤ d.year && d.year ≤ lastYear

def supported? (d : Date) : Option Date :=
  if d.isSupported then some d else none

end Date

end Calendar

end BoardQuery
