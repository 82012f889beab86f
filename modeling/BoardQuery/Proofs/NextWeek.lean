import BoardQuery.Calendar.Rollover
import BoardQuery.Proofs.DateOrder
import Mathlib.Tactic.SplitIfs

/-!
# Where the next week starts

The weeks of a year are numbered by its Thursdays (`ofDate_eq`), and a year has 52 or 53 of them
(`count_cases`). So the week that a search takes to follow starts on the next Monday, but for the
week 52 of a year with 53 weeks, after which it starts a week later (`number_nextWeekStart`).
-/

namespace BoardQuery

namespace Calendar

namespace Date

/-- The days are numbered from a Monday on. -/
def IsMonday (d : Date) : Prop :=
  d.number % 7 = 0

instance (d : Date) : Decidable d.IsMonday :=
  inferInstanceAs (Decidable (_ = _))

example : (Date.mk 2026 1 5 (by decide) (by decide)).IsMonday := by decide +kernel

/-- The Thursday of a date's week. -/
def thursday (d : Date) : Date :=
  ofNumber (d.number - d.number % 7 + 3)

theorem number_thursday (d : Date) : d.thursday.number = d.number - d.number % 7 + 3 :=
  number_ofNumber _

/-- The week of a date by the rule of ISO 8601: it belongs to the year of its Thursday, and its
number tells which Thursday of that year this is. -/
def isoWeek (d : Date) : Week :=
  ⟨d.thursday.year, (d.thursday.number - yearStart d.thursday.year) / 7 + 1⟩

/-- Whether the week of a date has number 52 in a year in which some date lies in a week 53. -/
def InLongWeek52 (d : Date) : Prop :=
  d.isoWeek.number = 52 ∧ ∃ d' : Date, d'.isoWeek = ⟨d.isoWeek.year, 53⟩

/-- The first Monday after a date. -/
def mondayAfter (d : Date) : Date :=
  ofNumber (d.number - d.number % 7 + 7)

theorem number_mondayAfter (d : Date) : d.mondayAfter.number = d.number - d.number % 7 + 7 :=
  number_ofNumber _

theorem mondayAfter_least (d : Date) :
    d.mondayAfter.IsMonday ∧ d < d.mondayAfter
      ∧ ∀ m : Date, m.IsMonday → d < m → d.mondayAfter ≤ m := by
  have hnumber := number_mondayAfter d
  refine ⟨?_, ?_, fun m hm hlt => ?_⟩
  · rw [IsMonday, hnumber]
    omega
  · rw [lt_iff_number_lt, hnumber]
    omega
  · rw [lt_iff_number_lt] at hlt
    rw [IsMonday] at hm
    rw [le_iff_number_le, hnumber]
    omega

end Date

namespace Week

open Date

/-! ## The weeks of a year -/

theorem firstMonday_mem (year : Int) :
    firstMonday year % 7 = 0 ∧ yearStart year - 3 ≤ firstMonday year
      ∧ firstMonday year ≤ yearStart year + 3 := by
  simp only [firstMonday]
  omega

/-- The first Mondays of two years in a row lie whole weeks apart. -/
theorem firstMonday_succ (year : Int) :
    firstMonday (year + 1) = firstMonday year + 7 * count year := by
  have hfirst := firstMonday_mem year
  have hnext := firstMonday_mem (year + 1)
  rw [count]
  omega

theorem count_cases (year : Int) : count year = 52 ∨ count year = 53 := by
  have hfirst := firstMonday_mem year
  have hnext := firstMonday_mem (year + 1)
  have hstart := yearStart_succ year
  rw [count]
  cases hleap : isLeap year <;>
    simp only [hleap, if_true, Bool.false_eq_true, if_false] at hstart <;> omega

/-- The Thursday of a date's week lies within the year of the week. -/
theorem thursday_mem (d : Date) :
    yearStart d.thursday.year ≤ d.number - d.number % 7 + 3
      ∧ d.number - d.number % 7 + 3 < yearStart (d.thursday.year + 1) := by
  have hthursday := number_thursday d
  have hfirst := yearStart_le_number d.thursday
  have hlast := number_lt_yearStart_succ d.thursday
  omega

/-- The week of a date is the one that is counted by Thursdays. -/
theorem ofDate_eq (d : Date) : ofDate d = d.isoWeek := by
  have hthursday := number_thursday d
  have hyear : yearOf (d.number - d.number % 7 + 3) = d.thursday.year :=
    (year_ofNumber _).symm
  have hmem := thursday_mem d
  have hfirst := firstMonday_mem d.thursday.year
  have hweek : (d.number - firstMonday d.thursday.year) / 7 =
      (d.thursday.number - yearStart d.thursday.year) / 7 := by
    rw [hthursday]
    omega
  simp only [ofDate, isoWeek, hyear, hweek]

/-- A week's number and its year tell its Monday; it is one of the weeks of its year. -/
theorem monday_isoWeek (d : Date) :
    d.isoWeek.monday = d.number - d.number % 7 ∧ 1 ≤ d.isoWeek.number
      ∧ d.isoWeek.number ≤ count d.isoWeek.year := by
  have hthursday := number_thursday d
  have hmem := thursday_mem d
  have hfirst := firstMonday_mem d.thursday.year
  have hnext := firstMonday_mem (d.thursday.year + 1)
  have hsucc := firstMonday_succ d.thursday.year
  simp only [monday, isoWeek, hthursday]
  omega

/-- A year has a week 53 exactly if it has 53 weeks. -/
theorem exists_isoWeek_53_iff (year : Int) :
    (∃ d : Date, d.isoWeek = ⟨year, 53⟩) ↔ count year = 53 := by
  constructor
  · rintro ⟨d, hd⟩
    obtain ⟨-, -, hle⟩ := monday_isoWeek d
    rw [hd] at hle
    have hcases := count_cases year
    simp only at hle
    omega
  · intro hcount
    have hfirst := firstMonday_mem year
    have hnext := firstMonday_mem (year + 1)
    have hsucc := firstMonday_succ year
    -- the Monday of week 53, and its Thursday
    have hnumber : (ofNumber (firstMonday year + 7 * 52)).number = firstMonday year + 7 * 52 :=
      number_ofNumber _
    have hthursday : (ofNumber (firstMonday year + 7 * 52)).thursday =
        ofNumber (firstMonday year + 7 * 52 + 3) := by
      rw [thursday, hnumber]
      congr 1
      omega
    have hyear : yearOf (firstMonday year + 7 * 52 + 3) = year :=
      yearOf_eq (by omega) (by omega)
    refine ⟨ofNumber (firstMonday year + 7 * 52), ?_⟩
    rw [isoWeek, hthursday, year_ofNumber, hyear, number_ofNumber]
    congr 1
    omega

end Week

namespace Date

open Week

/-! ## Rollover -/

theorem inLongWeek52_iff {d : Date} :
    d.InLongWeek52 ↔ (ofDate d).number = 52 ∧ count (ofDate d).year = 53 := by
  rw [InLongWeek52, exists_isoWeek_53_iff, ofDate_eq]

instance (d : Date) : Decidable d.InLongWeek52 :=
  decidable_of_iff _ inLongWeek52_iff.symm

theorem number_nextWeekStart (d : Date) :
    d.nextWeekStart.number = d.mondayAfter.number + if d.InLongWeek52 then 7 else 0 := by
  have hmonday := monday_isoWeek d
  have hsucc := firstMonday_succ d.isoWeek.year
  have hcases := count_cases d.isoWeek.year
  have hlong : d.InLongWeek52 ↔ d.isoWeek.number = 52 ∧ count d.isoWeek.year = 53 := by
    rw [inLongWeek52_iff, ofDate_eq]
  rw [nextWeekStart, number_ofNumber, number_mondayAfter, ofDate_eq]
  simp only [Week.next, hlong]
  simp only [Week.monday] at hmonday ⊢
  split_ifs <;> simp only [] <;> omega

theorem nextWeekStart_of_not_inLongWeek52 {d : Date} (h : ¬d.InLongWeek52) :
    d.nextWeekStart = d.mondayAfter := by
  rw [← number_inj, number_nextWeekStart, if_neg h, Int.add_zero]

theorem nextWeekStart_of_inLongWeek52 {d : Date} (h : d.InLongWeek52) :
    d.nextWeekStart = ofNumber (d.mondayAfter.number + 7) := by
  rw [← number_inj, number_nextWeekStart, if_pos h, number_ofNumber]

/-- A later date has no earlier start of the next week: in a later week, the next Monday is a later
one by a week at least. -/
theorem nextWeekStart_mono {d d' : Date} (h : d ≤ d') : d.nextWeekStart ≤ d'.nextWeekStart := by
  rw [le_iff_number_le] at h ⊢
  by_cases hweek : d.number - d.number % 7 = d'.number - d'.number % 7
  · have hmonday : d.isoWeek = d'.isoWeek := by
      rw [isoWeek, isoWeek, thursday, thursday, hweek]
    have hsame : d.nextWeekStart = d'.nextWeekStart := by
      rw [nextWeekStart, nextWeekStart, ofDate_eq, ofDate_eq, hmonday]
    exact Int.le_of_eq (congrArg number hsame)
  · rw [number_nextWeekStart, number_nextWeekStart, number_mondayAfter, number_mondayAfter]
    split_ifs <;> omega

theorem lt_nextWeekStart (d : Date) : d < d.nextWeekStart := by
  rw [lt_iff_number_lt, number_nextWeekStart, number_mondayAfter]
  split_ifs <;> omega

/-- The week after a date's starts on the first Monday after the date, or a week later if the date
lies in week 52 of a year with 53 weeks; there is none if that day is not supported. It starts at
most 14 days after the date, and at most 7 but for that week, and no earlier for a later date. -/
theorem rollover_week (d : Date) :
    (d.mondayAfter.IsMonday ∧ d < d.mondayAfter
        ∧ ∀ m : Date, m.IsMonday → d < m → d.mondayAfter ≤ m)
      ∧ (¬d.InLongWeek52 → d.rollover .week = d.mondayAfter.supported?)
      ∧ (d.InLongWeek52 → d.rollover .week = (ofNumber (d.mondayAfter.number + 7)).supported?)
      ∧ (∀ start, d.rollover .week = some start →
        start.IsMonday ∧ d < start ∧ start.number ≤ d.number + 14
          ∧ (¬d.InLongWeek52 → start.number ≤ d.number + 7))
      ∧ ∀ d' start', d.isSupported = true → d ≤ d' → d'.rollover .week = some start' →
        ∃ start, d.rollover .week = some start ∧ start ≤ start' := by
  refine ⟨mondayAfter_least d, fun h => ?_, fun h => ?_, fun start hstart => ?_,
    fun d' start' hd hle hstart' => ?_⟩
  · rw [rollover, nextWeekStart_of_not_inLongWeek52 h]
  · rw [rollover, nextWeekStart_of_inLongWeek52 h]
  · obtain ⟨-, rfl⟩ := supported?_eq_some_iff.1 hstart
    have hnumber := number_nextWeekStart d
    have hmonday := number_mondayAfter d
    refine ⟨?_, lt_nextWeekStart d, ?_, fun h => ?_⟩
    · rw [IsMonday, hnumber, hmonday]
      split_ifs <;> omega
    · rw [hnumber, hmonday]
      split_ifs <;> omega
    · rw [hnumber, hmonday, if_neg h]
      omega
  · obtain ⟨hsupported, rfl⟩ := supported?_eq_some_iff.1 hstart'
    have hmono := nextWeekStart_mono hle
    have hlast := year_le_of_le hmono
    have hfirst := year_le_of_le (fun h => by
      have := lt_iff_number_lt.1 h
      have := lt_iff_number_lt.1 (lt_nextWeekStart d)
      omega : d ≤ d.nextWeekStart)
    rw [isSupported_iff] at hd hsupported
    refine ⟨d.nextWeekStart, supported?_eq_some_iff.2 ⟨?_, rfl⟩, hmono⟩
    rw [isSupported_iff]
    omega

/-- The year 2026 has 53 weeks: from Wednesday of its week 52 the search goes on to the Monday of
the week after next. -/
theorem rollover_week_long_year :
    (Date.mk 2026 12 23 (by decide) (by decide)).rollover .week =
      some (Date.mk 2027 1 4 (by decide) (by decide)) := by
  obtain ⟨-, -, hlong, -⟩ := rollover_week (Date.mk 2026 12 23 (by decide) (by decide))
  rw [hlong (by decide +kernel)]
  decide +kernel

end Date

end Calendar

end BoardQuery
