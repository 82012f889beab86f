import BoardQuery.Calendar.Numbering

/-!
# Dates in order

Dates follow one another by year, month and day, and that is the order of their numbers
(`lt_iff_number_lt`).
-/

namespace BoardQuery

namespace Calendar

namespace Date

/-- A date comes before another if its year does, or its month within the year, or its day within
the month. -/
instance : LT Date where
  lt d d' :=
    d.year < d'.year
      ∨ d.year = d'.year ∧ (d.month < d'.month ∨ d.month = d'.month ∧ d.day < d'.day)

instance : LE Date where
  le d d' := ¬d' < d

theorem lt_def {d d' : Date} :
    d < d' ↔ d.year < d'.year
      ∨ d.year = d'.year ∧ (d.month < d'.month ∨ d.month = d'.month ∧ d.day < d'.day) :=
  Iff.rfl

theorem number_lt_of_lt {d d' : Date} (h : d < d') : d.number < d'.number := by
  have hday := d.day_mem
  have hmonth := d.month_mem
  rcases lt_def.1 h with hyear | ⟨hyear, hmonth' | ⟨hmonth', hday'⟩⟩
  · have hnext : yearStart (d.year + 1) ≤ yearStart d'.year := yearStart_le hyear
    have hlast := number_lt_yearStart_succ d
    have hfirst := yearStart_le_number d'
    omega
  · have hlast := daysBefore_day_lt d
    have hnext := daysBefore_le d.year (show d.month ≤ d'.month - 1 by omega)
    have := d'.day_mem
    rw [number, number, ← hyear]
    omega
  · rw [number, number, ← hyear, ← hmonth']
    omega

theorem lt_trichotomy (d d' : Date) : d < d' ∨ d = d' ∨ d' < d := by
  rw [lt_def, lt_def, Date.ext_iff]
  omega

theorem lt_iff_number_lt {d d' : Date} : d < d' ↔ d.number < d'.number := by
  refine ⟨number_lt_of_lt, fun h => ?_⟩
  rcases lt_trichotomy d d' with hlt | rfl | hgt
  · exact hlt
  · omega
  · have := number_lt_of_lt hgt
    omega

theorem le_iff_number_le {d d' : Date} : d ≤ d' ↔ d.number ≤ d'.number :=
  (not_congr lt_iff_number_lt).trans Int.not_lt

theorem le_of_lt {d d' : Date} (h : d < d') : d ≤ d' :=
  le_iff_number_le.2 (Int.le_of_lt (lt_iff_number_lt.1 h))

theorem eq_of_le_of_le {d d' : Date} (h : d ≤ d') (h' : d' ≤ d) : d = d' :=
  number_inj.1 (Int.le_antisymm (le_iff_number_le.1 h) (le_iff_number_le.1 h'))

theorem year_le_of_le {d d' : Date} (h : d ≤ d') : d.year ≤ d'.year :=
  Int.not_lt.1 fun hlt => h (lt_def.2 (.inl hlt))

/-! ## The supported dates -/

theorem supported?_eq_some_iff {d d' : Date} :
    d.supported? = some d' ↔ d.isSupported = true ∧ d = d' := by
  unfold supported?
  split
  · rename_i h
    simp [h]
  · rename_i h
    simp [h]

theorem isSupported_iff {d : Date} :
    d.isSupported = true ↔ firstYear ≤ d.year ∧ d.year ≤ lastYear := by
  simp [isSupported]

/-- The supported dates have no gaps. -/
theorem isSupported_of_le_of_le {d start last : Date} (hd : d.isSupported = true) (h : d ≤ start)
    (h' : start ≤ last) (hlast : last.isSupported = true) : start.isSupported = true := by
  have := year_le_of_le h
  have := year_le_of_le h'
  rw [isSupported_iff] at hd hlast ⊢
  omega

theorem number_mem {d : Date} (hd : d.isSupported = true) :
    -95746130 ≤ d.number ∧ d.number < 95745399 := by
  obtain ⟨hfirst, hlast⟩ := isSupported_iff.1 hd
  constructor
  · calc -95746130 = yearStart firstYear := by decide
      _ ≤ yearStart d.year := yearStart_le hfirst
      _ ≤ d.number := yearStart_le_number d
  · calc d.number < yearStart (d.year + 1) := number_lt_yearStart_succ d
      _ ≤ yearStart (lastYear + 1) := yearStart_le (by omega)
      _ = 95745399 := by decide

end Date

end Calendar

end BoardQuery
