import BoardQuery.Calendar.Date

/-!
# Dates and their numbers

The number of a date tells the date, and every number is the number of one: `number_ofNumber` and
`ofNumber_number`. A date is likewise told by the number of its month and its day in the month,
`inMonth_monthNumber`.
-/

namespace BoardQuery

namespace Calendar

namespace Date

/-! ## Years -/

theorem yearStart_succ (year : Int) :
    yearStart (year + 1) = yearStart year + if isLeap year then 366 else 365 := by
  simp only [yearStart, isLeap, Bool.and_eq_true, Bool.or_eq_true, beq_iff_eq, bne_iff_ne]
  split <;> omega

theorem yearOf_le (number : Int) : yearStart (yearOf number) ≤ number := by
  simp only [yearOf]
  split
  · assumption
  · split
    · assumption
    · simp only [yearStart] at *
      omega

theorem lt_yearOf_succ (number : Int) : number < yearStart (yearOf number + 1) := by
  simp only [yearOf]
  split
  · simp only [yearStart] at *
    omega
  · split
    · omega
    · rw [show 400 * number / 146097 + 1 - 1 + 1 = 400 * number / 146097 + 1 by omega]
      omega

theorem yearStart_lt {year year' : Int} (h : year < year') : yearStart year < yearStart year' := by
  simp only [yearStart]
  omega

theorem yearStart_le {year year' : Int} (h : year ≤ year') : yearStart year ≤ yearStart year' := by
  simp only [yearStart]
  omega

theorem yearOf_eq {number year : Int} (hle : yearStart year ≤ number)
    (hlt : number < yearStart (year + 1)) : yearOf number = year := by
  have hle' := yearOf_le number
  have hlt' := lt_yearOf_succ number
  rcases Int.lt_trichotomy (yearOf number) year with h | h | h
  · rcases Int.lt_or_eq_of_le (show yearOf number + 1 ≤ year by omega) with h' | h'
    · have := yearStart_lt h'
      omega
    · rw [h'] at hlt'
      omega
  · exact h
  · rcases Int.lt_or_eq_of_le (show year + 1 ≤ yearOf number by omega) with h' | h'
    · have := yearStart_lt h'
      omega
    · rw [h'] at hlt
      omega

/-! ## Months -/

theorem daysBefore_twelve (year : Int) :
    daysBefore year 12 = if isLeap year then 366 else 365 := by
  simp only [daysBefore, monthLength]
  split <;> rfl

theorem daysBefore_le (year : Int) {m n : Nat} (h : m ≤ n) :
    daysBefore year m ≤ daysBefore year n := by
  induction h with
  | refl => exact Nat.le_refl _
  | step _ ih => exact Nat.le_trans ih (Nat.le_add_right _ _)

theorem monthsBefore_mem {year : Int} {day months : Nat} (h : day < daysBefore year months) :
    monthsBefore year day months < months ∧
      daysBefore year (monthsBefore year day months) ≤ day ∧
      day < daysBefore year (monthsBefore year day months + 1) := by
  induction months with
  | zero => simp [daysBefore] at h
  | succ months ih =>
    simp only [monthsBefore]
    split
    · next hle => exact ⟨Nat.lt_succ_self _, hle, h⟩
    · next hle =>
      obtain ⟨hlt, hmem⟩ := ih (Nat.not_le.1 hle)
      exact ⟨Nat.lt_succ_of_lt hlt, hmem⟩

theorem monthsBefore_eq {year : Int} {day months m : Nat} (hm : m < months)
    (hle : daysBefore year m ≤ day) (hlt : day < daysBefore year (m + 1)) :
    monthsBefore year day months = m := by
  induction months with
  | zero => omega
  | succ months ih =>
    simp only [monthsBefore]
    by_cases heq : months = m
    · simp [heq, hle]
    · have := daysBefore_le year (show m + 1 ≤ months by omega)
      rw [if_neg (by omega)]
      exact ih (by omega)

theorem inMonth_eq {year : Int} {month day : Nat} (hmonth : month < 12)
    (hday : 1 ≤ day ∧ day ≤ monthLength year (month + 1)) :
    (inMonth (12 * year + month) day).year = year ∧
      (inMonth (12 * year + month) day).month = month + 1 ∧
      (inMonth (12 * year + month) day).day = day := by
  have hyear : (12 * year + month) / 12 = year := by omega
  have hmonth : ((12 * year + month) % 12).toNat = month := by omega
  simp only [inMonth, hyear, hmonth, true_and]
  omega

theorem monthNumber_eq (d : Date) : d.monthNumber = 12 * d.year + ((d.month - 1 : Nat) : Int) := by
  have := d.month_mem
  simp only [monthNumber]
  omega

theorem monthNumber_inMonth (number : Int) (day : Nat) :
    (inMonth number day).monthNumber = number := by
  simp only [monthNumber, inMonth]
  omega

theorem inMonth_monthNumber (d : Date) : inMonth d.monthNumber d.day = d := by
  have hmonth := d.month_mem
  have hpred : d.month - 1 + 1 = d.month := by omega
  obtain ⟨h1, h2, h3⟩ :=
    inMonth_eq (show d.month - 1 < 12 by omega) (hpred.symm ▸ d.day_mem)
  rw [monthNumber_eq]
  exact Date.ext h1 (h2.trans hpred) h3

/-! ## Days -/

theorem number_inMonth {year : Int} {month day : Nat} (hmonth : month < 12)
    (hday : 1 ≤ day ∧ day ≤ monthLength year (month + 1)) :
    (inMonth (12 * year + month) day).number =
      yearStart year + daysBefore year month + (day - 1) := by
  obtain ⟨h1, h2, h3⟩ := inMonth_eq hmonth hday
  rw [number, h1, h2, h3, Nat.add_sub_cancel]

theorem number_ofNumber (number : Int) : (ofNumber number).number = number := by
  have hle := yearOf_le number
  have hlt := lt_yearOf_succ number
  rw [yearStart_succ] at hlt
  have hday : (number - yearStart (yearOf number)).toNat < daysBefore (yearOf number) 12 := by
    rw [daysBefore_twelve]
    cases hleap : isLeap (yearOf number) <;>
      simp only [hleap, if_true, Bool.false_eq_true, if_false] at hlt ⊢ <;> omega
  obtain ⟨hmonths, hlow, hhigh⟩ := monthsBefore_mem hday
  simp only [daysBefore] at hhigh
  rw [ofNumber, number_inMonth hmonths (by omega)]
  omega

theorem yearStart_le_number (d : Date) : yearStart d.year ≤ d.number := by
  have := d.day_mem
  rw [number]
  omega

/-- The days of a month come before those of the months after it. -/
theorem daysBefore_day_lt (d : Date) :
    daysBefore d.year (d.month - 1) + (d.day - 1) < daysBefore d.year d.month := by
  have hmonth := d.month_mem
  have hday := d.day_mem
  have hpred : d.month - 1 + 1 = d.month := by omega
  rw [← hpred, daysBefore, hpred]
  omega

theorem number_lt_yearStart_succ (d : Date) : d.number < yearStart (d.year + 1) := by
  have hday := daysBefore_day_lt d
  have htwelve := daysBefore_le d.year d.month_mem.2
  have := d.day_mem
  rw [daysBefore_twelve] at htwelve
  rw [yearStart_succ, number]
  cases hleap : isLeap d.year <;>
    simp only [hleap, if_true, Bool.false_eq_true, if_false] at htwelve ⊢ <;> omega

theorem yearOf_number (d : Date) : yearOf d.number = d.year :=
  yearOf_eq (yearStart_le_number d) (number_lt_yearStart_succ d)

theorem ofNumber_number (d : Date) : ofNumber d.number = d := by
  have hmonth := d.month_mem
  have hday := d.day_mem
  have hpred : d.month - 1 + 1 = d.month := by omega
  have hhigh := daysBefore_day_lt d
  have hrest : (d.number - yearStart d.year).toNat =
      daysBefore d.year (d.month - 1) + (d.day - 1) := by
    rw [number]
    omega
  have hmonths : monthsBefore d.year (daysBefore d.year (d.month - 1) + (d.day - 1)) 12 =
      d.month - 1 :=
    monthsBefore_eq (by omega) (Nat.le_add_right _ _) (by rw [hpred]; exact hhigh)
  have hrestore : daysBefore d.year (d.month - 1) + (d.day - 1)
      - daysBefore d.year (d.month - 1) + 1 = d.day := by
    omega
  simp only [ofNumber]
  rw [yearOf_number, hrest, hmonths, hrestore, ← monthNumber_eq]
  exact inMonth_monthNumber d

theorem number_inj {d d' : Date} : d.number = d'.number ↔ d = d' := by
  constructor
  · intro h
    rw [← ofNumber_number d, h, ofNumber_number]
  · rintro rfl
    rfl

theorem year_ofNumber (number : Int) : (ofNumber number).year = yearOf number := by
  rw [← yearOf_number, number_ofNumber]

end Date

end Calendar

end BoardQuery
