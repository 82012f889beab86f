import BoardQuery.Proofs.NextWeek

/-!
# Where the next month, quarter and year start

Months, quarters and years are made of one, three and twelve months, and start with the first day
of a month whose number is a multiple of that (`exists_step`). No multiple comes between a date and
the next one (`firstOfNext_le`), so the search goes on to the next boundary of its period, and finds
none only where the supported years end (`rollover_boundary`).
-/

namespace BoardQuery

namespace Calendar

namespace Date

/-- Whether a period starts on a date. -/
def Starts (d : Date) : Period → Prop
  | .week => d.IsMonday
  | .month => d.day = 1
  | .quarter => d.day = 1 ∧ (d.month = 1 ∨ d.month = 4 ∨ d.month = 7 ∨ d.month = 10)
  | .year => d.day = 1 ∧ d.month = 1

instance (d : Date) : (period : Period) → Decidable (d.Starts period)
  | .week => inferInstanceAs (Decidable d.IsMonday)
  | .month => inferInstanceAs (Decidable (_ = _))
  | .quarter => inferInstanceAs (Decidable (_ ∧ _))
  | .year => inferInstanceAs (Decidable (_ ∧ _))

example : (Date.mk 2026 10 1 (by decide) (by decide)).Starts .quarter := by decide

/-- A date is the least supported one after another on which a period starts. -/
structure IsNextStart (d : Date) (period : Period) (start : Date) : Prop where
  supported : start.isSupported = true
  starts : start.Starts period
  after : d < start
  least : ∀ other : Date, other.isSupported = true → other.Starts period → d < other →
    start ≤ other

theorem IsNextStart.unique {d start start' : Date} {period : Period}
    (h : d.IsNextStart period start) (h' : d.IsNextStart period start') : start = start' :=
  eq_of_le_of_le (h.least _ h'.supported h'.starts h'.after)
    (h'.least _ h.supported h.starts h.after)

/-! ## First days of months -/

theorem year_eq (d : Date) : d.year = d.monthNumber / 12 := by
  have := d.month_mem
  unfold monthNumber
  omega

/-- Before the first day of a month come the days of the months before it. -/
theorem lt_iff_monthNumber_lt {d start : Date} (h : start.day = 1) :
    d < start ↔ d.monthNumber < start.monthNumber := by
  have := d.month_mem
  have := start.month_mem
  have := d.day_mem
  unfold monthNumber
  rw [lt_def, h]
  omega

theorem le_iff_monthNumber_le {start other : Date} (h : start.day = 1) :
    start ≤ other ↔ start.monthNumber ≤ other.monthNumber :=
  (not_congr (lt_iff_monthNumber_lt h)).trans Int.not_lt

/-! ## The next multiple -/

/-- The first day of the first month after a date's whose number is a multiple of `step`. -/
def firstOfNext (d : Date) (step : Int) : Date :=
  inMonth (step * (d.monthNumber / step + 1)) 1

variable {d : Date} {step : Int}

theorem monthNumber_firstOfNext :
    (d.firstOfNext step).monthNumber = step * (d.monthNumber / step + 1) :=
  monthNumber_inMonth _ _

theorem day_firstOfNext : (d.firstOfNext step).day = 1 := by
  unfold firstOfNext inMonth
  simp only []
  omega

theorem lt_firstOfNext (hstep : 0 < step) : d < d.firstOfNext step := by
  rw [lt_iff_monthNumber_lt day_firstOfNext, monthNumber_firstOfNext, Int.mul_comm]
  exact Int.lt_ediv_add_one_mul_self _ hstep

theorem firstOfNext_le (hstep : 0 < step) {other : Date} (hdvd : step ∣ other.monthNumber)
    (h : d.monthNumber < other.monthNumber) : d.firstOfNext step ≤ other := by
  obtain ⟨k, hk⟩ := hdvd
  rw [le_iff_monthNumber_le day_firstOfNext, monthNumber_firstOfNext, hk]
  have hlt : d.monthNumber / step < k := by
    rw [Int.ediv_lt_iff_lt_mul hstep, Int.mul_comm, ← hk]
    exact h
  exact Int.mul_le_mul_of_nonneg_left hlt (Int.le_of_lt hstep)

/-! ## Rollover -/

theorem rollover_month : d.rollover .month = (d.firstOfNext 1).supported? := by
  unfold rollover nextMonthStart firstOfNext
  rw [Int.ediv_one, Int.one_mul]

theorem rollover_quarter : d.rollover .quarter = (d.firstOfNext 3).supported? :=
  rfl

theorem rollover_year : d.rollover .year = (d.firstOfNext 12).supported? := by
  unfold rollover nextYearStart firstOfNext
  rw [year_eq]

/-- The periods longer than a week are made of a number of months, and start with the first days of
the months whose numbers are its multiples. -/
theorem exists_step {period : Period} (h : period ≠ .week) :
    ∃ step : Int, 0 < step
      ∧ (∀ d : Date, d.Starts period ↔ d.day = 1 ∧ step ∣ d.monthNumber)
      ∧ ∀ d : Date, d.rollover period = (d.firstOfNext step).supported? := by
  cases period with
  | week => exact absurd rfl h
  | month => exact ⟨1, by decide, fun d => by simp [Starts], fun d => rollover_month⟩
  | quarter =>
    refine ⟨3, by decide, fun d => ?_, fun d => rollover_quarter⟩
    have := d.month_mem
    unfold Starts monthNumber
    omega
  | year =>
    refine ⟨12, by decide, fun d => ?_, fun d => rollover_year⟩
    have := d.month_mem
    unfold Starts monthNumber
    omega

variable {period : Period}

theorem isNextStart_of_rollover (hperiod : period ≠ .week) {start : Date}
    (h : d.rollover period = some start) : d.IsNextStart period start := by
  obtain ⟨step, hstep, hstarts, hrollover⟩ := exists_step hperiod
  rw [hrollover, supported?_eq_some_iff] at h
  obtain ⟨hsupported, rfl⟩ := h
  refine ⟨hsupported, ?_, lt_firstOfNext hstep, fun other _ hother hlt => ?_⟩
  · rw [hstarts, monthNumber_firstOfNext]
    exact ⟨day_firstOfNext, Int.dvd_mul_right _ _⟩
  · obtain ⟨hday, hdvd⟩ := (hstarts other).1 hother
    exact firstOfNext_le hstep hdvd ((lt_iff_monthNumber_lt hday).1 hlt)

/-- Where a later date that is supported starts a period, the next start is supported too. -/
theorem exists_rollover (hperiod : period ≠ .week) (hd : d.isSupported = true) {other : Date}
    (hsupported : other.isSupported = true) (hother : other.Starts period) (hlt : d < other) :
    ∃ start, d.rollover period = some start := by
  obtain ⟨step, hstep, hstarts, hrollover⟩ := exists_step hperiod
  obtain ⟨hday, hdvd⟩ := (hstarts other).1 hother
  have hle : d.firstOfNext step ≤ other :=
    firstOfNext_le hstep hdvd ((lt_iff_monthNumber_lt hday).1 hlt)
  refine ⟨d.firstOfNext step, ?_⟩
  rw [hrollover, supported?_eq_some_iff]
  exact ⟨isSupported_of_le_of_le hd (le_of_lt (lt_firstOfNext hstep)) hle hsupported, rfl⟩

theorem rollover_eq_some_iff (hperiod : period ≠ .week) (hd : d.isSupported = true) {start : Date} :
    d.rollover period = some start ↔ d.IsNextStart period start := by
  refine ⟨isNextStart_of_rollover hperiod, fun h => ?_⟩
  obtain ⟨start', hstart'⟩ := exists_rollover hperiod hd h.supported h.starts h.after
  rw [hstart', (isNextStart_of_rollover hperiod hstart').unique h]

theorem rollover_eq_none_iff (hperiod : period ≠ .week) (hd : d.isSupported = true) :
    d.rollover period = none ↔
      ∀ other : Date, other.isSupported = true → other.Starts period → ¬d < other := by
  constructor
  · intro h other hsupported hother hlt
    obtain ⟨start, hstart⟩ := exists_rollover hperiod hd hsupported hother hlt
    rw [h] at hstart
    simp at hstart
  · intro h
    rcases hrollover : d.rollover period with _ | start
    · rfl
    · have hnext := isNextStart_of_rollover hperiod hrollover
      exact absurd hnext.after (h start hnext.supported hnext.starts)

/-- After a supported date the search finds the start of the next month, quarter or year: the least
supported date after it on which one starts. It finds none exactly if there is no such date. A
later date has no earlier one, and the next month starts no later than the next quarter, and that
no later than the next year. -/
theorem rollover_boundary (hd : d.isSupported = true) :
    (∀ period, period ≠ .week →
      (∀ start, d.rollover period = some start ↔ d.IsNextStart period start)
        ∧ (d.rollover period = none ↔
          ∀ other : Date, other.isSupported = true → other.Starts period → ¬d < other)
        ∧ ∀ d' start', d ≤ d' → d'.rollover period = some start' →
          ∃ start, d.rollover period = some start ∧ start ≤ start')
      ∧ ∀ month quarter year, d.rollover .month = some month →
        d.rollover .quarter = some quarter → d.rollover .year = some year →
          month ≤ quarter ∧ quarter ≤ year := by
  refine ⟨fun period hperiod => ⟨fun start => rollover_eq_some_iff hperiod hd,
    rollover_eq_none_iff hperiod hd, fun d' start' hle hstart' => ?_⟩,
    fun month quarter year hmonth hquarter hyear => ?_⟩
  · have hnext' := isNextStart_of_rollover hperiod hstart'
    have hlt : d < start' := by
      have hnumber := le_iff_number_le.1 hle
      have hafter := lt_iff_number_lt.1 hnext'.after
      rw [lt_iff_number_lt]
      omega
    obtain ⟨start, hstart⟩ := exists_rollover hperiod hd hnext'.supported hnext'.starts hlt
    have hnext := isNextStart_of_rollover hperiod hstart
    exact ⟨start, hstart, hnext.least start' hnext'.supported hnext'.starts hlt⟩
  · have hmonth := isNextStart_of_rollover (by decide) hmonth
    have hquarter := isNextStart_of_rollover (by decide) hquarter
    have hyear := isNextStart_of_rollover (by decide) hyear
    exact ⟨hmonth.least _ hquarter.supported hquarter.starts.1 hquarter.after,
      hquarter.least _ hyear.supported ⟨hyear.starts.1, .inl hyear.starts.2⟩ hyear.after⟩

/-- After the last day of November the next quarter starts with the next year; after the first day
of October in the last supported year none does. -/
theorem rollover_boundary_quarters :
    (Date.mk 2026 11 30 (by decide) (by decide)).IsNextStart .quarter
        (Date.mk 2027 1 1 (by decide) (by decide))
      ∧ ∀ other : Date, other.isSupported = true → other.Starts .quarter →
        ¬Date.mk 262142 10 1 (by decide) (by decide) < other := by
  obtain ⟨hnovember, -⟩ := @rollover_boundary (Date.mk 2026 11 30 (by decide) (by decide))
    (by decide)
  obtain ⟨hlast, -⟩ := @rollover_boundary (Date.mk 262142 10 1 (by decide) (by decide))
    (by decide)
  exact ⟨((hnovember .quarter (by decide)).1 _).1 (by decide),
    (hlast .quarter (by decide)).2.1.1 (by decide)⟩

end Date

end Calendar

end BoardQuery
