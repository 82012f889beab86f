import BoardQuery.Calendar.Shift
import BoardQuery.Proofs.DateOrder
import Mathlib.Tactic.SplitIfs

/-!
# Dates some time away, and the moments with which they start

A shift that stays within the supported years is exact (`shift?_eq_some_iff`): dates that lie so far
apart that a count of days or months does not fit are never both supported. The moment that is found
for a date and a time of day is the first supported one at which the clocks of the zone show them
(`earliest?_eq_some_iff`). Both together tell what is found some time away (`dayAway?_exact`).
-/

namespace BoardQuery

namespace Calendar

namespace Date

/-! ## Exact shifts -/

/-- A date lies a number of months from another: in the month of that distance, on the same day, or
on the last one if the month is shorter. -/
def LiesMonthsAway (d : Date) (months : Int) (d' : Date) : Prop :=
  d'.monthNumber = d.monthNumber + months ∧ d'.day = min d.day (monthLength d'.year d'.month)

/-- A date lies a number of units from another, before it if the number is negative. -/
def LiesAway (d : Date) (amount : Int) : ShiftUnit → Date → Prop
  | .day, d' => d'.number = d.number + amount
  | .week, d' => d'.number = d.number + 7 * amount
  | .month, d' => d.LiesMonthsAway amount d'
  | .quarter, d' => d.LiesMonthsAway (3 * amount) d'
  | .year, d' => d.LiesMonthsAway (12 * amount) d'

instance (d : Date) (months : Int) (d' : Date) : Decidable (d.LiesMonthsAway months d') :=
  inferInstanceAs (Decidable (_ ∧ _))

instance (d : Date) (amount : Int) : (unit : ShiftUnit) → (d' : Date) →
    Decidable (d.LiesAway amount unit d')
  | .day, _ => inferInstanceAs (Decidable (_ = _))
  | .week, _ => inferInstanceAs (Decidable (_ = _))
  | .month, d' => inferInstanceAs (Decidable (d.LiesMonthsAway _ d'))
  | .quarter, d' => inferInstanceAs (Decidable (d.LiesMonthsAway _ d'))
  | .year, d' => inferInstanceAs (Decidable (d.LiesMonthsAway _ d'))

example : (Date.mk 2026 1 31 (by decide) (by decide)).LiesAway 1 .month
    ⟨2026, 2, 28, by decide, by decide⟩ := by decide

variable {d d' : Date}

theorem eq_addDays_iff {days : Int} : d' = d.addDays days ↔ d'.number = d.number + days := by
  rw [← number_inj, addDays, number_ofNumber]

theorem eq_of_monthNumber_eq (hmonth : d.monthNumber = d'.monthNumber) (hday : d.day = d'.day) :
    d = d' := by
  rw [← inMonth_monthNumber d, hmonth, hday, inMonth_monthNumber]

theorem eq_addMonths_iff {months : Int} :
    d' = d.addMonths months ↔ d.LiesMonthsAway months d' := by
  have hlength := monthLength_pos (d.addMonths months).year (d.addMonths months).month
  have hday : (d.addMonths months).day =
      min d.day (monthLength (d.addMonths months).year (d.addMonths months).month) := by
    have := d.day_mem
    simp only [addMonths, inMonth] at hlength ⊢
    omega
  constructor
  · rintro rfl
    exact ⟨monthNumber_inMonth _ _, hday⟩
  · rintro ⟨hnumber, hday'⟩
    have hmonth : d'.monthNumber = (d.addMonths months).monthNumber :=
      hnumber.trans (monthNumber_inMonth _ _).symm
    have hsame : d'.year = (d.addMonths months).year
        ∧ d'.month = (d.addMonths months).month := by
      have := d'.month_mem
      have := (d.addMonths months).month_mem
      unfold monthNumber at hmonth
      omega
    refine eq_of_monthNumber_eq hmonth ?_
    rw [hday', hday, hsame.1, hsame.2]

/-! ## The extent of the supported years -/

theorem natAbs_number_sub_le (hd : d.isSupported = true) (hd' : d'.isSupported = true) :
    (d'.number - d.number).natAbs ≤ farthest := by
  have := number_mem hd
  have := number_mem hd'
  unfold farthest
  omega

theorem natAbs_monthNumber_sub_le (hd : d.isSupported = true) (hd' : d'.isSupported = true) :
    (d'.monthNumber - d.monthNumber).natAbs ≤ farthest := by
  rw [isSupported_iff] at hd hd'
  have := d.month_mem
  have := d'.month_mem
  unfold firstYear lastYear at hd hd'
  unfold monthNumber farthest
  omega

end Date

theorem Direction.natAbs_signed (direction : Direction) (amount : Nat) :
    (direction.signed amount).natAbs = amount := by
  cases direction <;> simp [signed]

theorem Direction.signed_mul (direction : Direction) (factor amount : Nat) :
    direction.signed (factor * amount) = factor * direction.signed amount := by
  cases direction
  · exact Int.natCast_mul factor amount
  · exact (congrArg Neg.neg (Int.natCast_mul factor amount)).trans (Int.mul_neg _ _).symm

theorem fitting?_bind_eq_some_iff {α : Type} {count : Nat} {f : Nat → Option α} {a : α} :
    (fitting? count).bind f = some a ↔ count < UInt32.size ∧ f count = some a := by
  unfold fitting?
  split
  · rename_i h
    simp [h]
  · rename_i h
    simp [h]

namespace Date

variable {d d' : Date} {direction : Direction}

/-- A supported date is not too many days away. -/
theorem addDays?_eq_some_iff (hd : d.isSupported = true) {days : Nat} :
    d.addDays? direction days = some d' ↔
      d'.number = d.number + direction.signed days ∧ d'.isSupported = true := by
  unfold addDays?
  split
  · rw [supported?_eq_some_iff, ← eq_addDays_iff]
    constructor
    · rintro ⟨hsupported, rfl⟩
      exact ⟨rfl, hsupported⟩
    · rintro ⟨rfl, hsupported⟩
      exact ⟨hsupported, rfl⟩
  · rename_i hfar
    refine iff_of_false (by simp) fun ⟨hnumber, hsupported⟩ => hfar ?_
    have hextent := natAbs_number_sub_le hd hsupported
    have := direction.natAbs_signed days
    omega

/-- A supported date is not too many months away. -/
theorem addMonths?_eq_some_iff (hd : d.isSupported = true) {months : Nat} :
    d.addMonths? direction months = some d' ↔
      d.LiesMonthsAway (direction.signed months) d' ∧ d'.isSupported = true := by
  unfold addMonths?
  split
  · rw [supported?_eq_some_iff, ← eq_addMonths_iff]
    constructor
    · rintro ⟨hsupported, rfl⟩
      exact ⟨rfl, hsupported⟩
    · rintro ⟨rfl, hsupported⟩
      exact ⟨hsupported, rfl⟩
  · rename_i hfar
    refine iff_of_false (by simp) fun h => hfar ?_
    obtain ⟨⟨hnumber, -⟩, hsupported⟩ := h
    have hextent := natAbs_monthNumber_sub_le hd hsupported
    have := direction.natAbs_signed months
    omega

theorem le_farthest_of_addMonths? {months : Nat} (h : d.addMonths? direction months = some d') :
    months ≤ farthest := by
  unfold addMonths? at h
  split at h
  · assumption
  · simp at h

/-- Whole numbers of months fit in 32 bits unless the date lies too far away. -/
theorem fitting?_addMonths?_eq_some_iff (hd : d.isSupported = true) {factor amount : Nat} :
    (fitting? (factor * amount)).bind (d.addMonths? direction) = some d' ↔
      d.LiesMonthsAway (factor * direction.signed amount) d' ∧ d'.isSupported = true := by
  rw [fitting?_bind_eq_some_iff, ← Direction.signed_mul, ← addMonths?_eq_some_iff hd]
  refine and_iff_right_of_imp fun h => ?_
  exact Nat.lt_of_le_of_lt (le_farthest_of_addMonths? h) (by decide)

/-- Shifts within the supported years are exact. -/
theorem shift?_eq_some_iff (hd : d.isSupported = true) {amount : Nat} {unit : ShiftUnit} :
    d.shift? amount direction unit = some d' ↔
      d.LiesAway (direction.signed amount) unit d' ∧ d'.isSupported = true := by
  cases unit with
  | day => exact addDays?_eq_some_iff hd
  | week =>
    refine (addDays?_eq_some_iff hd).trans ?_
    rw [Direction.signed_mul]
    rfl
  | month => exact addMonths?_eq_some_iff hd
  | quarter => exact fitting?_addMonths?_eq_some_iff hd
  | year => exact fitting?_addMonths?_eq_some_iff hd

/-- There is just one date a number of units away. -/
theorem exists_liesAway (d : Date) (amount : Int) (unit : ShiftUnit) :
    ∃ d', d.LiesAway amount unit d' ∧ ∀ d'', d.LiesAway amount unit d'' → d'' = d' := by
  cases unit with
  | day => exact ⟨_, eq_addDays_iff.1 rfl, fun _ => eq_addDays_iff.2⟩
  | week => exact ⟨_, eq_addDays_iff.1 rfl, fun _ => eq_addDays_iff.2⟩
  | month => exact ⟨_, eq_addMonths_iff.1 rfl, fun _ => eq_addMonths_iff.2⟩
  | quarter => exact ⟨_, eq_addMonths_iff.1 rfl, fun _ => eq_addMonths_iff.2⟩
  | year => exact ⟨_, eq_addMonths_iff.1 rfl, fun _ => eq_addMonths_iff.2⟩

end Date

/-! ## Local time -/

/-- The date in universal time at an instant. -/
def universalDate (instant : Int) : Date :=
  .ofNumber (instant / daySeconds + epochDay)

/-- Whether an instant falls on a supported date in universal time. -/
def IsSupportedInstant (instant : Int) : Prop :=
  (universalDate instant).isSupported = true

instance (instant : Int) : Decidable (IsSupportedInstant instant) :=
  inferInstanceAs (Decidable (_ = _))

namespace Zone

/-- The instant of universal time at which clocks show what those of a zone show at an instant. -/
def localTime (zone : Zone) (instant : Int) : Int :=
  instant + zone.offsetAt instant

def localDate (zone : Zone) (instant : Int) : Date :=
  universalDate (zone.localTime instant)

/-- The seconds of the local day that are over at an instant. -/
def localSecond (zone : Zone) (instant : Int) : Nat :=
  (zone.localTime instant % daySeconds).toNat

/-- The clocks of a zone show a date and a time of day at an instant. -/
def Shows (zone : Zone) (date : Date) (second : Nat) (instant : Int) : Prop :=
  zone.localDate instant = date ∧ zone.localSecond instant = second

instance (zone : Zone) (date : Date) (second : Nat) (instant : Int) :
    Decidable (zone.Shows date second instant) :=
  inferInstanceAs (Decidable (_ ∧ _))

/-- A moment is the first supported instant at which the clocks of a zone show a date and a time of
day. -/
structure IsFirst (zone : Zone) (date : Date) (second : Nat) (m : Moment) : Prop where
  date_eq : m.date = date
  second_eq : m.second = second
  offset_eq : m.offset = zone.offsetAt m.instant
  shows : zone.Shows date second m.instant
  supported : IsSupportedInstant m.instant
  least : ∀ instant, IsSupportedInstant instant → zone.Shows date second instant →
    m.instant ≤ instant

variable {zone : Zone} {date : Date} {second : Nat} {instant : Int} {m : Moment}

theorem universalDate_eq_iff :
    universalDate instant = date ↔ date.start ≤ instant ∧ instant < date.start + daySeconds := by
  rw [← Date.number_inj, universalDate, Date.number_ofNumber]
  unfold Date.start daySeconds epochDay
  omega

/-- A date and a time of day are shown at an instant if the local time is so far from the start of
the date. -/
theorem shows_iff (hsecond : second < 86400) :
    zone.Shows date second instant ↔ zone.localTime instant = date.start + second := by
  unfold Shows localDate localSecond
  rw [universalDate_eq_iff]
  unfold Date.start daySeconds epochDay
  omega

theorem offsetAt_mem (zone : Zone) (instant : Int) : zone.offsetAt instant ∈ zone.offsets := by
  cases zone with
  | fixed offset => simp [offsetAt, offsets]
  | seasonal standard alternate start stop =>
    simp only [offsetAt, offsets]
    split_ifs <;> simp

/-- Whether a zone is always less than a day ahead of universal time or behind it. -/
def IsNear (zone : Zone) : Prop :=
  ∀ offset ∈ zone.offsets, offset.natAbs < 86400

instance (zone : Zone) : Decidable zone.IsNear :=
  List.decidableBAll _ zone.offsets

/-- In such a zone the dates in local and in universal time lie at most a day apart. -/
theorem isSupportedInstant_of_localDate (hnear : zone.IsNear)
    (hbefore : (date.addDays (-1)).isSupported = true)
    (hafter : (date.addDays 1).isSupported = true) (h : zone.localDate instant = date) :
    IsSupportedInstant instant := by
  have hoffset := hnear _ (offsetAt_mem zone instant)
  obtain ⟨hstart, hend⟩ := universalDate_eq_iff.1 h
  have hmem : (date.addDays (-1)).number ≤ (universalDate instant).number
      ∧ (universalDate instant).number ≤ (date.addDays 1).number := by
    unfold localTime Date.start daySeconds at hstart hend
    rw [universalDate, Date.addDays, Date.addDays, Date.number_ofNumber, Date.number_ofNumber,
      Date.number_ofNumber]
    unfold daySeconds epochDay at *
    omega
  exact Date.isSupported_of_le_of_le hbefore (Date.le_iff_number_le.2 hmem.1)
    (Date.le_iff_number_le.2 hmem.2) hafter

/-! ## First moments -/

theorem offsets_pairwise (zone : Zone) : zone.offsets.Pairwise (· ≥ ·) := by
  cases zone with
  | fixed offset => simp [offsets]
  | seasonal standard alternate start stop =>
    simp only [offsets]
    split_ifs <;> simp <;> omega

/-- The moments that are tried for a date and a time of day. -/
theorem mem_candidates_iff :
    m ∈ zone.offsets.map (Moment.mk date second) ↔
      m.date = date ∧ m.second = second ∧ m.offset ∈ zone.offsets := by
  constructor
  · intro h
    obtain ⟨offset, hoffset, rfl⟩ := List.mem_map.1 h
    exact ⟨rfl, rfl, hoffset⟩
  · obtain ⟨date', second', offset⟩ := m
    rintro ⟨rfl, rfl, hoffset⟩
    exact List.mem_map.2 ⟨offset, hoffset, rfl⟩

theorem mem_candidates_of_shows (hsecond : second < 86400) (h : zone.Shows date second instant) :
    ∃ m ∈ zone.offsets.map (Moment.mk date second),
      m.instant = instant ∧ m.offset = zone.offsetAt instant := by
  rw [shows_iff hsecond, localTime] at h
  refine ⟨⟨date, second, zone.offsetAt instant⟩,
    mem_candidates_iff.2 ⟨rfl, rfl, offsetAt_mem zone instant⟩, ?_, rfl⟩
  simp only [Moment.instant]
  omega

theorem candidate_iff :
    (zone.offsetAt m.instant == m.offset && m.isSupported) = true ↔
      m.offset = zone.offsetAt m.instant ∧ IsSupportedInstant m.instant := by
  rw [Bool.and_eq_true, beq_iff_eq, eq_comm]
  rfl

theorem shows_of_offset_eq (hsecond : m.second < 86400) (h : m.offset = zone.offsetAt m.instant) :
    zone.Shows m.date m.second m.instant := by
  rw [shows_iff hsecond, localTime, ← h, Moment.instant]
  omega

theorem earliest?_eq_none_iff (hsecond : second < 86400) :
    zone.earliest? date second = none ↔
      ∀ instant, IsSupportedInstant instant → ¬zone.Shows date second instant := by
  rw [earliest?, List.find?_eq_none]
  constructor
  · intro h instant hsupported hshows
    obtain ⟨m, hm, rfl, hoffset⟩ := mem_candidates_of_shows hsecond hshows
    exact h m hm (candidate_iff.2 ⟨hoffset, hsupported⟩)
  · intro h m hm hcandidate
    obtain ⟨rfl, rfl, -⟩ := mem_candidates_iff.1 hm
    obtain ⟨hoffset, hsupported⟩ := candidate_iff.1 hcandidate
    exact h m.instant hsupported (shows_of_offset_eq hsecond hoffset)

/-- The largest offset gives the first of the instants that show a local time. -/
theorem isFirst_of_earliest? (hsecond : second < 86400) (h : zone.earliest? date second = some m) :
    zone.IsFirst date second m := by
  rw [earliest?, List.find?_eq_some_iff_append] at h
  obtain ⟨hcandidate, before, after, hsplit, hbefore⟩ := h
  obtain ⟨hoffset, hsupported⟩ := candidate_iff.1 hcandidate
  have hm : m ∈ zone.offsets.map (Moment.mk date second) := by simp [hsplit]
  obtain ⟨rfl, rfl, -⟩ := mem_candidates_iff.1 hm
  refine ⟨rfl, rfl, hoffset, shows_of_offset_eq hsecond hoffset, hsupported,
    fun instant hsupported' hshows => ?_⟩
  obtain ⟨m', hm', rfl, hoffset'⟩ := mem_candidates_of_shows hsecond hshows
  obtain ⟨hdate, hsecond', -⟩ := mem_candidates_iff.1 hm'
  have hle : m' ∈ m :: after → m'.offset ≤ m.offset := by
    have hpairwise : (zone.offsets.map (Moment.mk m.date m.second)).Pairwise
        (fun m m' => m.offset ≥ m'.offset) :=
      List.pairwise_map.2 zone.offsets_pairwise
    rw [hsplit, List.pairwise_append, List.pairwise_cons] at hpairwise
    intro hmem
    rcases List.mem_cons.1 hmem with rfl | hmem
    · exact Int.le_refl _
    · exact hpairwise.2.1.1 m' hmem
  rw [hsplit] at hm'
  rcases List.mem_append.1 hm' with hmem | hmem
  · have hrefused := hbefore m' hmem
    rw [candidate_iff.2 ⟨hoffset', hsupported'⟩] at hrefused
    simp at hrefused
  · have hle := hle hmem
    simp only [Moment.instant, hdate, hsecond']
    omega

theorem IsFirst.unique {m' : Moment} (h : zone.IsFirst date second m)
    (h' : zone.IsFirst date second m') : m = m' := by
  have hinstant : m.instant = m'.instant :=
    Int.le_antisymm (h.least _ h'.supported h'.shows) (h'.least _ h.supported h.shows)
  have hoffset : m.offset = m'.offset := by rw [h.offset_eq, h'.offset_eq, hinstant]
  obtain ⟨date', second', offset⟩ := m
  obtain ⟨rfl, rfl, -⟩ := h
  obtain ⟨date'', second'', offset'⟩ := m'
  obtain ⟨rfl, rfl, -⟩ := h'
  rw [show offset = offset' from hoffset]

theorem earliest?_eq_some_iff (hsecond : second < 86400) :
    zone.earliest? date second = some m ↔ zone.IsFirst date second m := by
  refine ⟨isFirst_of_earliest? hsecond, fun h => ?_⟩
  rcases hearliest : zone.earliest? date second with _ | m'
  · exact absurd h.shows ((earliest?_eq_none_iff hsecond).1 hearliest _ h.supported)
  · rw [(isFirst_of_earliest? hsecond hearliest).unique h]

/-- A date starts with the first moment at midnight, or with the first one at one o'clock if there
is none at midnight. -/
theorem dayStart?_eq_some_iff :
    zone.dayStart? date = some m ↔
      zone.IsFirst date 0 m
        ∨ (∀ instant, IsSupportedInstant instant → ¬zone.Shows date 0 instant)
          ∧ zone.IsFirst date 3600 m := by
  rw [dayStart?, Option.or_eq_some_iff, earliest?_eq_some_iff (by decide),
    earliest?_eq_none_iff (by decide), earliest?_eq_some_iff (by decide)]

theorem dayStart?_eq_none_iff :
    zone.dayStart? date = none ↔
      ∀ instant, IsSupportedInstant instant →
        ¬zone.Shows date 0 instant ∧ ¬zone.Shows date 3600 instant := by
  rw [dayStart?, Option.or_eq_none_iff, earliest?_eq_none_iff (by decide),
    earliest?_eq_none_iff (by decide)]
  exact ⟨fun h instant hsupported => ⟨h.1 instant hsupported, h.2 instant hsupported⟩,
    fun h => ⟨fun instant hsupported => (h instant hsupported).1,
      fun instant hsupported => (h instant hsupported).2⟩⟩

end Zone

namespace Anchor

theorem dayAway?_eq_some_iff {anchor : Anchor} (h : anchor.today.isSupported = true) {amount : Nat}
    {unit : ShiftUnit} {direction : Direction} {m : Moment} :
    anchor.dayAway? amount unit direction = some m ↔
      ∃ d, anchor.today.LiesAway (direction.signed amount) unit d ∧ d.isSupported = true
        ∧ anchor.zone.dayStart? d = some m := by
  rw [dayAway?, Option.bind_eq_some_iff]
  simp only [Date.shift?_eq_some_iff h, and_assoc]

/-- A shift finds the date that lies exactly so far away, unless it is not supported. -/
theorem dayAway?_of_liesAway {anchor : Anchor} (h : anchor.today.isSupported = true) {amount : Nat}
    {unit : ShiftUnit} {direction : Direction} {d : Date}
    (hd : anchor.today.LiesAway (direction.signed amount) unit d) :
    anchor.dayAway? amount unit direction =
      if d.isSupported = true then anchor.zone.dayStart? d else none := by
  obtain ⟨d', -, hunique⟩ := anchor.today.exists_liesAway (direction.signed amount) unit
  ext m
  rw [dayAway?_eq_some_iff h]
  constructor
  · rintro ⟨d'', hd'', hsupported, hm⟩
    rw [hunique d'' hd'', ← hunique d hd] at hsupported hm
    rw [if_pos hsupported, hm]
  · intro hm
    split at hm
    · exact ⟨d, hd, ‹_›, hm⟩
    · simp at hm

end Anchor

end Calendar

end BoardQuery
