import BoardQuery.Proofs.DaysAway

/-!
# Midnights that are skipped

Where the offsets of a zone differ by less than a day, each date has a first instant: local
midnight, unless the clocks are put forward over it (`exists_isStartOf`). A search takes midnight
for it, or one o'clock. That is right where midnight is not skipped, and where the day starts at one
o'clock; where the clocks are put forward to another time, the first moments of the day are missed
or nothing is found (`dayAway?_isStartOf_iff`).
-/

namespace BoardQuery

namespace Calendar

namespace Zone

/-- An instant is the first one of a local date. -/
structure IsStartOf (zone : Zone) (date : Date) (instant : Int) : Prop where
  localDate_eq : zone.localDate instant = date
  least : ∀ instant', zone.localDate instant' = date → instant ≤ instant'

/-- At an instant the clocks of a zone are put forward over the midnight with which a date starts:
from midnight or a time before it, to a time after it. -/
def SkipsMidnight (zone : Zone) (date : Date) (instant : Int) : Prop :=
  instant + zone.offsetAt (instant - 1) ≤ date.start ∧ date.start < zone.localTime instant

variable {zone : Zone} {date : Date} {instant first : Int}

theorem localDate_eq_iff :
    zone.localDate instant = date ↔
      date.start ≤ zone.localTime instant ∧ zone.localTime instant < date.start + 86400 :=
  universalDate_eq_iff

theorem localSecond_eq (h : zone.localDate instant = date) :
    (zone.localSecond instant : Int) = zone.localTime instant - date.start := by
  obtain ⟨hstart, hend⟩ := localDate_eq_iff.1 h
  unfold localSecond
  unfold Date.start daySeconds at *
  omega

/-! ## The first instant of a date -/

section Seasonal

variable {standard alternate start stop : Int}

theorem offsetAt_seasonal (instant : Int) :
    (seasonal standard alternate start stop).offsetAt instant =
      if start ≤ instant ∧ instant < stop then alternate else standard :=
  rfl

/-- The first local time from midnight on, in a zone whose offsets differ by less than a day. -/
theorem exists_least_localTime (hdiff : (alternate - standard).natAbs < 86400) (midnight : Int) :
    let zone := seasonal standard alternate start stop
    ∃ first, (midnight ≤ zone.localTime first ∧ zone.localTime first < midnight + 86400)
      ∧ (∀ instant, midnight ≤ zone.localTime instant →
        zone.localTime instant < midnight + 86400 → first ≤ instant)
      ∧ (zone.localTime first = midnight
        ∨ first + zone.offsetAt (first - 1) ≤ midnight ∧ midnight < zone.localTime first) := by
  simp only [localTime, offsetAt_seasonal]
  -- midnight by the standard offset, unless the season has begun by then and not ended before both
  by_cases hstandard : midnight - standard < start ∨ stop ≤ start
      ∨ stop ≤ midnight - standard ∧ stop ≤ midnight - alternate
  · refine ⟨midnight - standard, by split_ifs <;> omega, fun instant hmidnight hend => ?_,
      .inl (by split_ifs <;> omega)⟩
    split_ifs at hmidnight hend <;> omega
  · by_cases hstop : stop ≤ midnight - alternate
    · refine ⟨stop, by split_ifs <;> omega, fun instant hmidnight hend => ?_,
        .inr (by split_ifs <;> omega)⟩
      split_ifs at hmidnight hend <;> omega
    · by_cases hstart : start ≤ midnight - alternate
      · refine ⟨midnight - alternate, by split_ifs <;> omega, fun instant hmidnight hend => ?_,
          .inl (by split_ifs <;> omega)⟩
        split_ifs at hmidnight hend <;> omega
      · refine ⟨start, by split_ifs <;> omega, fun instant hmidnight hend => ?_,
          .inr (by split_ifs <;> omega)⟩
        split_ifs at hmidnight hend <;> omega

/-- A date starts at midnight, or where the clocks are put forward over it. -/
theorem exists_isStartOf (hdiff : (alternate - standard).natAbs < 86400) (date : Date) :
    ∃ first, (seasonal standard alternate start stop).IsStartOf date first
      ∧ ((seasonal standard alternate start stop).localSecond first = 0
        ∨ (seasonal standard alternate start stop).SkipsMidnight date first) := by
  obtain ⟨first, hfirst, hleast, hmidnight⟩ :=
    @exists_least_localTime standard alternate start stop hdiff date.start
  have hdate := localDate_eq_iff.2 hfirst
  refine ⟨first, ⟨hdate, fun instant h => ?_⟩, hmidnight.imp_left fun h => ?_⟩
  · obtain ⟨hstart, hend⟩ := localDate_eq_iff.1 h
    exact hleast instant hstart hend
  · have := localSecond_eq hdate
    omega

end Seasonal

/-! ## What is taken for it -/

theorem exists_earliest? {second : Nat} (hsecond : second < 86400)
    (hsupported : IsSupportedInstant instant) (h : zone.Shows date second instant) :
    ∃ m, zone.earliest? date second = some m := by
  rcases hearliest : zone.earliest? date second with _ | m
  · exact absurd h ((earliest?_eq_none_iff hsecond).1 hearliest _ hsupported)
  · exact ⟨m, rfl⟩

/-- The first instant that shows a time at which a date starts is the start of the date. -/
theorem instant_eq_of_isFirst {second : Nat} {m : Moment} (hfirst : zone.IsStartOf date first)
    (hsupported : IsSupportedInstant first) (hshows : zone.localSecond first = second)
    (hm : zone.IsFirst date second m) : m.instant = first :=
  Int.le_antisymm (hm.least _ hsupported ⟨hfirst.localDate_eq, hshows⟩)
    (hfirst.least _ hm.shows.1)

theorem exists_dayStart?_eq_first_iff (hfirst : zone.IsStartOf date first)
    (hsupported : ∀ instant, zone.localDate instant = date → IsSupportedInstant instant) :
    (∃ m, zone.dayStart? date = some m ∧ m.instant = first) ↔
      zone.localSecond first = 0
        ∨ zone.localSecond first = 3600 ∧ ∀ instant, ¬zone.Shows date 0 instant := by
  have hsupported' := hsupported first hfirst.localDate_eq
  constructor
  · rintro ⟨m, hm, rfl⟩
    rcases dayStart?_eq_some_iff.1 hm with hm | ⟨hnone, hm⟩
    · exact .inl hm.shows.2
    · exact .inr ⟨hm.shows.2, fun instant h => hnone instant (hsupported instant h.1) h⟩
  · rintro (hmidnight | ⟨hone, hnone⟩)
    · obtain ⟨m, hm⟩ := exists_earliest? (by decide) hsupported' ⟨hfirst.localDate_eq, hmidnight⟩
      have hm := isFirst_of_earliest? (by decide) hm
      exact ⟨m, dayStart?_eq_some_iff.2 (.inl hm),
        instant_eq_of_isFirst hfirst hsupported' hmidnight hm⟩
    · obtain ⟨m, hm⟩ := exists_earliest? (by decide) hsupported' ⟨hfirst.localDate_eq, hone⟩
      have hm := isFirst_of_earliest? (by decide) hm
      exact ⟨m, dayStart?_eq_some_iff.2 (.inr ⟨fun instant _ => hnone instant, hm⟩),
        instant_eq_of_isFirst hfirst hsupported' hone hm⟩

/-! ## A season that lasts -/

section Lasting

variable {standard alternate start stop : Int}
  (hzone : zone = seasonal standard alternate start stop) (hlong : 90000 ≤ stop - start)

include hzone hlong

/-- In a season of 25 hours or more, the hour after a skipped midnight is shown only once the clocks
have been put forward, by the new offset. -/
theorem localTime_of_skips (hdiff : (alternate - standard).natAbs < 86400)
    (hskips : zone.SkipsMidnight date first) {second : Nat} (hsecond : second ≤ 3600)
    (hshows : zone.Shows date second instant) :
    first ≤ instant ∧ instant + zone.offsetAt first = date.start + second := by
  have hlocal := (shows_iff (by omega)).1 hshows
  subst hzone
  unfold SkipsMidnight localTime at *
  simp only [offsetAt_seasonal] at *
  split_ifs at * <;> omega

theorem localTime_after_skip (hskips : zone.SkipsMidnight date first) (hfirst : first ≤ instant)
    (hnear : instant ≤ first + 3600) :
    zone.localTime instant = instant + zone.offsetAt first := by
  subst hzone
  unfold SkipsMidnight localTime at *
  simp only [offsetAt_seasonal] at *
  split_ifs at * <;> omega

theorem not_shows_of_skips (hdiff : (alternate - standard).natAbs < 86400)
    (hskips : zone.SkipsMidnight date first) (instant : Int) : ¬zone.Shows date 0 instant := by
  intro hshows
  obtain ⟨hle, hoffset⟩ := localTime_of_skips hzone hlong hdiff hskips (by decide) hshows
  have hafter := hskips.2
  unfold localTime at hafter
  omega

/-- After a midnight that is skipped to one o'clock or a time before it, the day is taken to start
at one o'clock; if it is skipped to a later time, no start is found. -/
theorem dayStart?_of_skips (hdiff : (alternate - standard).natAbs < 86400)
    (hfirst : zone.IsStartOf date first) (hskips : zone.SkipsMidnight date first)
    (hsupported : ∀ instant, zone.localDate instant = date → IsSupportedInstant instant) :
    (zone.localSecond first ≤ 3600 →
        ∃ m, zone.dayStart? date = some m
          ∧ m.instant = first + (3600 - zone.localSecond first))
      ∧ (3600 < zone.localSecond first → zone.dayStart? date = none) := by
  have hnone := not_shows_of_skips hzone hlong hdiff hskips
  have hsecond := localSecond_eq hfirst.localDate_eq
  unfold localTime at hsecond
  refine ⟨fun hle => ?_, fun hlt => dayStart?_eq_none_iff.2 fun instant _ =>
    ⟨hnone instant, fun hshows => ?_⟩⟩
  · have hshows : zone.Shows date 3600 (first + (3600 - zone.localSecond first)) := by
      rw [shows_iff (by decide), localTime_after_skip hzone hlong hskips (by omega) (by omega)]
      omega
    obtain ⟨m, hm⟩ := exists_earliest? (by decide) (hsupported _ hshows.1) hshows
    have hm := isFirst_of_earliest? (by decide) hm
    obtain ⟨-, hoffset⟩ := localTime_of_skips hzone hlong hdiff hskips (by decide) hm.shows
    exact ⟨m, dayStart?_eq_some_iff.2 (.inr ⟨fun instant _ => hnone instant, hm⟩), by omega⟩
  · obtain ⟨hle, hoffset⟩ := localTime_of_skips hzone hlong hdiff hskips (by decide) hshows
    omega

end Lasting

end Zone

namespace Anchor

/-- In a zone with two offsets, both shorter than a day and less than a day apart, each date has a
first instant: at midnight, or where the clocks are put forward over it. For a date some time away,
and not at the ends of the supported years, that instant is found exactly if it is midnight, or if
it is one o'clock and there is no midnight; else what is found lies later in the day. In a season of
25 hours or more, the start of a day whose midnight is skipped is taken to be one o'clock unless the
day starts after that, and then nothing is found. -/
theorem dayAway?_isStartOf_iff {anchor : Anchor} (h : anchor.today.isSupported = true)
    {standard alternate start stop : Int}
    (hzone : anchor.zone = .seasonal standard alternate start stop) (hnear : anchor.zone.IsNear)
    (hdiff : (alternate - standard).natAbs < 86400) {amount : Nat} {unit : ShiftUnit}
    {direction : Direction} {d : Date}
    (hd : anchor.today.LiesAway (direction.signed amount) unit d)
    (hbefore : (d.addDays (-1)).isSupported = true) (hafter : (d.addDays 1).isSupported = true) :
    ∃ first, anchor.zone.IsStartOf d first
      ∧ (anchor.zone.localSecond first = 0 ∨ anchor.zone.SkipsMidnight d first)
      ∧ ((∃ m, anchor.dayAway? amount unit direction = some m ∧ m.instant = first) ↔
        anchor.zone.localSecond first = 0
          ∨ anchor.zone.localSecond first = 3600 ∧ ∀ instant, ¬anchor.zone.Shows d 0 instant)
      ∧ (∀ m, anchor.dayAway? amount unit direction = some m →
        anchor.zone.localDate m.instant = d ∧ first ≤ m.instant)
      ∧ (90000 ≤ stop - start → anchor.zone.SkipsMidnight d first →
        (anchor.zone.localSecond first ≤ 3600 →
            ∃ m, anchor.dayAway? amount unit direction = some m
              ∧ m.instant = first + (3600 - anchor.zone.localSecond first))
          ∧ (3600 < anchor.zone.localSecond first →
            anchor.dayAway? amount unit direction = none)) := by
  have hsupported : d.isSupported = true := by
    refine Date.isSupported_of_le_of_le hbefore ?_ ?_ hafter
    · rw [Date.le_iff_number_le, Date.eq_addDays_iff.1 rfl]
      omega
    · rw [Date.le_iff_number_le, @Date.eq_addDays_iff d _ 1 |>.1 rfl]
      omega
  have hfound : anchor.dayAway? amount unit direction = anchor.zone.dayStart? d := by
    rw [dayAway?_of_liesAway h hd, if_pos hsupported]
  have hinstants := fun instant =>
    @Zone.isSupportedInstant_of_localDate anchor.zone d instant hnear hbefore hafter
  obtain ⟨first, hfirst, hmidnight⟩ := @Zone.exists_isStartOf _ _ start stop hdiff d
  rw [← hzone] at hfirst hmidnight
  rw [hfound]
  refine ⟨first, hfirst, hmidnight, Zone.exists_dayStart?_eq_first_iff hfirst hinstants,
    fun m hm => ?_, fun hlong hskips =>
      Zone.dayStart?_of_skips hzone hlong hdiff hfirst hskips hinstants⟩
  rcases Zone.dayStart?_eq_some_iff.1 hm with hm | ⟨-, hm⟩
  · exact ⟨hm.shows.1, hfirst.least _ hm.shows.1⟩
  · exact ⟨hm.shows.1, hfirst.least _ hm.shows.1⟩

/-- The day before 29 March 2026, in a zone that is ahead by some seconds from the start of that
date in universal time on, for 210 days. -/
def dayBeforeSeason (ahead : Int) : Anchor :=
  ⟨⟨2026, 3, 28, by decide, by decide⟩, .seasonal 0 ahead 1774742400 1792886400⟩

/-- The first day of the season. -/
def seasonStart : Date :=
  ⟨2026, 3, 29, by decide, by decide⟩

/-- Where the clocks are put forward from midnight to one o'clock, the day starts at one o'clock,
and that is found. -/
theorem dayAway?_isStartOf_iff_hour :
    (dayBeforeSeason 3600).dayAway? 1 .day .forward = some ⟨seasonStart, 3600, 3600⟩
      ∧ (dayBeforeSeason 3600).zone.IsStartOf seasonStart 1774742400 := by
  have hfound : (dayBeforeSeason 3600).dayAway? 1 .day .forward =
      some ⟨seasonStart, 3600, 3600⟩ := by
    decide
  obtain ⟨first, hfirst, -, -, hlater, -⟩ := @dayAway?_isStartOf_iff (dayBeforeSeason 3600)
    (by decide) 0 3600 1774742400 1792886400 rfl (by decide) (by decide) 1 .day .forward seasonStart
    (by decide) (by decide) (by decide)
  have hinstant : (Moment.mk seasonStart 3600 3600).instant = 1774742400 := by decide
  have hle := (hlater _ hfound).2
  rw [hinstant] at hle
  have hstart : seasonStart.start = 1774742400 := by decide
  have hmidnight := (Zone.localDate_eq_iff.1 hfirst.localDate_eq).1
  rw [hstart, Zone.localTime, dayBeforeSeason, Zone.offsetAt_seasonal] at hmidnight
  have heq : first = 1774742400 := by
    split_ifs at hmidnight <;> omega
  exact ⟨hfound, heq ▸ hfirst⟩

/-- Where the clocks are put forward from midnight by half an hour, the day starts then, half an
hour before the time that is found. -/
theorem half_hour_missed :
    ¬∀ (standard alternate start stop : Int) (today d : Date) (amount : Nat) (unit : ShiftUnit)
      (direction : Direction), (alternate - standard).natAbs < 86400 →
        today.isSupported = true → today.LiesAway (direction.signed amount) unit d →
          (d.addDays (-3)).isSupported = true → (d.addDays 3).isSupported = true →
            (∃ instant, (Zone.seasonal standard alternate start stop).localDate instant = d) →
              ∃ m, (Anchor.mk today (.seasonal standard alternate start stop)).dayAway?
                  amount unit direction = some m
                ∧ (Zone.seasonal standard alternate start stop).IsStartOf d m.instant := by
  intro h
  have hdate : (dayBeforeSeason 1800).zone.localDate 1774742400 = seasonStart := by
    decide
  have hfound : (dayBeforeSeason 1800).dayAway? 1 .day .forward =
      some ⟨seasonStart, 3600, 1800⟩ := by
    decide
  obtain ⟨m, hm, hstart⟩ := h 0 1800 1774742400 1792886400 (dayBeforeSeason 1800).today seasonStart
    1 .day .forward (by decide) (by decide) (by decide) (by decide)
    (by decide) ⟨_, hdate⟩
  obtain rfl := Option.some.inj (hfound.symm.trans hm)
  exact absurd (hstart.least 1774742400 hdate) (by decide)

end Anchor

end Calendar

end BoardQuery
