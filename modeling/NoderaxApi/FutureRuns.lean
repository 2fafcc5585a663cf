/-
# Runs in the future

The minutely, custom and hourly runs are looked for after the reference.  A daily or weekly run is
resolved from a reading of the clock that is later than the reading at the reference; the instant
found is not compared with the reference again.

It lies ahead unless the clock has shown that reading or a later one before, or the reading is
skipped together with the rest of its date.
-/
import NoderaxApi.LocalOccurrences
import NoderaxApi.UserAccountSteps

open CivilDates FirstLevels StepFunctions UsersService
open ScheduledTasksService (computeMinutelyRun)

namespace ScheduledTaskUtils

/-! ## The condition -/

/-- **When a reading lies ahead.**  By the reference the clock has shown neither it nor a later one;
and it is due after the reference under the offset at the UTC instant of that reading, or within
three hours of that a whole minute after the reference shows it or a later time of its date. -/
def ReadingAhead (zone : Zone) (date target reference : ℤ) : Prop :=
  (∀ t ≤ reference, zone.clockMinute t < target) ∧
    (reference < zone.nominalMinute target * 60000 ∨
      ∃ n, reference < n * 60000 ∧ n ≤ zone.nominalMinute target + 180 ∧
        zone.clockMinute (n * 60000) / 1440 = date ∧ target ≤ zone.clockMinute (n * 60000))

/-- 1800-01-01. -/
def year1800 : ℤ := -5364662400000

/-- The reading at the next date of a schedule lies ahead.  From the years that `Date.UTC` takes
for those from 1900 on, it does. -/
def NextDateAhead (schedule : RecurringSchedule) (zone : Zone) (hour minute reference : ℤ) : Prop :=
  ∃ date, schedule.IsNextDate zone hour minute reference date ∧
    ((TwoDigitYear (zone.clockMinute reference / 1440) ∨ TwoDigitYear date) ∧
        reference < year1800 ∨
      ¬ (TwoDigitYear (zone.clockMinute reference / 1440) ∨ TwoDigitYear date) ∧
        ReadingAhead zone date (minuteOf date hour minute) reference)

/-- **When the next run lies ahead.** -/
def RunAhead (zone : Zone) (input : ScheduledTaskTiming) (reference : ℤ) : Prop :=
  let minute := clamp input.minute 0 59
  let hour := (input.hour.map fun hour => clamp hour 0 23).getD 0
  let dayOfWeek := (input.dayOfWeek.map fun day => clamp day 0 6).getD 0
  match input.cadence with
  | .minutely | .custom => True
  | .hourly => ∃ n, reference < n * 60000 ∧ n * 60000 ≤ reference + 180 * 60000 ∧
      zone.clockMinute (n * 60000) % 60 = minute
  | .daily => NextDateAhead .daily zone hour minute reference
  | .weekly => NextDateAhead (.weekly dayOfWeek) zone hour minute reference

/-! ## Readings ahead -/

section Readings

variable {zone : Zone} {date hour minute reference : ℤ} (hhour : 0 ≤ hour ∧ hour ≤ 23)
  (hminute : 0 ≤ minute ∧ minute ≤ 59) (hyear : ¬ TwoDigitYear date)

include hhour hminute hyear

/-- **A reading that lies ahead is resolved ahead**, in any zone. -/
theorem ReadingAhead.lt_resolve (h : ReadingAhead zone date (minuteOf date hour minute) reference) :
    reference < resolveLocalDateTime (targetOf date hour minute) zone := by
  obtain ⟨hnot, hdue⟩ := h
  -- what shows the reading or a later one comes after the reference
  have hlater : ∀ t, minuteOf date hour minute ≤ zone.clockMinute t → reference < t := by
    intro t ht
    by_contra hle
    have hlt := hnot t (not_lt.mp hle)
    omega
  rw [lt_iff_ahead (resolveLocalDateTime_isFirst _ _), levelsOf_nominal hhour hminute hyear rfl]
  refine ⟨fun t ht => hlater t ht.2.ge, fun hexact => ⟨fun t ht => hlater t ht.2.2.2.le, fun _ =>
    ⟨fun t ht => hlater t ht.2.2.le, fun hfuture => ⟨?_, fun _ => trivial⟩⟩⟩⟩
  rintro t rfl
  rcases hdue with hdue | ⟨n, hn, hnear, hdate, hshown⟩
  · exact hdue
  · -- the minute that shows the reading or a later time would be found
    by_contra hle
    rcases hshown.eq_or_lt with heq | hlt
    · have hmem : n * 60000 ∈ (∅ : Set ℤ) := by
        rw [← hexact]
        exact ⟨mem_minutesFrom.mpr
          ⟨(n - (zone.nominalMinute (minuteOf date hour minute) - 180)).toNat, by omega, by omega⟩,
          heq.symm⟩
      exact Set.notMem_empty _ hmem
    · have hmem : n * 60000 ∈ (∅ : Set ℤ) := by
        rw [← hfuture]
        exact ⟨mem_minutesFrom.mpr ⟨(n - zone.nominalMinute (minuteOf date hour minute)).toNat,
          by omega, by omega⟩, hdate, hlt⟩
      exact Set.notMem_empty _ hmem

/-- In a regular zone, a reading that has been shown before is resolved to a minute that is over:
the clock was set back between, and a whole minute before that shows the reading. -/
theorem resolve_le_of_shown (hzone : zone.Regular)
    (hlater : zone.clockMinute reference < minuteOf date hour minute) {t : ℤ} (ht : t ≤ reference)
    (hshown : minuteOf date hour minute ≤ zone.clockMinute t) :
    resolveLocalDateTime (targetOf date hour minute) zone ≤ reference := by
  obtain ⟨offset, hoffset, hbound⟩ := hzone.whole (minuteOf date hour minute * 60000)
  obtain ⟨first, hfirst, hfirst_low, hfirst_high⟩ := hzone.whole t
  obtain ⟨last, hlast, hlast_low, hlast_high⟩ := hzone.whole reference
  have hreading := hlater
  have hreading' := hshown
  rw [clockMinute_eq hlast] at hreading
  rw [clockMinute_eq hfirst] at hreading'
  obtain hsame | ⟨s, before, after, hts, hst, htransition⟩ := hzone.same_or_transition ht
  · omega
  · have hbefore := htransition.offset_before t (by omega) hts
    have hafter := htransition.offset_after reference hst (by omega)
    have hshift := htransition.shift
    have hwhole : zone.clockMinute ((minuteOf date hour minute - before) * 60000)
        = minuteOf date hour minute := by
      rw [clockMinute_eq (htransition.offset_before _ (by omega) (by omega))]
      omega
    have hresolved := resolveLocalDateTime_isFirst (targetOf date hour minute) zone
    rw [levelsOf_nominal hhour hminute hyear (nominalMinute_eq hoffset hbound)] at hresolved
    have hmem := mem_of_whole hzone hoffset hwhole
    rcases hresolved with hleast | ⟨hempty, -⟩
    · have hle := hleast.2 ⟨hmem, hwhole⟩
      omega
    · have hmem' : (minuteOf date hour minute - before) * 60000 ∈ (∅ : Set ℤ) := by
        rw [← hempty]
        exact ⟨hmem, hwhole⟩
      exact absurd hmem' (Set.notMem_empty _)

omit hyear in
/-- In a regular zone, a later time of the date that the search finds in its fourth hour comes an
hour after another one. -/
theorem exists_near_of_follows (hzone : zone.Regular) {offset : ℤ}
    (hoffset : zone.offset (minuteOf date hour minute * 60000) = offset * 60000)
    (hbound : -840 ≤ offset ∧ offset ≤ 840) {t : ℤ}
    (hmem : t ∈ minutesFrom ((minuteOf date hour minute - offset) * 60000) 241)
    (hdate : zone.clockMinute t / 1440 = date)
    (hpast : minuteOf date hour minute < zone.clockMinute t) :
    ∃ n, n ≤ minuteOf date hour minute - offset + 180 ∧
      zone.clockMinute (n * 60000) / 1440 = date ∧
      minuteOf date hour minute < zone.clockMinute (n * 60000) := by
  obtain ⟨k, hk, hkt⟩ := mem_minutesFrom.mp hmem
  by_cases hnear : k ≤ 180
  · refine ⟨minuteOf date hour minute - offset + k, by omega, ?_⟩
    rw [show (minuteOf date hour minute - offset + k) * 60000 = t by omega]
    exact ⟨hdate, hpast⟩
  · obtain ⟨earlier, hearlier, -, -⟩ :=
      hzone.whole ((minuteOf date hour minute - offset + k - 60) * 60000)
    obtain ⟨later, hlater, -, -⟩ := hzone.whole t
    have hside := hzone.offset_near (t := minuteOf date hour minute * 60000)
      (u := (minuteOf date hour minute - offset + k - 60) * 60000) (by omega) (by omega)
    have hside' := hzone.offset_near (t := (minuteOf date hour minute - offset + k - 60) * 60000)
      (u := t) (by omega) (by omega)
    rw [hoffset, hearlier] at hside
    rw [hearlier, hlater] at hside'
    refine ⟨minuteOf date hour minute - offset + k - 60, by omega, ?_⟩
    rw [clockMinute_eq hlater] at hdate hpast
    rw [clockMinute_eq hearlier]
    unfold minuteOf at *
    omega

/-- **In a regular zone, no other reading is resolved ahead.** -/
theorem lt_resolve_iff (hzone : zone.Regular)
    (hlater : zone.clockMinute reference < minuteOf date hour minute) :
    reference < resolveLocalDateTime (targetOf date hour minute) zone ↔
      ReadingAhead zone date (minuteOf date hour minute) reference := by
  refine ⟨fun hahead => ?_, fun h => h.lt_resolve hhour hminute hyear⟩
  have hnot : ∀ t ≤ reference, zone.clockMinute t < minuteOf date hour minute := by
    intro t ht
    by_contra hshown
    have hover := resolve_le_of_shown hhour hminute hyear hzone hlater ht (not_lt.mp hshown)
    omega
  have hafter : ∀ t, minuteOf date hour minute ≤ zone.clockMinute t → reference < t := by
    intro t ht
    by_contra hle
    have hlt := hnot t (not_lt.mp hle)
    omega
  obtain ⟨offset, hoffset, hbound⟩ := hzone.whole (minuteOf date hour minute * 60000)
  have hnominal := nominalMinute_eq hoffset hbound
  refine ⟨hnot, ?_⟩
  rw [hnominal]
  have hresolved := resolveLocalDateTime_isFirst (targetOf date hour minute) zone
  rw [levelsOf_nominal hhour hminute hyear hnominal] at hresolved
  have hfollows : ∀ t ∈ minutesFrom ((minuteOf date hour minute - offset) * 60000) 241,
      zone.clockMinute t / 1440 = date → minuteOf date hour minute < zone.clockMinute t →
      ∃ n, reference < n * 60000 ∧ n ≤ minuteOf date hour minute - offset + 180 ∧
        zone.clockMinute (n * 60000) / 1440 = date ∧
        minuteOf date hour minute ≤ zone.clockMinute (n * 60000) := by
    intro t hmem hdate hpast
    obtain ⟨n, hn, hdate', hpast'⟩ := exists_near_of_follows hhour hminute hzone hoffset hbound
      hmem hdate hpast
    exact ⟨n, hafter _ hpast'.le, hn, hdate', hpast'.le⟩
  rcases hresolved with hleast | ⟨-, hleast | ⟨-, hleast | ⟨-, hleast | ⟨-, hnone⟩⟩⟩⟩
  · obtain ⟨k, hk, hkt⟩ := mem_minutesFrom.mp hleast.1.1
    have hshown : zone.clockMinute (resolveLocalDateTime (targetOf date hour minute) zone)
        = minuteOf date hour minute := hleast.1.2
    rw [hkt] at hahead hshown
    refine Or.inr ⟨minuteOf date hour minute - offset - 180 + k, by omega, by omega, ?_⟩
    rw [show (minuteOf date hour minute - offset - 180 + k) * 60000
      = (minuteOf date hour minute - offset - 180) * 60000 + k * 60000 by omega, hshown]
    unfold minuteOf
    omega
  · exact Or.inr (hfollows _ hleast.1.1 hleast.1.2.1 hleast.1.2.2.2)
  · exact Or.inr (hfollows _ hleast.1.1 hleast.1.2.1 hleast.1.2.2)
  · rw [hleast.1] at hahead
    exact Or.inl hahead
  · exact hnone.elim

end Readings

/-! ## Years that are moved -/

/-- An offset that is read from its name is less than a day. -/
theorem getTimeZoneOffsetMinutes_lt (zone : Zone) (instant : ℤ) :
    getTimeZoneOffsetMinutes zone instant < 1440 := by
  unfold getTimeZoneOffsetMinutes timeZoneName
  generalize zone.offset instant = offset
  by_cases hzero : offset = 0
  · rw [if_pos hzero]
    decide
  by_cases hday : 24 ≤ offset.natAbs / 3600000
  · rw [if_neg hzero, if_pos hday]
    decide
  simp only [if_neg hzero, if_neg hday, Option.bind_some]
  have hsign : (if 0 < offset then '+' else '-') = '+' ∨
      (if 0 < offset then '+' else '-') = '-' := by
    split
    · exact Or.inl rfl
    · exact Or.inr rfl
  simp only [matchShortOffset, if_pos hsign]
  by_cases hsecond : offset.natAbs / 1000 % 60 = 0
  · obtain ⟨groups, hgroups, hvalue⟩ := Option.map_eq_some_iff.mp
      (matchHourMinute_name (offset.natAbs / 3600000) (by omega) (offset.natAbs / 60000 % 60)
        (by omega))
    simp only [ne_eq, hsecond, not_true_eq_false, if_false] at hgroups ⊢
    rw [hgroups]
    simp only [Option.map_some, hvalue]
    split <;> omega
  · -- a name with seconds is not matched
    have hnone : matchHourMinute ((if offset.natAbs / 3600000 < 10 then
        [(offset.natAbs / 3600000).digitChar] else twoDigits (offset.natAbs / 3600000)) ++
        (':' :: twoDigits (offset.natAbs / 60000 % 60) ++
          ':' :: twoDigits (offset.natAbs / 1000 % 60))) = none := by
      split <;> rfl
    simp only [ne_eq, hsecond, not_false_eq_true, if_true, hnone, Option.map_none]
    decide

/-- A resolution comes at most a day and three hours before the UTC instant of its target. -/
theorem le_resolve (target : LocalDateTime) (zone : Zone) :
    dateUTC target.toLocalDate target.hour target.minute - 97200000
      ≤ resolveLocalDateTime target zone := by
  have hguess : dateUTC target.toLocalDate target.hour target.minute - 86400000
      ≤ guessInstant target zone := by
    have hlt := getTimeZoneOffsetMinutes_lt zone
      (dateUTC target.toLocalDate target.hour target.minute)
    unfold guessInstant
    simp only
    omega
  have hsearch : ∀ start t : ℤ, ∀ count, t ∈ minutesFrom start count → start ≤ t := by
    intro start t count hmem
    obtain ⟨k, -, rfl⟩ := mem_minutesFrom.mp hmem
    omega
  rcases resolveLocalDateTime_isFirst target zone with
    hleast | ⟨-, hleast | ⟨-, hleast | ⟨-, hleast | ⟨-, hnone⟩⟩⟩⟩
  · have hle := hsearch _ _ _ hleast.1.1
    omega
  · have hle := hsearch _ _ _ hleast.1.1
    omega
  · have hle := hsearch _ _ _ hleast.1.1
    omega
  · have heq : resolveLocalDateTime target zone = guessInstant target zone := hleast.1
    omega
  · exact hnone.elim

/-- `Date.UTC` of a year that it moves lies in the twentieth century. -/
theorem le_dateUTC_of_twoDigitYear {date : ℤ} (h : TwoDigitYear date) :
    -26000 * 86400000 ≤ dateUTC (dateOf date) 0 0 := by
  unfold TwoDigitYear at h
  unfold dateUTC daysFromCivil daysBeforeYear
  simp only [if_pos h]
  split <;> omega

/-- From such a year on, the days are counted from the twentieth century. -/
theorem exists_addLocalDays {date days : ℤ} (h : TwoDigitYear date) (hdays : 0 ≤ days) :
    ∃ moved, -26000 ≤ moved ∧ addLocalDays (dateOf date) days = dateOf moved := by
  have hle := le_dateUTC_of_twoDigitYear h
  exact ⟨dateUTC (dateOf date) 0 0 / 86400000 + days, by omega, rfl⟩

theorem le_dateUTC {date hour minute : ℤ} (h : TwoDigitYear date ∨ -26000 ≤ date)
    (hhour : 0 ≤ hour) (hminute : 0 ≤ minute) :
    -26000 * 86400000 ≤ dateUTC (dateOf date) hour minute := by
  have hzero : dateUTC (dateOf date) hour minute
      = dateUTC (dateOf date) 0 0 + hour * 3600000 + minute * 60000 := by
    unfold dateUTC
    simp only
    omega
  rcases h with hyear | hrecent
  · have hle := le_dateUTC_of_twoDigitYear hyear
    omega
  · rw [dateUTC_dateOf (not_twoDigitYear (year_of_recent date (by omega)))]
    unfold minuteOf
    omega

namespace RecurringSchedule

variable {schedule : RecurringSchedule} {zone : Zone} {date hour minute reference : ℤ}

/-- The run of a schedule whose date, or next date, is in a year that is moved: its target lies in
the twentieth century, or in such a year. -/
theorem exists_target (hlegal : schedule.Legal) (hhour : 0 ≤ hour ∧ hour ≤ 23)
    (hminute : 0 ≤ minute ∧ minute ≤ 59)
    (hnext : schedule.IsNextDate zone hour minute reference date)
    (h : TwoDigitYear (zone.clockMinute reference / 1440) ∨ TwoDigitYear date) :
    ∃ aimed, (TwoDigitYear aimed ∨ -26000 ≤ aimed) ∧
      schedule.run hour minute reference zone
        = resolveLocalDateTime (targetOf aimed hour minute) zone := by
  by_cases hcurrent : TwoDigitYear (zone.clockMinute reference / 1440)
  · obtain ⟨hparts, -, -, hweekday⟩ := getZonedDateTimeParts_eq zone reference
    cases schedule with
    | daily =>
        simp only [run, computeDailyRun, dailyTarget, hparts]
        split
        · obtain ⟨moved, hmoved, hdate⟩ := exists_addLocalDays hcurrent (show (0 : ℤ) ≤ 1 by omega)
          rw [hdate]
          exact ⟨moved, Or.inr hmoved, rfl⟩
        · exact ⟨_, Or.inl hcurrent, rfl⟩
    | weekly dayOfWeek =>
        obtain ⟨offset, hoffset, hrange⟩ :=
          exists_dayOffset hlegal (zone.clockMinute reference / 1440)
        obtain ⟨moved, hmoved, hdate⟩ := exists_addLocalDays hcurrent hrange.1
        simp only [run, computeWeeklyRun, weeklyTarget, hparts, hweekday, hoffset, hdate]
        split
        · have hyear := not_twoDigitYear (year_of_recent moved (by omega))
          rw [addLocalDays_dateOf hyear]
          exact ⟨moved + 7, Or.inr (by omega), rfl⟩
        · exact ⟨moved, Or.inr hmoved, rfl⟩
  · exact ⟨date, Or.inl (h.resolve_left hcurrent), run_eq hlegal hhour hminute hnext hcurrent⟩

/-- **From a year that is moved, the run lies centuries ahead.** -/
theorem lt_run_of_twoDigitYear (hlegal : schedule.Legal) (hhour : 0 ≤ hour ∧ hour ≤ 23)
    (hminute : 0 ≤ minute ∧ minute ≤ 59)
    (hnext : schedule.IsNextDate zone hour minute reference date)
    (h : TwoDigitYear (zone.clockMinute reference / 1440) ∨ TwoDigitYear date)
    (hearly : reference < year1800) : reference < schedule.run hour minute reference zone := by
  obtain ⟨aimed, haimed, hrun⟩ := exists_target hlegal hhour hminute hnext h
  have hutc : -26000 * 86400000 ≤ dateUTC (dateOf aimed) hour minute :=
    le_dateUTC haimed hhour.1 hminute.1
  have hle : dateUTC (dateOf aimed) hour minute - 97200000
      ≤ resolveLocalDateTime (targetOf aimed hour minute) zone :=
    le_resolve (targetOf aimed hour minute) zone
  rw [hrun]
  unfold year1800 at hearly
  omega

/-- In a regular zone, such a year is over by 1800. -/
theorem early_of_twoDigitYear (hzone : zone.Regular) (hlegal : schedule.Legal)
    (hhour : 0 ≤ hour ∧ hour ≤ 23) (hminute : 0 ≤ minute ∧ minute ≤ 59)
    (hnext : schedule.IsNextDate zone hour minute reference date)
    (h : TwoDigitYear (zone.clockMinute reference / 1440) ∨ TwoDigitYear date) :
    reference < year1800 := by
  have hnear := hnext.near hlegal hhour hminute
  have hold : ∀ d, TwoDigitYear d → d < -600000 := by
    intro d hd
    by_contra hle
    exact not_twoDigitYear (year_of_recent d (by omega)) hd
  have htoday : zone.clockMinute reference / 1440 < -600000 := by
    rcases h with htoday | hdate
    · exact hold _ htoday
    · have hlt := hold _ hdate
      omega
  obtain ⟨offset, hoffset, hbound⟩ := hzone.whole reference
  rw [clockMinute_eq hoffset] at htoday
  unfold year1800
  omega

/-- There is a next date. -/
theorem exists_isNextDate (hlegal : schedule.Legal) (zone : Zone) (hour minute reference : ℤ) :
    ∃ date, schedule.IsNextDate zone hour minute reference date := by
  unfold IsNextDate
  generalize zone.clockMinute reference = clock
  cases schedule with
  | daily =>
      refine ⟨(clock - (60 * hour + minute)) / 1440 + 1, ⟨trivial, ?_⟩, fun d hd => ?_⟩
      · unfold minuteOf
        omega
      · have hlater : clock < minuteOf d hour minute := hd.2
        unfold minuteOf at hlater
        omega
  | weekly dayOfWeek =>
      obtain ⟨offset, -, hrange⟩ :=
        exists_dayOffset hlegal ((clock - (60 * hour + minute)) / 1440 + 1)
      refine ⟨(clock - (60 * hour + minute)) / 1440 + 1 + offset, ⟨hrange.2.2, ?_⟩, fun d hd => ?_⟩
      · unfold minuteOf
        omega
      · have hon : (d + 4) % 7 = dayOfWeek := hd.1
        have hlater : clock < minuteOf d hour minute := hd.2
        unfold minuteOf at hlater
        omega

/-- **The run of a schedule that lies ahead is later**, in any zone. -/
theorem lt_run (schedule : RecurringSchedule) (hlegal : schedule.Legal)
    (hhour : 0 ≤ hour ∧ hour ≤ 23)
    (hminute : 0 ≤ minute ∧ minute ≤ 59)
    (h : NextDateAhead schedule zone hour minute reference) :
    reference < schedule.run hour minute reference zone := by
  obtain ⟨date, hnext, ⟨hyears, hearly⟩ | ⟨hyears, hahead⟩⟩ := h
  · exact lt_run_of_twoDigitYear hlegal hhour hminute hnext hyears hearly
  · rw [not_or] at hyears
    rw [run_eq hlegal hhour hminute hnext hyears.1]
    exact hahead.lt_resolve hhour hminute hyears.2

/-- **In a regular zone, no other run is later.** -/
theorem lt_run_iff (schedule : RecurringSchedule) (hzone : zone.Regular) (hlegal : schedule.Legal)
    (hhour : 0 ≤ hour ∧ hour ≤ 23) (hminute : 0 ≤ minute ∧ minute ≤ 59) :
    reference < schedule.run hour minute reference zone ↔
      NextDateAhead schedule zone hour minute reference := by
  refine ⟨fun hlater => ?_, lt_run schedule hlegal hhour hminute⟩
  obtain ⟨date, hnext⟩ := exists_isNextDate hlegal zone hour minute reference
  refine ⟨date, hnext, ?_⟩
  by_cases hyears : TwoDigitYear (zone.clockMinute reference / 1440) ∨ TwoDigitYear date
  · exact Or.inl ⟨hyears, early_of_twoDigitYear hzone hlegal hhour hminute hnext hyears⟩
  · refine Or.inr ⟨hyears, ?_⟩
    rw [not_or] at hyears
    rw [run_eq hlegal hhour hminute hnext hyears.1] at hlater
    exact (lt_resolve_iff hhour hminute hyears.2 hzone hnext.1.2).mp hlater

end RecurringSchedule

/-! ## Strictly in the future -/

/-- What a next run must be: later than the reference and, for a custom schedule with a legal
interval and an aligned reference, later by exactly the interval. -/
structure FutureRun (input : ScheduledTaskTiming) (reference next : ℤ) : Prop where
  later : reference < next
  no_drift : input.cadence = .custom → 60000 ∣ reference → ∀ interval,
    input.intervalMinutes = some interval → 1 ≤ interval → interval ≤ 10080 →
      next = reference + interval * 60000

/-- The hours of a schedule that `clamp` has brought into range. -/
theorem clamp_range (value : Option ℤ) {upper : ℤ} (hupper : 0 ≤ upper) :
    0 ≤ (value.map fun value => clamp value 0 upper).getD 0 ∧
      (value.map fun value => clamp value 0 upper).getD 0 ≤ upper := by
  cases value with
  | none => exact ⟨le_rfl, hupper⟩
  | some value =>
      simp only [Option.map_some, Option.getD_some, clamp]
      omega

/-- The minutes that `computeHourlyRun` looks at. -/
theorem exists_hourly_iff {zone : Zone} {minute reference : ℤ} :
    (∃ t ∈ minutesFrom (computeMinutelyRun reference) 180,
      (getZonedDateTimeParts zone t).minute = minute) ↔
    ∃ n, reference < n * 60000 ∧ n * 60000 ≤ reference + 180 * 60000 ∧
      zone.clockMinute (n * 60000) % 60 = minute := by
  constructor
  · rintro ⟨t, hmem, hminute⟩
    obtain ⟨k, hk, hkt⟩ := mem_minutesFrom.mp hmem
    rw [computeMinutelyRun_eq] at hkt
    refine ⟨reference / 60000 + 1 + k, by omega, by omega, ?_⟩
    rw [show (reference / 60000 + 1 + k) * 60000 = t by omega, ← hminute]
    exact (getZonedDateTimeParts_eq zone t).2.2.1.symm
  · rintro ⟨n, hlow, hhigh, hminute⟩
    refine ⟨n * 60000, mem_minutesFrom.mpr ⟨(n - (reference / 60000 + 1)).toNat, by omega, ?_⟩, ?_⟩
    · rw [computeMinutelyRun_eq]
      omega
    · rw [← hminute]
      exact (getZonedDateTimeParts_eq zone _).2.2.1

/-- The next run of an hourly schedule, if it finds one, is later. -/
theorem later_hourly_iff {minute reference : ℤ} {timezone : String} {zone : Zone} :
    (∃ next, computeHourlyRun minute reference timezone zone = .ok next ∧ reference < next) ↔
      ∃ n, reference < n * 60000 ∧ n * 60000 ≤ reference + 180 * 60000 ∧
        zone.clockMinute (n * 60000) % 60 = minute := by
  refine Iff.trans ?_ ((computeHourlyRun_ok_iff minute reference timezone zone).trans
    exists_hourly_iff)
  exact exists_congr fun next =>
    and_iff_left_of_imp fun hnext => (isLeast_of_computeHourlyRun hnext).1.2.1

section

variable {Token : Type} (platform : AccountPlatform Token) (zones : String → Zone)
  (input : ScheduledTaskTiming)

/-- A next run that is later is a future run. -/
theorem futureRun_iff {timezone : String} (hzone : assertValidTimeZone platform
      (input.timezone.getD scheduledTaskTimezone) = .ok timezone) {reference next : ℤ}
    (hnext : computeNextScheduledRun platform zones input reference = .ok next) :
    FutureRun input reference next ↔ reference < next := by
  refine ⟨FutureRun.later, fun hlater => ⟨hlater, fun hcustom haligned interval hinterval hlow
    hhigh => ?_⟩⟩
  simp only [computeNextScheduledRun, hzone, hcustom, hinterval, Option.map_some,
    Option.getD_some] at hnext
  have hclamp : clamp interval 1 10080 = interval := by
    unfold clamp
    omega
  rw [← Except.ok.inj hnext, hclamp]
  exact computeCustomIntervalRun_aligned haligned hlow

/-- **A run that lies ahead is later**, in any zone. -/
theorem RunAhead.later {timezone : String} (hzone : assertValidTimeZone platform
      (input.timezone.getD scheduledTaskTimezone) = .ok timezone) {reference : ℤ}
    (h : RunAhead (zones timezone) input reference) :
    ∃ next, computeNextScheduledRun platform zones input reference = .ok next ∧
      reference < next := by
  have hminute := clamp_range (some input.minute) (show (0 : ℤ) ≤ 59 by omega)
  have hhour := clamp_range input.hour (show (0 : ℤ) ≤ 23 by omega)
  have hday := clamp_range input.dayOfWeek (show (0 : ℤ) ≤ 6 by omega)
  unfold RunAhead at h
  unfold computeNextScheduledRun
  simp only [hzone]
  cases hcadence : input.cadence with
  | minutely => exact ⟨_, rfl, lt_computeMinutelyRun _⟩
  | custom => exact ⟨_, rfl, lt_computeCustomIntervalRun _ _⟩
  | hourly =>
      rw [hcadence] at h
      exact later_hourly_iff.mpr h
  | daily =>
      rw [hcadence] at h
      exact ⟨_, rfl, RecurringSchedule.lt_run .daily trivial hhour hminute h⟩
  | weekly =>
      rw [hcadence] at h
      exact ⟨_, rfl, RecurringSchedule.lt_run (.weekly _) hday hhour hminute h⟩

/-- **In a regular zone, no other run is later.** -/
theorem runAhead_of_later {timezone : String} (hzone : assertValidTimeZone platform
      (input.timezone.getD scheduledTaskTimezone) = .ok timezone)
    (hregular : (zones timezone).Regular) {reference next : ℤ}
    (hnext : computeNextScheduledRun platform zones input reference = .ok next)
    (hlater : reference < next) : RunAhead (zones timezone) input reference := by
  have hminute := clamp_range (some input.minute) (show (0 : ℤ) ≤ 59 by omega)
  have hhour := clamp_range input.hour (show (0 : ℤ) ≤ 23 by omega)
  have hday := clamp_range input.dayOfWeek (show (0 : ℤ) ≤ 6 by omega)
  unfold RunAhead
  unfold computeNextScheduledRun at hnext
  simp only [hzone] at hnext
  cases hcadence : input.cadence with
  | minutely => exact trivial
  | custom => exact trivial
  | hourly =>
      rw [hcadence] at hnext
      exact later_hourly_iff.mp ⟨next, hnext, hlater⟩
  | daily =>
      rw [hcadence] at hnext
      rw [← Except.ok.inj hnext] at hlater
      exact (RecurringSchedule.lt_run_iff .daily hregular trivial hhour hminute).mp hlater
  | weekly =>
      rw [hcadence] at hnext
      rw [← Except.ok.inj hnext] at hlater
      exact (RecurringSchedule.lt_run_iff (.weekly _) hregular hday hhour hminute).mp hlater

/-- **The next run lies in the future.**  In every valid time zone and from every instant, a run
that lies ahead is a future run, and runs that follow one another are strictly increasing if each
lies ahead of the one before.  In a regular zone these are the only ones. -/
theorem computeNextScheduledRun_future {timezone : String}
    (hzone : assertValidTimeZone platform
      (input.timezone.getD scheduledTaskTimezone) = .ok timezone) :
    (∀ reference, RunAhead (zones timezone) input reference →
      ∃ next, computeNextScheduledRun platform zones input reference = .ok next ∧
        FutureRun input reference next) ∧
    (∀ runs : ℕ → ℤ,
      (∀ i, computeNextScheduledRun platform zones input (runs i) = .ok (runs (i + 1))) →
      (∀ i, RunAhead (zones timezone) input (runs i)) → StrictMono runs) ∧
    ((zones timezone).Regular →
      (∀ reference, (∃ next, computeNextScheduledRun platform zones input reference = .ok next ∧
        FutureRun input reference next) ↔ RunAhead (zones timezone) input reference) ∧
      ∀ runs : ℕ → ℤ,
        (∀ i, computeNextScheduledRun platform zones input (runs i) = .ok (runs (i + 1))) →
        (StrictMono runs ↔ ∀ i, RunAhead (zones timezone) input (runs i))) := by
  have hfuture : ∀ reference, RunAhead (zones timezone) input reference →
      ∃ next, computeNextScheduledRun platform zones input reference = .ok next ∧
        FutureRun input reference next := by
    intro reference h
    obtain ⟨next, hnext, hlater⟩ := RunAhead.later platform zones input hzone h
    exact ⟨next, hnext, (futureRun_iff platform zones input hzone hnext).mpr hlater⟩
  have hincreasing : ∀ runs : ℕ → ℤ,
      (∀ i, computeNextScheduledRun platform zones input (runs i) = .ok (runs (i + 1))) →
      (∀ i, RunAhead (zones timezone) input (runs i)) → StrictMono runs := by
    intro runs hruns hall
    refine strictMono_nat_of_lt_succ fun i => ?_
    obtain ⟨next, hnext, hlater⟩ := RunAhead.later platform zones input hzone (hall i)
    rwa [← Except.ok.inj ((hruns i).symm.trans hnext)] at hlater
  refine ⟨hfuture, hincreasing, fun hregular => ⟨fun reference => ⟨?_, hfuture reference⟩,
    fun runs hruns => ⟨fun hmono i => ?_, hincreasing runs hruns⟩⟩⟩
  · rintro ⟨next, hnext, hrun⟩
    exact runAhead_of_later platform zones input hzone hregular hnext hrun.later
  · exact runAhead_of_later platform zones input hzone hregular (hruns i)
      (hmono (Nat.lt_succ_self i))

end

/-- A platform that knows the zone of New York. -/
def newYorkPlatform : AccountPlatform (AuthService.JwtPayload × ℤ × ℤ) :=
  { sampleAccountPlatform with isValidTimeZone := fun name => name = "America/New_York" }

/-- New York around the end of its summer time of 2026. -/
def newYork : Zone where
  offset instant := if instant < 1793512800000 then -4 * 3600000 else -5 * 3600000

/-- A daily task at half past one. -/
def dailyAtHalfPastOne : ScheduledTaskTiming where
  cadence := .daily
  minute := 30
  hour := some 1
  dayOfWeek := none
  timezone := some "America/New_York"

theorem newYork_valid : assertValidTimeZone newYorkPlatform
    (dailyAtHalfPastOne.timezone.getD scheduledTaskTimezone) = .ok "America/New_York" := by
  decide +kernel

theorem newYork_regular : newYork.Regular where
  whole t := by
    unfold newYork
    simp only
    split
    · exact ⟨-240, by omega, by omega, by omega⟩
    · exact ⟨-300, by omega, by omega, by omega⟩
  shift s hjump := by
    rw [eq_of_jump_ite hjump]
    decide
  apart := jumpsApart_ite
  one_date s hgap := by
    have hjump : Jump newYork.offset s := fun heq => by omega
    rw [eq_of_jump_ite hjump] at hgap
    exact absurd hgap (by decide)

/-- In the zone of New York: the run from noon before the clock goes back lies ahead. -/
theorem computeNextScheduledRun_future_newYork :
    (∀ reference, (∃ next, computeNextScheduledRun newYorkPlatform (fun _ => newYork)
      dailyAtHalfPastOne reference = .ok next ∧ FutureRun dailyAtHalfPastOne reference next) ↔
        RunAhead newYork dailyAtHalfPastOne reference) ∧
    RunAhead newYork dailyAtHalfPastOne 1793462400000 := by
  have hiff := ((computeNextScheduledRun_future newYorkPlatform (fun _ => newYork)
    dailyAtHalfPastOne newYork_valid).2.2 newYork_regular).1
  refine ⟨hiff, (hiff 1793462400000).mp ⟨1793511000000, by decide +kernel, by decide, ?_⟩⟩
  exact fun hcustom => absurd hcustom (by decide)

/-- **The second pass.**  At 1:15 in New York, after the clock has gone back from two to one, the
next run of the task at half past one is the half past one that is already over. -/
theorem secondPass_runs_before :
    computeNextScheduledRun newYorkPlatform (fun _ => newYork) dailyAtHalfPastOne 1793513700000
      = .ok 1793511000000 ∧
    ¬ ∃ next, computeNextScheduledRun newYorkPlatform (fun _ => newYork) dailyAtHalfPastOne
      1793513700000 = .ok next ∧ FutureRun dailyAtHalfPastOne 1793513700000 next := by
  have hrun : computeNextScheduledRun newYorkPlatform (fun _ => newYork) dailyAtHalfPastOne
      1793513700000 = .ok 1793511000000 := by
    decide +kernel
  refine ⟨hrun, ?_⟩
  rintro ⟨next, hnext, hfuture⟩
  have heq : 1793511000000 = next := Except.ok.inj (hrun.symm.trans hnext)
  have hlater := hfuture.later
  omega

end ScheduledTaskUtils

/-! ## The next run of a row -/

namespace ScheduledTasksService

open ScheduledTaskUtils (Zone RunAhead)

/-- The columns of a row as `computeNextScheduledRun` takes them. -/
def timingInput (timing : ScheduledTaskTiming) : ScheduledTaskUtils.ScheduledTaskTiming where
  cadence := timing.cadence
  minute := timing.minute
  hour := timing.hour.map Int.ofNat
  dayOfWeek := timing.dayOfWeek.map Int.ofNat
  intervalMinutes := timing.intervalMinutes.map Int.ofNat
  timezone := some timing.timezone

section

variable {Token : Type} (platform : AccountPlatform Token) (zones : String → Zone)

/-- `computeNextScheduledRun` of the columns of a row, with the message of its error. -/
def computeRowRun (timing : ScheduledTaskTiming) (reference : ℤ) : Except String ℤ :=
  (ScheduledTaskUtils.computeNextScheduledRun platform zones (timingInput timing)
    reference).mapError ScheduledTaskUtils.ScheduleError.message

/-- The run of a row lies ahead of an instant, in the time zone of the row. -/
def RowRunAhead (timing : ScheduledTaskTiming) (reference : ℤ) : Prop :=
  ∀ timezone, assertValidTimeZone platform timing.timezone = .ok timezone →
    RunAhead (zones timezone) (timingInput timing) reference

variable {platform zones} {timing : ScheduledTaskTiming} {reference next : ℤ}

/-- The run of a minutely row lies ahead. -/
theorem rowRunAhead_minutely (h : timing.cadence = .minutely) :
    RowRunAhead platform zones timing reference := by
  intro timezone _
  simp only [RunAhead, timingInput, h]

/-- **A run of a row that lies ahead is later.** -/
theorem RowRunAhead.lt (h : RowRunAhead platform zones timing reference)
    (hnext : computeRowRun platform zones timing reference = .ok next) : reference < next := by
  have hrun := mapError_eq_ok.mp hnext
  cases hzone : assertValidTimeZone platform timing.timezone with
  | error error =>
      have herror : ScheduledTaskUtils.computeNextScheduledRun platform zones (timingInput timing)
          reference = .error (.invalidTimeZone error) := by
        simp only [ScheduledTaskUtils.computeNextScheduledRun, timingInput, Option.getD_some, hzone]
      exact absurd (herror.symm.trans hrun) (by simp)
  | ok timezone =>
      obtain ⟨later, hlater, hlt⟩ := ScheduledTaskUtils.RunAhead.later platform zones
        (timingInput timing) hzone (h timezone hzone)
      rwa [← Except.ok.inj (hlater.symm.trans hrun)]

end

end ScheduledTasksService
