/-
# Occurrences on the local clock

A daily or weekly task occurs once on each of its dates.  In a regular zone the guess of the
resolution is off by at most an hour, and the search finds the minutes of the occurrence among the
whole UTC minutes around it.

What the search misses are targets that no whole UTC minute shows although the clock does, and the
skipped times of the last hour of a date, where the date has no later minute, or the search starts
after it.
-/
import NoderaxApi.LocalClocks

open CivilDates FirstLevels StepFunctions

namespace ScheduledTaskUtils

/-! ## The resolution of a regular zone -/

section Resolution

variable {zone : Zone} {date hour minute : ℤ}

/-- The years that `Date.UTC` takes for those from 1900 on. -/
def TwoDigitYear (date : ℤ) : Prop := 0 ≤ (dateOf date).year ∧ (dateOf date).year ≤ 99

theorem not_twoDigitYear (hyear : 100 ≤ (dateOf date).year) : ¬ TwoDigitYear date := by
  unfold TwoDigitYear
  omega

/-- `Date.UTC` of a date in a year that it does not move. -/
theorem dateUTC_dateOf (hyear : ¬ TwoDigitYear date) (hour minute : ℤ) :
    dateUTC (dateOf date) hour minute = minuteOf date hour minute * 60000 := by
  unfold TwoDigitYear at hyear
  unfold dateUTC minuteOf
  rw [if_neg hyear]
  have hdays : daysFromCivil (dateOf date).year (dateOf date).month (dateOf date).day = date :=
    daysFromCivil_civilFromDays date
  simp only [hdays]
  omega

/-- The minute at which a reading is due under the offset at the UTC instant of that reading. -/
def Zone.nominalMinute (zone : Zone) (target : ℤ) : ℤ :=
  target - getTimeZoneOffsetMinutes zone (target * 60000)

theorem nominalMinute_eq {target offset : ℤ}
    (hoffset : zone.offset (target * 60000) = offset * 60000)
    (hbound : -840 ≤ offset ∧ offset ≤ 840) : zone.nominalMinute target = target - offset := by
  unfold Zone.nominalMinute
  rw [getTimeZoneOffsetMinutes_eq hoffset (show -1440 < offset by omega) (by omega)]

/-- The guess of a target. -/
theorem guessInstant_eq (hyear : ¬ TwoDigitYear date) :
    guessInstant (targetOf date hour minute) zone
      = zone.nominalMinute (minuteOf date hour minute) * 60000 := by
  have hutc : dateUTC (targetOf date hour minute).toLocalDate (targetOf date hour minute).hour
      (targetOf date hour minute).minute = minuteOf date hour minute * 60000 :=
    dateUTC_dateOf hyear hour minute
  unfold guessInstant Zone.nominalMinute
  simp only [hutc]
  omega

/-- The levels of a resolution in minutes of the clock. -/
theorem levelsOf_nominal (hhour : 0 ≤ hour ∧ hour ≤ 23)
    (hminute : 0 ≤ minute ∧ minute ≤ 59) (hyear : ¬ TwoDigitYear date) {nominal : ℤ}
    (hnominal : zone.nominalMinute (minuteOf date hour minute) = nominal) :
    levelsOf (targetOf date hour minute) zone =
      [{t | t ∈ minutesFrom ((nominal - 180) * 60000) 361 ∧
          zone.clockMinute t = minuteOf date hour minute},
        {t | t ∈ minutesFrom (nominal * 60000) 241 ∧
          zone.clockMinute t / 1440 = date ∧ zone.clockMinute t % 60 = minute ∧
          minuteOf date hour minute < zone.clockMinute t},
        {t | t ∈ minutesFrom (nominal * 60000) 241 ∧
          zone.clockMinute t / 1440 = date ∧ minuteOf date hour minute < zone.clockMinute t},
        {nominal * 60000}] := by
  have hstart : nominal * 60000 - 180 * 60000 = (nominal - 180) * 60000 := by omega
  unfold levelsOf resolutionLevels
  rw [guessInstant_eq hyear, hnominal, hstart]
  simp only [shows_iff hhour hminute, follows_iff, true_imp_iff, Bool.false_eq_true,
    false_imp_iff, true_and]

/-- The same under a whole offset. -/
theorem levelsOf_eq {offset : ℤ} (hhour : 0 ≤ hour ∧ hour ≤ 23)
    (hminute : 0 ≤ minute ∧ minute ≤ 59) (hyear : 100 ≤ (dateOf date).year)
    (hoffset : zone.offset (minuteOf date hour minute * 60000) = offset * 60000)
    (hbound : -840 ≤ offset ∧ offset ≤ 840) :
    levelsOf (targetOf date hour minute) zone =
      [{t | t ∈ minutesFrom ((minuteOf date hour minute - offset - 180) * 60000) 361 ∧
          zone.clockMinute t = minuteOf date hour minute},
        {t | t ∈ minutesFrom ((minuteOf date hour minute - offset) * 60000) 241 ∧
          zone.clockMinute t / 1440 = date ∧ zone.clockMinute t % 60 = minute ∧
          minuteOf date hour minute < zone.clockMinute t},
        {t | t ∈ minutesFrom ((minuteOf date hour minute - offset) * 60000) 241 ∧
          zone.clockMinute t / 1440 = date ∧ minuteOf date hour minute < zone.clockMinute t},
        {(minuteOf date hour minute - offset) * 60000}] :=
  levelsOf_nominal hhour hminute (not_twoDigitYear hyear) (nominalMinute_eq hoffset hbound)

/-- A whole minute that shows the target lies within an hour of the guess. -/
theorem mem_of_whole (hzone : zone.Regular) {target offset n : ℤ}
    (hoffset : zone.offset (target * 60000) = offset * 60000)
    (h : zone.clockMinute (n * 60000) = target) :
    n * 60000 ∈ minutesFrom ((target - offset - 180) * 60000) 361 := by
  obtain ⟨offset', hoffset', hlow, hhigh⟩ := hzone.whole (n * 60000)
  rw [clockMinute_eq hoffset'] at h
  have hnear : offset' * 60000 - offset * 60000 ≤ 3600000 := by
    rw [← hoffset, ← hoffset']
    exact hzone.offset_near (by omega) (by omega)
  have hnear' : offset * 60000 - offset' * 60000 ≤ 3600000 := by
    rw [← hoffset, ← hoffset']
    exact hzone.offset_near (by omega) (by omega)
  exact mem_minutesFrom.mpr ⟨(n - (target - offset - 180)).toNat, by omega, by omega⟩

/-- A target that a whole minute shows is resolved to its occurrence. -/
theorem resolve_whole (hzone : zone.Regular) (hhour : 0 ≤ hour ∧ hour ≤ 23)
    (hminute : 0 ≤ minute ∧ minute ≤ 59) (hyear : 100 ≤ (dateOf date).year)
    (hwhole : ∃ n, zone.clockMinute (n * 60000) = minuteOf date hour minute) :
    IsOccurrence zone date hour minute
      (resolveLocalDateTime (targetOf date hour minute) zone) := by
  obtain ⟨offset, hoffset, hbound⟩ := hzone.whole (minuteOf date hour minute * 60000)
  have hfirst := resolveLocalDateTime_isFirst (targetOf date hour minute) zone
  rw [levelsOf_eq hhour hminute hyear hoffset hbound] at hfirst
  rcases hfirst with hleast | ⟨hempty, -⟩
  · -- an instant that shows the target amid a minute comes after a whole one that does
    refine Or.inl ⟨hleast.1.2, fun t ht => ?_⟩
    obtain ⟨n, hle, hn⟩ := hzone.exists_whole_le hwhole ht
    exact (hleast.2 ⟨mem_of_whole hzone hoffset hn, hn⟩).trans hle
  · obtain ⟨n, hn⟩ := hwhole
    have hmem : n * 60000 ∈ (∅ : Set ℤ) := by
      rw [← hempty]
      exact ⟨mem_of_whole hzone hoffset hn, hn⟩
    exact absurd hmem (Set.notMem_empty _)

/-- A resolution is a whole minute, and one that shows the target or lies after the guess. -/
theorem resolve_cases (hzone : zone.Regular) {offset : ℤ} (hhour : 0 ≤ hour ∧ hour ≤ 23)
    (hminute : 0 ≤ minute ∧ minute ≤ 59) (hyear : 100 ≤ (dateOf date).year)
    (hoffset : zone.offset (minuteOf date hour minute * 60000) = offset * 60000) :
    ∃ n, resolveLocalDateTime (targetOf date hour minute) zone = n * 60000 ∧
      (zone.clockMinute (n * 60000) = minuteOf date hour minute ∨
        minuteOf date hour minute - offset ≤ n) := by
  obtain ⟨offset', hoffset', hbound⟩ := hzone.whole (minuteOf date hour minute * 60000)
  obtain rfl : offset' = offset := by omega
  have hfirst := resolveLocalDateTime_isFirst (targetOf date hour minute) zone
  rw [levelsOf_eq hhour hminute hyear hoffset hbound] at hfirst
  rcases hfirst with hleast | ⟨-, hleast | ⟨-, hleast | ⟨-, hleast | ⟨-, hnone⟩⟩⟩⟩
  · obtain ⟨k, -, hk⟩ := mem_minutesFrom.mp hleast.1.1
    have hshown := hleast.1.2
    rw [hk]
    rw [hk] at hshown
    refine ⟨minuteOf date hour minute - offset' - 180 + k, by omega, Or.inl ?_⟩
    rw [← hshown]
    congr 1
    omega
  · obtain ⟨k, -, hk⟩ := mem_minutesFrom.mp hleast.1.1
    exact ⟨minuteOf date hour minute - offset' + k, by omega, Or.inr (by omega)⟩
  · obtain ⟨k, -, hk⟩ := mem_minutesFrom.mp hleast.1.1
    exact ⟨minuteOf date hour minute - offset' + k, by omega, Or.inr (by omega)⟩
  · exact ⟨minuteOf date hour minute - offset', hleast.1, Or.inr le_rfl⟩
  · exact hnone.elim

/-! A skipped target. -/

section Skipped

variable {s before after : ℤ} (hgap : Gap zone (minuteOf date hour minute) s before after)
  (hskipped : ∀ t, zone.clockMinute t ≠ minuteOf date hour minute)

include hskipped in
theorem level_shown_empty : {t | zone.clockMinute t = minuteOf date hour minute} = ∅ :=
  Set.eq_empty_of_forall_notMem hskipped

include hgap in
/-- Before the last hour of the date, the occurrence is the same minute of the next hour. -/
theorem isLeast_next_hour (hzone : zone.Regular) (hhour : 0 ≤ hour ∧ hour < 23)
    (hminute : 0 ≤ minute ∧ minute ≤ 59) :
    IsLeast {t | (∃ s' ≤ t, zone.Skips s' (minuteOf date hour minute)) ∧
      zone.clockMinute t / 1440 = date ∧ zone.clockMinute t % 60 = minute}
      ((minuteOf date hour minute + 60 - after) * 60000) := by
  obtain ⟨hle, hshown⟩ := hgap.next_hour
  constructor
  · refine ⟨(hgap.exists_skips_iff hzone).mpr hle, ?_, ?_⟩
    · rw [hshown, minuteOf]
      omega
    · rw [hshown, minuteOf]
      omega
  · rintro t ⟨hafter, -, hsame⟩
    refine (hgap.next_hour_le hzone ((hgap.exists_skips_iff hzone).mp hafter) ?_).1
    rw [hsame, minuteOf]
    omega

include hgap in
/-- The last hour of a date has no such minute. -/
theorem level_same_minute_empty (hzone : zone.Regular) (hhour : hour = 23)
    (hminute : 0 ≤ minute ∧ minute ≤ 59) {t : ℤ} (hst : s ≤ t)
    (hdate : zone.clockMinute t / 1440 = date) : zone.clockMinute t % 60 ≠ minute := by
  intro hsame
  have hnext := (hgap.next_hour_le hzone hst (by
    rw [hsame, minuteOf]
    omega)).2
  unfold minuteOf at hnext
  omega

include hgap in
/-- The minutes of the fallback search that are past the target come after the gap. -/
theorem le_of_follows {offset : ℤ} (hbound : -840 ≤ offset ∧ offset ≤ 840) {t : ℤ}
    (hmem : t ∈ minutesFrom ((minuteOf date hour minute - offset) * 60000) 241)
    (hpast : minuteOf date hour minute < zone.clockMinute t) : s ≤ t := by
  obtain ⟨k, hk, rfl⟩ := mem_minutesFrom.mp hmem
  have hnear := hgap.near
  have hle := hgap.le
  by_contra hlt
  rw [hgap.clockMinute_before (by omega) (by omega)] at hpast
  omega

include hgap in
/-- The guess is taken from one side of the gap. -/
theorem guess_side {offset : ℤ}
    (hoffset : zone.offset (minuteOf date hour minute * 60000) = offset * 60000) :
    offset = before ∨ offset = after := by
  have hnear := hgap.near
  by_cases hside : minuteOf date hour minute * 60000 < s
  · rw [hgap.offset_before _ (by omega) hside] at hoffset
    omega
  · rw [hgap.offset_after _ (by omega) (by omega)] at hoffset
    omega

include hgap hskipped in
/-- Before the last hour of the date, a skipped target is resolved to its occurrence. -/
theorem resolve_next_hour (hzone : zone.Regular) (hhour : 0 ≤ hour ∧ hour < 23)
    (hminute : 0 ≤ minute ∧ minute ≤ 59) (hyear : 100 ≤ (dateOf date).year) :
    IsOccurrence zone date hour minute
      (resolveLocalDateTime (targetOf date hour minute) zone) := by
  obtain ⟨offset, hoffset, hbound⟩ := hzone.whole (minuteOf date hour minute * 60000)
  have hleast := isLeast_next_hour hgap hzone hhour hminute
  obtain ⟨hle, hshown⟩ := hgap.next_hour
  -- whichever side of the gap the guess is taken from, the fallback search reaches the minute
  have hmem : (minuteOf date hour minute + 60 - after) * 60000
      ∈ minutesFrom ((minuteOf date hour minute - offset) * 60000) 241 := by
    have hside := guess_side hgap hoffset
    have hshift := hgap.shift
    exact mem_minutesFrom.mpr ⟨(60 - after + offset).toNat, by omega, by omega⟩
  have hfirst : IsFirst (levelsOf (targetOf date hour minute) zone)
      ((minuteOf date hour minute + 60 - after) * 60000) := by
    rw [levelsOf_eq ⟨hhour.1, by omega⟩ hminute hyear hoffset hbound]
    refine Or.inr ⟨Set.eq_empty_of_forall_notMem fun t ht => hskipped t ht.2, Or.inl ⟨?_, ?_⟩⟩
    · exact ⟨hmem, hleast.1.2.1, hleast.1.2.2, by omega⟩
    · rintro t ⟨htmem, htdate, htminute, htpast⟩
      exact hleast.2 ⟨(hgap.exists_skips_iff hzone).mpr (le_of_follows hgap hbound htmem htpast),
        htdate, htminute⟩
  have hempty := level_shown_empty hskipped
  rw [isFirst_unique (resolveLocalDateTime_isFirst _ _) hfirst]
  exact Or.inr ⟨hempty, Or.inl hleast⟩

include hgap hskipped in
/-- The occurrence of a target that is skipped in the last hour of the date: the end of the gap, if
the date has a minute after it. -/
theorem isOccurrence_last_hour_iff (hzone : zone.Regular) (hhour : hour = 23)
    (hminute : 0 ≤ minute ∧ minute ≤ 59) {t : ℤ} :
    IsOccurrence zone date hour minute t ↔ t = s ∧ zone.clockMinute s / 1440 = date := by
  have hsame : {t | (∃ s' ≤ t, zone.Skips s' (minuteOf date hour minute)) ∧
      zone.clockMinute t / 1440 = date ∧ zone.clockMinute t % 60 = minute} = ∅ := by
    refine Set.eq_empty_of_forall_notMem ?_
    rintro u ⟨hafter, hdate, hsame⟩
    exact level_same_minute_empty hgap hzone hhour hminute
      ((hgap.exists_skips_iff hzone).mp hafter) hdate hsame
  -- the readings go up from the end of the gap
  have hdown : ∀ u, s ≤ u → zone.clockMinute u / 1440 = date →
      zone.clockMinute s / 1440 = date := by
    intro u hsu hdate
    have hle := hgap.clockMinute_le hzone hsu
    have hpast := hgap.lt_clockMinute hzone (le_refl s)
    unfold minuteOf at hpast
    omega
  constructor
  · rintro (hleast | ⟨-, hleast | ⟨-, hleast | ⟨-, hnone⟩⟩⟩)
    · exact absurd hleast.1 (hskipped t)
    · rw [hsame] at hleast
      exact absurd hleast.1 (Set.notMem_empty t)
    · have hst := (hgap.exists_skips_iff hzone).mp hleast.1.1
      have hdate := hdown t hst hleast.1.2
      refine ⟨le_antisymm (hleast.2 ⟨(hgap.exists_skips_iff hzone).mpr le_rfl, hdate⟩) hst, hdate⟩
    · exact hnone.elim
  · rintro ⟨rfl, hdate⟩
    refine Or.inr ⟨level_shown_empty hskipped, Or.inr ⟨hsame, Or.inl ⟨⟨?_, hdate⟩, ?_⟩⟩⟩
    · exact (hgap.exists_skips_iff hzone).mpr le_rfl
    · exact fun u hu => (hgap.exists_skips_iff hzone).mp hu.1

include hgap hskipped in
/-- In the last hour of the date, a target is resolved to the end of the gap if that is a whole
minute of the date, not before the guess. -/
theorem resolve_last_hour (hzone : zone.Regular) (hhour : hour = 23)
    (hminute : 0 ≤ minute ∧ minute ≤ 59) (hyear : 100 ≤ (dateOf date).year) {n : ℤ}
    (hs : s = n * 60000) (hdate : zone.clockMinute s / 1440 = date)
    (hguess : minuteOf date hour minute * 60000
      - zone.offset (minuteOf date hour minute * 60000) ≤ s) :
    resolveLocalDateTime (targetOf date hour minute) zone = s := by
  obtain ⟨offset, hoffset, hbound⟩ := hzone.whole (minuteOf date hour minute * 60000)
  refine isFirst_unique (resolveLocalDateTime_isFirst _ _) ?_
  rw [levelsOf_eq ⟨by omega, by omega⟩ hminute hyear hoffset hbound]
  rw [hoffset] at hguess
  have hmem : s ∈ minutesFrom ((minuteOf date hour minute - offset) * 60000) 241 := by
    have hside := guess_side hgap hoffset
    have hshift := hgap.shift
    have hle := hgap.le
    exact mem_minutesFrom.mpr ⟨(n - (minuteOf date hour minute - offset)).toNat, by omega,
      by omega⟩
  refine Or.inr ⟨Set.eq_empty_of_forall_notMem fun t ht => hskipped t ht.2, Or.inr ⟨?_, Or.inl
    ⟨⟨hmem, hdate, hgap.lt_clockMinute hzone le_rfl⟩, ?_⟩⟩⟩
  · refine Set.eq_empty_of_forall_notMem ?_
    rintro t ⟨htmem, htdate, htminute, htpast⟩
    exact level_same_minute_empty hgap hzone hhour hminute
      (le_of_follows hgap hbound htmem htpast) htdate htminute
  · rintro t ⟨htmem, -, htpast⟩
    exact le_of_follows hgap hbound htmem htpast

end Skipped

/-- **When a target is resolved to its occurrence.** -/
theorem resolve_iff (hzone : zone.Regular) (hhour : 0 ≤ hour ∧ hour ≤ 23)
    (hminute : 0 ≤ minute ∧ minute ≤ 59) (hyear : 100 ≤ (dateOf date).year) :
    IsOccurrence zone date hour minute
      (resolveLocalDateTime (targetOf date hour minute) zone) ↔
        Resolvable zone date hour minute := by
  by_cases hwhole : ∃ n, zone.clockMinute (n * 60000) = minuteOf date hour minute
  · exact iff_of_true (resolve_whole hzone hhour hminute hyear hwhole) (Or.inl hwhole)
  obtain ⟨offset, hoffset, hbound⟩ := hzone.whole (minuteOf date hour minute * 60000)
  obtain ⟨n, hn, hcases⟩ := resolve_cases hzone hhour hminute hyear hoffset
  by_cases hskipped : ∀ t, zone.clockMinute t ≠ minuteOf date hour minute
  · obtain ⟨s, before, after, hgap⟩ := hzone.exists_gap hskipped
    by_cases hlast : hour < 23
    · exact iff_of_true (resolve_next_hour hgap hskipped hzone ⟨hhour.1, hlast⟩ hminute hyear)
        (Or.inr ⟨hskipped, Or.inl hlast⟩)
    · have hhour' : hour = 23 := by omega
      -- the occurrence is the end of the gap, or there is none
      rw [isOccurrence_last_hour_iff hgap hskipped hzone hhour' hminute]
      constructor
      · rintro ⟨hs, hdate⟩
        have hguess : minuteOf date hour minute - offset ≤ n :=
          hcases.resolve_left fun hshown => hwhole ⟨n, hshown⟩
        rw [hn] at hs
        refine Or.inr ⟨hskipped, Or.inr ⟨n, ?_, ?_, ?_⟩⟩
        · rw [hs]
          exact hgap.skips
        · rw [hs]
          exact hdate
        · rw [hoffset]
          omega
      · rintro (hshown | ⟨-, hless | ⟨n', hskips, hdate, hguess⟩⟩)
        · exact absurd hshown hwhole
        · exact absurd hless hlast
        · have hs := hgap.eq_of_skips hzone hskips
          rw [hs] at hdate hguess
          have hresolved :=
            resolve_last_hour hgap hskipped hzone hhour' hminute hyear hs.symm hdate hguess
          exact ⟨hresolved, hdate⟩
  · -- the clock shows the target amid a minute only
    push Not at hskipped
    refine iff_of_false ?_ ?_
    · rintro (hleast | ⟨hempty, -⟩)
      · have hshown : zone.clockMinute (n * 60000) = minuteOf date hour minute := by
          rw [← hn]
          exact hleast.1
        exact hwhole ⟨n, hshown⟩
      · obtain ⟨t, ht⟩ := hskipped
        have hmem : t ∈ (∅ : Set ℤ) := by
          rw [← hempty]
          exact ht
        exact Set.notMem_empty t hmem
    · rintro (hshown | ⟨hnot, -⟩)
      · exact hwhole hshown
      · obtain ⟨t, ht⟩ := hskipped
        exact hnot t ht

end Resolution

/-! ## The target of the next run -/

section NextTarget

variable {zone : Zone} {date hour minute reference : ℤ}

theorem addLocalDays_dateOf {days : ℤ} (hyear : ¬ TwoDigitYear date) :
    addLocalDays (dateOf date) days = dateOf (date + days) := by
  unfold addLocalDays
  rw [dateUTC_dateOf hyear, minuteOf]
  congr 1
  omega

/-- Dates from 1970 on are recent, and those of the eight years before are not moved. -/
theorem recent_of_year (hyear : 1970 ≤ (dateOf date).year) : -731 ≤ date := by
  have hbounds := civilFromDays_year_bounds date
  unfold dateOf at hyear
  simp only at hyear
  omega

theorem year_of_recent (date : ℤ) (hrecent : -600000 ≤ date) : 100 ≤ (dateOf date).year := by
  have hbounds := civilFromDays_year_bounds date
  unfold dateOf
  simp only
  omega

/-- **The target of a daily run** is the least date whose time is later than the clock. -/
theorem dailyTarget_eq (hhour : 0 ≤ hour ∧ hour ≤ 23) (hminute : 0 ≤ minute ∧ minute ≤ 59)
    (hdate : IsLeast {d | zone.clockMinute reference < minuteOf d hour minute} date)
    (hcurrent : ¬ TwoDigitYear (zone.clockMinute reference / 1440)) :
    dailyTarget hour minute reference zone = targetOf date hour minute := by
  obtain ⟨hday, hh, hm, -⟩ := getZonedDateTimeParts_eq zone reference
  have hlater : zone.clockMinute reference < minuteOf date hour minute := hdate.1
  have hleast : ∀ d, zone.clockMinute reference < minuteOf d hour minute → date ≤ d :=
    fun d hd => hdate.2 hd
  have htoday := hleast (zone.clockMinute reference / 1440)
  have htomorrow := hleast (zone.clockMinute reference / 1440 + 1)
  unfold minuteOf at hlater htoday htomorrow
  have hcompare : compareLocalDateTime
      ⟨(getZonedDateTimeParts zone reference).toLocalDate, hour, minute⟩
      (getZonedDateTimeParts zone reference).toLocalDateTime = _ := compareLocalDateTime_eq rfl
  unfold dailyTarget
  simp only
  rw [hcompare, hday, hh, hm, addLocalDays_dateOf hcurrent]
  simp only
  split
  · rw [show date = zone.clockMinute reference / 1440 + 1 by omega]
    rfl
  · rw [show date = zone.clockMinute reference / 1440 by omega]
    rfl

/-- The days to the next one of the weekday, today included. -/
theorem exists_dayOffset {dayOfWeek : ℤ} (hday : 0 ≤ dayOfWeek ∧ dayOfWeek ≤ 6) (today : ℤ) :
    ∃ offset, (if dayOfWeek - (today + 4) % 7 < 0 then dayOfWeek - (today + 4) % 7 + 7
        else dayOfWeek - (today + 4) % 7) = offset ∧
      0 ≤ offset ∧ offset ≤ 6 ∧ (today + offset + 4) % 7 = dayOfWeek := by
  refine ⟨_, rfl, ?_⟩
  split
  · refine ⟨by omega, by omega, by omega⟩
  · refine ⟨by omega, by omega, by omega⟩

/-- **The target of a weekly run** is the least date of its weekday whose time is later. -/
theorem weeklyTarget_eq {dayOfWeek : ℤ} (hday : 0 ≤ dayOfWeek ∧ dayOfWeek ≤ 6)
    (hhour : 0 ≤ hour ∧ hour ≤ 23) (hminute : 0 ≤ minute ∧ minute ≤ 59)
    (hdate : IsLeast {d | (d + 4) % 7 = dayOfWeek ∧
      zone.clockMinute reference < minuteOf d hour minute} date)
    (hcurrent : ¬ TwoDigitYear (zone.clockMinute reference / 1440)) :
    weeklyTarget dayOfWeek hour minute reference zone = targetOf date hour minute := by
  obtain ⟨hparts, hh, hm, hweekday⟩ := getZonedDateTimeParts_eq zone reference
  obtain ⟨honday, hlater⟩ := hdate.1
  have hleast : ∀ d, (d + 4) % 7 = dayOfWeek → zone.clockMinute reference < minuteOf d hour minute →
      date ≤ d := fun d hd hd' => hdate.2 ⟨hd, hd'⟩
  unfold minuteOf at hlater hleast
  generalize htoday : zone.clockMinute reference / 1440 = today at *
  obtain ⟨offset, hoffset, hrange⟩ := exists_dayOffset hday today
  have hnext := hleast (today + offset) hrange.2.2
  have hweek := hleast (today + offset + 7) (by omega)
  unfold weeklyTarget
  simp only
  rw [hweekday, hoffset, hparts, addLocalDays_dateOf hcurrent]
  split
  next hover =>
      have hsame : dateOf (today + offset)
          = (getZonedDateTimeParts zone reference).toLocalDate := by
        rw [hparts, hover.1, Int.add_zero]
      have hcompare := hover.2
      rw [compareLocalDateTime_eq hsame, hh, hm] at hcompare
      simp only at hcompare
      have hcurrent' : ¬ TwoDigitYear (today + offset) := by rwa [hover.1, Int.add_zero]
      rw [addLocalDays_dateOf hcurrent', show date = today + offset + 7 by omega]
      rfl
  next hnot =>
      have hdue : zone.clockMinute reference < 1440 * (today + offset) + 60 * hour + minute := by
        by_cases hzero : offset = 0
        · have hsame : dateOf (today + offset)
              = (getZonedDateTimeParts zone reference).toLocalDate := by
            rw [hparts, hzero, Int.add_zero]
          rw [compareLocalDateTime_eq hsame, hh, hm] at hnot
          simp only at hnot
          omega
        · omega
      rw [show date = today + offset by omega]
      rfl

end NextTarget

/-! ## Successive runs -/

/-- A daily or a weekly schedule. -/
inductive RecurringSchedule
  | daily
  | weekly (dayOfWeek : ℤ)
  deriving DecidableEq, Repr

namespace RecurringSchedule

def Legal : RecurringSchedule → Prop
  | daily => True
  | weekly dayOfWeek => 0 ≤ dayOfWeek ∧ dayOfWeek ≤ 6

/-- The dates of the schedule. -/
def Eligible : RecurringSchedule → ℤ → Prop
  | daily, _ => True
  | weekly dayOfWeek, date => (date + 4) % 7 = dayOfWeek

/-- The days from one date of the schedule to the next. -/
def period : RecurringSchedule → ℤ
  | daily => 1
  | weekly _ => 7

/-- The computation of its next run. -/
def run (schedule : RecurringSchedule) (hour minute reference : ℤ) (zone : Zone) : ℤ :=
  match schedule with
  | daily => computeDailyRun hour minute reference zone
  | weekly dayOfWeek => computeWeeklyRun dayOfWeek hour minute reference zone

/-- The least date of the schedule whose time is later than the clock. -/
def IsNextDate (schedule : RecurringSchedule) (zone : Zone) (hour minute reference date : ℤ) :
    Prop :=
  IsLeast {d | schedule.Eligible d ∧ zone.clockMinute reference < minuteOf d hour minute} date

variable {schedule : RecurringSchedule} {zone : Zone} {date hour minute reference : ℤ}

theorem run_eq (hlegal : schedule.Legal) (hhour : 0 ≤ hour ∧ hour ≤ 23)
    (hminute : 0 ≤ minute ∧ minute ≤ 59)
    (hnext : schedule.IsNextDate zone hour minute reference date)
    (hcurrent : ¬ TwoDigitYear (zone.clockMinute reference / 1440)) :
    schedule.run hour minute reference zone
      = resolveLocalDateTime (targetOf date hour minute) zone := by
  cases schedule with
  | daily =>
      have hdate : IsLeast {d | zone.clockMinute reference < minuteOf d hour minute} date :=
        ⟨hnext.1.2, fun d hd => hnext.2 ⟨trivial, hd⟩⟩
      simp only [run, computeDailyRun]
      rw [dailyTarget_eq hhour hminute hdate hcurrent]
  | weekly dayOfWeek =>
      simp only [run, computeWeeklyRun]
      rw [weeklyTarget_eq hlegal hhour hminute hnext hcurrent]

/-- The next date is within a period of the date on the clock. -/
theorem IsNextDate.near (hlegal : schedule.Legal) (hhour : 0 ≤ hour ∧ hour ≤ 23)
    (hminute : 0 ≤ minute ∧ minute ≤ 59)
    (hnext : schedule.IsNextDate zone hour minute reference date) :
    zone.clockMinute reference / 1440 ≤ date ∧
      date ≤ zone.clockMinute reference / 1440 + schedule.period := by
  have hlater : zone.clockMinute reference < minuteOf date hour minute := hnext.1.2
  unfold minuteOf at hlater
  refine ⟨by omega, ?_⟩
  cases schedule with
  | daily =>
      refine hnext.2 ⟨trivial, ?_⟩
      simp only [period, minuteOf]
      omega
  | weekly dayOfWeek =>
      have hday : 0 ≤ dayOfWeek ∧ dayOfWeek ≤ 6 := hlegal
      obtain ⟨offset, -, hrange⟩ :=
        exists_dayOffset hday (zone.clockMinute reference / 1440 + 1)
      have hle := hnext.2 ⟨hrange.2.2, by
        simp only [minuteOf]
        omega⟩
      simp only [period]
      omega

end RecurringSchedule

/-- An occurrence lies on its date, not before its time. -/
theorem IsOccurrence.on_date {zone : Zone} (hzone : zone.Regular) {date hour minute t : ℤ}
    (hhour : 0 ≤ hour ∧ hour ≤ 23) (hminute : 0 ≤ minute ∧ minute ≤ 59)
    (h : IsOccurrence zone date hour minute t) :
    zone.clockMinute t / 1440 = date ∧ minuteOf date hour minute ≤ zone.clockMinute t := by
  have hlater : {t | zone.clockMinute t = minuteOf date hour minute} = ∅ →
      (∃ s ≤ t, zone.Skips s (minuteOf date hour minute)) →
      minuteOf date hour minute ≤ zone.clockMinute t := by
    intro hempty hafter
    have hskipped : ∀ t, zone.clockMinute t ≠ minuteOf date hour minute := fun u hu => by
      have hmem : u ∈ (∅ : Set ℤ) := by
        rw [← hempty]
        exact hu
      exact Set.notMem_empty u hmem
    obtain ⟨s, before, after, hgap⟩ := hzone.exists_gap hskipped
    exact (hgap.lt_clockMinute hzone ((hgap.exists_skips_iff hzone).mp hafter)).le
  rcases h with hleast | ⟨hempty, hleast | ⟨-, hleast | ⟨-, hnone⟩⟩⟩
  · have hshown : zone.clockMinute t = minuteOf date hour minute := hleast.1
    rw [hshown, minuteOf]
    omega
  · exact ⟨hleast.1.2.1, hlater hempty hleast.1.1⟩
  · exact ⟨hleast.1.2, hlater hempty hleast.1.1⟩
  · exact hnone.elim

/-- From an occurrence, the next date is the next one of the schedule. -/
theorem IsOccurrence.isNextDate {zone : Zone} (hzone : zone.Regular)
    {schedule : RecurringSchedule} {date hour minute t : ℤ} (heligible : schedule.Eligible date)
    (hhour : 0 ≤ hour ∧ hour ≤ 23) (hminute : 0 ≤ minute ∧ minute ≤ 59)
    (h : IsOccurrence zone date hour minute t) :
    schedule.IsNextDate zone hour minute t (date + schedule.period) := by
  obtain ⟨hdate, hlater⟩ := h.on_date hzone hhour hminute
  unfold minuteOf at hlater
  cases schedule with
  | daily =>
      refine ⟨⟨trivial, ?_⟩, fun d hd => ?_⟩
      · simp only [RecurringSchedule.period, minuteOf]
        omega
      · have hd' : zone.clockMinute t < minuteOf d hour minute := hd.2
        simp only [RecurringSchedule.period, minuteOf] at hd' ⊢
        omega
  | weekly dayOfWeek =>
      have hon : (date + 4) % 7 = dayOfWeek := heligible
      refine ⟨⟨?_, ?_⟩, fun d hd => ?_⟩
      · simp only [RecurringSchedule.period, RecurringSchedule.Eligible]
        omega
      · simp only [RecurringSchedule.period, minuteOf]
        omega
      · have hon' : (d + 4) % 7 = dayOfWeek := hd.1
        have hd' : zone.clockMinute t < minuteOf d hour minute := hd.2
        simp only [RecurringSchedule.period, minuteOf] at hd' ⊢
        omega

/-- The run of the next date is its occurrence if and only if that is found. -/
theorem run_isOccurrence_iff {zone : Zone} (hzone : zone.Regular) {schedule : RecurringSchedule}
    {date hour minute reference : ℤ} (hlegal : schedule.Legal) (hhour : 0 ≤ hour ∧ hour ≤ 23)
    (hminute : 0 ≤ minute ∧ minute ≤ 59)
    (hnext : schedule.IsNextDate zone hour minute reference date) (hrecent : -731 ≤ date) :
    IsOccurrence zone date hour minute (schedule.run hour minute reference zone) ↔
      Resolvable zone date hour minute := by
  have hcurrent := year_of_recent (zone.clockMinute reference / 1440) (by
    have hnear := (hnext.near hlegal hhour hminute).2
    cases schedule <;> simp only [RecurringSchedule.period] at hnear <;> omega)
  have hyear := year_of_recent date (by omega)
  rw [RecurringSchedule.run_eq hlegal hhour hminute hnext (not_twoDigitYear hcurrent)]
  exact resolve_iff hzone hhour hminute hyear

/-- **Once on every date.**  In a regular zone, the next run of a daily or weekly schedule is the
occurrence of the next date if and only if that is found; and the runs that follow an occurrence
are those of the successive dates as long as each is found. -/
theorem recurring_runs_iff (zone : Zone) (hzone : zone.Regular) (schedule : RecurringSchedule)
    (hlegal : schedule.Legal) (hour minute : ℤ) (hhour : 0 ≤ hour ∧ hour ≤ 23)
    (hminute : 0 ≤ minute ∧ minute ≤ 59) :
    (∀ reference date, schedule.IsNextDate zone hour minute reference date →
      1970 ≤ (dateOf date).year →
        (IsOccurrence zone date hour minute (schedule.run hour minute reference zone) ↔
          Resolvable zone date hour minute)) ∧
    ∀ (runs : ℕ → ℤ) (date : ℤ), schedule.Eligible date → 1970 ≤ (dateOf date).year →
      IsOccurrence zone date hour minute (runs 0) →
      (∀ i, runs (i + 1) = schedule.run hour minute (runs i) zone) → ∀ n : ℕ,
        ((∀ i ≤ n, IsOccurrence zone (date + i * schedule.period) hour minute (runs i)) ↔
          ∀ i < n, Resolvable zone (date + (i + 1) * schedule.period) hour minute) := by
  refine ⟨fun reference date hnext hyear =>
    run_isOccurrence_iff hzone hlegal hhour hminute hnext (recent_of_year hyear),
    fun runs date heligible hyear hstart hruns n => ?_⟩
  have hrecent := recent_of_year hyear
  have hperiod : 1 ≤ schedule.period := by
    cases schedule <;> simp [RecurringSchedule.period]
  have heligible' : ∀ i : ℕ, schedule.Eligible (date + i * schedule.period) := by
    intro i
    cases schedule with
    | daily => exact trivial
    | weekly dayOfWeek =>
        simp only [RecurringSchedule.Eligible, RecurringSchedule.period] at heligible ⊢
        omega
  -- one run after an occurrence
  have hstep : ∀ i : ℕ, IsOccurrence zone (date + i * schedule.period) hour minute (runs i) →
      (IsOccurrence zone (date + (i + 1) * schedule.period) hour minute (runs (i + 1)) ↔
        Resolvable zone (date + (i + 1) * schedule.period) hour minute) := by
    intro i hi
    have hnext := hi.isNextDate hzone (heligible' i) hhour hminute
    have hsum : date + ((i : ℤ) + 1) * schedule.period
        = date + i * schedule.period + schedule.period := by
      rw [Int.add_mul, Int.one_mul, Int.add_assoc]
    have hpos : 0 ≤ (i : ℤ) * schedule.period := Int.mul_nonneg (by omega) (by omega)
    rw [hsum, hruns i]
    exact run_isOccurrence_iff hzone hlegal hhour hminute hnext (by omega)
  constructor
  · intro hall i hi
    have hnext := hall (i + 1) hi
    rw [Int.natCast_succ] at hnext
    exact (hstep i (hall i hi.le)).mp hnext
  · intro hall i
    induction i with
    | zero =>
        intro _
        rwa [Int.natCast_zero, Int.zero_mul, Int.add_zero]
    | succ i ih =>
        intro hi
        rw [Int.natCast_succ]
        exact (hstep i (ih (Nat.le_of_succ_le hi))).mpr (hall i hi)

/-- Nuuk around the start of its summer time of 2024: the clock goes from 23:00 to midnight. -/
def nuuk : Zone where
  offset instant := if instant < 1711846800000 then -7200000 else -3600000

theorem nuuk_regular : nuuk.Regular where
  whole t := by
    unfold nuuk
    simp only
    split
    · exact ⟨-120, by omega, by omega, by omega⟩
    · exact ⟨-60, by omega, by omega, by omega⟩
  shift s hjump := by
    rw [eq_of_jump_ite hjump]
    decide
  apart := jumpsApart_ite
  one_date s hgap := by
    have hjump : Jump nuuk.offset s := fun heq => by omega
    rw [eq_of_jump_ite hjump]
    decide

/-- A daily schedule at nine. -/
theorem recurring_runs_nuuk :
    (∀ reference date, RecurringSchedule.daily.IsNextDate nuuk 9 0 reference date →
      1970 ≤ (dateOf date).year →
        (IsOccurrence nuuk date 9 0 (RecurringSchedule.daily.run 9 0 reference nuuk) ↔
          Resolvable nuuk date 9 0)) ∧
    ∀ (runs : ℕ → ℤ) (date : ℤ), RecurringSchedule.daily.Eligible date →
      1970 ≤ (dateOf date).year → IsOccurrence nuuk date 9 0 (runs 0) →
      (∀ i, runs (i + 1) = RecurringSchedule.daily.run 9 0 (runs i) nuuk) → ∀ n : ℕ,
        ((∀ i ≤ n, IsOccurrence nuuk (date + i * RecurringSchedule.daily.period) 9 0 (runs i)) ↔
          ∀ i < n, Resolvable nuuk (date + (i + 1) * RecurringSchedule.daily.period) 9 0) :=
  recurring_runs_iff nuuk nuuk_regular .daily trivial 9 0 (by decide) (by decide)

/-- Nuuk, if the same clock went forward half an hour earlier: from 22:30 to 23:30. -/
def nuukEarlier : Zone where
  offset instant := if instant < 1711845000000 then -7200000 else -3600000

theorem nuukEarlier_regular : nuukEarlier.Regular where
  whole t := by
    unfold nuukEarlier
    simp only
    split
    · exact ⟨-120, by omega, by omega, by omega⟩
    · exact ⟨-60, by omega, by omega, by omega⟩
  shift s hjump := by
    rw [eq_of_jump_ite hjump]
    decide
  apart := jumpsApart_ite
  one_date s hgap := by
    have hjump : Jump nuukEarlier.offset s := fun heq => by omega
    rw [eq_of_jump_ite hjump]
    decide

/-- Ten past eleven is skipped, and occurs when the gap ends, at half past eleven. -/
theorem nuukEarlier_occurrence : IsOccurrence nuukEarlier 19812 23 10 1711845000000 := by
  have hskipped : ∀ t, nuukEarlier.clockMinute t ≠ minuteOf 19812 23 10 := by
    intro t
    simp only [Zone.clockMinute, Zone.localTime, nuukEarlier, minuteOf]
    split <;> omega
  obtain ⟨s, before, after, hgap⟩ := nuukEarlier_regular.exists_gap hskipped
  have hs : 1711845000000 = s := hgap.eq_of_skips nuukEarlier_regular ⟨by decide, by decide⟩
  rw [isOccurrence_last_hour_iff hgap hskipped nuukEarlier_regular rfl (by decide), ← hs]
  decide

/-- **A missed occurrence.**  On the evening of 2024-03-30, the next run of a daily task at ten past
eleven is ten past midnight of the next date; the search begins after the end of the gap. -/
theorem nuukEarlier_occurrence_missed :
    nuukEarlier.Regular ∧
    RecurringSchedule.daily.IsNextDate nuukEarlier 23 10 1711843200000 19812 ∧
    dateOf 19812 = ⟨2024, 3, 30⟩ ∧ IsOccurrence nuukEarlier 19812 23 10 1711845000000 ∧
    RecurringSchedule.daily.run 23 10 1711843200000 nuukEarlier = 1711847400000 ∧
    ¬ IsOccurrence nuukEarlier 19812 23 10
      (RecurringSchedule.daily.run 23 10 1711843200000 nuukEarlier) := by
  have hrun : RecurringSchedule.daily.run 23 10 1711843200000 nuukEarlier = 1711847400000 := by
    decide +kernel
  refine ⟨nuukEarlier_regular, ⟨⟨trivial, by decide⟩, fun d hd => ?_⟩, by decide,
    nuukEarlier_occurrence, hrun, fun hoccurs => ?_⟩
  · have hlater : nuukEarlier.clockMinute 1711843200000 < minuteOf d 23 10 := hd.2
    rw [show nuukEarlier.clockMinute 1711843200000 = 28530600 by decide, minuteOf] at hlater
    omega
  · rw [hrun] at hoccurs
    exact absurd (isFirst_unique hoccurs nuukEarlier_occurrence) (by decide)

end ScheduledTaskUtils
