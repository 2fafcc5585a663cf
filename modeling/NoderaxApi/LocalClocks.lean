/-
# Local clocks

The clock of a zone, in minutes.  In a regular zone the transitions are so far apart that around
any instant the clock has at most one, and a transition moves it by an hour at most.  A time of
day occurs on a date at the earliest instant that shows it; where the clock jumps over it, at the
earliest later minute of the date.

A clock is not monotone: what is said of an order of readings is said on one side of a transition.
-/
import NoderaxApi.NextRuns

open CivilDates FirstLevels StepFunctions

namespace ScheduledTaskUtils

/-! ## The offset in minutes -/

/-- The hours and minutes of a name. -/
theorem matchHourMinute_name : ∀ hour < 24, ∀ minute < 60,
    (matchHourMinute ((if hour < 10 then [hour.digitChar] else twoDigits hour) ++
      if minute ≠ 0 then ':' :: twoDigits minute else [])).map (fun groups =>
        parseDigits groups.1 * 60 + parseDigits (groups.2.getD ['0']))
      = some ((hour : ℤ) * 60 + minute) := by
  decide +kernel

/-- **The offset is read from its name**, if it is a whole number of minutes below a day. -/
theorem getTimeZoneOffsetMinutes_eq {zone : Zone} {instant offset : ℤ}
    (h : zone.offset instant = offset * 60000) (hlow : -1440 < offset) (hhigh : offset < 1440) :
    getTimeZoneOffsetMinutes zone instant = offset := by
  unfold getTimeZoneOffsetMinutes timeZoneName
  rw [h]
  by_cases hzero : offset = 0
  · rw [hzero]
    rfl
  have hhour : (offset * 60000).natAbs / 3600000 = offset.natAbs / 60 := by omega
  have hminute : (offset * 60000).natAbs / 60000 % 60 = offset.natAbs % 60 := by omega
  have hsecond : (offset * 60000).natAbs / 1000 % 60 = 0 := by omega
  have hsome : offset * 60000 ≠ 0 := by omega
  have hday : ¬ 24 ≤ offset.natAbs / 60 := by omega
  obtain ⟨groups, hgroups, hvalue⟩ := Option.map_eq_some_iff.mp
    (matchHourMinute_name (offset.natAbs / 60) (by omega) (offset.natAbs % 60) (by omega))
  simp only [hhour, hminute, hsecond, if_neg hsome, if_neg hday, ne_eq, not_true_eq_false,
    if_false, Option.bind_some] at hgroups ⊢
  by_cases hpos : 0 < offset * 60000
  · simp only [if_pos hpos, matchShortOffset, hgroups, true_or, if_true, Option.map_some, hvalue]
    rw [if_neg (by decide)]
    omega
  · simp only [if_neg hpos, matchShortOffset, hgroups, or_true, if_true, Option.map_some, hvalue]
    omega

/-! ## The clock in minutes -/

/-- The minute that the clock shows, counted from its 1970-01-01 00:00. -/
def Zone.clockMinute (zone : Zone) (instant : ℤ) : ℤ := zone.localTime instant / 60000

/-- The minute of a date and time of day. -/
def minuteOf (date hour minute : ℤ) : ℤ := 1440 * date + 60 * hour + minute

/-- A date and time of day as a target. -/
def targetOf (date hour minute : ℤ) : LocalDateTime := { dateOf date with hour, minute }

theorem dateOf_inj {a b : ℤ} : dateOf a = dateOf b ↔ a = b := by
  constructor
  · intro h
    unfold dateOf at h
    rw [LocalDate.mk.injEq] at h
    exact civilFromDays_injective (Prod.ext h.1 (Prod.ext h.2.1 h.2.2))
  · rintro rfl
    rfl

/-- The parts of an instant, from the minute that the clock shows. -/
theorem getZonedDateTimeParts_eq (zone : Zone) (instant : ℤ) :
    (getZonedDateTimeParts zone instant).toLocalDate = dateOf (zone.clockMinute instant / 1440) ∧
    (getZonedDateTimeParts zone instant).hour = zone.clockMinute instant % 1440 / 60 ∧
    (getZonedDateTimeParts zone instant).minute = zone.clockMinute instant % 60 ∧
    (getZonedDateTimeParts zone instant).dayOfWeek = (zone.clockMinute instant / 1440 + 4) % 7 := by
  have hdate : zone.localTime instant / 86400000 = zone.localTime instant / 60000 / 1440 := by
    omega
  unfold Zone.clockMinute getZonedDateTimeParts
  simp only
  refine ⟨by rw [hdate], ?_, trivial, by rw [hdate]⟩
  omega

/-- On one date, the comparison is one of the times of day. -/
theorem compareLocalDateTime_eq {left right : LocalDateTime}
    (h : left.toLocalDate = right.toLocalDate) : compareLocalDateTime left right
      = (left.hour - right.hour) * 3600000 + (left.minute - right.minute) * 60000 := by
  unfold compareLocalDateTime dateUTC
  rw [h]
  simp only
  omega

theorem follows_iff {zone : Zone} {date hour minute : ℤ} (instant : ℤ) (preserveMinute : Bool) :
    (getZonedDateTimeParts zone instant).Follows (targetOf date hour minute) preserveMinute ↔
      zone.clockMinute instant / 1440 = date ∧
      (preserveMinute = true → zone.clockMinute instant % 60 = minute) ∧
      minuteOf date hour minute < zone.clockMinute instant := by
  obtain ⟨hdate, hh, hm, -⟩ := getZonedDateTimeParts_eq zone instant
  have hsame : (getZonedDateTimeParts zone instant).toLocalDate
      = (targetOf date hour minute).toLocalDate ↔ zone.clockMinute instant / 1440 = date := by
    rw [hdate]
    exact dateOf_inj
  unfold ZonedDateTime.Follows
  rw [hsame]
  refine and_congr_right fun hon => and_congr ?_ ?_
  · rw [hm]
    rfl
  · rw [compareLocalDateTime_eq (hsame.mpr hon), hh, hm, minuteOf]
    simp only [targetOf]
    omega

section Target

variable {zone : Zone} {date hour minute : ℤ} (hhour : 0 ≤ hour ∧ hour ≤ 23)
  (hminute : 0 ≤ minute ∧ minute ≤ 59)

include hhour hminute

theorem shows_iff (instant : ℤ) : (getZonedDateTimeParts zone instant).Shows
    (targetOf date hour minute) ↔ zone.clockMinute instant = minuteOf date hour minute := by
  obtain ⟨hdate, hh, hm, -⟩ := getZonedDateTimeParts_eq zone instant
  have hparts : (getZonedDateTimeParts zone instant).Shows (targetOf date hour minute) ↔
      (getZonedDateTimeParts zone instant).toLocalDate = dateOf date ∧
      (getZonedDateTimeParts zone instant).hour = hour ∧
      (getZonedDateTimeParts zone instant).minute = minute := by
    unfold ZonedDateTime.Shows targetOf dateOf
    rw [LocalDate.mk.injEq, and_assoc, and_assoc]
  rw [hparts, hdate, hh, hm, dateOf_inj, minuteOf]
  omega

end Target

/-! ## Regular zones -/

/-- **A regular zone**: its offsets are whole minutes of at most 14 hours; its transitions shift
the clock by at most an hour and lie at least 48 hours apart; and what a transition skips lies
within one local date. -/
structure Zone.Regular (zone : Zone) : Prop where
  whole : ∀ t, ∃ offset, zone.offset t = offset * 60000 ∧ -840 ≤ offset ∧ offset ≤ 840
  shift : ∀ s, Jump zone.offset s → zone.offset (s - 1) - zone.offset s ≤ 3600000 ∧
    zone.offset s - zone.offset (s - 1) ≤ 3600000
  apart : JumpsApart zone.offset (48 * 3600000)
  one_date : ∀ s, zone.offset (s - 1) < zone.offset s →
    (s + zone.offset (s - 1)) / 86400000 = (s + zone.offset s - 1) / 86400000

theorem clockMinute_eq {zone : Zone} {t offset : ℤ} (h : zone.offset t = offset * 60000) :
    zone.clockMinute t = t / 60000 + offset := by
  unfold Zone.clockMinute Zone.localTime
  rw [h]
  omega

/-- Two days before and after a transition at `s`, the offsets are `before` and `after`. -/
structure Transition (zone : Zone) (s before after : ℤ) : Prop where
  offset_before : ∀ t, s - 172800000 ≤ t → t < s → zone.offset t = before * 60000
  offset_after : ∀ t, s ≤ t → t < s + 172800000 → zone.offset t = after * 60000
  bounds : -840 ≤ before ∧ before ≤ 840 ∧ -840 ≤ after ∧ after ≤ 840
  shift : before - after ≤ 60 ∧ after - before ≤ 60

namespace Zone.Regular

variable {zone : Zone}

theorem transition (hzone : zone.Regular) {s : ℤ} (hjump : Jump zone.offset s) :
    ∃ before after, Transition zone s before after := by
  obtain ⟨before, hbefore, hbefore_low, hbefore_high⟩ := hzone.whole (s - 1)
  obtain ⟨after, hafter, hafter_low, hafter_high⟩ := hzone.whole s
  have hshift := hzone.shift s hjump
  rw [hbefore, hafter] at hshift
  exact ⟨before, after,
    fun t hle hlt => (hzone.apart.before hjump hle hlt).trans hbefore,
    fun t hle hlt => (hzone.apart.after hjump hle hlt).trans hafter,
    ⟨hbefore_low, hbefore_high, hafter_low, hafter_high⟩, by omega⟩

/-- Within two days, two instants have one offset, or a transition lies between them. -/
theorem same_or_transition (hzone : zone.Regular) {t u : ℤ} (htu : t ≤ u) :
    zone.offset u = zone.offset t ∨
      ∃ s before after, t < s ∧ s ≤ u ∧ Transition zone s before after := by
  rcases const_or_jump zone.offset t u with hconst | ⟨s, hts, hsu, hjump⟩
  · exact Or.inl (hconst u htu le_rfl)
  · obtain ⟨before, after, htransition⟩ := hzone.transition hjump
    exact Or.inr ⟨s, before, after, hts, hsu, htransition⟩

/-- Within two days, offsets differ by an hour at most. -/
theorem offset_near (hzone : zone.Regular) {t u : ℤ} (hnear : t - u < 172800000)
    (hnear' : u - t < 172800000) : zone.offset t - zone.offset u ≤ 3600000 := by
  rcases le_total t u with htu | hut
  · obtain hsame | ⟨s, before, after, hts, hsu, htransition⟩ := hzone.same_or_transition htu
    · omega
    · have hshift := htransition.shift
      rw [htransition.offset_before t (by omega) hts, htransition.offset_after u hsu (by omega)]
      omega
  · obtain hsame | ⟨s, before, after, hus, hst, htransition⟩ := hzone.same_or_transition hut
    · omega
    · have hshift := htransition.shift
      rw [htransition.offset_before u (by omega) hus, htransition.offset_after t hst (by omega)]
      omega

/-- An instant that shows a minute lies within the range of the offsets around it. -/
theorem near_of_clockMinute (hzone : zone.Regular) {t target : ℤ}
    (h : zone.clockMinute t = target) :
    target * 60000 - 50400000 ≤ t ∧ t < target * 60000 + 50460000 := by
  obtain ⟨offset, hoffset, hlow, hhigh⟩ := hzone.whole t
  rw [clockMinute_eq hoffset] at h
  omega

/-- **The first whole minute.**  If a whole minute shows the target, one does at or before each
instant that shows it: a clock that starts to show it amid a minute has been set back, and has
shown it before. -/
theorem exists_whole_le (hzone : zone.Regular) {target : ℤ}
    (hwhole : ∃ n, zone.clockMinute (n * 60000) = target) {t : ℤ}
    (ht : zone.clockMinute t = target) :
    ∃ n, n * 60000 ≤ t ∧ zone.clockMinute (n * 60000) = target := by
  obtain ⟨offset, hoffset, -, -⟩ := hzone.whole t
  have hminute := ht
  rw [clockMinute_eq hoffset] at hminute
  obtain hsame | ⟨s, before, after, hlt, hle, htransition⟩ :=
    hzone.same_or_transition (show t / 60000 * 60000 ≤ t by omega)
  · refine ⟨t / 60000, by omega, ?_⟩
    rw [clockMinute_eq (hsame.symm.trans hoffset)]
    omega
  · have hafter := htransition.offset_after t hle (by omega)
    have hshift := htransition.shift
    rcases le_total before after with hgap | hback
    · -- the clock is set forward: no whole minute after `t` shows the target
      obtain ⟨n, hn⟩ := hwhole
      refine ⟨n, ?_, hn⟩
      by_contra hgt
      have hnear := hzone.near_of_clockMinute hn
      have hnear' := hzone.near_of_clockMinute ht
      rw [clockMinute_eq (htransition.offset_after (n * 60000) (by omega) (by omega))] at hn
      omega
    · refine ⟨t / 60000 - (before - after), by omega, ?_⟩
      rw [clockMinute_eq (htransition.offset_before _ (by omega) (by omega))]
      omega

end Zone.Regular

/-! ## Occurrences -/

/-- The clock jumps over the target at `s`. -/
def Zone.Skips (zone : Zone) (s target : ℤ) : Prop :=
  zone.clockMinute (s - 1) < target ∧ target < zone.clockMinute s

/-- What an occurrence may be: an instant that shows the target; an instant after the gap that
skips it, on its date and at its minute of the hour; an instant after the gap on its date. -/
def occurrenceLevels (zone : Zone) (date hour minute : ℤ) : List (Set ℤ) :=
  let target := minuteOf date hour minute
  [{t | zone.clockMinute t = target},
    {t | (∃ s ≤ t, zone.Skips s target) ∧ zone.clockMinute t / 1440 = date ∧
      zone.clockMinute t % 60 = minute},
    {t | (∃ s ≤ t, zone.Skips s target) ∧ zone.clockMinute t / 1440 = date}]

/-- **The occurrence** of a time of day on a date: the earliest instant of the first level that
has one. -/
def IsOccurrence (zone : Zone) (date hour minute : ℤ) (t : ℤ) : Prop :=
  IsFirst (occurrenceLevels zone date hour minute) t

/-- **When an occurrence is found.**  A whole UTC minute shows the target; or no instant does, and
the target is not in the last hour of its date, or the clock jumps over it to a whole UTC minute of
the date, not before the guess. -/
def Resolvable (zone : Zone) (date hour minute : ℤ) : Prop :=
  let target := minuteOf date hour minute
  (∃ n, zone.clockMinute (n * 60000) = target) ∨
    (∀ t, zone.clockMinute t ≠ target) ∧ (hour < 23 ∨ ∃ n, zone.Skips (n * 60000) target ∧
      zone.clockMinute (n * 60000) / 1440 = date ∧
      target * 60000 - zone.offset (target * 60000) ≤ n * 60000)

/-! ## Skipped targets -/

/-- The transition that skips a target. -/
structure Gap (zone : Zone) (target s before after : ℤ) : Prop
    extends Transition zone s before after where
  le : s ≤ (target - before) * 60000
  past : target < s / 60000 + after
  near : target * 60000 - 50400000 ≤ s ∧ s ≤ target * 60000 + 50400000

theorem Zone.Regular.exists_gap {zone : Zone} (hzone : zone.Regular) {target : ℤ}
    (hskipped : ∀ t, zone.clockMinute t ≠ target) :
    ∃ s before after, Gap zone target s before after := by
  obtain ⟨offset, hoffset, hlow, hhigh⟩ := hzone.whole (target * 60000)
  -- the guess has another offset than the target's UTC minute
  have hguess : zone.offset ((target - offset) * 60000) ≠ offset * 60000 := fun heq => by
    refine hskipped ((target - offset) * 60000) ?_
    rw [clockMinute_eq heq]
    omega
  rcases le_total ((target - offset) * 60000) (target * 60000) with hle | hle
  · obtain hsame | ⟨s, before, after, hlt, hsle, htransition⟩ := hzone.same_or_transition hle
    · exact absurd (hsame.symm.trans hoffset) hguess
    · have hafter := htransition.offset_after (target * 60000) hsle (by omega)
      obtain rfl : after = offset := by omega
      have hshift := htransition.shift
      have hbound := htransition.bounds
      refine ⟨s, before, after, htransition, ?_, ?_, by omega⟩
      · by_contra hgt
        refine hskipped ((target - before) * 60000) ?_
        rw [clockMinute_eq (htransition.offset_before _ (by omega) (by omega))]
        omega
      · have hne := hskipped s
        rw [clockMinute_eq (htransition.offset_after s le_rfl (by omega))] at hne
        omega
  · obtain hsame | ⟨s, before, after, hlt, hsle, htransition⟩ := hzone.same_or_transition hle
    · exact absurd (hsame.trans hoffset) hguess
    · have hbefore := htransition.offset_before (target * 60000) (by omega) hlt
      obtain rfl : before = offset := by omega
      have hshift := htransition.shift
      have hbound := htransition.bounds
      refine ⟨s, before, after, htransition, hsle, ?_, by omega⟩
      by_contra hge
      refine hskipped ((target - after) * 60000) ?_
      have hne := hskipped s
      rw [clockMinute_eq (htransition.offset_after s le_rfl (by omega))] at hne
      rw [clockMinute_eq (htransition.offset_after _ (by omega) (by omega))]
      omega

namespace Gap

variable {zone : Zone} {target s before after : ℤ} (hgap : Gap zone target s before after)

include hgap

theorem clockMinute_after {t : ℤ} (hle : s ≤ t) (hlt : t < s + 172800000) :
    zone.clockMinute t = t / 60000 + after :=
  clockMinute_eq (hgap.offset_after t hle hlt)

theorem clockMinute_before {t : ℤ} (hle : s - 172800000 ≤ t) (hlt : t < s) :
    zone.clockMinute t = t / 60000 + before :=
  clockMinute_eq (hgap.offset_before t hle hlt)

theorem skips : zone.Skips s target := by
  have hle := hgap.le
  have hpast := hgap.past
  constructor
  · rw [hgap.clockMinute_before (by omega) (by omega)]
    omega
  · rw [hgap.clockMinute_after le_rfl (by omega)]
    omega

/-- Only this transition skips the target. -/
theorem eq_of_skips (hzone : zone.Regular) {s' : ℤ} (h : zone.Skips s' target) : s' = s := by
  obtain ⟨offset', hoffset', hlow', hhigh'⟩ := hzone.whole (s' - 1)
  obtain ⟨offset, hoffset, hlow, hhigh⟩ := hzone.whole s'
  have hnear := hgap.near
  have hbefore := h.1
  have hafter := h.2
  rw [clockMinute_eq hoffset'] at hbefore
  rw [clockMinute_eq hoffset] at hafter
  have hjump' : Jump zone.offset s' := fun heq => by
    rw [hoffset', hoffset] at heq
    omega
  have hjump : Jump zone.offset s := fun heq => by
    rw [hgap.offset_before (s - 1) (by omega) (by omega),
      hgap.offset_after s le_rfl (by omega)] at heq
    have hle := hgap.le
    have hpast := hgap.past
    omega
  rcases lt_trichotomy s' s with hlt | heq | hgt
  · have hapart := hzone.apart s' s hlt hjump' hjump
    omega
  · exact heq
  · have hapart := hzone.apart s s' hgt hjump hjump'
    omega

/-- The instants after the gap. -/
theorem exists_skips_iff (hzone : zone.Regular) {t : ℤ} :
    (∃ s' ≤ t, zone.Skips s' target) ↔ s ≤ t := by
  constructor
  · rintro ⟨s', hle, hskips⟩
    rwa [hgap.eq_of_skips hzone hskips] at hle
  · exact fun hle => ⟨s, hle, hgap.skips⟩

/-- Two days after the gap, the clock is far past the target. -/
theorem far_after (hzone : zone.Regular) {t : ℤ} (h : s + 172800000 ≤ t) :
    target + 1200 < zone.clockMinute t := by
  obtain ⟨offset, hoffset, hlow, hhigh⟩ := hzone.whole t
  have hpast := hgap.past
  have hbounds := hgap.bounds
  rw [clockMinute_eq hoffset]
  omega

/-- After the gap, the clock is past the target. -/
theorem lt_clockMinute (hzone : zone.Regular) {t : ℤ} (h : s ≤ t) :
    target < zone.clockMinute t := by
  by_cases hnear : t < s + 172800000
  · have hpast := hgap.past
    rw [hgap.clockMinute_after h hnear]
    omega
  · have hfar := hgap.far_after hzone (not_lt.mp hnear)
    omega

/-- The readings after the gap only go up. -/
theorem clockMinute_le (hzone : zone.Regular) {t : ℤ} (h : s ≤ t) :
    zone.clockMinute s ≤ zone.clockMinute t := by
  rw [hgap.clockMinute_after le_rfl (by omega)]
  by_cases hnear : t < s + 172800000
  · rw [hgap.clockMinute_after h hnear]
    omega
  · have hfar := hgap.far_after hzone (not_lt.mp hnear)
    have hle := hgap.le
    have hshift := hgap.shift
    omega

/-- The minute of the next hour that the target's minute falls in. -/
theorem next_hour : s ≤ (target + 60 - after) * 60000 ∧
    zone.clockMinute ((target + 60 - after) * 60000) = target + 60 := by
  have hle := hgap.le
  have hpast := hgap.past
  have hshift := hgap.shift
  refine ⟨by omega, ?_⟩
  rw [hgap.clockMinute_after (by omega) (by omega)]
  omega

/-- An instant after the gap that shows the target's minute of the hour. -/
theorem next_hour_le (hzone : zone.Regular) {t : ℤ} (h : s ≤ t)
    (hminute : zone.clockMinute t % 60 = target % 60) :
    (target + 60 - after) * 60000 ≤ t ∧ target + 60 ≤ zone.clockMinute t := by
  have hlater := hgap.lt_clockMinute hzone h
  have hle := hgap.le
  have hpast := hgap.past
  have hshift := hgap.shift
  refine ⟨?_, by omega⟩
  by_cases hnear : t < s + 172800000
  · rw [hgap.clockMinute_after h hnear] at hlater hminute
    omega
  · omega

end Gap

end ScheduledTaskUtils
