/-
# The next run

The minutely, custom and hourly runs are found on the grid of UTC minutes after the reference.
The daily and weekly runs are resolved on the clock of the zone, first by the minutes that show
the target, then by the minutes that follow it on its date; the resolution does not look at the
reference again.
-/
import Mathlib
import NoderaxApi.FirstLevels
import NoderaxApi.StepFunctions
import NoderaxApi.ScheduledTaskUtils

open CivilDates FirstLevels StepFunctions
open ScheduledTasksService (computeMinutelyRun)

namespace ScheduledTaskUtils

/-! ## Minutes -/

theorem mem_minutesFrom {start t : ℤ} {count : ℕ} :
    t ∈ minutesFrom start count ↔ ∃ k < count, t = start + k * 60000 := by
  unfold minutesFrom
  rw [List.mem_map]
  constructor
  · rintro ⟨k, hk, rfl⟩
    exact ⟨k, List.mem_range.mp hk, rfl⟩
  · rintro ⟨k, hk, rfl⟩
    exact ⟨k, List.mem_range.mpr hk, rfl⟩

theorem minutesFrom_ascending (start : ℤ) (count : ℕ) :
    (minutesFrom start count).Pairwise (· < ·) := by
  unfold minutesFrom
  rw [List.pairwise_map]
  exact List.pairwise_lt_range.imp fun hlt => by omega

/-- The next minute boundary. -/
theorem computeMinutelyRun_eq (reference : ℤ) :
    computeMinutelyRun reference = (reference / 60000 + 1) * 60000 := by
  unfold computeMinutelyRun
  have hle : reference - reference % 60000 ≤ reference := by omega
  simp only [if_pos hle]
  omega

theorem lt_computeMinutelyRun (reference : ℤ) : reference < computeMinutelyRun reference := by
  rw [computeMinutelyRun_eq]
  omega

theorem lt_computeCustomIntervalRun (interval reference : ℤ) :
    reference < computeCustomIntervalRun interval reference := by
  have hlt := lt_computeMinutelyRun reference
  unfold computeCustomIntervalRun
  omega

/-- A custom schedule does not drift. -/
theorem computeCustomIntervalRun_aligned {interval reference : ℤ} (haligned : 60000 ∣ reference)
    (hpos : 1 ≤ interval) :
    computeCustomIntervalRun interval reference = reference + interval * 60000 := by
  unfold computeCustomIntervalRun
  rw [computeMinutelyRun_eq]
  omega

/-! ## Hourly runs -/

/-- The minute of the hour on the clock. -/
theorem getZonedDateTimeParts_minute (zone : Zone) (instant : ℤ) :
    (getZonedDateTimeParts zone instant).minute = (instant + zone.offset instant) / 60000 % 60 :=
  rfl

/-- The aligned instants after the reference are the minutes from the next boundary on. -/
theorem aligned_after_iff {reference t : ℤ} :
    (60000 ∣ t ∧ reference < t) ↔ ∃ k : ℕ, t = computeMinutelyRun reference + k * 60000 := by
  rw [computeMinutelyRun_eq]
  constructor
  · rintro ⟨haligned, hlt⟩
    exact ⟨(t / 60000 - (reference / 60000 + 1)).toNat, by omega⟩
  · rintro ⟨k, rfl⟩
    constructor <;> omega

/-- A run that `computeHourlyRun` finds is the least aligned instant with that local minute. -/
theorem isLeast_of_computeHourlyRun {minute reference next : ℤ} {timezone : String} {zone : Zone}
    (h : computeHourlyRun minute reference timezone zone = .ok next) :
    IsLeast {t | 60000 ∣ t ∧ reference < t ∧ (getZonedDateTimeParts zone t).minute = minute}
      next := by
  unfold computeHourlyRun at h
  split at h
  next candidate hfind =>
      obtain rfl := Except.ok.inj h
      have hleast := isLeast_find (minutesFrom_ascending _ _) hfind
      obtain ⟨⟨hmem, hminute⟩, hlower⟩ := hleast
      obtain ⟨k, hk, hcandidate⟩ := mem_minutesFrom.mp hmem
      have hafter := aligned_after_iff.mpr ⟨k, hcandidate⟩
      refine ⟨⟨hafter.1, hafter.2, of_decide_eq_true hminute⟩, fun t ht => ?_⟩
      obtain ⟨k', rfl⟩ := aligned_after_iff.mp ⟨ht.1, ht.2.1⟩
      by_cases hin : k' < 180
      · exact hlower ⟨mem_minutesFrom.mpr ⟨k', hin, rfl⟩, decide_eq_true ht.2.2⟩
      · omega
  next => exact absurd h (by simp)

/-- `computeHourlyRun` finds a run if and only if one of the next 180 minutes shows the minute. -/
theorem computeHourlyRun_ok_iff (minute reference : ℤ) (timezone : String) (zone : Zone) :
    (∃ next, computeHourlyRun minute reference timezone zone = .ok next) ↔
      ∃ t ∈ minutesFrom (computeMinutelyRun reference) 180,
        (getZonedDateTimeParts zone t).minute = minute := by
  unfold computeHourlyRun
  cases hfind : (minutesFrom (computeMinutelyRun reference) 180).find? fun candidate =>
      (getZonedDateTimeParts zone candidate).minute = minute with
  | some candidate =>
      have hshows := List.find?_some hfind
      exact ⟨fun _ => ⟨candidate, List.mem_of_find?_eq_some hfind, of_decide_eq_true hshows⟩,
        fun _ => ⟨candidate, rfl⟩⟩
  | none =>
      constructor
      · rintro ⟨next, h⟩
        exact absurd h (by simp)
      · rintro ⟨t, hmem, hminute⟩
        have hnot := List.find?_eq_none.mp hfind t hmem
        exact absurd (decide_eq_true hminute) hnot

/-- Sixty consecutive minutes under one offset show every minute of the hour. -/
theorem exists_minute_shown {minute : ℤ} (h : 0 ≤ minute ∧ minute ≤ 59) (start offset : ℤ) :
    ∃ k : ℕ, k < 60 ∧ (start + k * 60000 + offset) / 60000 % 60 = minute := by
  refine ⟨((minute - (start + offset) / 60000) % 60).toNat, by omega, ?_⟩
  have hshift : start + (((minute - (start + offset) / 60000) % 60).toNat : ℤ) * 60000 + offset
      = start + offset + (minute - (start + offset) / 60000) % 60 * 60000 := by
    omega
  rw [hshift]
  omega

/-- **Hourly runs.**  If the transitions of the zone are four hours apart, `computeHourlyRun`
returns the least aligned instant after the reference that shows the minute: of the 180 minutes
it looks at, the first sixty or the next sixty lie on one side of the transition. -/
theorem computeHourlyRun_isLeast (zone : Zone) (happart : JumpsApart zone.offset (4 * 3600000))
    (minute reference : ℤ) (hminute : 0 ≤ minute ∧ minute ≤ 59) (timezone : String) :
    ∃ next, computeHourlyRun minute reference timezone zone = .ok next ∧
      IsLeast {t | 60000 ∣ t ∧ reference < t ∧ (getZonedDateTimeParts zone t).minute = minute}
        next := by
  have hshown : ∃ t ∈ minutesFrom (computeMinutelyRun reference) 180,
      (getZonedDateTimeParts zone t).minute = minute := by
    generalize computeMinutelyRun reference = start
    -- sixty of the minutes have one offset
    have hside : ∃ (first : ℕ) (offset : ℤ), first + 60 ≤ 180 ∧ ∀ k : ℕ, k < 60 →
        zone.offset (start + first * 60000 + k * 60000) = offset := by
      rcases const_or_jump zone.offset start (start + 179 * 60000) with hconst | ⟨s, hs, hle, hjump⟩
      · exact ⟨0, zone.offset start, by omega, fun k hk => hconst _ (by omega) (by omega)⟩
      · by_cases hlate : start + 59 * 60000 < s
        · exact ⟨0, zone.offset (s - 1), by omega, fun k hk =>
            happart.before hjump (by omega) (by omega)⟩
        · exact ⟨60, zone.offset s, by omega, fun k hk =>
            happart.after hjump (by omega) (by omega)⟩
    obtain ⟨first, offset, hfirst, hoffset⟩ := hside
    obtain ⟨k, hk, hk'⟩ := exists_minute_shown hminute (start + first * 60000) offset
    refine ⟨_, mem_minutesFrom.mpr ⟨first + k, by omega, rfl⟩, ?_⟩
    have hsum : start + ((first + k : ℕ) : ℤ) * 60000 = start + first * 60000 + k * 60000 := by
      push_cast
      omega
    rw [getZonedDateTimeParts_minute, hsum, hoffset k hk]
    exact hk'
  obtain ⟨next, hnext⟩ := (computeHourlyRun_ok_iff minute reference timezone zone).mpr hshown
  exact ⟨next, hnext, isLeast_of_computeHourlyRun hnext⟩

/-- A zone whose summer time is half an hour. -/
def lordHowe : Zone where
  offset instant := if instant < 0 then 37800000 else 39600000

/-- Ten minutes before the clock goes forward by half an hour. -/
theorem computeHourlyRun_isLeast_lordHowe :
    ∃ next, computeHourlyRun 15 (-600000) "Australia/Lord_Howe" lordHowe = .ok next ∧
      IsLeast {t | 60000 ∣ t ∧ -600000 < t ∧ (getZonedDateTimeParts lordHowe t).minute = 15}
        next :=
  computeHourlyRun_isLeast lordHowe jumpsApart_ite 15 (-600000) (by decide)
    "Australia/Lord_Howe"

/-! ## Resolved runs -/

/-- What `resolveLocalDateTime` tries in turn: the minutes within three hours of the guess that
show the target; those within four hours after it that show a later time of its date, first at
the same minute of the hour; the guess. -/
def resolutionLevels (target : LocalDateTime) (zone : Zone) (guessMs : ℤ) : List (Set ℤ) :=
  [{t | t ∈ minutesFrom (guessMs - 180 * 60000) 361 ∧ (getZonedDateTimeParts zone t).Shows target},
    {t | t ∈ minutesFrom guessMs 241 ∧ (getZonedDateTimeParts zone t).Follows target true},
    {t | t ∈ minutesFrom guessMs 241 ∧ (getZonedDateTimeParts zone t).Follows target false},
    {guessMs}]

theorem findMatchingInstants_cons {target : LocalDateTime} {zone : Zone} {guessMs t : ℤ}
    {rest : List ℤ} (h : findMatchingInstants target zone guessMs = t :: rest) :
    IsLeast {t | t ∈ minutesFrom (guessMs - 180 * 60000) 361 ∧
      (getZonedDateTimeParts zone t).Shows target} t := by
  have hleast := isLeast_head_sort h
  simpa only [List.mem_filter, decide_eq_true_eq] using hleast

theorem findMatchingInstants_nil {target : LocalDateTime} {zone : Zone} {guessMs : ℤ}
    (h : findMatchingInstants target zone guessMs = []) :
    {t | t ∈ minutesFrom (guessMs - 180 * 60000) 361 ∧
      (getZonedDateTimeParts zone t).Shows target} = ∅ := by
  have hnil := eq_nil_of_sort_nil h
  refine Set.eq_empty_of_forall_notMem fun t ht => ?_
  exact List.filter_eq_nil_iff.mp hnil t ht.1 (decide_eq_true ht.2)

theorem findGapFallbackInstant_some {target : LocalDateTime} {zone : Zone} {guessMs t : ℤ}
    {preserveMinute : Bool}
    (h : findGapFallbackInstant target zone guessMs preserveMinute = some t) :
    IsLeast {t | t ∈ minutesFrom guessMs 241 ∧
      (getZonedDateTimeParts zone t).Follows target preserveMinute} t := by
  have hleast := isLeast_find (minutesFrom_ascending _ _) h
  simpa only [decide_eq_true_eq] using hleast

theorem findGapFallbackInstant_none {target : LocalDateTime} {zone : Zone} {guessMs : ℤ}
    {preserveMinute : Bool}
    (h : findGapFallbackInstant target zone guessMs preserveMinute = none) :
    {t | t ∈ minutesFrom guessMs 241 ∧
      (getZonedDateTimeParts zone t).Follows target preserveMinute} = ∅ := by
  refine Set.eq_empty_of_forall_notMem fun t ht => ?_
  exact List.find?_eq_none.mp h t ht.1 (decide_eq_true ht.2)

/-- **Resolution.**  `resolveLocalDateTime` takes the least instant of the first level that has
one. -/
theorem resolveFromGuess_isFirst (target : LocalDateTime) (zone : Zone) (guessMs : ℤ) :
    IsFirst (resolutionLevels target zone guessMs) (resolveFromGuess target zone guessMs) := by
  unfold resolveFromGuess resolutionLevels
  cases hexact : findMatchingInstants target zone guessMs with
  | cons t rest => exact Or.inl (findMatchingInstants_cons hexact)
  | nil =>
      refine Or.inr ⟨findMatchingInstants_nil hexact, ?_⟩
      cases hsame : findGapFallbackInstant target zone guessMs true with
      | some t => exact Or.inl (findGapFallbackInstant_some hsame)
      | none =>
          refine Or.inr ⟨findGapFallbackInstant_none hsame, ?_⟩
          cases hfuture : findGapFallbackInstant target zone guessMs false with
          | some t => exact Or.inl (findGapFallbackInstant_some hfuture)
          | none => exact Or.inr ⟨findGapFallbackInstant_none hfuture, Or.inl isLeast_singleton⟩

/-- The levels of a target, from its own guess. -/
def levelsOf (target : LocalDateTime) (zone : Zone) : List (Set ℤ) :=
  resolutionLevels target zone (guessInstant target zone)

theorem resolveLocalDateTime_isFirst (target : LocalDateTime) (zone : Zone) :
    IsFirst (levelsOf target zone) (resolveLocalDateTime target zone) :=
  resolveFromGuess_isFirst target zone (guessInstant target zone)

end ScheduledTaskUtils
