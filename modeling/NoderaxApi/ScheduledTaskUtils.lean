/-
# When a scheduled task runs next

An instant is a number of milliseconds since the epoch.  A time zone gives the offset of its
clock at each instant; the date and time that the clock shows are those of the instant moved by
the offset.  The schedule of a task is resolved on the clock: `resolveLocalDateTime` guesses an
instant from one offset, looks for the minutes around it that show the target, and otherwise
falls back to a later minute of the same date.
-/
import NoderaxApi.CivilDates
import NoderaxApi.ScheduledTasks
import NoderaxApi.UserAccounts
import Mathlib.Data.List.Sort

open CivilDates UsersService
open ScheduledTasksService (computeMinutelyRun)

namespace ScheduledTaskUtils

/-! ## Time zones -/

/-- The offset of the local time from UTC at each instant. -/
structure Zone where
  offset : ℤ → ℤ

/-- What the clock of the zone shows, counted like an instant. -/
def Zone.localTime (zone : Zone) (instant : ℤ) : ℤ := instant + zone.offset instant

structure LocalDate where
  year : ℤ
  month : ℕ
  day : ℕ
  deriving DecidableEq, Repr

structure LocalDateTime extends LocalDate where
  hour : ℤ
  minute : ℤ
  deriving DecidableEq, Repr

structure ZonedDateTime extends LocalDateTime where
  second : ℤ
  dayOfWeek : ℤ
  deriving DecidableEq, Repr

/-- The date of a day, counted from 1970-01-01. -/
def dateOf (days : ℤ) : LocalDate :=
  ⟨(civilFromDays days).1, (civilFromDays days).2.1, (civilFromDays days).2.2⟩

/-- `getZonedDateTimeParts`: the parts that the formatter returns.  1970-01-01 was a Thursday. -/
def getZonedDateTimeParts (zone : Zone) (instant : ℤ) : ZonedDateTime :=
  let shown := zone.localTime instant
  { dateOf (shown / 86400000) with
    hour := shown % 86400000 / 3600000
    minute := shown / 60000 % 60
    second := shown / 1000 % 60
    dayOfWeek := (shown / 86400000 + 4) % 7 }

/-! ## The name of an offset -/

/-- A number below 100 in two digits. -/
def twoDigits (value : ℕ) : List Char := [(value / 10).digitChar, (value % 10).digitChar]

/-- The `timeZoneName` part in the style `shortOffset`: the hours, then the minutes and seconds
where they are not zero.  An offset of a day or more has no name. -/
def timeZoneName (offset : ℤ) : Option (List Char) :=
  let hour := offset.natAbs / 3600000
  let minute := offset.natAbs / 60000 % 60
  let second := offset.natAbs / 1000 % 60
  if offset = 0 then some "GMT".toList
  else if 24 ≤ hour then none
  else some ('G' :: 'M' :: 'T' :: (if 0 < offset then '+' else '-') ::
    ((if hour < 10 then [hour.digitChar] else twoDigits hour) ++
      if second ≠ 0 then ':' :: twoDigits minute ++ ':' :: twoDigits second
      else if minute ≠ 0 then ':' :: twoDigits minute
      else []))

/-- The groups of `(\d{1,2})(?::?(\d{2}))?$`. -/
def matchHourMinute : List Char → Option (List Char × Option (List Char))
  | [h] => if h.isDigit then some ([h], none) else none
  | [h, h'] => if h.isDigit ∧ h'.isDigit then some ([h, h'], none) else none
  | [h, m, m'] =>
      if h.isDigit ∧ m.isDigit ∧ m'.isDigit then some ([h], some [m, m']) else none
  | [h, h', m, m'] =>
      if h.isDigit ∧ (h'.isDigit ∨ h' = ':') ∧ m.isDigit ∧ m'.isDigit then
        some (if h' = ':' then [h] else [h, h'], some [m, m'])
      else none
  | [h, h', ':', m, m'] =>
      if h.isDigit ∧ h'.isDigit ∧ m.isDigit ∧ m'.isDigit then some ([h, h'], some [m, m'])
      else none
  | _ => none

/-- The match of `/^GMT([+-])(\d{1,2})(?::?(\d{2}))?$/`: the sign, the hours and the minutes. -/
def matchShortOffset : List Char → Option (Char × List Char × Option (List Char))
  | 'G' :: 'M' :: 'T' :: sign :: rest =>
      if sign = '+' ∨ sign = '-' then (matchHourMinute rest).map fun groups => (sign, groups)
      else none
  | _ => none

/-- `parseInt` of a run of digits. -/
def parseDigits (digits : List Char) : ℤ :=
  digits.foldl (fun value digit => 10 * value + (digit.toNat - '0'.toNat)) 0

/-- `getTimeZoneOffsetMinutes` of the offset at the instant. -/
def getTimeZoneOffsetMinutes (zone : Zone) (instant : ℤ) : ℤ :=
  match (timeZoneName (zone.offset instant)).bind matchShortOffset with
  | none => 0
  | some (sign, hourPart, minutePart) =>
      let minutes := parseDigits hourPart * 60 + parseDigits (minutePart.getD ['0'])
      if sign = '-' then -minutes else minutes

/-! ## Dates and times on the clock -/

/-- `Date.UTC` of a date and time of day, with months from 1.  A year from 0 to 99 is one of the
twentieth century. -/
def dateUTC (date : LocalDate) (hour minute : ℤ) : ℤ :=
  let year := if 0 ≤ date.year ∧ date.year ≤ 99 then 1900 + date.year else date.year
  daysFromCivil year date.month date.day * 86400000 + hour * 3600000 + minute * 60000

/-- `addLocalDays` -/
def addLocalDays (value : LocalDate) (days : ℤ) : LocalDate :=
  dateOf (dateUTC value 0 0 / 86400000 + days)

/-- `compareLocalDateTime` -/
def compareLocalDateTime (left right : LocalDateTime) : ℤ :=
  dateUTC left.toLocalDate left.hour left.minute - dateUTC right.toLocalDate right.hour right.minute

/-! ## Searches by the minute -/

/-- The minutes a loop looks at: `count` of them, from `start` on. -/
def minutesFrom (start : ℤ) (count : ℕ) : List ℤ :=
  (List.range count).map fun k : ℕ => start + (k : ℤ) * 60000

/-- The parts show the target. -/
def ZonedDateTime.Shows (parts : ZonedDateTime) (target : LocalDateTime) : Prop :=
  parts.year = target.year ∧ parts.month = target.month ∧ parts.day = target.day ∧
    parts.hour = target.hour ∧ parts.minute = target.minute

instance (parts : ZonedDateTime) (target : LocalDateTime) : Decidable (parts.Shows target) :=
  inferInstanceAs (Decidable (_ ∧ _))

/-- `findMatchingInstants` -/
def findMatchingInstants (target : LocalDateTime) (zone : Zone) (guessMs : ℤ) : List ℤ :=
  ((minutesFrom (guessMs - 180 * 60000) 361).filter fun candidate =>
    (getZonedDateTimeParts zone candidate).Shows target).insertionSort (· ≤ ·)

/-- The parts show a later time of the target's date, at its minute if that is preserved. -/
def ZonedDateTime.Follows (parts : ZonedDateTime) (target : LocalDateTime)
    (preserveMinute : Bool) : Prop :=
  parts.toLocalDate = target.toLocalDate ∧ (preserveMinute = true → parts.minute = target.minute) ∧
    0 < compareLocalDateTime parts.toLocalDateTime target

instance (parts : ZonedDateTime) (target : LocalDateTime) (preserveMinute : Bool) :
    Decidable (parts.Follows target preserveMinute) :=
  inferInstanceAs (Decidable (_ ∧ _))

/-- `findGapFallbackInstant` -/
def findGapFallbackInstant (target : LocalDateTime) (zone : Zone) (guessMs : ℤ)
    (preserveMinute : Bool) : Option ℤ :=
  (minutesFrom guessMs 241).find? fun candidate =>
    (getZonedDateTimeParts zone candidate).Follows target preserveMinute

/-- The guess of `resolveLocalDateTime`. -/
def guessInstant (target : LocalDateTime) (zone : Zone) : ℤ :=
  let approximateUtcMs := dateUTC target.toLocalDate target.hour target.minute
  approximateUtcMs - getTimeZoneOffsetMinutes zone approximateUtcMs * 60000

/-- `resolveLocalDateTime` from its guess on. -/
def resolveFromGuess (target : LocalDateTime) (zone : Zone) (guessMs : ℤ) : ℤ :=
  match findMatchingInstants target zone guessMs with
  | exactMatch :: _ => exactMatch
  | [] =>
      ((findGapFallbackInstant target zone guessMs true).or
        (findGapFallbackInstant target zone guessMs false)).getD guessMs

/-- `resolveLocalDateTime` -/
def resolveLocalDateTime (target : LocalDateTime) (zone : Zone) : ℤ :=
  resolveFromGuess target zone (guessInstant target zone)

/-! ## The cadences -/

/-- `ScheduledTaskTiming`, as it may be passed: any numbers, and a time zone or none. -/
structure ScheduledTaskTiming where
  cadence : ScheduledTaskCadence
  minute : ℤ
  hour : Option ℤ
  dayOfWeek : Option ℤ
  intervalMinutes : Option ℤ := none
  timezone : Option String := none
  deriving DecidableEq, Repr

/-- The errors of `computeNextScheduledRun`. -/
inductive ScheduleError
  | invalidTimeZone (error : AuthService.ThrownError)
  | error (message : String)
  deriving DecidableEq, Repr

/-- The message of an error, as the callers record it. -/
def ScheduleError.message : ScheduleError → String
  | .invalidTimeZone (.http thrown) => thrown.message
  | .invalidTimeZone _ => "Unknown schedule error"
  | .error message => message

/-- `computeCustomIntervalRun` -/
def computeCustomIntervalRun (intervalMinutes reference : ℤ) : ℤ :=
  computeMinutelyRun reference + max 0 (intervalMinutes - 1) * 60000

/-- `computeHourlyRun` -/
def computeHourlyRun (minute reference : ℤ) (timezone : String) (zone : Zone) :
    Except ScheduleError ℤ :=
  match (minutesFrom (computeMinutelyRun reference) 180).find? fun candidate =>
      (getZonedDateTimeParts zone candidate).minute = minute with
  | some candidate => .ok candidate
  | none => .error (.error s!"Unable to resolve hourly schedule in {timezone}")

/-- The target of `computeDailyRun`. -/
def dailyTarget (hour minute reference : ℤ) (zone : Zone) : LocalDateTime :=
  let shown := getZonedDateTimeParts zone reference
  let targetDate : LocalDateTime := { shown.toLocalDate with hour, minute }
  if compareLocalDateTime targetDate shown.toLocalDateTime ≤ 0 then
    { addLocalDays targetDate.toLocalDate 1 with hour, minute }
  else targetDate

/-- `computeDailyRun` -/
def computeDailyRun (hour minute reference : ℤ) (zone : Zone) : ℤ :=
  resolveLocalDateTime (dailyTarget hour minute reference zone) zone

/-- The target of `computeWeeklyRun`. -/
def weeklyTarget (dayOfWeek hour minute reference : ℤ) (zone : Zone) : LocalDateTime :=
  let shown := getZonedDateTimeParts zone reference
  let difference := dayOfWeek - shown.dayOfWeek
  let dayOffset := if difference < 0 then difference + 7 else difference
  let targetDate : LocalDateTime :=
    { addLocalDays shown.toLocalDate dayOffset with hour, minute }
  if dayOffset = 0 ∧ compareLocalDateTime targetDate shown.toLocalDateTime ≤ 0 then
    { addLocalDays targetDate.toLocalDate 7 with hour, minute }
  else targetDate

/-- `computeWeeklyRun` -/
def computeWeeklyRun (dayOfWeek hour minute reference : ℤ) (zone : Zone) : ℤ :=
  resolveLocalDateTime (weeklyTarget dayOfWeek hour minute reference zone) zone

/-- `clamp` -/
def clamp (value lower upper : ℤ) : ℤ := min (max value lower) upper

/-- `SCHEDULED_TASK_TIMEZONE` -/
def scheduledTaskTimezone : String := "UTC"

/-- `computeNextScheduledRun`, where `zones` are the time zones that the `Intl` library knows. -/
def computeNextScheduledRun {Token : Type} (platform : AccountPlatform Token)
    (zones : String → Zone) (input : ScheduledTaskTiming) (reference : ℤ) :
    Except ScheduleError ℤ :=
  let normalizedMinute := clamp input.minute 0 59
  let normalizedHour := input.hour.map fun hour => clamp hour 0 23
  let normalizedDay := input.dayOfWeek.map fun day => clamp day 0 6
  let normalizedInterval := input.intervalMinutes.map fun interval => clamp interval 1 10080
  match assertValidTimeZone platform (input.timezone.getD scheduledTaskTimezone) with
  | .error error => .error (.invalidTimeZone error)
  | .ok timezone =>
      match input.cadence with
      | .minutely => .ok (computeMinutelyRun reference)
      | .custom => .ok (computeCustomIntervalRun (normalizedInterval.getD 1) reference)
      | .hourly => computeHourlyRun normalizedMinute reference timezone (zones timezone)
      | .daily =>
          .ok (computeDailyRun (normalizedHour.getD 0) normalizedMinute reference (zones timezone))
      | .weekly =>
          .ok (computeWeeklyRun (normalizedDay.getD 0) (normalizedHour.getD 0) normalizedMinute
            reference (zones timezone))

end ScheduledTaskUtils
