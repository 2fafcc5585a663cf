/-
# Dates and days

`civilFromDays` counts in eras of 400 years, which begin on 1 March.  The number of days before
each year of an era and before each month of a year is counted here, and from it the inverse
`daysFromCivil`; so a date determines its day, and no two days have the same date.
-/
import NoderaxApi.Common

namespace CivilDates

/-! ## Years of an era -/

/-- The days of an era before its year `y`. -/
def daysBeforeYear (y : ℕ) : ℕ := 365 * y + y / 4 - y / 100

/-- The year of its era that a day falls in. -/
def yearOfEra (day : ℕ) : ℕ := (day - day / 1460 + day / 36524 - day / 146096) / 365

/-- The last day of an era is the only one of a fourth leap day, so the centuries are compared
without it. -/
theorem yearOfEra_spec {day : ℕ} (h : day < 146097) :
    yearOfEra day < 400 ∧ daysBeforeYear (yearOfEra day) ≤ day ∧
      day < daysBeforeYear (yearOfEra day) + 366 := by
  by_cases hlast : day = 146096
  · rw [hlast]
    decide
  · unfold daysBeforeYear
    generalize hy : yearOfEra day = y
    unfold yearOfEra at hy
    have hquad : day / 146096 = 0 := by omega
    rw [hquad] at hy
    have hcases : day / 36524 = 0 ∨ day / 36524 = 1 ∨ day / 36524 = 2 ∨ day / 36524 = 3 := by
      omega
    rcases hcases with hc | hc | hc | hc <;> rw [hc] at hy <;>
      have hcentury : y / 100 = day / 36524 := by omega
    all_goals
      rw [hcentury, hc]
      exact ⟨by omega, by omega, by omega⟩

/-! ## Months of a year -/

/-- The days of a year before its month `m`, where March is 0. -/
def daysBeforeMonth (m : ℕ) : ℕ := (153 * m + 2) / 5

/-- The number of the month in the calendar. -/
def monthNumber (m : ℕ) : ℕ := if m < 10 then m + 3 else m - 9

/-- The inverse of `monthNumber`. -/
def monthFromMarch (month : ℕ) : ℕ := (month + 9) % 12

theorem monthFromMarch_monthNumber {m : ℕ} (h : m < 12) : monthFromMarch (monthNumber m) = m := by
  unfold monthFromMarch monthNumber
  split <;> omega

/-! ## The inverse -/

/-- The day of a date, counted from 1970-01-01. -/
def daysFromCivil (year : ℤ) (month day : ℕ) : ℤ :=
  let year := if month ≤ 2 then year - 1 else year
  year / 400 * 146097 + daysBeforeYear (year % 400).toNat + daysBeforeMonth (monthFromMarch month)
    + day - 719469

/-- The date of a day in its era: the year and month from March, and the day of the month. -/
structure EraDate (days : ℤ) where
  era : ℤ
  year : ℕ
  month : ℕ
  day : ℕ
  year_lt : year < 400
  month_lt : month < 12
  day_le : day ≤ 31
  civil : civilFromDays days
    = ((year : ℤ) + era * 400 + (if monthNumber month ≤ 2 then 1 else 0), monthNumber month, day)
  days_eq : days + 719469
    = era * 146097 + daysBeforeYear year + daysBeforeMonth month + day

/-- The date that `civilFromDays` computes. -/
def eraDate (days : ℤ) : EraDate days :=
  let dayOfEra := ((days + 719468) % 146097).toNat
  let dayOfYear := dayOfEra - daysBeforeYear (yearOfEra dayOfEra)
  let month := (5 * dayOfYear + 2) / 153
  have hlt : dayOfEra < 146097 := by omega
  have hspec := yearOfEra_spec hlt
  have hmonth : daysBeforeMonth month ≤ dayOfYear ∧ dayOfYear < daysBeforeMonth month + 31 := by
    unfold daysBeforeMonth
    omega
  { era := (days + 719468) / 146097
    year := yearOfEra dayOfEra
    month := month
    day := dayOfYear - daysBeforeMonth month + 1
    year_lt := hspec.1
    month_lt := by omega
    day_le := by omega
    civil := rfl
    days_eq := by omega }

/-- **The inverse.** -/
theorem daysFromCivil_civilFromDays (days : ℤ) :
    daysFromCivil (civilFromDays days).1 (civilFromDays days).2.1 (civilFromDays days).2.2
      = days := by
  obtain ⟨era, year, month, day, hyear, hmonth, -, hcivil, hdays⟩ := eraDate days
  rw [hcivil]
  unfold daysFromCivil
  simp only
  have hback : (if monthNumber month ≤ 2 then
        (year : ℤ) + era * 400 + (if monthNumber month ≤ 2 then 1 else 0) - 1
      else (year : ℤ) + era * 400 + (if monthNumber month ≤ 2 then 1 else 0))
      = year + era * 400 := by
    split <;> omega
  have hera : ((year : ℤ) + era * 400) / 400 = era := by omega
  have hrest : (((year : ℤ) + era * 400) % 400).toNat = year := by omega
  rw [hback, hera, hrest, monthFromMarch_monthNumber hmonth]
  omega

/-- No two days have the same date. -/
theorem civilFromDays_injective {a b : ℤ} (h : civilFromDays a = civilFromDays b) : a = b := by
  rw [← daysFromCivil_civilFromDays a, h, daysFromCivil_civilFromDays]

/-- A day lies within two years of the mean length of the years before it. -/
theorem civilFromDays_year_bounds (days : ℤ) :
    146097 * ((civilFromDays days).1 - 1970) - 292194 ≤ 400 * days ∧
      400 * days ≤ 146097 * ((civilFromDays days).1 - 1970) + 292194 := by
  obtain ⟨era, year, month, day, hyear, hmonth, hday, hcivil, hdays⟩ := eraDate days
  rw [hcivil]
  unfold daysBeforeYear daysBeforeMonth at hdays
  have hnext : (0 : ℤ) ≤ (if monthNumber month ≤ 2 then 1 else 0) ∧
      (if monthNumber month ≤ 2 then (1 : ℤ) else 0) ≤ 1 := by
    split <;> omega
  constructor <;> omega

end CivilDates
