/-
**Days and seconds, counted.**

The first of January 1970 is day 0. Years and months follow one another without a gap, so days are numbered in
the order of the calendar, and each number is that of one date.

* `Calendar.daysBeforeMonth_le`, `Calendar.daysBeforeYear_le` — a month or a year is over before a later one
  begins;
* `Date.dayNumber_lt_of_before`, `Date.dayNumber_inj` — days are numbered in order, and told apart by their numbers;
* `Date.dayNumber_ofDayNumber` — every number is the number of a date;
* `DateTime.isUniversal_ofSeconds`, `DateTime.eq_ofSeconds` — a count of seconds has one universal time;
* `DateTime.year_ofSeconds_lt_iff` — the year it lies in.
-/

import CatalogSearch.Calendar.DateTime
import Mathlib.Tactic.IntervalCases

namespace CatalogSearch

attribute [ext] Date Clock DateTime

/-! ### Days -/

namespace Calendar

/-- The months of a year follow one another without a gap. -/
theorem daysBeforeMonth_succ (year : Int) {month : Nat} (first : 1 ≤ month) (last : month < 12) :
    daysBeforeMonth year (month + 1) = daysBeforeMonth year month + daysInMonth year month := by
  unfold daysBeforeMonth daysInMonth leapDay
  interval_cases month <;> simp
  split <;> rfl

/-- The months of a year fill it. -/
theorem daysBeforeMonth_last (year : Int) :
    daysBeforeMonth year 12 + daysInMonth year 12 = 365 + leapDay year := by
  simp [daysBeforeMonth, daysInMonth]
  omega

/-- A month is over before any later one begins. -/
theorem daysBeforeMonth_le {month later : Nat} (year : Int) (first : 1 ≤ month) (before : month < later)
    (last : later ≤ 12) :
    daysBeforeMonth year month + daysInMonth year month ≤ daysBeforeMonth year later := by
  induction later, before using Nat.le_induction with
  | base => exact (daysBeforeMonth_succ year first last).ge
  | succ later before ih =>
    rw [daysBeforeMonth_succ year (by omega) last]
    exact (ih (by omega)).trans (Nat.le_add_right _ _)

/-- A year is over before any later one begins. -/
theorem daysBeforeYear_le {year later : Int} (before : year < later) :
    daysBeforeYear year + 365 + leapDay year ≤ daysBeforeYear later := by
  rw [← daysBeforeYear_succ]
  unfold daysBeforeYear
  omega

end Calendar

open Calendar

namespace Date

variable {date other : Date}

/-- The place of a date in its year, from 0. -/
def dayOfYear (date : Date) : Nat := daysBeforeMonth date.year date.month + (date.day - 1)

/-- **The order of the calendar**: by year, then by month, then by day. -/
def Before (date other : Date) : Prop :=
  date.year < other.year ∨ date.year = other.year ∧
    (date.month < other.month ∨ date.month = other.month ∧ date.day < other.day)

theorem dayNumber_eq (date : Date) :
    date.dayNumber = daysBeforeYear date.year + date.dayOfYear - epochDay := by
  unfold dayNumber dayOfYear
  omega

theorem dayOfYear_lt (date : Date) : date.dayOfYear < 365 + leapDay date.year := by
  have within := date.day_le
  have positive := date.one_le_day
  unfold dayOfYear
  rcases date.month_le.lt_or_eq with earlier | december
  · have months := daysBeforeMonth_le date.year date.one_le_month earlier (Nat.le_refl 12)
    have year := daysBeforeMonth_last date.year
    omega
  · have year := daysBeforeMonth_last date.year
    rw [december] at within ⊢
    omega

/-- **Days are numbered in the order of the calendar.** -/
theorem dayNumber_lt_of_before (before : date.Before other) : date.dayNumber < other.dayNumber := by
  rw [dayNumber_eq, dayNumber_eq]
  have within := date.dayOfYear_lt
  rcases before with year | ⟨year, month | ⟨month, day⟩⟩
  · have years := daysBeforeYear_le year
    omega
  · have months := daysBeforeMonth_le date.year date.one_le_month month other.month_le
    have days := date.day_le
    have positive := date.one_le_day
    unfold dayOfYear
    rw [← year]
    omega
  · have positive := date.one_le_day
    unfold dayOfYear
    rw [← year, ← month]
    omega

theorem before_or_eq_or_before (date other : Date) :
    date.Before other ∨ date = other ∨ other.Before date := by
  rw [Date.ext_iff]
  unfold Before
  omega

/-- Dates are told apart by their numbers. -/
theorem dayNumber_inj : date.dayNumber = other.dayNumber ↔ date = other := by
  refine ⟨fun same => ?_, congrArg _⟩
  rcases before_or_eq_or_before date other with before | equal | after
  · exact absurd same (dayNumber_lt_of_before before).ne
  · exact equal
  · exact absurd same (dayNumber_lt_of_before after).ne'

/-- **Every number is the number of a date.** -/
theorem dayNumber_ofDayNumber (number : Int) : (ofDayNumber number).dayNumber = number := by
  obtain ⟨started, ends⟩ := yearOfDay_bounds (number + epochDay)
  rw [daysBeforeYear_succ] at ends
  obtain ⟨-, -, begun, -⟩ := monthOfDay_bounds (yearOfDay (number + epochDay))
    (number + epochDay - daysBeforeYear (yearOfDay (number + epochDay))).toNat (by omega)
  simp only [dayNumber, ofDayNumber]
  omega

/-- A date lies before a year if its number is less than that of the year's first day. -/
theorem year_lt_iff {year : Int} :
    date.year < year ↔ date.dayNumber < daysBeforeYear year - epochDay := by
  rw [dayNumber_eq]
  have within := date.dayOfYear_lt
  rcases lt_trichotomy date.year year with before | rfl | after
  · have years := daysBeforeYear_le before
    omega
  · omega
  · have years := daysBeforeYear_le after
    omega

end Date

/-! ### Seconds -/

namespace DateTime

variable {time : DateTime} {seconds : Int}

/-- **The universal time of a count of seconds** after the start of 1970. Counts of seconds leave out leap
seconds, so it has none. -/
def IsUniversal (time : DateTime) (seconds : Int) : Prop := time.seconds = seconds ∧ time.clock.second < 60

theorem isUniversal_ofSeconds (seconds : Int) : (ofSeconds seconds).IsUniversal seconds := by
  refine ⟨?_, Nat.mod_lt _ (by decide)⟩
  have day := Date.dayNumber_ofDayNumber (seconds / 86400)
  simp only [DateTime.seconds, ofSeconds, Clock.seconds, Clock.ofSeconds, day]
  omega

/-- **A count of seconds has one universal time.** -/
theorem eq_ofSeconds (universal : time.IsUniversal seconds) : time = ofSeconds seconds := by
  obtain ⟨date, hour, minute, second, hours, minutes, _⟩ := time
  obtain ⟨rfl, short⟩ := universal
  simp only [ofSeconds, DateTime.seconds, Clock.seconds, Clock.ofSeconds, mk.injEq, Clock.mk.injEq] at short ⊢
  refine ⟨?_, by omega, by omega, by omega⟩
  rw [← Date.dayNumber_inj, Date.dayNumber_ofDayNumber]
  omega

/-- The year of a count of seconds is earlier than a given one if that year has not begun. -/
theorem year_ofSeconds_lt_iff {year : Int} :
    (ofSeconds seconds).date.year < year ↔ seconds < 86400 * (daysBeforeYear year - epochDay) := by
  rw [Date.year_lt_iff, ofSeconds, Date.dayNumber_ofDayNumber]
  omega

end DateTime
end CatalogSearch
