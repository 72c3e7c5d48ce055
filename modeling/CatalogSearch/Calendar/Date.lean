/-
**Dates of the Gregorian calendar.**

The calendar is proleptic: its rules hold for all years, and there is a year zero.

* `Date` — a year, a month and a day of that month;
* `Date.dayNumber` — the days since the first of January 1970; `Date.ofDayNumber` — the date of a day;
* `Date.weekday` — the day of the week;
* `Date.text` — year, month and day with hyphens between them.
-/

namespace CatalogSearch

namespace Calendar

/-- Whether the year has a 29th of February. -/
def isLeap (year : Int) : Bool := year % 4 = 0 && (year % 100 ≠ 0 || year % 400 = 0)

/-- The number of days of a month. -/
def daysInMonth (year : Int) (month : Nat) : Nat :=
  if month = 2 then (if isLeap year then 29 else 28)
  else if month = 4 ∨ month = 6 ∨ month = 9 ∨ month = 11 then 30
  else 31

/-- The days from the start of year zero to the start of a year. -/
def daysBeforeYear (year : Int) : Int :=
  365 * year + (year + 3) / 4 - (year + 99) / 100 + (year + 399) / 400

/-- The day that leap years have more than others. -/
def leapDay (year : Int) : Nat := if isLeap year then 1 else 0

/-- The days from the start of a year to the start of a month of it. -/
def daysBeforeMonth (year : Int) (month : Nat) : Nat :=
  if month ≤ 2 then 31 * (month - 1) else 59 + leapDay year + (153 * (month - 3) + 2) / 5

/-- The year in which a day lies, counted from the start of year zero. -/
def yearOfDay (day : Int) : Int :=
  let guess := 400 * day / 146097
  if day < daysBeforeYear guess then guess - 1
  else if daysBeforeYear (guess + 1) ≤ day then guess + 1
  else guess

/-- The month of a year in which a day lies, counted from the start of the year. -/
def monthOfDay (year : Int) (day : Nat) : Nat :=
  if day < 59 + leapDay year then day / 31 + 1
  else (5 * (day - 59 - leapDay year) + 2) / 153 + 3

/-- The start of 1970, counted from the start of year zero. -/
def epochDay : Int := 719528

theorem daysBeforeYear_succ (year : Int) :
    daysBeforeYear (year + 1) = daysBeforeYear year + 365 + leapDay year := by
  unfold daysBeforeYear leapDay isLeap
  by_cases four : year % 4 = 0 <;> by_cases century : year % 100 = 0 <;>
    by_cases cycle : year % 400 = 0 <;> simp [four, century, cycle] <;> omega

/-- A day lies in its year. -/
theorem yearOfDay_bounds (day : Int) :
    daysBeforeYear (yearOfDay day) ≤ day ∧ day < daysBeforeYear (yearOfDay day + 1) := by
  simp only [yearOfDay]
  split
  next early =>
    refine ⟨?_, by rw [Int.sub_add_cancel]; exact early⟩
    simp only [daysBeforeYear] at *
    omega
  next =>
    split
    next late =>
      refine ⟨late, ?_⟩
      simp only [daysBeforeYear] at *
      omega
    next => omega

/-- A day lies in its month. -/
theorem monthOfDay_bounds (year : Int) (day : Nat) (within : day < 365 + leapDay year) :
    1 ≤ monthOfDay year day ∧ monthOfDay year day ≤ 12 ∧
      daysBeforeMonth year (monthOfDay year day) ≤ day ∧
      day < daysBeforeMonth year (monthOfDay year day) +
        daysInMonth year (monthOfDay year day) := by
  unfold monthOfDay daysBeforeMonth daysInMonth
  unfold leapDay at *
  by_cases leap : isLeap year <;>
    simp only [leap, if_true, if_false, Bool.false_eq_true] at * <;>
    split <;> (repeat' split) <;> omega

end Calendar

open Calendar

/-- A day of the calendar. -/
structure Date where
  /-- The year, where zero is the year before 1. -/
  year : Int
  month : Nat
  day : Nat
  one_le_month : 1 ≤ month
  month_le : month ≤ 12
  one_le_day : 1 ≤ day
  day_le : day ≤ daysInMonth year month
deriving DecidableEq, Repr

namespace Date

/-- The date of a year, a month and a day, if there is one. -/
def ofParts? (year : Int) (month day : Nat) : Option Date :=
  if valid : 1 ≤ month ∧ month ≤ 12 ∧ 1 ≤ day ∧ day ≤ daysInMonth year month then
    some ⟨year, month, day, valid.1, valid.2.1, valid.2.2.1, valid.2.2.2⟩
  else none

/-- The days since the first of January 1970. -/
def dayNumber (date : Date) : Int :=
  daysBeforeYear date.year + daysBeforeMonth date.year date.month + (date.day - 1 : Nat) - epochDay

/-- The date that lies a number of days after the first of January 1970. -/
def ofDayNumber (number : Int) : Date :=
  let day := number + epochDay
  let year := yearOfDay day
  let rest := (day - daysBeforeYear year).toNat
  let month := monthOfDay year rest
  have within : rest < 365 + leapDay year := by
    have bounds := yearOfDay_bounds day
    have next := daysBeforeYear_succ (yearOfDay day)
    simp only [rest, year]
    omega
  have bounds := monthOfDay_bounds year rest within
  { year, month, day := rest - daysBeforeMonth year month + 1
    one_le_month := bounds.1
    month_le := bounds.2.1
    one_le_day := by omega
    day_le := by simp only [month]; omega }

/-- The day of the week, where Monday is 0. -/
def weekday (date : Date) : Nat := ((date.dayNumber + 3) % 7).toNat

/-- A date is supported if its year lies between -262143 and 262142. -/
def isSupported (date : Date) : Bool := -262143 ≤ date.year && date.year ≤ 262142

/-- A natural in decimal digits, filled up with zeros to a width. -/
def padded (width n : Nat) : List Char :=
  let digits := Nat.toDigits 10 n
  List.replicate (width - digits.length) '0' ++ digits

/-- A year in four digits; one that has more, or is negative, bears a sign. -/
def yearDigits (year : Int) : List Char :=
  if year < 0 then '-' :: padded 4 year.natAbs
  else if 9999 < year then '+' :: padded 4 year.natAbs
  else padded 4 year.natAbs

/-- Year, month and day. -/
def digits (date : Date) : List Char :=
  yearDigits date.year ++ '-' :: padded 2 date.month ++ '-' :: padded 2 date.day

/-- Year, month and day, with hyphens between them. -/
def text (date : Date) : String := String.ofList date.digits

end Date
end CatalogSearch
