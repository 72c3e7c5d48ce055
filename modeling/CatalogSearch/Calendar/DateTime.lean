/-
**Times of day, and dates with a time.**

* `Clock` — hour, minute and second, where a leap second counts as second 60;
* `DateTime.ofSeconds?` — the date and time a number of seconds after the start of 1970;
* `DateTime.seconds` — that number, for a date and time;
* `DateTime.text` — the date, a space and the time.
-/

import CatalogSearch.Calendar.Date

namespace CatalogSearch

/-- A time of day. -/
structure Clock where
  hour : Nat
  minute : Nat
  /-- The second, from 0; 60 is a leap second. -/
  second : Nat
  hour_lt : hour < 24
  minute_lt : minute < 60
  second_le : second ≤ 60
deriving DecidableEq, Repr

namespace Clock

/-- The time of an hour, a minute and a second, if there is one. -/
def ofParts? (hour minute second : Nat) : Option Clock :=
  if valid : hour < 24 ∧ minute < 60 ∧ second ≤ 60 then
    some ⟨hour, minute, second, valid.1, valid.2.1, valid.2.2⟩
  else none

/-- The start of the day. -/
def midnight : Clock := ⟨0, 0, 0, by decide, by decide, by decide⟩

/-- The seconds since midnight. -/
def seconds (clock : Clock) : Nat := 3600 * clock.hour + 60 * clock.minute + clock.second

/-- The time a number of seconds after midnight, within one day. -/
def ofSeconds (seconds : Nat) : Clock :=
  ⟨seconds / 3600 % 24, seconds / 60 % 60, seconds % 60, by omega, by omega, by omega⟩

/-- Hour, minute and second. -/
def digits (clock : Clock) : List Char :=
  Date.padded 2 clock.hour ++ ':' :: Date.padded 2 clock.minute ++ ':' :: Date.padded 2 clock.second

end Clock

/-- A date with a time of day, of no particular zone. -/
structure DateTime where
  date : Date
  clock : Clock
deriving DecidableEq, Repr

namespace DateTime

/-- The seconds since the start of 1970, as if in universal time. -/
def seconds (time : DateTime) : Int := 86400 * time.date.dayNumber + time.clock.seconds

/-- The universal date and time a number of seconds after the start of 1970. -/
def ofSeconds (seconds : Int) : DateTime :=
  ⟨.ofDayNumber (seconds / 86400), .ofSeconds (seconds % 86400).toNat⟩

/-- The universal date and time a number of seconds after the start of 1970, if it is supported. -/
def ofSeconds? (seconds : Int) : Option DateTime :=
  if (ofSeconds seconds).date.isSupported then some (ofSeconds seconds) else none

/-- The date and the time. -/
def digits (time : DateTime) : List Char := time.date.digits ++ ' ' :: time.clock.digits

/-- The date and the time, with a space between them. -/
def text (time : DateTime) : String := String.ofList time.digits

end DateTime
end CatalogSearch
