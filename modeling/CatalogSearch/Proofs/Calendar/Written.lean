/-
**What the text of a moment says.**

A date says its year, month and day in fields of digits, a time its hour, minute and second. This is how texts
are read here, whoever wrote them.

* `Date.WrittenAs`, `Clock.WrittenAs`, `Moment.WrittenAs` — what a text says;
* `Moment.writtenAs_text` — the text of a moment says that moment;
* `Moment.WrittenAs.unique` — a text says no more than one moment;
* `Moment.instant` — the place of a moment in time;
* `Moment.WrittenAs.instant_le` — texts with a year of four digits are ordered as the moments are.
-/

import CatalogSearch.Calendar.Moment
import CatalogSearch.Proofs.Calendar.Layout
import CatalogSearch.Proofs.Calendar.Count
import CatalogSearch.Proofs.Text.Field

namespace CatalogSearch

open Text (IsField Follows)

/-! ### Dates -/

/-- **A written year**: four digits. A year that has more bears a plus, and one before year zero a minus. -/
inductive Date.IsYear (year : Int) : List Char → Prop
  | plain {n : Nat} {cs : List Char} (field : IsField 4 n cs) (value : year = n) : IsYear year cs
  | later {width n : Nat} {cs : List Char} (field : IsField width n cs) (value : year = n)
      (far : 9999 < year) : IsYear year ('+' :: cs)
  | earlier {width n : Nat} {cs : List Char} (field : IsField width n cs) (value : year = -n)
      (past : year < 0) : IsYear year ('-' :: cs)

/-- **A text says a date**: its year, its month and its day, with hyphens between them. -/
def Date.WrittenAs (date : Date) (cs : List Char) : Prop :=
  ∃ year month day, cs = year ++ '-' :: (month ++ '-' :: day) ∧ IsYear date.year year ∧
    IsField 2 date.month month ∧ IsField 2 date.day day

/-- **A text says a time of day**: its hour, its minute and its second, with colons between them. -/
def Clock.WrittenAs (clock : Clock) (cs : List Char) : Prop :=
  ∃ hour minute second, cs = hour ++ ':' :: (minute ++ ':' :: second) ∧ IsField 2 clock.hour hour ∧
    IsField 2 clock.minute minute ∧ IsField 2 clock.second second

/-- **A text says a moment**: a date, or a date and a time with a space between them. -/
def Moment.WrittenAs : Moment → List Char → Prop
  | .day d, cs => d.WrittenAs cs
  | .time t, cs => ∃ date clock, cs = date ++ ' ' :: clock ∧ t.date.WrittenAs date ∧ t.clock.WrittenAs clock

/-- **A text begins with a year of four digits**, without a sign. -/
def Text.HasPlainYear (cs : List Char) : Prop := Follows "dddd-".toList (cs.take 5)

instance (cs : List Char) : Decidable (Text.HasPlainYear cs) :=
  inferInstanceAs (Decidable (Follows "dddd-".toList (cs.take 5)))

namespace Date

variable {date other : Date} {year : Int} {cs ds front back : List Char}

theorem isYear_yearDigits (year : Int) : IsYear year (yearDigits year) := by
  have digits : IsField (padded 4 year.natAbs).length year.natAbs (padded 4 year.natAbs) :=
    ⟨rfl, Text.isDigit_padded, Text.ofDigitChars_padded _ _⟩
  unfold yearDigits
  split
  · next past => exact .earlier digits (by omega) past
  · split
    · next far => exact .later digits (by omega) far
    · exact .plain (Text.isField_padded (by decide) (show year.natAbs < 10000 by omega)) (by omega)

/-- The text of a date says it. -/
theorem writtenAs_digits (date : Date) : date.WrittenAs date.digits := by
  obtain ⟨month, day⟩ := date.fields_lt
  refine ⟨_, _, _, ?_, isYear_yearDigits _, Text.isField_padded (by decide) month,
    Text.isField_padded (by decide) day⟩
  simp [digits]

/-- Written years of one text are one year. -/
theorem IsYear.unique {year other : Int} (first : IsYear year cs) (second : IsYear other cs) :
    year = other := by
  have unsigned : ∀ {width n sign cs}, sign.isDigit = false → ¬ IsField width n (sign :: cs) :=
    fun noDigit field => by simpa [noDigit] using field.isDigit _ List.mem_cons_self
  cases first with
  | plain field value =>
    cases second with
    | plain field' value' => rw [value, value', field.unique field']
    | later => exact absurd field (unsigned rfl)
    | earlier => exact absurd field (unsigned rfl)
  | later field value =>
    cases second with
    | plain field' => exact absurd field' (unsigned rfl)
    | later field' value' => rw [value, value', field.unique field']
  | earlier field value =>
    cases second with
    | plain field' => exact absurd field' (unsigned rfl)
    | earlier field' value' => rw [value, value', field.unique field']

/-- A text that says a date says no other. -/
theorem WrittenAs.unique (written : date.WrittenAs cs) (written' : other.WrittenAs cs) : date = other := by
  obtain ⟨year, month, day, rfl, isYear, isMonth, isDay⟩ := written
  obtain ⟨year', month', day', same, isYear', isMonth', isDay'⟩ := written'
  -- a year may have any length, but what follows it has not
  have lengths : ('-' :: (month ++ '-' :: day)).length = ('-' :: (month' ++ '-' :: day')).length := by
    simp [isMonth.length_eq, isMonth'.length_eq, isDay.length_eq, isDay'.length_eq]
  obtain ⟨rfl, behindYear⟩ := List.append_inj' same lengths
  obtain ⟨months, behindMonth⟩ := isMonth.append_inj isMonth' (List.cons.inj behindYear).2
  obtain rfl := (List.cons.inj behindMonth).2
  exact Date.ext (isYear.unique isYear') months (isDay.unique isDay')

/-- **A text that begins with a date begins with a year of four digits if the year has no more.** -/
theorem WrittenAs.hasPlainYear_iff (written : date.WrittenAs cs) :
    Text.HasPlainYear (cs ++ back) ↔ 0 ≤ date.year ∧ date.year ≤ 9999 := by
  obtain ⟨year, month, day, rfl, isYear, -, -⟩ := written
  cases isYear with
  | plain field value =>
    have small := Text.ofDigitChars_lt field.isDigit
    rw [field.length_eq, field.value] at small
    change _ < 10000 at small
    have front : (year ++ '-' :: (month ++ '-' :: day) ++ back).take 5 = year ++ ['-'] := by
      rw [List.append_assoc, List.take_append, List.take_of_length_le (by simp [field.length_eq]),
        field.length_eq]
      rfl
    have plain : Text.HasPlainYear (year ++ '-' :: (month ++ '-' :: day) ++ back) := by
      rw [Text.HasPlainYear, front]
      exact field.follows.append (.cons '-' (by decide) List.Forall₂.nil)
    exact iff_of_true plain (by omega)
  | later field value far =>
    refine iff_of_false (fun plain => ?_) (by omega)
    cases (List.forall₂_cons.mp plain).1
  | earlier field value past =>
    refine iff_of_false (fun plain => ?_) (by omega)
    cases (List.forall₂_cons.mp plain).1

/-- The fields of a text that says a date with a year of four digits. -/
theorem WrittenAs.fields (written : date.WrittenAs cs) (plain : 0 ≤ date.year ∧ date.year ≤ 9999) :
    ∃ (n : Nat) (year month day : List Char), date.year = n ∧ cs = year ++ '-' :: (month ++ '-' :: day) ∧
      IsField 4 n year ∧ IsField 2 date.month month ∧ IsField 2 date.day day := by
  obtain ⟨year, month, day, rfl, isYear, isMonth, isDay⟩ := written
  cases isYear with
  | plain field value => exact ⟨_, year, month, day, value, rfl, field, isMonth, isDay⟩
  | later field value far => omega
  | earlier field value past => omega

/-- **Texts that begin with dates are ordered by the dates first**, in the order of the calendar. -/
theorem WrittenAs.append_lt_append_iff (written : date.WrittenAs cs) (written' : other.WrittenAs ds)
    (plain : Text.HasPlainYear (cs ++ front)) (plain' : Text.HasPlainYear (ds ++ back)) :
    cs ++ front < ds ++ back ↔ date.Before other ∨ date = other ∧ front < back := by
  obtain ⟨n, year, month, day, value, rfl, isYear, isMonth, isDay⟩ :=
    written.fields (written.hasPlainYear_iff.mp plain)
  obtain ⟨n', year', month', day', value', rfl, isYear', isMonth', isDay'⟩ :=
    written'.fields (written'.hasPlainYear_iff.mp plain')
  have same : date = other ↔ n = n' ∧ date.month = other.month ∧ date.day = other.day := by
    rw [Date.ext_iff, value, value', Nat.cast_inj]
  rw [List.append_assoc, List.append_assoc, isYear.append_lt_append_iff isYear', List.cons_append,
    List.cons_append, List.cons_lt_cons_self, List.append_assoc, List.append_assoc,
    isMonth.append_lt_append_iff isMonth', List.cons_append, List.cons_append, List.cons_lt_cons_self,
    isDay.append_lt_append_iff isDay', same, Before, value, value', Nat.cast_lt, Nat.cast_inj]
  tauto

theorem WrittenAs.blank_not_mem (written : date.WrittenAs cs) : ' ' ∉ cs := by
  have digits : ∀ {width n : Nat} {digits : List Char}, IsField width n digits → ' ' ∉ digits :=
    fun field member => by simpa using field.isDigit _ member
  obtain ⟨year, month, day, rfl, isYear, isMonth, isDay⟩ := written
  have noBlank : ' ' ∉ year := by
    cases isYear with
    | plain field => exact digits field
    | later field => simpa using digits field
    | earlier field => simpa using digits field
  simp [noBlank, digits isMonth, digits isDay]

end Date

/-! ### Times of day -/

namespace Clock

variable {clock other : Clock} {cs ds : List Char}

/-- The text of a time of day says it. -/
theorem writtenAs_digits (clock : Clock) : clock.WrittenAs clock.digits := by
  obtain ⟨hour, minute, second⟩ := clock.fields_lt
  refine ⟨_, _, _, ?_, Text.isField_padded (by decide) hour, Text.isField_padded (by decide) minute,
    Text.isField_padded (by decide) second⟩
  simp [digits]

theorem WrittenAs.length_eq (written : clock.WrittenAs cs) : cs.length = 8 := by
  obtain ⟨hour, minute, second, rfl, isHour, isMinute, isSecond⟩ := written
  simp [isHour.length_eq, isMinute.length_eq, isSecond.length_eq]

/-- A text that says a time of day says no other. -/
theorem WrittenAs.unique (written : clock.WrittenAs cs) (written' : other.WrittenAs cs) : clock = other := by
  obtain ⟨hour, minute, second, rfl, isHour, isMinute, isSecond⟩ := written
  obtain ⟨hour', minute', second', same, isHour', isMinute', isSecond'⟩ := written'
  obtain ⟨hours, behindHour⟩ := isHour.append_inj isHour' same
  obtain ⟨minutes, behindMinute⟩ := isMinute.append_inj isMinute' (List.cons.inj behindHour).2
  obtain rfl := (List.cons.inj behindMinute).2
  exact Clock.ext hours minutes (isSecond.unique isSecond')

/-- The place of a time in its day. Every minute has room for a leap second, which comes after second 59 and
before the next minute. -/
def place (clock : Clock) : Nat := 3660 * clock.hour + 61 * clock.minute + clock.second

theorem place_lt (clock : Clock) : clock.place < 87840 := by
  have hour := clock.hour_lt
  have minute := clock.minute_lt
  have second := clock.second_le
  unfold place
  omega

/-- **Texts of times of day are ordered as the times are.** -/
theorem WrittenAs.lt_iff (written : clock.WrittenAs cs) (written' : other.WrittenAs ds) :
    cs < ds ↔ clock.place < other.place := by
  obtain ⟨hour, minute, second, rfl, isHour, isMinute, isSecond⟩ := written
  obtain ⟨hour', minute', second', rfl, isHour', isMinute', isSecond'⟩ := written'
  rw [isHour.append_lt_append_iff isHour', List.cons_lt_cons_self, isMinute.append_lt_append_iff isMinute',
    List.cons_lt_cons_self, isSecond.lt_iff isSecond']
  have minutes := clock.minute_lt
  have seconds := clock.second_le
  have minutes' := other.minute_lt
  have seconds' := other.second_le
  unfold place
  omega

end Clock

/-! ### Moments -/

namespace Moment

variable {m n : Moment} {cs ds : List Char}

/-- **The text of a moment says that moment.** -/
theorem writtenAs_text (m : Moment) : m.WrittenAs m.text.toList := by
  cases m with
  | day d =>
    rw [text, Date.text, String.toList_ofList]
    exact d.writtenAs_digits
  | time t =>
    rw [text, DateTime.text, String.toList_ofList]
    exact ⟨_, _, rfl, t.date.writtenAs_digits, t.clock.writtenAs_digits⟩

/-- The date of a moment. -/
def date : Moment → Date
  | day d => d
  | time t => t.date

/-- The place of a moment in its day, where a day is its midnight. -/
def place : Moment → Nat
  | day _ => 0
  | time t => t.clock.place

/-- **The place of a moment in time**: its day, and its place in the day. -/
def instant (m : Moment) : Int := 87840 * m.date.dayNumber + m.place

theorem place_lt (m : Moment) : m.place < 87840 := by
  cases m with
  | day d => exact (by decide : 0 < 87840)
  | time t => exact t.clock.place_lt

/-- **A text that says a moment says no other.** -/
theorem WrittenAs.unique (written : m.WrittenAs cs) (written' : n.WrittenAs cs) : m = n := by
  cases m with
  | day d =>
    cases n with
    | day e => rw [Date.WrittenAs.unique written written']
    | time t =>
      obtain ⟨date, clock, rfl, -⟩ := written'
      exact absurd (by simp) (Date.WrittenAs.blank_not_mem written)
  | time t =>
    obtain ⟨date, clock, rfl, isDate, isClock⟩ := written
    cases n with
    | day e => exact absurd (by simp) (Date.WrittenAs.blank_not_mem written')
    | time u =>
      obtain ⟨date', clock', same, isDate', isClock'⟩ := written'
      have lengths : (' ' :: clock).length = (' ' :: clock').length := by
        simp [isClock.length_eq, isClock'.length_eq]
      obtain ⟨rfl, behind⟩ := List.append_inj' same lengths
      obtain rfl := (List.cons.inj behind).2
      rw [DateTime.ext (isDate.unique isDate') (isClock.unique isClock')]

/-- What follows the date in the text of a moment: nothing, or a space and a time. -/
def TimeWrittenAs : Moment → List Char → Prop
  | .day _, cs => cs = []
  | .time t, cs => ∃ clock, cs = ' ' :: clock ∧ t.clock.WrittenAs clock

theorem WrittenAs.split (written : m.WrittenAs cs) :
    ∃ date rest, cs = date ++ rest ∧ m.date.WrittenAs date ∧ m.TimeWrittenAs rest := by
  cases m with
  | day d => exact ⟨cs, [], (List.append_nil cs).symm, written, rfl⟩
  | time t =>
    obtain ⟨date, clock, rfl, isDate, isClock⟩ := written
    exact ⟨date, _, rfl, isDate, clock, rfl, isClock⟩

/-- **Within a day texts are ordered as the times are**: a day alone is its midnight, and its text is the
beginning of every other. -/
theorem TimeWrittenAs.place_le (written : m.TimeWrittenAs cs) (written' : n.TimeWrittenAs ds)
    (ordered : ¬ ds < cs) : m.place ≤ n.place := by
  cases m with
  | day d => exact Nat.zero_le _
  | time t =>
    obtain ⟨clock, rfl, isClock⟩ := written
    cases n with
    | day e =>
      obtain rfl := written'
      exact absurd (List.nil_lt_cons _ _) ordered
    | time u =>
      obtain ⟨clock', rfl, isClock'⟩ := written'
      rw [List.cons_lt_cons_self, isClock'.lt_iff isClock] at ordered
      exact Nat.le_of_not_lt ordered

/-- **Texts with a year of four digits are ordered as the moments are** that they say. -/
theorem WrittenAs.instant_le (written : m.WrittenAs cs) (written' : n.WrittenAs ds)
    (plain : Text.HasPlainYear cs) (plain' : Text.HasPlainYear ds) (ordered : ¬ ds < cs) :
    m.instant ≤ n.instant := by
  obtain ⟨date, rest, rfl, isDate, isRest⟩ := written.split
  obtain ⟨date', rest', rfl, isDate', isRest'⟩ := written'.split
  have place := m.place_lt
  rw [isDate'.append_lt_append_iff isDate plain' plain, not_or, not_and] at ordered
  unfold instant
  rcases Date.before_or_eq_or_before m.date n.date with before | same | after
  · have days := Date.dayNumber_lt_of_before before
    omega
  · have times := isRest.place_le isRest' (ordered.2 same.symm)
    rw [same]
    omega
  · exact absurd after ordered.1

end Moment
end CatalogSearch
