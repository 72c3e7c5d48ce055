/-
**The two forms of stored dates.**

A date is stored as `dddd-dd-dd` if it is given as a bare date, and else as `dddd-dd-dd dd:dd:dd`, as long as its
year has four digits. A count of seconds and a text with a time may have a year that lies before year zero or has
five digits and more; it is stored with a sign, for which neither form has room.

* `Moment.IsBareDate` — the shape of a bare date;
* `Moment.WrittenAs.follows_dayForm_iff`, `Moment.WrittenAs.follows_timeForm_iff` — the forms of days and times
  with a year of four digits;
* `Moment.asDate_form_iff` — the form in which a value is stored.
-/

import CatalogSearch.Proofs.Calendar.Timestamps
import CatalogSearch.Proofs.Strict

namespace CatalogSearch

open Text (IsField Follows)

namespace Moment

/-! ### Bare dates -/

/-- **The shape of a bare date**: two to four digits, two, and two to four, of any script, with a hyphen or a
point between them. -/
def IsBareDate (cs : List Char) : Prop :=
  ∃ (front middle back : List Char) (mark mark' : Char), cs = front ++ mark :: (middle ++ mark' :: back) ∧
    (mark ∈ ['-', '.'] ∧ mark' ∈ ['-', '.']) ∧ (∀ c ∈ front ++ middle ++ back, Text.isDecimalDigit c = true) ∧
    (2 ≤ front.length ∧ front.length ≤ 4) ∧ middle.length = 2 ∧ 2 ≤ back.length ∧ back.length ≤ 4

/-- What is passed over is a run of digits, of which there are neither too few nor too many. -/
theorem afterDigits?_eq_some {least most : Nat} {cs rest : List Char}
    (read : afterDigits? least most cs = some rest) :
    ∃ run, cs = run ++ rest ∧ (∀ c ∈ run, Text.isDecimalDigit c = true) ∧ least ≤ run.length ∧
      run.length ≤ most := by
  obtain ⟨within, same⟩ := Option.ite_none_right_eq_some.mp read
  cases same
  exact ⟨_, List.takeWhile_append_dropWhile.symm, fun c member => List.all_eq_true.mp List.all_takeWhile c member,
    within⟩

theorem afterSeparator?_eq_some {cs rest : List Char} (read : afterSeparator? cs = some rest) :
    ∃ mark ∈ ['-', '.'], cs = mark :: rest := by
  unfold afterSeparator? at read
  split at read <;> cases read
  · exact ⟨'-', by simp, rfl⟩
  · exact ⟨'.', by simp, rfl⟩

/-- **A text is taken for a bare date if it has the shape of one.** -/
theorem isBareDate_iff {cs : List Char} : isBareDate cs = true ↔ IsBareDate cs := by
  constructor
  · intro bare
    have chain := of_decide_eq_true bare
    simp only [Option.bind_eq_bind, Option.bind_eq_some_iff] at chain
    obtain ⟨d, ⟨c, ⟨b, ⟨a, first, sign⟩, second⟩, sign'⟩, third⟩ := chain
    obtain ⟨front, rfl, digits, least, most⟩ := afterDigits?_eq_some first
    obtain ⟨mark, hyphen, rfl⟩ := afterSeparator?_eq_some sign
    obtain ⟨middle, rfl, digits', least', most'⟩ := afterDigits?_eq_some second
    obtain ⟨mark', hyphen', rfl⟩ := afterSeparator?_eq_some sign'
    obtain ⟨back, same, digits'', within⟩ := afterDigits?_eq_some third
    rw [List.append_nil] at same
    subst same
    refine ⟨front, middle, d, mark, mark', rfl, ⟨hyphen, hyphen'⟩, ?_, ⟨least, most⟩, by omega, within⟩
    intro e member
    rcases List.mem_append.mp member with member | member
    · exact (List.mem_append.mp member).elim (digits e) (digits' e)
    · exact digits'' e member
  · rintro ⟨front, middle, back, mark, mark', rfl, ⟨hyphen, hyphen'⟩, digits, within, two, within'⟩
    have passed : ∀ {mark : Char} {rest : List Char}, mark ∈ ['-', '.'] →
        afterSeparator? (mark :: rest) = some rest ∧
          ∀ c ∈ (mark :: rest).head?, Text.isDecimalDigit c = false := by
      intro mark rest known
      rcases List.mem_pair.mp known with rfl | rfl <;> exact ⟨rfl, by rintro c ⟨⟩; decide⟩
    have first : afterDigits? 2 4 (front ++ mark :: (middle ++ mark' :: back)) =
        some (mark :: (middle ++ mark' :: back)) :=
      afterDigits?_append (fun c member => digits c (by simp [member])) within (passed hyphen).2
    have second : afterDigits? 2 2 (middle ++ mark' :: back) = some (mark' :: back) :=
      afterDigits?_append (fun c member => digits c (by simp [member])) (by omega) (passed hyphen').2
    have third : afterDigits? 2 4 (back ++ []) = some [] :=
      afterDigits?_append (fun c member => digits c (by simp [member])) within' nofun
    rw [List.append_nil] at third
    refine decide_eq_true ?_
    simp only [Option.bind_eq_bind, first, second, third, (passed hyphen).1, (passed hyphen').1,
      Option.bind_some]

end Moment

/-! ### The two forms -/

/-- The form of a day. -/
def dayForm : List Char := "dddd-dd-dd".toList

/-- The form of a day with a time. -/
def timeForm : List Char := "dddd-dd-dd dd:dd:dd".toList

namespace Date

variable {date : Date} {cs : List Char}

/-- A date with a year of four digits has the form of a day. -/
theorem WrittenAs.follows (written : date.WrittenAs cs) (plain : 0 ≤ date.year ∧ date.year ≤ 9999) :
    Follows dayForm cs := by
  obtain ⟨n, year, month, day, -, rfl, isYear, isMonth, isDay⟩ := written.fields plain
  exact isYear.follows.append <|
    (isMonth.follows.append (isDay.follows.cons '-' (by decide))).cons '-' (by decide)

end Date

namespace Clock

variable {clock : Clock} {cs : List Char}

theorem WrittenAs.follows (written : clock.WrittenAs cs) : Follows "dd:dd:dd".toList cs := by
  obtain ⟨hour, minute, second, rfl, isHour, isMinute, isSecond⟩ := written
  exact isHour.follows.append <|
    (isMinute.follows.append (isSecond.follows.cons ':' (by decide))).cons ':' (by decide)

end Clock

namespace Moment

variable {m : Moment} {cs : List Char}

/-- A text that says a moment begins with a year of four digits if that is all its year has. -/
theorem WrittenAs.hasPlainYear_iff (written : m.WrittenAs cs) :
    Text.HasPlainYear cs ↔ 0 ≤ m.date.year ∧ m.date.year ≤ 9999 := by
  obtain ⟨date, rest, rfl, isDate, -⟩ := written.split
  exact isDate.hasPlainYear_iff

theorem hasPlainYear_of_follows {form : List Char} (follows : Follows form cs)
    (begins : form.take 5 = "dddd-".toList) : Text.HasPlainYear cs := by
  rw [Text.HasPlainYear, ← begins]
  exact List.forall₂_take 5 follows

/-- **A text in the form of a day says a day** with a year of four digits. -/
theorem WrittenAs.follows_dayForm_iff (written : m.WrittenAs cs) :
    Follows dayForm cs ↔ (∃ d, m = .day d) ∧ 0 ≤ m.date.year ∧ m.date.year ≤ 9999 := by
  constructor
  · intro follows
    refine ⟨?_, written.hasPlainYear_iff.mp (hasPlainYear_of_follows follows rfl)⟩
    cases m with
    | day d => exact ⟨d, rfl⟩
    | time t =>
      obtain ⟨date, clock, rfl, -⟩ := written
      have blank := (follows.mem_iff (by decide) (by decide)).mp (by simp : ' ' ∈ date ++ ' ' :: clock)
      exact absurd blank (by decide)
  · rintro ⟨⟨d, rfl⟩, plain⟩
    exact Date.WrittenAs.follows written plain

/-- **A text in the form of a day with a time says one** with a year of four digits. -/
theorem WrittenAs.follows_timeForm_iff (written : m.WrittenAs cs) :
    Follows timeForm cs ↔ (∃ t, m = .time t) ∧ 0 ≤ m.date.year ∧ m.date.year ≤ 9999 := by
  constructor
  · intro follows
    refine ⟨?_, written.hasPlainYear_iff.mp (hasPlainYear_of_follows follows rfl)⟩
    cases m with
    | time t => exact ⟨t, rfl⟩
    | day d =>
      have blank := (follows.mem_iff (by decide) (by decide)).mpr (by decide : ' ' ∈ timeForm)
      exact absurd blank (Date.WrittenAs.blank_not_mem written)
  · rintro ⟨⟨t, rfl⟩, plain⟩
    obtain ⟨date, clock, rfl, isDate, isClock⟩ := written
    exact (isDate.follows plain).append (isClock.follows.cons ' ' (by decide))

/-! ### What a value is stored as -/

theorem exists_time_of_ofSeconds {seconds : Int} (found : ofSeconds seconds = .ok (some m)) :
    m = .time (.ofSeconds seconds) ∧ seconds ≠ 0 := by
  unfold ofSeconds at found
  split at found
  · cases found
  · next nonzero =>
    split at found <;> cases found
    next given =>
      obtain ⟨-, same⟩ := Option.ite_none_right_eq_some.mp given
      cases same
      exact ⟨rfl, nonzero⟩

theorem isDay_iff_of_ofTrimmed (found : ofTrimmed cs = .ok (some m)) :
    (∃ d, m = .day d) ↔ isBareDate cs = true := by
  unfold ofTrimmed at found
  split at found
  · cases found
  split at found
  · next bare =>
    split at found <;> cases found
    exact iff_of_true ⟨_, rfl⟩ bare
  · next noBareDate =>
    refine iff_of_false ?_ noBareDate
    rintro ⟨d, rfl⟩
    split at found
    · split at found
      · exact nomatch (exists_time_of_ofSeconds found).1
      · cases found
    · split at found <;> cases found

/-- **A value denotes a day if it is a bare date**, else a day with a time. -/
theorem isDay_iff {value : Json} (found : read value = .ok (some m)) :
    (∃ d, m = .day d) ↔ ∃ raw : String, value = .string raw ∧ IsBareDate (Text.trim raw.toList) := by
  cases value with
  | string raw =>
    rw [isDay_iff_of_ofTrimmed found, isBareDate_iff]
    exact ⟨fun bare => ⟨raw, rfl, bare⟩, fun ⟨_, same, bare⟩ => by cases same; exact bare⟩
  | number n =>
    refine iff_of_false ?_ nofun
    rintro ⟨d, rfl⟩
    change ofNumber n = _ at found
    unfold ofNumber at found
    split at found <;> split at found
    · exact nomatch (exists_time_of_ofSeconds found).1
    · cases found
    · exact nomatch (exists_time_of_ofSeconds found).1
    · cases found
  | null => cases found
  | bool b => cases b <;> cases found
  | array items => cases found
  | object members => cases found

/-- The counts of seconds whose universal time has a year of four digits. -/
theorem plainYear_ofSeconds_iff {seconds : Int} :
    0 ≤ (DateTime.ofSeconds seconds).date.year ∧ (DateTime.ofSeconds seconds).date.year ≤ 9999 ↔
      -62167219200 ≤ seconds ∧ seconds ≤ 253402300799 := by
  have first : (DateTime.ofSeconds seconds).date.year < 0 ↔ seconds < -62167219200 :=
    DateTime.year_ofSeconds_lt_iff
  have last : (DateTime.ofSeconds seconds).date.year < 10000 ↔ seconds < 253402300800 :=
    DateTime.year_ofSeconds_lt_iff
  omega

/-- **The form in which a value is stored.** It is a text that says one moment. The text has one of the two forms
if the year of the moment has four digits, and then that of a day just for a bare date. For a count of seconds
the year has four digits from the first second of year zero to the last one of 9999. -/
theorem asDate_form_iff {value stored : Json} (found : value.asDate = .ok stored) (some : stored ≠ .null) :
    ∃ (s : String) (m : Moment), stored = .string s ∧ (∀ n : Moment, n.WrittenAs s.toList ↔ n = m) ∧
      (Follows dayForm s.toList ∨ Follows timeForm s.toList ↔ 0 ≤ m.date.year ∧ m.date.year ≤ 9999) ∧
      (Follows dayForm s.toList ↔
        ∃ raw : String, value = .string raw ∧ IsBareDate (Text.trim raw.toList)) ∧
      ∀ seconds : Int, value.CountsSeconds seconds →
        (0 ≤ m.date.year ∧ m.date.year ≤ 9999 ↔ -62167219200 ≤ seconds ∧ seconds ≤ 253402300799) := by
  obtain ⟨moment, read, rfl⟩ := map_eq_ok.mp found
  cases moment with
  | none => exact absurd rfl some
  | some m =>
    have written := m.writtenAs_text
    refine ⟨m.text, m, rfl, fun n => ⟨fun other => other.unique written, fun same => same ▸ written⟩, ?_, ?_, ?_⟩
    · rw [written.follows_dayForm_iff, written.follows_timeForm_iff]
      cases m <;> simp
    · rw [written.follows_dayForm_iff, ← isDay_iff read]
      refine ⟨And.left, fun day => ⟨day, ?_⟩⟩
      obtain ⟨d, rfl⟩ := day
      exact isStorable_of_read read
    · intro seconds count
      by_cases inside : -9223372036854775808 < seconds ∧ seconds ≤ 9223372036854775807
      · rw [read_eq_ofSeconds inside count] at read
        obtain ⟨rfl, -⟩ := exists_time_of_ofSeconds read
        exact plainYear_ofSeconds_iff
      · obtain ⟨fault, failed⟩ := read_eq_error inside count
        cases failed.symm.trans read

/-- The last second of the year 9999 has the form of a day with a time. -/
theorem asDate_form_iff_last :
    let count : Json := .number (.int ⟨253402300799, by decide, by decide⟩)
    (count.asDate = .ok (.string "9999-12-31 23:59:59") ∧ Json.string "9999-12-31 23:59:59" ≠ .null) ∧
      ∃ m : Moment, m.WrittenAs "9999-12-31 23:59:59".toList ∧ 0 ≤ m.date.year ∧ m.date.year ≤ 9999 ∧
        Follows timeForm "9999-12-31 23:59:59".toList := by
  intro count
  have found : count.asDate = .ok (.string "9999-12-31 23:59:59") := by decide
  obtain ⟨s, m, same, only, forms, -, counted⟩ := asDate_form_iff found nofun
  obtain rfl := Json.string.inj same
  have plain := (counted 253402300799 (.int _ rfl)).mpr (by decide)
  have written := (only m).mpr rfl
  refine ⟨⟨found, nofun⟩, m, written, plain.1, plain.2, ?_⟩
  exact (forms.mpr plain).resolve_left (by decide)

/-- **A stored date need not have one of the two forms**: the first second of the year 10000 is stored with a
plus. -/
theorem not_asDate_form :
    ¬ ∀ value stored : Json, value.asDate = .ok stored → stored ≠ .null →
      ∃ (s : String) (m : Moment), stored = .string s ∧ m.WrittenAs s.toList ∧
        (Follows dayForm s.toList ∨ Follows timeForm s.toList) ∧
        (Follows dayForm s.toList → ∃ raw : String, value = .string raw ∧ IsBareDate (Text.trim raw.toList)) := by
  intro formed
  have found : Json.asDate (.number (.int ⟨253402300800, by decide, by decide⟩)) =
      .ok (.string "+10000-01-01 00:00:00") := by decide
  obtain ⟨s, m, same, -, form, -⟩ := formed _ _ found nofun
  obtain rfl := Json.string.inj same
  exact absurd form (by decide)

end Moment
end CatalogSearch
