/-
**All spellings of a date mean the same date.**

A date with a year of four digits may be written alone in four layouts, with a time in nine, with slashes in two,
and as an internet timestamp with any offset. The forms are tried in a fixed order, and one that is tried too
early could take a text for another date; none does.

* `Layout.rfc3339_write`, `Layout.rfc2822_write` — what a layout writes has too few signs for an internet
  timestamp, and no blank where a mail date has one;
* `Layout.date?_kept`, `Layout.time?_kept` — the date and the time that a layout keeps;
* `Moment.asDate_write` — the text that each spelling is stored as.
-/

import CatalogSearch.Proofs.Calendar.Internet
import CatalogSearch.Schema.Value

namespace CatalogSearch

open Text (marks)

/-! ### Texts that layouts write -/

/-- **A tight text is no mail date.** -/
theorem Rfc2822.read?_of_isTight {cs : List Char} (tight : Text.isTight cs = true) : read? cs = none := by
  obtain ⟨⟨a, b, c, rest, rfl, first, second, dark⟩, -⟩ := Text.isTight_iff.mp tight
  exact read?_eq_none rest first second dark

namespace Layout

variable {layout : Layout} {parts : DateParts} {time : DateTime} {fraction : List Char}

/-- The texts in a layout are as tight as that of zeros, whatever else without a blank follows them. -/
theorem IsRegular.isTight_write (regular : layout.IsRegular) (fit : parts.Fit) {tail : List Char}
    (tight : Text.isTight (layout.write {} []) = true) (dark : ∀ c ∈ tail, Text.isBlank c = false) :
    Text.isTight (layout.write parts [] ++ tail) = true := by
  refine Text.isTight_append ?_ dark
  rw [← Text.isTight_shape, shape_write regular.signs fit]
  exact tight

/-- They have as many separators at least. -/
theorem IsRegular.separators_write (regular : layout.IsRegular) (fit : parts.Fit) (tail : List Char) :
    separators (layout.write {} []) ≤ separators (layout.write parts [] ++ tail) := by
  have same := separators_shape (layout.write parts [])
  rw [shape_write regular.signs fit] at same
  rw [separators_append]
  exact Nat.le_add_right_of_le same.le

section Known

variable (known : layout ∈ layouts) (fit : parts.Fit) (isFraction : Text.IsFraction fraction)

include known fit isFraction

/-- What a layout writes begins with two digits and no blank behind them, and does not end in a blank. -/
theorem isTight_write : Text.isTight (layout.write parts fraction) = true := by
  have tight : ∀ layout ∈ layouts, Text.isTight (layout.write {} []) = true := by decide +kernel
  have regular := isRegular_of_mem known
  obtain ⟨tail, isTail, same⟩ := regular.write_eq_append parts isFraction
  rw [same]
  exact regular.isTight_write fit (tight layout known) (Text.isBlank_of_isFraction isTail)

/-- **What a layout writes is no internet timestamp**: it has five signs at most. -/
theorem rfc3339_write : Rfc3339.read? (layout.write parts fraction) = none := by
  have few : ∀ layout ∈ layouts, marks (layout.write {} []) ≤ 5 := by decide +kernel
  have regular := isRegular_of_mem known
  have same : marks (layout.write parts fraction) = marks (layout.write {} []) := by
    have front := Text.marks_shape (layout.write parts [])
    rw [shape_write regular.signs fit] at front
    obtain ⟨tail, isTail, same⟩ := regular.write_eq_append parts isFraction
    rw [same, Text.marks_append, Text.marks_of_isFraction isTail]
    exact front.symm
  cases read : Rfc3339.read? (layout.write parts fraction) with
  | none => rfl
  | some time =>
    have many := Rfc3339.six_le_marks read
    have most := few layout known
    omega

/-- **What a layout writes is no mail date.** -/
theorem rfc2822_write : Rfc2822.read? (layout.write parts fraction) = none :=
  Rfc2822.read?_of_isTight (isTight_write known fit isFraction)

end Known

/-! ### What the numbers of a layout denote -/

section Denoted

variable (plain : 0 ≤ time.date.year ∧ time.date.year ≤ 9999)

include plain

/-- A layout of dates keeps the date. -/
theorem date?_kept (known : layout ∈ layouts) : (layout.kept time.parts {}).date? = some time.date := by
  have fields : ∀ layout ∈ layouts, .year ∈ layout ∧ .month ∈ layout ∧ .day ∈ layout := by decide
  obtain ⟨year, month, day⟩ := fields layout known
  simp only [kept, year, month, day, if_true]
  exact DateParts.date?_of_date time.date (Date.isSupported_of_plain plain) _ _ _

/-- A layout of dates with a time keeps the time, but for a second that it has no field for. -/
theorem time?_kept (known : layout ∈ dateTimes) :
    (layout.kept time.parts {}).time? = some (if .second ∈ layout then time else time.toMinute) := by
  have fields : ∀ layout ∈ dateTimes, .year ∈ layout ∧ .month ∈ layout ∧ .day ∈ layout ∧ .hour ∈ layout ∧
      .minute ∈ layout := by decide
  obtain ⟨year, month, day, hour, minute⟩ := fields layout known
  simp only [kept, year, month, day, hour, minute, if_true]
  split
  · exact DateParts.time?_of_time time (Date.isSupported_of_plain plain)
  · exact DateParts.time?_of_time time.toMinute (Date.isSupported_of_plain plain)

end Denoted

end Layout

/-! ### What every spelling is stored as -/

namespace Moment

open Layout (bareDates dateTimes slashedDates layouts)

variable {layout : Layout} {time : DateTime} {fraction : List Char}

theorem ofText_of_isTight {cs : List Char} (tight : Text.isTight cs = true) :
    ofText (String.ofList cs) = ofTrimmed cs := by
  rw [ofText, String.toList_ofList, Text.trim_of_isTight tight]

section Stored

variable (plain : 0 ≤ time.date.year ∧ time.date.year ≤ 9999) (isFraction : Text.IsFraction fraction)

include plain isFraction

/-- **A date alone is read as itself** in each of its layouts. -/
theorem ofText_bareDate (known : layout ∈ bareDates) :
    ofText (String.ofList (layout.write time.parts fraction)) = .ok (some (day time.date)) := by
  have among : ∀ layout ∈ bareDates, layout ∈ layouts := by decide
  have zeros : ∀ layout ∈ bareDates, .fraction ∉ layout ∧ isBareDate (layout.write {} []) = true := by
    decide +kernel
  obtain ⟨lacks, bare⟩ := zeros layout known
  have fit := DateTime.fit_parts plain
  have regular := Layout.isRegular_of_mem (among layout known)
  have found : bareDates.findSome? (·.date? (layout.write time.parts fraction)) = some time.date :=
    Layout.findSome?_write DateParts.date? among known fit isFraction
      (Layout.date?_kept plain (among layout known))
  have isBare : isBareDate (layout.write time.parts fraction) = true := by
    rw [Layout.write_of_not_mem lacks, ← isBareDate_shape, Layout.shape_write regular.signs fit]
    exact bare
  have separated : 0 < Layout.separators (layout.write time.parts fraction) := by
    rw [separators_of_isBareDate isBare]
    decide
  rw [ofText_of_isTight (Layout.isTight_write (among layout known) fit isFraction), ofTrimmed,
    if_neg (ne_empty_of_separators separated), if_pos isBare, found]

/-- **A date with a time is read as itself** in each of its layouts. -/
theorem ofText_dateTime (known : layout ∈ dateTimes) :
    ofText (String.ofList (layout.write time.parts fraction)) =
      .ok (some (.time (if .second ∈ layout then time else time.toMinute))) := by
  have among : ∀ layout ∈ dateTimes, layout ∈ layouts := by decide
  have zeros : ∀ layout ∈ dateTimes, 3 ≤ Layout.separators (layout.write {} []) := by decide +kernel
  have fit := DateTime.fit_parts plain
  have regular := Layout.isRegular_of_mem (among layout known)
  have found : dateTimes.findSome? (·.time? (layout.write time.parts fraction)) =
      some (if .second ∈ layout then time else time.toMinute) :=
    Layout.findSome?_write DateParts.time? among known fit isFraction (Layout.time?_kept plain known)
  have separated : 3 ≤ Layout.separators (layout.write time.parts fraction) := by
    obtain ⟨tail, -, same⟩ := regular.write_eq_append time.parts isFraction
    rw [same]
    exact (zeros layout known).trans (regular.separators_write fit tail)
  rw [ofText_of_isTight (Layout.isTight_write (among layout known) fit isFraction)]
  refine ofTrimmed_of_timeOfText? (isBareDate_eq_false separated) (by omega) ?_
  rw [timeOfText?, Layout.rfc3339_write (among layout known) fit isFraction,
    Layout.rfc2822_write (among layout known) fit isFraction, Option.none_or, Option.none_or, found,
    Option.some_or]

/-- **A date with slashes is read as its midnight.** -/
theorem ofText_slashedDate (known : layout ∈ slashedDates) :
    ofText (String.ofList (layout.write time.parts fraction)) = .ok (some (.time ⟨time.date, .midnight⟩)) := by
  have among : ∀ layout ∈ slashedDates, layout ∈ layouts := by decide
  have zeros : ∀ layout ∈ slashedDates, .fraction ∉ layout ∧ isBareDate (layout.write {} []) = false ∧
      2 ≤ Layout.separators (layout.write {} []) := by decide +kernel
  have others : ∀ layout ∈ slashedDates, ∀ other ∈ dateTimes, other ∈ layouts ∧ other.stem ≠ layout.stem := by
    decide
  obtain ⟨lacks, noBareDate, separated⟩ := zeros layout known
  have fit := DateTime.fit_parts plain
  have regular := Layout.isRegular_of_mem (among layout known)
  have unread : dateTimes.findSome? (·.time? (layout.write time.parts fraction)) = none :=
    Layout.findSome?_write_eq_none DateParts.time? (among layout known) (others layout known) fit isFraction
  have found : slashedDates.findSome? (·.date? (layout.write time.parts fraction)) = some time.date :=
    Layout.findSome?_write DateParts.date? among known fit isFraction
      (Layout.date?_kept plain (among layout known))
  have shape : Text.shape (layout.write time.parts fraction) = layout.write {} [] := by
    rw [Layout.write_of_not_mem lacks, Layout.shape_write regular.signs fit]
    rfl
  rw [ofText_of_isTight (Layout.isTight_write (among layout known) fit isFraction)]
  refine ofTrimmed_of_timeOfText? ?_ ?_ ?_
  · rw [← isBareDate_shape, shape, noBareDate]
  · rw [← Layout.separators_shape, shape]
    exact separated
  · rw [timeOfText?, Layout.rfc3339_write (among layout known) fit isFraction,
      Layout.rfc2822_write (among layout known) fit isFraction, Option.none_or, Option.none_or, unread, found,
      Option.none_or, Option.map_some]

/-- **An internet timestamp is read as its wall-clock time**, whatever its offset. -/
theorem ofText_rfc3339 {separator : Char} {offset : List Char} (known : separator ∈ ['T', 't', ' '])
    (isOffset : Rfc3339.IsOffset offset) :
    ofText (String.ofList ((Rfc3339.layout separator).write time.parts fraction ++ offset)) =
      .ok (some (.time time)) := by
  have zeros : Text.isTight ((Rfc3339.layout separator).write {} []) = true ∧
      3 ≤ Layout.separators ((Rfc3339.layout separator).write {} []) := by
    have cases : separator = 'T' ∨ separator = 't' ∨ separator = ' ' := by simpa using known
    rcases cases with rfl | rfl | rfl <;> decide +kernel
  obtain ⟨tight, separated⟩ := zeros
  have fit := DateTime.fit_parts plain
  have regular := Rfc3339.isRegular_layout known
  have read := Rfc3339.read?_write plain known isFraction isOffset
  have text : (Rfc3339.layout separator).write time.parts fraction ++ offset =
      (Rfc3339.layout separator).write time.parts [] ++ (fraction ++ offset) := by
    rw [Rfc3339.write_layout plain, Rfc3339.write_layout plain]
    simp
  have dark : ∀ c ∈ fraction ++ offset, Text.isBlank c = false := fun c member =>
    (List.mem_append.mp member).elim (Text.isBlank_of_isFraction isFraction c) (isOffset.isBlank c)
  have many := separated.trans (regular.separators_write fit (fraction ++ offset))
  rw [text] at read ⊢
  rw [ofText_of_isTight (regular.isTight_write fit tight dark)]
  exact ofTrimmed_of_timeOfText? (isBareDate_eq_false many) (by omega) (by rw [timeOfText?, read, Option.some_or])

end Stored

/-- **All spellings of a date mean the same date.** Let a date have a year of four digits.
* Alone, in any of four layouts, it is stored as that day.
* With a time, in any of nine layouts, with or without a fraction where there is room for one, it is stored with
  that time, the second being zero where the layout has none.
* As an internet timestamp with any offset it is stored with the time as written.
* With slashes it is stored as its midnight.
No form that is tried for a date takes a text in one of the layouts for another: it is neither an internet
timestamp nor a mail date, and a layout that reads it reads the same numbers. -/
theorem asDate_write (plain : 0 ≤ time.date.year ∧ time.date.year ≤ 9999)
    (isFraction : Text.IsFraction fraction) :
    (∀ layout ∈ bareDates, Json.asDate (.string (String.ofList (layout.write time.parts fraction))) =
      .ok (.string time.date.text)) ∧
    (∀ layout ∈ dateTimes, Json.asDate (.string (String.ofList (layout.write time.parts fraction))) =
      .ok (.string (if .second ∈ layout then time else time.toMinute).text)) ∧
    (∀ separator ∈ ['T', 't', ' '], ∀ offset, Rfc3339.IsOffset offset →
      Json.asDate (.string (String.ofList ((Rfc3339.layout separator).write time.parts fraction ++ offset))) =
        .ok (.string time.text)) ∧
    (∀ layout ∈ slashedDates, Json.asDate (.string (String.ofList (layout.write time.parts fraction))) =
      .ok (.string (DateTime.text ⟨time.date, .midnight⟩))) ∧
    ∀ layout ∈ layouts, Rfc3339.read? (layout.write time.parts fraction) = none ∧
      Rfc2822.read? (layout.write time.parts fraction) = none ∧
      ∀ other ∈ layouts, other.parts? (layout.write time.parts fraction) = none ∨
        other.parts? (layout.write time.parts fraction) = some (layout.kept time.parts {}) := by
  have stored {s : String} {m : Moment} (read : ofText s = .ok (some m)) :
      Json.asDate (.string s) = .ok (.string m.text) := by
    show (ofText s).map toJson = _
    rw [read]
    rfl
  have fit := DateTime.fit_parts plain
  refine ⟨fun layout known => stored (ofText_bareDate plain isFraction known),
    fun layout known => stored (ofText_dateTime plain isFraction known),
    fun separator known offset isOffset => stored (ofText_rfc3339 plain isFraction known isOffset),
    fun layout known => stored (ofText_slashedDate plain isFraction known), fun layout known => ?_⟩
  exact ⟨Layout.rfc3339_write known fit isFraction, Layout.rfc2822_write known fit isFraction,
    fun other known' => Layout.parts?_write_agree known known' fit isFraction⟩

/-- A leap second of the last day of February in the year zero, in one layout of each kind. -/
theorem asDate_write_leapSecond :
    let time : DateTime := ⟨⟨0, 2, 29, by decide, by decide, by decide, by decide⟩,
      ⟨23, 59, 60, by decide, by decide, by decide⟩⟩
    ((0 ≤ time.date.year ∧ time.date.year ≤ 9999) ∧ Text.IsFraction ".5".toList) ∧
      Json.asDate (.string "29.02.0000") = .ok (.string "0000-02-29") ∧
      Json.asDate (.string "0000-02-29T23:59:60.5") = .ok (.string "0000-02-29 23:59:60") ∧
      Json.asDate (.string "29.02.0000 23:59") = .ok (.string "0000-02-29 23:59:00") ∧
      Json.asDate (.string "0000-02-29t23:59:60.5-03:30") = .ok (.string "0000-02-29 23:59:60") ∧
      Json.asDate (.string "29/02/0000") = .ok (.string "0000-02-29 00:00:00") := by
  intro time
  have plain : 0 ≤ time.date.year ∧ time.date.year ≤ 9999 := by decide
  have isFraction : Text.IsFraction ".5".toList := .inr ⟨['5'], rfl, by decide, List.all_eq_true.mp rfl⟩
  obtain ⟨bare, dateTime, internet, slashed, -⟩ := asDate_write plain isFraction
  have isOffset : Rfc3339.IsOffset "-03:30".toList :=
    .hours (.inr rfl : '-' = '+' ∨ '-' = '-') (by decide : 3 < 24) (by decide : 30 < 60)
  have exactly {cs : List Char} {stored s t : String}
      (found : Json.asDate (.string (String.ofList cs)) = .ok (.string stored)) (text : cs = s.toList)
      (same : stored = t) : Json.asDate (.string s) = .ok (.string t) := by
    rw [← same, ← found, text, String.ofList_toList]
  have alone := bare (Layout.dayFirst '.') (by decide)
  have withFraction := dateTime (Layout.yearFirst '-' ++ .sign 'T' :: Layout.toSecond ++ [.fraction]) (by decide)
  have withoutSecond := dateTime (Layout.dayFirst '.' ++ .space :: Layout.toMinute) (by decide)
  have withOffset := internet 't' (by decide) _ isOffset
  have withSlashes := slashed (Layout.dayFirst '/') (by decide)
  exact ⟨⟨plain, isFraction⟩, exactly alone (by decide) (by decide), exactly withFraction (by decide) (by decide),
    exactly withoutSecond (by decide) (by decide), exactly withOffset (by decide) (by decide),
    exactly withSlashes (by decide) (by decide)⟩

end Moment
end CatalogSearch
