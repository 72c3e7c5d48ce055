/-
**A stored date is read back as itself.**

No form that is tried earlier takes the text of a date or a time for something else: the text of a
time has too many separators for a bare date or a count of seconds, it lacks the offset of an
internet timestamp, and a mail date has no more than two digits before its first blank.

* `Moment.ofText_text` — the text of a storable moment denotes the moment.
-/

import CatalogSearch.Proofs.Calendar.Storable

namespace CatalogSearch

/-! ### Texts of dates and times -/

namespace Date

/-- A year is written with a sign, unless it has up to four digits and is not negative. -/
theorem yearDigits_cases (year : Int) :
    (∃ sign rest, yearDigits year = sign :: rest ∧ (sign = '-' ∨ sign = '+')) ∨
      (0 ≤ year ∧ year ≤ 9999) := by
  unfold yearDigits
  split
  · exact .inl ⟨_, _, rfl, .inl rfl⟩
  · split
    · exact .inl ⟨_, _, rfl, .inr rfl⟩
    · exact .inr (by omega)

theorem yearDigits_of_plain {year : Int} (plain : 0 ≤ year ∧ year ≤ 9999) :
    yearDigits year = padded 4 year.natAbs := by
  rw [yearDigits, if_neg (by omega), if_neg (by omega)]

/-- A year of four digits is supported. -/
theorem isSupported_of_plain {date : Date} (plain : 0 ≤ date.year ∧ date.year ≤ 9999) :
    date.isSupported = true := by
  simp only [isSupported, Bool.and_eq_true, decide_eq_true_eq]
  omega

/-- What begins with a year and ends with two digits is not trimmed. -/
theorem trim_yearDigits (year : Int) (middle : List Char) (n : Nat) :
    Text.trim (yearDigits year ++ middle ++ padded 2 n) = yearDigits year ++ middle ++ padded 2 n := by
  have front := Layout.trimLeft_yearDigits year (middle ++ padded 2 n)
  rw [← List.append_assoc] at front
  rw [Text.trim, front, Text.trimRight_padded]

theorem trim_digits (date : Date) : Text.trim date.digits = date.digits := by
  have trimmed := trim_yearDigits date.year ('-' :: padded 2 date.month ++ ['-']) date.day
  simpa [digits] using trimmed

theorem separators_digits (date : Date) : 2 ≤ Layout.separators date.digits := by
  rw [digits, Layout.separators_append, Layout.separators_append,
    Layout.separators_cons _ (by decide), Layout.separators_cons _ (by decide)]
  omega

end Date

namespace DateTime

theorem trim_digits (time : DateTime) : Text.trim time.digits = time.digits := by
  have trimmed := Date.trim_yearDigits time.date.year
    ('-' :: Date.padded 2 time.date.month ++ '-' :: Date.padded 2 time.date.day ++
      ' ' :: Date.padded 2 time.clock.hour ++ ':' :: Date.padded 2 time.clock.minute ++ [':'])
    time.clock.second
  simpa [digits, Date.digits, Clock.digits] using trimmed

theorem separators_digits (time : DateTime) : 5 ≤ Layout.separators time.digits := by
  have date := time.date.separators_digits
  rw [digits, Layout.separators_append, Layout.separators_cons _ (by decide), Clock.digits,
    Layout.separators_append, Layout.separators_append,
    Layout.separators_cons _ (by decide), Layout.separators_cons _ (by decide)]
  omega

end DateTime

namespace Layout

theorem date?_yearFirst (date : Date) (supported : date.isSupported = true) :
    (yearFirst '-').date? date.digits = some date := by
  have read := partsFrom?_yearFirst date [] {} []
  rw [List.append_nil, List.append_nil] at read
  rw [Layout.date?, parts?, read]
  exact DateParts.date?_of_date date supported 0 0 0

theorem time?_yearFirst (time : DateTime) (supported : time.date.isSupported = true) :
    (yearFirst '-' ++ .space :: toSecond).time? time.digits = some time := by
  have clock : Text.trimLeft (' ' :: time.clock.digits) = time.clock.digits := by
    rw [← List.append_nil time.clock.digits, Clock.digits_append]
    exact Text.trimLeft_padded 2 _ _
  rw [Layout.time?, parts?, DateTime.digits, partsFrom?_yearFirst]
  simp only [partsFrom?, step?, clock, Option.bind_some, partsFrom?_toSecond]
  exact DateParts.time?_of_time time supported

end Layout

/-! ### No other form takes the text of a time -/

namespace Rfc3339

theorem ofWidth?_padded {width n : Nat} (rest : List Char) (positive : 0 < width)
    (fits : n < tenTo width) : ofWidth? width (Date.padded width n ++ rest) = some (n, rest) :=
  Layout.number?_padded rest positive fits (Nat.le_refl width)

theorem ofWidth?_two {n : Nat} (fits : n < 100) (rest : List Char) :
    ofWidth? 2 (Date.padded 2 n ++ rest) = some (n, rest) :=
  ofWidth?_padded rest (by decide) fits

theorem after?_cons (c : Char) (rest : List Char) : after? c (c :: rest) = some rest :=
  if_pos rfl

/-- **The fields of a time are read as they were written**, so that what follows them decides. -/
theorem read?_fields (time : DateTime) {separator : Char} (rest : List Char)
    (plain : 0 ≤ time.date.year ∧ time.date.year ≤ 9999) (known : separator ∈ ['T', 't', ' ']) :
    read? (time.date.digits ++ separator :: (time.clock.digits ++ rest)) =
      (Layout.afterFraction? rest).bind fun cs => (afterOffset? cs).bind fun cs =>
        if cs.isEmpty then DateParts.time? ⟨time.date.year, time.date.month, time.date.day,
          time.clock.hour, time.clock.minute, time.clock.second⟩ else none := by
  have year : time.date.year.natAbs < 10000 := by omega
  have same : (time.date.year.natAbs : Int) = time.date.year := Int.natAbs_of_nonneg plain.1
  have separates : separator = 'T' ∨ separator = 't' ∨ separator = ' ' := by simpa using known
  obtain ⟨month, day⟩ := time.date.fields_lt
  obtain ⟨hour, minute, second⟩ := time.clock.fields_lt
  rw [Date.digits_append, Clock.digits_append, Date.yearDigits_of_plain plain]
  simp only [read?, ofWidth?_padded _ (by decide : 0 < 4) year, ofWidth?_two month, ofWidth?_two day,
    ofWidth?_two hour, ofWidth?_two minute, ofWidth?_two second, after?_cons, separates, same,
    Option.bind_eq_bind, Option.bind_some, if_true]

/-- **The text of a time is no internet timestamp**: it has no offset, and a signed year is none. -/
theorem read?_digits (time : DateTime) : read? time.digits = none := by
  rcases Date.yearDigits_cases time.date.year with ⟨sign, rest, front, same⟩ | plain
  · have noDigit : sign.isDigit = false := by rcases same with rfl | rfl <;> rfl
    rw [DateTime.digits, Date.digits_append, front, List.cons_append, read?, ofWidth?,
      Layout.number?_eq_none _ (by decide) noDigit]
    rfl
  · rw [DateTime.digits, ← List.append_nil time.clock.digits, read?_fields time [] plain (by decide)]
    rfl

end Rfc3339

namespace Rfc2822

theorem shortName?_eq_none {names : List String} {c : Char} (rest : List Char)
    (initials : ∀ name ∈ names, name.toList.head? ≠ some c.toLower) :
    shortName? names (c :: rest) = none := by
  rw [shortName?, Option.map_eq_none_iff, List.findIdx?_eq_none_iff]
  intro name member
  refine decide_eq_false ?_
  rintro rfl
  exact initials _ member (by simp)

/-- No day of the week begins with a digit or a sign. -/
theorem weekday?_eq {c : Char} (rest : List Char)
    (first : c.isDigit = true ∨ c = '-' ∨ c = '+') :
    weekday? (c :: rest) = some (none, c :: rest) := by
  have letters : ∀ name ∈ weekdayNames, ∀ d ∈ name.toList.head?,
      d.isDigit = false ∧ d ≠ '-' ∧ d ≠ '+' := by simp [weekdayNames]
  have lower : c.toLower = c := by
    rcases first with digit | rfl | rfl
    · exact Text.toLower_of_isDigit digit
    · rfl
    · rfl
  have initials : ∀ name ∈ weekdayNames, name.toList.head? ≠ some c.toLower := by
    intro name member same
    obtain ⟨noDigit, noMinus, noPlus⟩ := letters name member c (lower ▸ same)
    rcases first with digit | rfl | rfl
    · exact absurd digit (by simp [noDigit])
    · exact noMinus rfl
    · exact noPlus rfl
  rw [weekday?, shortName?_eq_none rest initials]

/-- **A text is no mail date if no blank follows its first two digits**, whichever of them are the day. -/
theorem read?_eq_none {a b c : Char} (rest : List Char) (first : a.isDigit = true)
    (second : b.isDigit = true) (dark : Text.isBlank c = false) : read? (a :: b :: c :: rest) = none := by
  have trimmed := Text.trimLeft_cons (b :: c :: rest) (Text.isBlank_of_isDigit first)
  have noSpace : ∀ {c : Char} (rest : List Char), Text.isBlank c = false → afterSpace? (c :: rest) = none := by
    intro c rest dark
    rw [afterSpace?, dark]
    rfl
  rw [read?, trimmed, weekday?_eq _ (.inl first), Option.bind_eq_bind, Option.bind_some]
  dsimp only
  rw [trimmed, Option.bind_eq_bind]
  rcases day : Layout.number? 1 (some 2) (a :: b :: c :: rest) with _ | ⟨n, after⟩
  · rfl
  · have behind : afterSpace? after = none := by
      obtain ⟨digits, split, -, denoted, short⟩ := Layout.number?_eq_some day
      match digits with
      | [] => cases denoted
      | [_] =>
        cases split
        exact noSpace _ (Text.isBlank_of_isDigit second)
      | [_, _] =>
        cases split
        exact noSpace _ dark
      | _ :: _ :: _ :: _ =>
        have within := short 2 rfl
        simp only [List.length_cons] at within
        omega
    rw [Option.bind_some]
    dsimp only
    rw [behind, Option.bind_eq_bind, Option.bind_none]

/-- **The text of a time is no mail date**: no blank follows its first one or two digits, and a
signed year is no day. -/
theorem read?_digits (time : DateTime) : read? time.digits = none := by
  rw [DateTime.digits, Date.digits_append]
  generalize behind : '-' :: _ = rest
  have trimmed := Layout.trimLeft_yearDigits time.date.year rest
  rcases Date.yearDigits_cases time.date.year with ⟨sign, more, front, same⟩ | plain
  · have noDigit : sign.isDigit = false := by rcases same with rfl | rfl <;> rfl
    rw [front, List.cons_append] at trimmed ⊢
    rw [read?, trimmed, weekday?_eq _ (.inr same), Option.bind_eq_bind, Option.bind_some]
    dsimp only
    rw [trimmed, Option.bind_eq_bind, Layout.number?_eq_none _ (by decide) noDigit, Option.bind_none]
  · have digits : ∀ c ∈ Date.padded 4 time.date.year.natAbs, c.isDigit = true := Text.isDigit_padded
    have length : (Date.padded 4 time.date.year.natAbs).length = 4 :=
      Text.length_padded (by decide) (show time.date.year.natAbs < 10000 by omega)
    rw [Date.yearDigits_of_plain plain]
    match Date.padded 4 time.date.year.natAbs, length, digits with
    | [a, b, c, d], _, digits =>
      exact read?_eq_none _ (digits a (by simp)) (digits b (by simp))
        (Text.isBlank_of_isDigit (digits c (by simp)))

end Rfc2822

/-! ### Stored moments -/

namespace Moment

/-- **A run of digits is passed over whole** if its length is right. -/
theorem afterDigits?_append {least most : Nat} {run rest : List Char}
    (digits : ∀ c ∈ run, Text.isDecimalDigit c = true) (within : least ≤ run.length ∧ run.length ≤ most)
    (ends : ∀ c ∈ rest.head?, Text.isDecimalDigit c = false) :
    afterDigits? least most (run ++ rest) = some rest := by
  rw [afterDigits?, Text.takeWhile_run digits ends, Text.dropWhile_run digits ends]
  exact if_pos within

theorem afterDigits?_padded {least most width n : Nat} {rest : List Char} (positive : 0 < width)
    (fits : n < tenTo width) (atLeast : least ≤ width) (atMost : width ≤ most)
    (ends : ∀ c ∈ rest.head?, Text.isDecimalDigit c = false) :
    afterDigits? least most (Date.padded width n ++ rest) = some rest := by
  refine afterDigits?_append (fun c member => ?_) ?_ ends
  · exact Text.isDecimalDigit_of_isDigit (Text.isDigit_padded c member)
  · rw [Text.length_padded positive fits]
    exact ⟨atLeast, atMost⟩

/-- A day with a year of four digits has the shape of a bare date. -/
theorem isBareDate_digits {date : Date} (plain : 0 ≤ date.year ∧ date.year ≤ 9999) :
    isBareDate date.digits = true := by
  have year : date.year.natAbs < 10000 := by omega
  obtain ⟨month, day⟩ := date.fields_lt
  have hyphen (rest : List Char) : ∀ c ∈ ('-' :: rest).head?, Text.isDecimalDigit c = false := by
    rintro c ⟨⟩
    decide
  rw [isBareDate, ← List.append_nil date.digits, Date.digits_append, Date.yearDigits_of_plain plain]
  refine decide_eq_true ?_
  rw [afterDigits?_padded (by decide) year (by decide) (by decide) (hyphen _)]
  simp only [Option.bind_eq_bind, Option.bind_some, afterSeparator?]
  rw [afterDigits?_padded (by decide) month (by decide) (by decide) (hyphen _)]
  simp only [Option.bind_some, afterSeparator?]
  exact afterDigits?_padded (by decide) day (by decide) (by decide) nofun

/-- A count of seconds has at most one separator. -/
theorem separators_of_isTimestamp {cs : List Char} (count : isTimestamp cs = true) :
    Layout.separators cs ≤ 1 := by
  have none {digits : List Char} (all : digits.all Text.isDecimalDigit = true) :
      Layout.separators digits = 0 :=
    List.countP_eq_zero.mpr fun c member => by simp [List.all_eq_true.mp all c member]
  unfold isTimestamp at count
  split at count
  · next digits =>
    have signed := Layout.separators_cons (c := '-') digits (by decide)
    have minus := none (Bool.and_eq_true_iff.mp count).2
    omega
  · have all := none (Bool.and_eq_true_iff.mp count).2
    omega

/-- A text with separators is neither empty nor a zero. -/
theorem ne_empty_of_separators {cs : List Char} (some : 0 < Layout.separators cs) :
    ¬(cs = [] ∨ cs = ['0']) := by
  rintro (rfl | rfl) <;> exact absurd some (by decide)

/-- The first of the layouts with a time reads the text of a time, which no other form takes. -/
theorem timeOfText?_digits {time : DateTime} (supported : time.date.isSupported = true) :
    timeOfText? time.digits = some time := by
  rw [timeOfText?, Rfc3339.read?_digits, Rfc2822.read?_digits, Option.none_or, Option.none_or,
    Layout.dateTimes, List.findSome?_cons, Layout.time?_yearFirst time supported]
  rfl

/-- What is read as a date with a time is one, if it is no bare date and has two separators or more. -/
theorem ofTrimmed_of_timeOfText? {cs : List Char} {time : DateTime} (noBareDate : isBareDate cs = false)
    (separated : 2 ≤ Layout.separators cs) (found : timeOfText? cs = some time) :
    ofTrimmed cs = .ok (some (.time time)) := by
  have noCount : ¬ isTimestamp cs = true := by
    intro count
    have few := separators_of_isTimestamp count
    omega
  rw [ofTrimmed, if_neg (ne_empty_of_separators (by omega)), if_neg (Bool.eq_false_iff.mp noBareDate),
    if_neg noCount, found]

/-- **A stored date is read back as itself.** -/
theorem ofText_text {m : Moment} (storable : m.IsStorable) : ofText m.text = .ok (some m) := by
  cases m with
  | day d =>
    have supported : d.isSupported = true := Date.isSupported_of_plain storable
    have separated := d.separators_digits
    rw [ofText, text, Date.text, String.toList_ofList, Date.trim_digits, ofTrimmed,
      if_neg (ne_empty_of_separators (by omega)), if_pos (isBareDate_digits storable),
      Layout.bareDates, List.findSome?_cons, Layout.date?_yearFirst d supported]
  | time t =>
    have separated := t.separators_digits
    rw [ofText, text, DateTime.text, String.toList_ofList, DateTime.trim_digits]
    exact ofTrimmed_of_timeOfText? (isBareDate_eq_false (by omega)) (by omega) (timeOfText?_digits storable)

end Moment
end CatalogSearch
