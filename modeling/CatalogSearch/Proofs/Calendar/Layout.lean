/-
**What the readers of layouts take from a text.**

* `Layout.number?_padded` — a reader of up to `width` digits takes a field of exactly that width,
  whatever follows;
* `Layout.year?_yearDigits` — a written year is read back, with or without a sign;
* `Layout.partsFrom?_yearFirst`, `partsFrom?_toSecond` — so are a written date and a written time;
* `Layout.partsFrom?_separators` — a year out of four digits bears a sign, so its text has more
  separators than its layout has signs.
-/

import CatalogSearch.Calendar.Layout
import CatalogSearch.Proofs.Text.Digits

namespace CatalogSearch

/-! ### Written fields -/

namespace Date

/-- No month has more than 31 days. -/
theorem day_le_31 (date : Date) : date.day ≤ 31 := by
  have within := date.day_le
  unfold Calendar.daysInMonth at within
  repeat' split at within
  all_goals omega

/-- Month and day fit two digits. -/
theorem fields_lt (date : Date) : date.month < 100 ∧ date.day < 100 :=
  ⟨Nat.lt_of_le_of_lt date.month_le (by decide), Nat.lt_of_le_of_lt date.day_le_31 (by decide)⟩

theorem digits_append (date : Date) (rest : List Char) :
    date.digits ++ rest = yearDigits date.year ++
      '-' :: (padded 2 date.month ++ '-' :: (padded 2 date.day ++ rest)) := by
  simp [digits]

end Date

namespace Clock

/-- Hour, minute and second fit two digits. -/
theorem fields_lt (clock : Clock) :
    clock.hour < 100 ∧ clock.minute < 100 ∧ clock.second < 100 :=
  ⟨Nat.lt_trans clock.hour_lt (by decide), Nat.lt_trans clock.minute_lt (by decide),
    Nat.lt_of_le_of_lt clock.second_le (by decide)⟩

theorem digits_append (clock : Clock) (rest : List Char) :
    clock.digits ++ rest = Date.padded 2 clock.hour ++
      ':' :: (Date.padded 2 clock.minute ++ ':' :: (Date.padded 2 clock.second ++ rest)) := by
  simp [digits]

end Clock

namespace Layout

/-! ### Readers of numbers -/

/-- **A field of `width` digits is read whole**, whatever follows. -/
theorem number?_padded {least width n : Nat} (rest : List Char) (positive : 0 < width)
    (fits : n < tenTo width) (atLeast : least ≤ width) :
    number? least (some width) (Date.padded width n ++ rest) = some (n, rest) := by
  have length := Text.length_padded positive fits
  have taken : ((Date.padded width n ++ rest).takeWhile Char.isDigit).take width =
      Date.padded width n := by
    rw [List.takeWhile_append_of_pos Text.isDigit_padded, List.take_append_of_le_length (by omega),
      List.take_of_length_le (by omega)]
  have dropped : (Date.padded width n ++ rest).drop width = rest := by
    rw [List.drop_append, length, List.drop_of_length_le (by omega)]
    simp
  simp only [number?, taken, length, dropped, Text.natOfDigits?_padded]
  rw [if_neg (by omega)]
  rfl

/-- **Digits are read up to another sign.** -/
theorem number?_of_run {width n : Nat} {sign : Char} (rest : List Char)
    (ends : sign.isDigit = false) :
    number? 1 none (Date.padded width n ++ sign :: rest) = some (n, sign :: rest) := by
  have taken : (Date.padded width n ++ sign :: rest).takeWhile Char.isDigit =
      Date.padded width n :=
    Text.takeWhile_run Text.isDigit_padded (by rintro c ⟨⟩; exact ends)
  have occupied := List.length_pos_iff.mpr (Text.padded_ne_nil width n)
  have dropped : (Date.padded width n ++ sign :: rest).drop (Date.padded width n).length =
      sign :: rest := by simp
  simp only [number?, taken, dropped, Text.natOfDigits?_padded]
  rw [if_neg (by omega)]
  rfl

/-- No number begins with another sign. -/
theorem number?_eq_none {least : Nat} {most : Option Nat} {sign : Char} (rest : List Char)
    (positive : 0 < least) (noDigit : sign.isDigit = false) :
    number? least most (sign :: rest) = none := by
  have run : (sign :: rest).takeWhile Char.isDigit = [] :=
    List.takeWhile_cons_of_neg (by simp [noDigit])
  cases most <;> simp [number?, run, positive]

theorem of_taken {least n : Nat} {cs taken rest : List Char}
    (front : taken <+: cs.takeWhile Char.isDigit)
    (read : (if taken.length < least then none
      else (Text.natOfDigits? taken).map (·, cs.drop taken.length)) = some (n, rest)) :
    cs = taken ++ rest ∧ (∀ c ∈ taken, c.isDigit = true) ∧ Text.natOfDigits? taken = some n := by
  split at read
  · cases read
  · obtain ⟨value, denoted, same⟩ := Option.map_eq_some_iff.mp read
    cases same
    refine ⟨?_, fun c member => ?_, denoted⟩
    · exact (List.prefix_iff_eq_append.mp (front.trans (List.takeWhile_prefix _))).symm
    · exact List.all_eq_true.mp List.all_takeWhile c (front.subset member)

/-- What is read is a run of digits at the start, no longer than the width. -/
theorem number?_eq_some {least n : Nat} {most : Option Nat} {cs rest : List Char}
    (read : number? least most cs = some (n, rest)) :
    ∃ digits, cs = digits ++ rest ∧ (∀ c ∈ digits, c.isDigit = true) ∧
      Text.natOfDigits? digits = some n ∧ ∀ width ∈ most, digits.length ≤ width := by
  cases most with
  | none =>
    obtain ⟨split, all, denoted⟩ := of_taken (List.prefix_refl _) read
    exact ⟨_, split, all, denoted, nofun⟩
  | some width =>
    obtain ⟨split, all, denoted⟩ := of_taken (List.take_prefix width _) read
    exact ⟨_, split, all, denoted, fun _ same => by cases same; exact List.length_take_le _ _⟩

/-- A number of up to `width` digits is below that power of ten. -/
theorem number?_lt {least width n : Nat} {cs rest : List Char}
    (read : number? least (some width) cs = some (n, rest)) : n < tenTo width := by
  obtain ⟨digits, _, all, denoted, short⟩ := number?_eq_some read
  have occupied : digits ≠ [] := by
    rintro rfl
    cases denoted
  rw [Text.natOfDigits?_eq occupied all] at denoted
  cases denoted
  exact Nat.lt_of_lt_of_le (Text.ofDigitChars_lt all)
    (Nat.pow_le_pow_right (by decide) (short width rfl))

/-! ### Written dates and times -/

/-- Two digits are read whole, whatever follows. -/
theorem two?_padded {n : Nat} (rest : List Char) (fits : n < 100) :
    two? (Date.padded 2 n ++ rest) = some (n, rest) := by
  rw [two?, Text.trimLeft_padded]
  exact number?_padded rest (by decide) fits (by decide)

/-- Without a sign a year has at most four digits. -/
theorem year?_of_unsigned {c : Char} (rest : List Char) (noMinus : c ≠ '-') (noPlus : c ≠ '+') :
    year? (c :: rest) = (number? 1 (some 4) (c :: rest)).map fun (n, rest) => ((n : Int), rest) := by
  unfold year?
  split
  · next same => cases same; exact absurd rfl noMinus
  · next same => cases same; exact absurd rfl noPlus
  · rfl

/-- Four digits are read whole as a year, whatever follows. -/
theorem year?_padded {n : Nat} (rest : List Char) (fits : n < 10000) :
    year? (Date.padded 4 n ++ rest) = some ((n : Int), rest) := by
  obtain ⟨c, more, front⟩ := List.exists_cons_of_ne_nil (Text.padded_ne_nil 4 n)
  have digit : c.isDigit = true := Text.isDigit_padded c (front ▸ List.mem_cons_self)
  rw [front, List.cons_append, year?_of_unsigned _ (by rintro rfl; cases digit)
    (by rintro rfl; cases digit), ← List.cons_append, ← front,
    number?_padded _ (by decide) fits (by decide)]
  rfl

/-- **A written year is read back**, up to the hyphen behind it. -/
theorem year?_yearDigits (year : Int) (rest : List Char) :
    year? (Date.yearDigits year ++ '-' :: rest) = some (year, '-' :: rest) := by
  unfold Date.yearDigits
  split
  · next negative =>
    show (number? 1 none (Date.padded 4 year.natAbs ++ '-' :: rest)).map _ = _
    rw [number?_of_run rest rfl]
    show some (-(year.natAbs : Int), '-' :: rest) = _
    rw [show -(year.natAbs : Int) = year by omega]
  · next natural =>
    have same : (year.natAbs : Int) = year := by omega
    split
    · next large =>
      show (number? 1 none (Date.padded 4 year.natAbs ++ '-' :: rest)).map _ = _
      rw [number?_of_run rest rfl]
      show some ((year.natAbs : Int), '-' :: rest) = _
      rw [same]
    · next small =>
      rw [year?_padded _ (by omega), same]

theorem trimLeft_yearDigits (year : Int) (rest : List Char) :
    Text.trimLeft (Date.yearDigits year ++ rest) = Date.yearDigits year ++ rest := by
  unfold Date.yearDigits
  split
  · exact Text.trimLeft_cons _ rfl
  · split
    · exact Text.trimLeft_cons _ rfl
    · exact Text.trimLeft_padded 4 _ rest

/-- **A written date is read back**, whatever follows. -/
theorem partsFrom?_yearFirst (date : Date) (layout : Layout) (parts : DateParts)
    (rest : List Char) :
    partsFrom? (yearFirst '-' ++ layout) parts (date.digits ++ rest) =
      partsFrom? layout { parts with year := date.year, month := date.month, day := date.day }
        rest := by
  obtain ⟨month, day⟩ := date.fields_lt
  rw [Date.digits_append]
  simp only [yearFirst, List.cons_append, List.nil_append, partsFrom?, step?]
  simp only [trimLeft_yearDigits, year?_yearDigits, two?_padded _ month,
    two?_padded _ day, Option.map_some, Option.bind_some, if_true]

/-- **A written time is read back.** -/
theorem partsFrom?_toSecond (clock : Clock) (parts : DateParts) :
    partsFrom? toSecond parts clock.digits =
      some { parts with hour := clock.hour, minute := clock.minute, second := clock.second } := by
  obtain ⟨hour, minute, second⟩ := clock.fields_lt
  rw [← List.append_nil clock.digits, Clock.digits_append]
  simp only [toSecond, partsFrom?, step?, two?_padded _ hour, two?_padded _ minute,
    two?_padded _ second, Option.map_some, Option.bind_some, if_true]

/-! ### Separators -/

/-- The number of characters of a text that are no decimal digits. -/
def separators (cs : List Char) : Nat := cs.countP (!Text.isDecimalDigit ·)

/-- Whether a part of a layout is a sign of its own that is no decimal digit. -/
def isSeparator : LayoutItem → Bool
  | .sign c => !Text.isDecimalDigit c
  | _ => false

/-- The number of such signs in a layout. -/
def signs (layout : Layout) : Nat := layout.countP isSeparator

/-- The year has up to four digits, and no sign. -/
def HasPlainYear (parts : DateParts) : Prop := 0 ≤ parts.year ∧ parts.year ≤ 9999

theorem separators_append (front back : List Char) :
    separators (front ++ back) = separators front + separators back := List.countP_append

theorem separators_cons {c : Char} (rest : List Char) (separates : Text.isDecimalDigit c = false) :
    separators (c :: rest) = separators rest + 1 :=
  List.countP_cons_of_pos (by simp [separates])

theorem separators_of_suffix {cs rest : List Char} (suffix : rest <:+ cs) :
    separators rest ≤ separators cs := suffix.sublist.countP_le

theorem number?_suffix {least n : Nat} {most : Option Nat} {cs rest : List Char}
    (read : number? least most cs = some (n, rest)) : rest <:+ cs := by
  obtain ⟨digits, split, _⟩ := number?_eq_some read
  exact ⟨digits, split.symm⟩

theorem trimLeft_suffix (cs : List Char) : Text.trimLeft cs <:+ cs := List.dropWhile_suffix _

theorem two?_suffix {n : Nat} {cs rest : List Char} (read : two? cs = some (n, rest)) :
    rest <:+ cs := (number?_suffix read).trans (trimLeft_suffix cs)

theorem afterFraction?_suffix {cs rest : List Char} (read : afterFraction? cs = some rest) :
    rest <:+ cs := by
  unfold afterFraction? at read
  split at read
  · split at read
    · cases read
    · cases read
      exact (List.dropWhile_suffix _).trans (List.suffix_cons _ _)
  · cases read
    exact List.suffix_refl _

/-- A number behind a sign leaves one separator less. -/
theorem separators_lt {least n : Nat} {most : Option Nat} {cs rest : List Char} (sign : Char)
    (separates : Text.isDecimalDigit sign = false) (read : number? least most cs = some (n, rest)) :
    separators rest < separators (sign :: cs) := by
  rw [separators_cons cs separates]
  exact Nat.lt_succ_of_le (separators_of_suffix (number?_suffix read))

/-- A year out of four digits bears a sign, which is a separator. -/
theorem year?_separators {year : Int} {cs rest : List Char}
    (read : year? cs = some (year, rest)) :
    separators rest ≤ separators cs ∧
      ((0 ≤ year ∧ year ≤ 9999) ∨ separators rest < separators cs) := by
  unfold year? at read
  split at read
  · obtain ⟨⟨n, after⟩, number, same⟩ := Option.map_eq_some_iff.mp read
    cases same
    have fewer := separators_lt '-' (by decide) number
    exact ⟨Nat.le_of_lt fewer, .inr fewer⟩
  · obtain ⟨⟨n, after⟩, number, same⟩ := Option.map_eq_some_iff.mp read
    cases same
    have fewer := separators_lt '+' (by decide) number
    exact ⟨Nat.le_of_lt fewer, .inr fewer⟩
  · obtain ⟨⟨n, after⟩, number, same⟩ := Option.map_eq_some_iff.mp read
    cases same
    have small : n < 10000 := number?_lt number
    exact ⟨separators_of_suffix (number?_suffix number), .inl (by omega)⟩

/-- **One part of a layout** takes at least the separators it has, and one more if it changes the
year to one out of four digits. -/
theorem step?_separators {item : LayoutItem} {parts after : DateParts} {cs rest : List Char}
    (read : step? item parts cs = some (after, rest)) :
    separators rest + signs [item] ≤ separators cs ∧
      (HasPlainYear parts →
        HasPlainYear after ∨ separators rest + signs [item] < separators cs) := by
  unfold HasPlainYear
  cases item with
  | year =>
    obtain ⟨⟨y, behind⟩, number, same⟩ := Option.map_eq_some_iff.mp read
    cases same
    have trimmed := separators_of_suffix (trimLeft_suffix cs)
    have taken := year?_separators number
    refine ⟨Nat.le_trans taken.1 trimmed, fun _ => taken.2.imp id fun fewer => ?_⟩
    exact Nat.lt_of_lt_of_le fewer trimmed
  | month | day | hour | minute | second =>
    obtain ⟨⟨n, behind⟩, number, same⟩ := Option.map_eq_some_iff.mp read
    cases same
    exact ⟨separators_of_suffix (two?_suffix number), .inl⟩
  | fraction =>
    obtain ⟨behind, found, same⟩ := Option.map_eq_some_iff.mp read
    cases same
    exact ⟨separators_of_suffix (afterFraction?_suffix found), .inl⟩
  | space =>
    cases read
    exact ⟨separators_of_suffix (trimLeft_suffix cs), .inl⟩
  | sign c =>
    cases cs with
    | nil => cases read
    | cons d behind =>
      obtain ⟨rfl, same⟩ := Option.ite_none_right_eq_some.mp read
      cases same
      refine ⟨Nat.le_of_eq ?_, .inl⟩
      simp [separators, signs, isSeparator, List.countP_cons]

/-- **A year out of four digits bears a sign**, so the text has more separators than its layout has
signs. -/
theorem partsFrom?_separators {layout : Layout} {parts result : DateParts} {cs : List Char}
    (read : partsFrom? layout parts cs = some result) :
    signs layout ≤ separators cs ∧
      (HasPlainYear parts → HasPlainYear result ∨ signs layout < separators cs) := by
  -- by induction on the layout; the two halves carry each other
  induction layout generalizing parts cs with
  | nil =>
    cases cs with
    | nil =>
      cases read
      exact ⟨Nat.le_refl _, .inl⟩
    | cons => cases read
  | cons item layout ih =>
    obtain ⟨⟨after, rest⟩, first, others⟩ := Option.bind_eq_some_iff.mp read
    have counted : signs (item :: layout) = signs layout + signs [item] := by
      simp [signs, List.countP_cons]
    have step := step?_separators first
    have run := ih others
    refine ⟨by omega, fun plain => ?_⟩
    rcases step.2 plain with still | fewer
    · rcases run.2 still with done | fewer
      · exact .inl done
      · exact .inr (by omega)
    · exact .inr (by omega)

end Layout
end CatalogSearch
