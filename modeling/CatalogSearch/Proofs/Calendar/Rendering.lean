/-
**Texts in the layouts of dates.**

A layout writes the year of a date in four digits and every other number in two. It reads back what it writes.
The layouts are tried one after another, so it matters that no other takes such a text for another date: a
layout that reads a text in the layout of another reads the same numbers in it.

* `Layout.write` — the text of a date and time in a layout; `Layout.kept` — what the text says of them;
* `Layout.partsFrom?_write` — a layout reads back what it writes;
* `Layout.shape_write` — the texts in a layout have one shape;
* `Layout.parts?_write_agree` — no two layouts read different numbers in a text that one of them writes.
-/

import CatalogSearch.Proofs.Calendar.Shape
import Mathlib.Tactic.FinCases

namespace CatalogSearch

/-- **A fraction of a second**: a point and digits, or nothing. -/
def Text.IsFraction (cs : List Char) : Prop :=
  cs = [] ∨ ∃ digits, cs = '.' :: digits ∧ digits ≠ [] ∧ ∀ c ∈ digits, c.isDigit = true

theorem Text.isBlank_of_isFraction {fraction : List Char} (isFraction : IsFraction fraction) :
    ∀ c ∈ fraction, isBlank c = false := by
  rcases isFraction with rfl | ⟨digits, rfl, -, all⟩
  · nofun
  · intro c member
    rcases List.mem_cons.mp member with rfl | digit
    · decide
    · exact isBlank_of_isDigit (all c digit)

theorem Text.marks_of_isFraction {fraction : List Char} (isFraction : IsFraction fraction) :
    marks fraction = 0 := by
  rcases isFraction with rfl | ⟨digits, rfl, -, all⟩
  · rfl
  · exact List.countP_eq_zero.mpr fun c member => by
      rcases List.mem_cons.mp member with rfl | digit
      · decide
      · simp [all c digit]

/-- Numbers that fit the fields of a layout: four digits for the year, and two for every other one. -/
structure DateParts.Fit (parts : DateParts) : Prop where
  /-- The year is neither negative nor does it have five digits. -/
  year : Layout.HasPlainYear parts
  month : parts.month < 100
  day : parts.day < 100
  hour : parts.hour < 100
  minute : parts.minute < 100
  second : parts.second < 100

theorem DateParts.Fit.natAbs_year_lt {parts : DateParts} (fit : parts.Fit) : parts.year.natAbs < 10000 := by
  have plain := fit.year
  unfold Layout.HasPlainYear at plain
  omega

/-- The numbers of a date and time. -/
def DateTime.parts (time : DateTime) : DateParts :=
  ⟨time.date.year, time.date.month, time.date.day, time.clock.hour, time.clock.minute, time.clock.second⟩

/-- The time without its second. -/
def DateTime.toMinute (time : DateTime) : DateTime :=
  ⟨time.date, { time.clock with second := 0, second_le := (Nat.zero_le _).trans time.clock.second_le }⟩

theorem DateTime.fit_parts {time : DateTime} (plain : 0 ≤ time.date.year ∧ time.date.year ≤ 9999) :
    time.parts.Fit := by
  obtain ⟨month, day⟩ := time.date.fields_lt
  obtain ⟨hour, minute, second⟩ := time.clock.fields_lt
  exact ⟨plain, month, day, hour, minute, second⟩

/-- What a part of a layout writes: a number in its field, a fraction, a space or a sign. -/
def LayoutItem.write (parts : DateParts) (fraction : List Char) : LayoutItem → List Char
  | .year => Date.padded 4 parts.year.natAbs
  | .month => Date.padded 2 parts.month
  | .day => Date.padded 2 parts.day
  | .hour => Date.padded 2 parts.hour
  | .minute => Date.padded 2 parts.minute
  | .second => Date.padded 2 parts.second
  | .fraction => fraction
  | .space => [' ']
  | .sign c => [c]

namespace Layout

/-- **The text of a date and time in a layout.** -/
def write (parts : DateParts) (fraction : List Char) (layout : Layout) : List Char :=
  layout.flatMap (LayoutItem.write parts fraction)

/-- The numbers that a text in a layout says: those it has a field for, while the others are as given. -/
def kept (layout : Layout) (parts given : DateParts) : DateParts where
  year := if .year ∈ layout then parts.year else given.year
  month := if .month ∈ layout then parts.month else given.month
  day := if .day ∈ layout then parts.day else given.day
  hour := if .hour ∈ layout then parts.hour else given.hour
  minute := if .minute ∈ layout then parts.minute else given.minute
  second := if .second ∈ layout then parts.second else given.second

/-- A layout with no fraction but at its end, and no space but before the hour. -/
def isTidy : Layout → Bool
  | [] => true
  | .fraction :: layout => layout.isEmpty
  | .space :: layout => layout.head? = some .hour && isTidy layout
  | _ :: layout => isTidy layout

/-- **The layout without the fraction of a second.** Two layouts of one stem read the same texts, but for
fractions. -/
def stem (layout : Layout) : Layout := layout.filter (· ≠ .fraction)

/-- All layouts of dates. -/
def layouts : List Layout := bareDates ++ dateTimes ++ slashedDates

variable {layout other : Layout} {parts given : DateParts} {fraction : List Char}

theorem write_cons (item : LayoutItem) (layout : Layout) :
    write parts fraction (item :: layout) = item.write parts fraction ++ layout.write parts fraction :=
  List.flatMap_cons

theorem write_append (layout other : Layout) :
    write parts fraction (layout ++ other) = layout.write parts fraction ++ other.write parts fraction :=
  List.flatMap_append

theorem kept_cons (item : LayoutItem) (layout : Layout) :
    kept (item :: layout) parts given = layout.kept parts (kept [item] parts given) := by
  cases item <;> simp only [kept, List.mem_cons, reduceCtorEq, false_or, true_or, List.not_mem_nil, if_true,
    if_false, or_false, ite_self]

/-! ### A layout reads back what it writes -/

/-- A fraction is passed over, up to another sign. -/
theorem afterFraction?_append (isFraction : Text.IsFraction fraction) {rest : List Char}
    (ends : ∀ c ∈ rest.head?, c.isDigit = false ∧ c ≠ '.') : afterFraction? (fraction ++ rest) = some rest := by
  rcases isFraction with rfl | ⟨digits, rfl, some, all⟩
  · rw [List.nil_append]
    unfold afterFraction?
    split
    · exact absurd rfl (ends '.' rfl).2
    · rfl
  · have noDigit : ∀ c ∈ rest.head?, c.isDigit = false := fun c first => (ends c first).1
    simp [afterFraction?, Text.takeWhile_run all noDigit, Text.dropWhile_run all noDigit, some]

/-- **A part of a layout takes what it writes**, and nothing behind it. -/
theorem step?_write (item : LayoutItem) (given : DateParts) {rest : List Char} (fit : parts.Fit)
    (isFraction : Text.IsFraction fraction) (dark : item = .space → Text.trimLeft rest = rest)
    (last : item = .fraction → rest = []) :
    step? item given (item.write parts fraction ++ rest) = some (kept [item] parts given, rest) := by
  cases item with
  | year =>
    have same : (parts.year.natAbs : Int) = parts.year := Int.natAbs_of_nonneg fit.year.1
    simp [step?, LayoutItem.write, Text.trimLeft_padded, year?_padded rest fit.natAbs_year_lt, kept, same]
  | month => simp [step?, LayoutItem.write, two?_padded rest fit.month, kept]
  | day => simp [step?, LayoutItem.write, two?_padded rest fit.day, kept]
  | hour => simp [step?, LayoutItem.write, two?_padded rest fit.hour, kept]
  | minute => simp [step?, LayoutItem.write, two?_padded rest fit.minute, kept]
  | second => simp [step?, LayoutItem.write, two?_padded rest fit.second, kept]
  | fraction =>
    have passed : afterFraction? (fraction ++ []) = some [] := afterFraction?_append isFraction (by simp)
    rw [last rfl]
    simp only [step?, LayoutItem.write, passed]
    rfl
  | space =>
    have trimmed : Text.trimLeft (' ' :: rest) = rest := dark rfl
    simp [step?, LayoutItem.write, trimmed, kept]
  | sign c => simp [step?, LayoutItem.write, kept]

/-- **A layout reads back what it writes.** -/
theorem partsFrom?_write (given : DateParts) (tidy : isTidy layout = true) (fit : parts.Fit)
    (isFraction : Text.IsFraction fraction) :
    partsFrom? layout given (layout.write parts fraction) = some (layout.kept parts given) := by
  induction layout generalizing given with
  | nil => rfl
  | cons item layout ih =>
    -- what follows a space is a number, and nothing follows a fraction: so each takes no more than its own
    have dark : item = .space → Text.trimLeft (write parts fraction layout) = write parts fraction layout := by
      rintro rfl
      obtain ⟨hour, -⟩ := Bool.and_eq_true_iff.mp tidy
      obtain ⟨others, rfl⟩ := List.head?_eq_some_iff.mp (of_decide_eq_true hour)
      exact Text.trimLeft_padded 2 _ _
    have last : item = .fraction → write parts fraction layout = [] := by
      rintro rfl
      rw [List.isEmpty_iff.mp tidy]
      rfl
    have others : isTidy layout = true := by
      cases item with
      | space => exact (Bool.and_eq_true_iff.mp tidy).2
      | fraction => rw [List.isEmpty_iff.mp tidy]; rfl
      | year | month | day | hour | minute | second | sign => exact tidy
    rw [write_cons, partsFrom?, step?_write item given fit isFraction dark last, Option.bind_some,
      kept_cons item layout]
    exact ih _ others

example : write ⟨2019, 6, 14, 12, 30, 1⟩ ".5".toList (yearFirst '-' ++ .space :: toSecond ++ [.fraction]) =
    "2019-06-14 12:30:01.5".toList := by decide

/-! ### The texts in a layout have one shape -/

theorem shape_padded {width n : Nat} (positive : 0 < width) (n_lt : n < tenTo width) :
    Text.shape (Date.padded width n) = List.replicate width '0' := by
  rw [Text.shape_of_digits Text.isDigit_padded, Text.length_padded positive n_lt]

/-- **The texts in a layout have one shape**, but for the fraction. -/
theorem shape_write (noDigit : ∀ item ∈ layout, isDigitSign item = false) (fit : parts.Fit) :
    Text.shape (layout.write parts fraction) = layout.write {} (Text.shape fraction) := by
  induction layout with
  | nil => rfl
  | cons item layout ih =>
    have others := fun item member => noDigit item (List.mem_cons_of_mem _ member)
    rw [write_cons, write_cons, Text.shape_append, ih others]
    congr 1
    cases item with
    | year => exact shape_padded (by decide) fit.natAbs_year_lt
    | month => exact shape_padded (by decide) fit.month
    | day => exact shape_padded (by decide) fit.day
    | hour => exact shape_padded (by decide) fit.hour
    | minute => exact shape_padded (by decide) fit.minute
    | second => exact shape_padded (by decide) fit.second
    | fraction => rfl
    | space => rfl
    | sign c => exact shape_cons_of_sign [] (noDigit _ List.mem_cons_self)

/-! ### No two layouts read different numbers -/

/-- A text without a fraction is one in the stem, which has no room for any. -/
theorem write_stem (layout : Layout) (fraction : List Char) :
    layout.stem.write parts fraction = layout.write parts [] := by
  induction layout with
  | nil => rfl
  | cons item layout ih =>
    cases item with
    | fraction => exact ih
    | year | month | day | hour | minute | second | space | sign c =>
      exact congrArg (_ ++ ·) ih

theorem kept_stem (layout : Layout) : layout.stem.kept parts given = layout.kept parts given := by
  simp [kept, stem, List.mem_filter]

/-- Layouts that differ in more than the fraction do not read what another writes without one. -/
theorem parts?_write_zeros : ∀ layout ∈ layouts, ∀ other ∈ layouts, other.stem ≠ layout.stem →
    other.parts? (layout.write {} []) = none := by
  decide +kernel

/-- No other layout reads what a layout writes with a fraction, whatever the digits of it. -/
theorem parts?_write_point (digits : List Char) : ∀ layout ∈ layouts, .fraction ∈ layout → ∀ other ∈ layouts,
    other ≠ layout → other.parts? (layout.write {} ('.' :: digits)) = none := by
  have fractions : ∀ layout ∈ layouts, .fraction ∈ layout → layout ∈
      [yearFirst '-' ++ .space :: toSecond ++ [.fraction],
        yearFirst '-' ++ .sign 'T' :: toSecond ++ [.fraction]] := by
    decide
  intro layout known has other known' distinct
  -- every reader stops at the point or before it, so that each pair can be computed without the digits
  have tail := fractions layout known has
  fin_cases tail <;> fin_cases known' <;> first | exact absurd rfl distinct | rfl

/-- **What the layouts of dates have in common**: no sign of them is a digit, they are tidy, and a fraction ends
them. -/
structure IsRegular (layout : Layout) : Prop where
  signs : ∀ item ∈ layout, isDigitSign item = false
  tidy : isTidy layout = true
  ends : layout = layout.stem ∨ layout = layout.stem ++ [.fraction]

theorem isRegular_of_mem (known : layout ∈ layouts) : layout.IsRegular := by
  have all : ∀ layout ∈ layouts, (∀ item ∈ layout, isDigitSign item = false) ∧ isTidy layout = true ∧
      (layout = layout.stem ∨ layout = layout.stem ++ [.fraction]) := by decide
  obtain ⟨signs, tidy, ends⟩ := all layout known
  exact ⟨signs, tidy, ends⟩

/-- What ends the text in a layout is the fraction, if anything. -/
theorem IsRegular.write_eq_append (regular : layout.IsRegular) (parts : DateParts)
    (isFraction : Text.IsFraction fraction) :
    ∃ tail, Text.IsFraction tail ∧ layout.write parts fraction = layout.write parts [] ++ tail := by
  have front : layout.stem.write parts fraction = layout.write parts [] := write_stem layout fraction
  rcases regular.ends with plain | ends
  · refine ⟨[], .inl rfl, ?_⟩
    rw [← plain] at front
    rw [front, List.append_nil]
  · refine ⟨fraction, isFraction, ?_⟩
    calc layout.write parts fraction
      _ = write parts fraction (layout.stem ++ [.fraction]) := by rw [← ends]
      _ = layout.stem.write parts fraction ++ write parts fraction [.fraction] := write_append _ _
      _ = layout.write parts [] ++ fraction := by rw [front]; simp [write, LayoutItem.write]

theorem parts?_write (known : layout ∈ layouts) (fit : parts.Fit) (isFraction : Text.IsFraction fraction) :
    layout.parts? (layout.write parts fraction) = some (layout.kept parts {}) :=
  partsFrom?_write {} (isRegular_of_mem known).tidy fit isFraction

/-- The fraction goes where a layout has one. -/
theorem write_of_not_mem (lacks : .fraction ∉ layout) : layout.write parts fraction = layout.write parts [] := by
  have whole : layout.stem = layout := List.filter_eq_self.mpr fun item member => by
    simpa using ne_of_mem_of_not_mem member lacks
  rw [← write_stem layout fraction, whole]

/-- A layout does not read what another writes if it does not read the shape of it. -/
theorem parts?_write_eq_none (known : layout ∈ layouts) (known' : other ∈ layouts) (fit : parts.Fit)
    (unread : other.parts? (layout.write {} (Text.shape fraction)) = none) :
    other.parts? (layout.write parts fraction) = none := by
  rw [← shape_write (isRegular_of_mem known).signs fit, parts?,
    partsFrom?_shape {} _ (isRegular_of_mem known').signs] at unread
  exact Option.map_eq_none_iff.mp unread

/-- **A layout reads no text of another** that differs in more than the fraction. -/
theorem parts?_write_of_stem_ne (known : layout ∈ layouts) (known' : other ∈ layouts) (fit : parts.Fit)
    (isFraction : Text.IsFraction fraction) (distinct : other.stem ≠ layout.stem) :
    other.parts? (layout.write parts fraction) = none := by
  have zeros := parts?_write_zeros layout known other known' distinct
  by_cases has : .fraction ∈ layout
  · refine parts?_write_eq_none known known' fit ?_
    rcases isFraction with rfl | ⟨digits, rfl, -⟩
    · exact zeros
    · exact parts?_write_point _ layout known has other known' fun same => distinct (same ▸ rfl)
  · rw [write_of_not_mem has]
    exact parts?_write_eq_none known known' fit zeros

/-- **No two layouts read different numbers** in a text that one of them writes. -/
theorem parts?_write_agree (known : layout ∈ layouts) (known' : other ∈ layouts) (fit : parts.Fit)
    (isFraction : Text.IsFraction fraction) :
    other.parts? (layout.write parts fraction) = none ∨
      other.parts? (layout.write parts fraction) = some (layout.kept parts {}) := by
  by_cases stems : other.stem = layout.stem
  -- two layouts of one stem write the same text without a fraction, so either reads that of the other
  · have text : other.write parts [] = layout.write parts [] := by
      rw [← write_stem other [], stems, write_stem]
    have own := parts?_write known' fit (.inl rfl)
    rw [text, ← kept_stem, stems, kept_stem] at own
    by_cases has : .fraction ∈ layout
    · rcases isFraction with rfl | ⟨digits, rfl, some, all⟩
      · exact .inr own
      · by_cases same : other = layout
        · subst same
          exact .inr (parts?_write known' fit (.inr ⟨digits, rfl, some, all⟩))
        · have unread := parts?_write_point (Text.shape digits) layout known has other known' same
          exact .inl (parts?_write_eq_none known known' fit unread)
    · rw [write_of_not_mem has]
      exact .inr own
  · exact .inl (parts?_write_of_stem_ne known known' fit isFraction stems)

section Candidates

variable {α : Type} {candidates : List Layout} {a : α}

/-- **Of several layouts the first one that reads a written text reads what was written**, if the layout it is
written in is one of them. -/
theorem findSome?_write (valid : DateParts → Option α) (known : ∀ other ∈ candidates, other ∈ layouts)
    (member : layout ∈ candidates) (fit : parts.Fit) (isFraction : Text.IsFraction fraction)
    (found : valid (layout.kept parts {}) = some a) :
    candidates.findSome? (fun other => (other.parts? (layout.write parts fraction)).bind valid) = some a := by
  have own := parts?_write (known layout member) fit isFraction
  cases first : candidates.findSome? fun other => (other.parts? (layout.write parts fraction)).bind valid with
  | none =>
    have unread := List.findSome?_eq_none_iff.mp first layout member
    rw [own, Option.bind_some, found] at unread
    cases unread
  | some b =>
    obtain ⟨other, member', read⟩ := List.exists_of_findSome?_eq_some first
    rcases parts?_write_agree (known layout member) (known other member') fit isFraction with none | same
    · rw [none] at read
      cases read
    · rw [same, Option.bind_some, found] at read
      exact read.symm

/-- None of several layouts reads what another writes. -/
theorem findSome?_write_eq_none (valid : DateParts → Option α) (known : layout ∈ layouts)
    (others : ∀ other ∈ candidates, other ∈ layouts ∧ other.stem ≠ layout.stem) (fit : parts.Fit)
    (isFraction : Text.IsFraction fraction) :
    candidates.findSome? (fun other => (other.parts? (layout.write parts fraction)).bind valid) = none :=
  List.findSome?_eq_none_iff.mpr fun other member => by
    obtain ⟨known', distinct⟩ := others other member
    rw [parts?_write_of_stem_ne known known' fit isFraction distinct, Option.bind_none]

end Candidates

end Layout
end CatalogSearch
