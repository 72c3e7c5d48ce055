/-
**The moments that values denote.**

* `Moment.IsStorable` — the days with a year of four digits, and the times of a supported date;
* `Moment.separators_of_isBareDate` — a bare date has two separators, the signs of its layout, so
  that none is left for the sign of a year;
* `Moment.isStorable_of_read` — what a value denotes is storable.
-/

import CatalogSearch.Calendar.Moment
import CatalogSearch.Proofs.Calendar.Layout

namespace CatalogSearch

/-! ### Dates that parts denote -/

namespace DateParts

theorem date?_eq_some {parts : DateParts} {date : Date} (found : parts.date? = some date) :
    date.year = parts.year ∧ date.isSupported = true := by
  obtain ⟨valid, supported⟩ := Option.filter_eq_some_iff.mp found
  refine ⟨?_, supported⟩
  unfold Date.ofParts? at valid
  split at valid <;> cases valid
  rfl

theorem isSupported_of_time? {parts : DateParts} {time : DateTime}
    (found : parts.time? = some time) : time.date.isSupported = true := by
  obtain ⟨date, valid, rest⟩ := Option.bind_eq_some_iff.mp found
  obtain ⟨clock, _, same⟩ := Option.bind_eq_some_iff.mp rest
  cases same
  exact (date?_eq_some valid).2

theorem date?_of_date (date : Date) (supported : date.isSupported = true)
    (hour minute second : Nat) :
    date? ⟨date.year, date.month, date.day, hour, minute, second⟩ = some date := by
  rw [date?, Date.ofParts?,
    dif_pos ⟨date.one_le_month, date.month_le, date.one_le_day, date.day_le⟩]
  exact Option.filter_eq_some_iff.mpr ⟨rfl, supported⟩

theorem time?_of_time (time : DateTime) (supported : time.date.isSupported = true) :
    time? ⟨time.date.year, time.date.month, time.date.day, time.clock.hour, time.clock.minute,
      time.clock.second⟩ = some time := by
  rw [time?, date?_of_date _ supported, Clock.ofParts?,
    dif_pos ⟨time.clock.hour_lt, time.clock.minute_lt, time.clock.second_le⟩]
  rfl

end DateParts

namespace Moment

/-- The moments that a value can denote: a day has a year of four digits, and the date of a time is
supported. -/
def IsStorable : Moment → Prop
  | .day d => 0 ≤ d.year ∧ d.year ≤ 9999
  | .time t => t.date.isSupported = true

/-! ### What a value denotes -/

theorem afterDigits?_separators {least most : Nat} {cs rest : List Char}
    (read : afterDigits? least most cs = some rest) :
    Layout.separators cs = Layout.separators rest := by
  obtain ⟨_, same⟩ := Option.ite_none_right_eq_some.mp read
  cases same
  have run : Layout.separators (cs.takeWhile Text.isDecimalDigit) = 0 := by
    refine List.countP_eq_zero.mpr fun c member => ?_
    simp [List.all_eq_true.mp List.all_takeWhile c member]
  rw [← Nat.zero_add (Layout.separators (List.dropWhile _ cs)), ← run,
    ← Layout.separators_append, List.takeWhile_append_dropWhile]

theorem afterSeparator?_separators {cs rest : List Char} (read : afterSeparator? cs = some rest) :
    Layout.separators cs = Layout.separators rest + 1 := by
  unfold afterSeparator? at read
  split at read <;> cases read
  · exact Layout.separators_cons rest (by decide)
  · exact Layout.separators_cons rest (by decide)

/-- A bare date has two separators. -/
theorem separators_of_isBareDate {cs : List Char} (bare : isBareDate cs = true) :
    Layout.separators cs = 2 := by
  have chain := of_decide_eq_true bare
  simp only [Option.bind_eq_bind, Option.bind_eq_some_iff] at chain
  obtain ⟨d, ⟨c, ⟨b, ⟨a, first, firstSign⟩, second⟩, secondSign⟩, third⟩ := chain
  rw [afterDigits?_separators first, afterSeparator?_separators firstSign,
    afterDigits?_separators second, afterSeparator?_separators secondSign,
    afterDigits?_separators third]
  rfl

theorem isBareDate_eq_false {cs : List Char} (separated : 3 ≤ Layout.separators cs) : isBareDate cs = false := by
  refine Bool.eq_false_iff.mpr fun bare => ?_
  rw [separators_of_isBareDate bare] at separated
  omega

/-- **A bare date has a year of four digits**, since both its separators are signs of the layout. -/
theorem plainYear_of_isBareDate {cs : List Char} {layout : Layout} {date : Date}
    (bare : isBareDate cs = true) (known : layout ∈ Layout.bareDates)
    (found : layout.date? cs = some date) : 0 ≤ date.year ∧ date.year ≤ 9999 := by
  obtain ⟨parts, read, denoted⟩ := Option.bind_eq_some_iff.mp found
  have signs : ∀ layout ∈ Layout.bareDates, Layout.signs layout = 2 := by decide
  rw [(DateParts.date?_eq_some denoted).1]
  rcases (Layout.partsFrom?_separators read).2 ⟨by decide, by decide⟩ with plain | more
  · exact plain
  · rw [signs layout known, separators_of_isBareDate bare] at more
    exact absurd more (Nat.lt_irrefl 2)

/-- What every continuation gives, the whole chain gives. -/
theorem forall_mem_bind {α β : Type} {P : β → Prop} {first : Option α} {next : α → Option β}
    (each : ∀ a, ∀ b ∈ next a, P b) : ∀ b ∈ first.bind next, P b := by
  intro b member
  obtain ⟨a, _, given⟩ := Option.bind_eq_some_iff.mp member
  exact each a b given

theorem isSupported_of_rfc3339 {cs : List Char} :
    ∀ t ∈ Rfc3339.read? cs, t.date.isSupported = true := by
  unfold Rfc3339.read?
  repeat refine forall_mem_bind fun _ => ?_
  dsimp only
  split
  · split
    · repeat refine forall_mem_bind fun _ => ?_
      split
      · exact fun _ => DateParts.isSupported_of_time?
      · nofun
    · nofun
  · nofun

theorem isSupported_of_rfc2822 {cs : List Char} :
    ∀ t ∈ Rfc2822.read? cs, t.date.isSupported = true := by
  unfold Rfc2822.read?
  iterate 13 refine forall_mem_bind fun _ => ?_
  intro t found
  obtain ⟨_, valid, rest⟩ := Option.bind_eq_some_iff.mp found
  obtain ⟨_, _, rest⟩ := Option.bind_eq_some_iff.mp rest
  obtain ⟨_, same⟩ := Option.ite_none_right_eq_some.mp rest
  cases same
  exact DateParts.isSupported_of_time? valid

/-- The date of a text with a time is supported, whatever form the text has. -/
theorem isSupported_of_timeOfText {cs : List Char} {t : DateTime}
    (found : timeOfText? cs = some t) : t.date.isSupported = true := by
  unfold timeOfText? at found
  rcases Option.or_eq_some_iff.mp found with internet | ⟨_, found⟩
  · exact isSupported_of_rfc3339 t internet
  rcases Option.or_eq_some_iff.mp found with mail | ⟨_, found⟩
  · exact isSupported_of_rfc2822 t mail
  rcases Option.or_eq_some_iff.mp found with layouts | ⟨_, found⟩
  · obtain ⟨layout, _, read⟩ := List.exists_of_findSome?_eq_some layouts
    obtain ⟨parts, _, denoted⟩ := Option.bind_eq_some_iff.mp read
    exact DateParts.isSupported_of_time? denoted
  · obtain ⟨date, slashes, same⟩ := Option.map_eq_some_iff.mp found
    cases same
    obtain ⟨layout, _, read⟩ := List.exists_of_findSome?_eq_some slashes
    obtain ⟨parts, _, denoted⟩ := Option.bind_eq_some_iff.mp read
    exact (DateParts.date?_eq_some denoted).2

theorem isStorable_of_ofSeconds {seconds : Int} {m : Moment}
    (found : ofSeconds seconds = .ok (some m)) : m.IsStorable := by
  unfold ofSeconds at found
  split at found
  · cases found
  · split at found
    · next t given =>
      cases found
      obtain ⟨supported, same⟩ := Option.ite_none_right_eq_some.mp given
      cases same
      exact supported
    · cases found

theorem isStorable_of_ofTrimmed {cs : List Char} {m : Moment}
    (found : ofTrimmed cs = .ok (some m)) : m.IsStorable := by
  unfold ofTrimmed at found
  split at found
  · cases found
  split at found
  · next bare =>
    split at found <;> cases found
    next date given =>
      obtain ⟨layout, known, read⟩ := List.exists_of_findSome?_eq_some given
      exact plainYear_of_isBareDate bare known read
  split at found
  · split at found
    · exact isStorable_of_ofSeconds found
    · cases found
  · split at found <;> cases found
    next t given => exact isSupported_of_timeOfText given

theorem isStorable_of_ofNumber {n : Number} {m : Moment} (found : ofNumber n = .ok (some m)) :
    m.IsStorable := by
  unfold ofNumber at found
  split at found
  · split at found
    · exact isStorable_of_ofSeconds found
    · cases found
  · split at found
    · exact isStorable_of_ofSeconds found
    · cases found

/-- **What a value denotes can be stored.** -/
theorem isStorable_of_read {value : Json} {m : Moment} (found : read value = .ok (some m)) :
    m.IsStorable := by
  cases value with
  | null => cases found
  | bool b => cases b <;> cases found
  | number n => exact isStorable_of_ofNumber found
  | string s => exact isStorable_of_ofTrimmed found
  | array items => cases found
  | object members => cases found

end Moment
end CatalogSearch
