/-
**Internet timestamps, told from other dates and read back.**

* `Rfc3339.six_le_marks` — an internet timestamp has six signs or more;
* `Rfc3339.IsOffset` — the offset that ends it;
* `Rfc3339.read?_write` — a timestamp is read as the time it is written for, whatever its offset.
-/

import CatalogSearch.Proofs.Calendar.ReadBack
import CatalogSearch.Proofs.Calendar.Rendering

namespace CatalogSearch

open Text (marks)

namespace Rfc3339

/-- A field and the sign behind it take one sign at least. -/
theorem marks_of_field {width n : Nat} {sign : Char} {cs behind rest : List Char}
    (read : ofWidth? width cs = some (n, behind)) (ends : after? sign behind = some rest)
    (mark : sign.isDigit = false ∧ sign ≠ '.') : marks rest + 1 ≤ marks cs := by
  have within := Text.marks_le_of_suffix (Layout.number?_suffix read)
  cases behind with
  | nil => cases ends
  | cons c more =>
    obtain ⟨rfl, same⟩ := Option.ite_none_right_eq_some.mp ends
    cases same
    rwa [Text.marks_cons _ mark.1 mark.2] at within

theorem one_le_marks_of_afterOffset? {cs rest : List Char} (read : afterOffset? cs = some rest) :
    1 ≤ marks cs := by
  cases cs with
  | nil => cases read
  | cons c more =>
    have signed : c.isDigit = false ∧ c ≠ '.' := by
      by_cases zulu : c = 'Z' ∨ c = 'z'
      · rcases zulu with rfl | rfl <;> decide
      · obtain ⟨sign, -⟩ := Option.ite_none_right_eq_some.mp ((if_neg zulu).symm.trans read)
        rcases sign with rfl | rfl | minus
        · decide
        · decide
        · rw [show c = Char.ofNat 0x2212 from Char.toNat_inj.mp minus]
          decide
    rw [Text.marks_cons _ signed.1 signed.2]
    omega

/-- **An internet timestamp has six signs or more**: two hyphens, one before the time, two colons, and one of the
offset. -/
theorem six_le_marks {cs : List Char} {time : DateTime} (read : read? cs = some time) : 6 ≤ marks cs := by
  unfold read? at read
  obtain ⟨⟨year, behindYear⟩, yearRead, read⟩ := Option.bind_eq_some_iff.mp read
  obtain ⟨_, hyphen, read⟩ := Option.bind_eq_some_iff.mp read
  obtain ⟨⟨month, behindMonth⟩, monthRead, read⟩ := Option.bind_eq_some_iff.mp read
  obtain ⟨_, hyphen', read⟩ := Option.bind_eq_some_iff.mp read
  obtain ⟨⟨day, behindDay⟩, dayRead, read⟩ := Option.bind_eq_some_iff.mp read
  dsimp only at read
  split at read
  · next separator clock =>
    split at read
    · next known =>
      obtain ⟨_, same, read⟩ := Option.bind_eq_some_iff.mp read
      cases same
      obtain ⟨⟨hour, behindHour⟩, hourRead, read⟩ := Option.bind_eq_some_iff.mp read
      obtain ⟨_, colon, read⟩ := Option.bind_eq_some_iff.mp read
      obtain ⟨⟨minute, behindMinute⟩, minuteRead, read⟩ := Option.bind_eq_some_iff.mp read
      obtain ⟨_, colon', read⟩ := Option.bind_eq_some_iff.mp read
      obtain ⟨⟨second, behindSecond⟩, secondRead, read⟩ := Option.bind_eq_some_iff.mp read
      obtain ⟨offset, fraction, read⟩ := Option.bind_eq_some_iff.mp read
      obtain ⟨_, offsetRead, -⟩ := Option.bind_eq_some_iff.mp read
      -- every step that takes a sign leaves one less, and no other step leaves more
      have separated : marks (separator :: clock) = marks clock + 1 := by
        rcases known with rfl | rfl | rfl <;> exact Text.marks_cons _ rfl (by decide)
      have inFraction : marks offset ≤ marks behindSecond :=
        Text.marks_le_of_suffix (Layout.afterFraction?_suffix fraction)
      have inOffset := one_le_marks_of_afterOffset? offsetRead
      have hyphens := marks_of_field yearRead hyphen (by decide)
      have hyphens' := marks_of_field monthRead hyphen' (by decide)
      have beforeTime : marks (separator :: clock) ≤ marks _ :=
        Text.marks_le_of_suffix (Layout.number?_suffix dayRead)
      have colons := marks_of_field hourRead colon (by decide)
      have colons' := marks_of_field minuteRead colon' (by decide)
      have beforeOffset : marks behindSecond ≤ marks _ :=
        Text.marks_le_of_suffix (Layout.number?_suffix secondRead)
      omega
    · cases read
  · cases read

/-- **The offset of an internet timestamp**: a Z, or a sign, two digits of hours, a colon and two of minutes. -/
inductive IsOffset : List Char → Prop
  | zulu {c : Char} (known : c = 'Z' ∨ c = 'z') : IsOffset [c]
  | hours {sign : Char} {hour minute : Nat} (known : sign = '+' ∨ sign = '-') (hour_lt : hour < 24)
      (minute_lt : minute < 60) :
      IsOffset (sign :: (Date.padded 2 hour ++ ':' :: Date.padded 2 minute))

/-- **The layout of an internet timestamp** but for the offset. -/
def layout (separator : Char) : Layout :=
  Layout.yearFirst '-' ++ .sign separator :: Layout.toSecond ++ [.fraction]

theorem afterOffset?_of_isOffset {offset : List Char} (isOffset : IsOffset offset) :
    afterOffset? offset = some [] := by
  cases isOffset with
  | zulu known => simp [afterOffset?, known]
  | @hours sign hour minute known hour_lt minute_lt =>
    have first := ofWidth?_two (Nat.lt_trans hour_lt (by decide)) (':' :: Date.padded 2 minute)
    have last := ofWidth?_two (Nat.lt_trans minute_lt (by decide)) []
    rw [List.append_nil] at last
    have passed : afterHours? (Date.padded 2 hour ++ ':' :: Date.padded 2 minute) = some [] := by
      simp [afterHours?, first, after?_cons, last, hour_lt, minute_lt]
    rcases known with rfl | rfl <;> simpa [afterOffset?] using passed

theorem IsOffset.isBlank {offset : List Char} (isOffset : IsOffset offset) :
    ∀ c ∈ offset, Text.isBlank c = false := by
  cases isOffset with
  | zulu known =>
    intro c member
    obtain rfl := List.mem_singleton.mp member
    rcases known with rfl | rfl <;> decide
  | hours known hour_lt minute_lt =>
    have digits {n : Nat} : ∀ c ∈ Date.padded 2 n, Text.isBlank c = false := fun c member =>
      Text.isBlank_of_isDigit (Text.isDigit_padded c member)
    intro c member
    simp only [List.mem_cons, List.mem_append] at member
    rcases member with rfl | hour | rfl | minute
    · rcases known with rfl | rfl <;> decide
    · exact digits c hour
    · decide
    · exact digits c minute

variable {separator : Char} {time : DateTime} {fraction offset : List Char}

theorem isRegular_layout (known : separator ∈ ['T', 't', ' ']) : (layout separator).IsRegular := by
  have cases : separator = 'T' ∨ separator = 't' ∨ separator = ' ' := by simpa using known
  rcases cases with rfl | rfl | rfl <;> exact ⟨by decide, by decide, .inr (by decide)⟩

theorem write_layout (plain : 0 ≤ time.date.year ∧ time.date.year ≤ 9999) (fraction : List Char) :
    (layout separator).write time.parts fraction =
      time.date.digits ++ separator :: (time.clock.digits ++ fraction) := by
  simp [layout, Layout.write, Layout.yearFirst, Layout.toSecond, LayoutItem.write, DateTime.parts, Date.digits,
    Date.yearDigits_of_plain plain, Clock.digits]

/-- **An internet timestamp is read as the time it is written for**, whatever its offset. -/
theorem read?_write (plain : 0 ≤ time.date.year ∧ time.date.year ≤ 9999) (known : separator ∈ ['T', 't', ' '])
    (isFraction : Text.IsFraction fraction) (isOffset : IsOffset offset) :
    read? ((layout separator).write time.parts fraction ++ offset) = some time := by
  have noPoint : ∀ c ∈ offset.head?, c.isDigit = false ∧ c ≠ '.' := by
    cases isOffset with
    | zulu known | hours known =>
      rintro c ⟨⟩
      rcases known with rfl | rfl <;> decide
  rw [write_layout plain, List.append_assoc, List.cons_append, List.append_assoc, read?_fields time _ plain known,
    Layout.afterFraction?_append isFraction noPoint, Option.bind_some, afterOffset?_of_isOffset isOffset,
    Option.bind_some]
  exact DateParts.time?_of_time time (Date.isSupported_of_plain plain)

end Rfc3339

end CatalogSearch
