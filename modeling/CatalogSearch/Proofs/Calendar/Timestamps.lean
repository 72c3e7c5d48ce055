/-
**Counts of seconds.**

A count of seconds may be an integer, a double or a text of digits. However it is spelled it denotes the same
moment, the universal time that many seconds after the start of 1970.

* `Json.CountsSeconds` — the spellings of a count;
* `Moment.read_eq_ofSeconds` — they denote one moment, if the count is that of a signed word;
* `Moment.counts_agree` — all of them are stored as the same text, which says that universal time, or none is.
-/

import CatalogSearch.Proofs.Calendar.ReadBack
import CatalogSearch.Proofs.Calendar.Written
import CatalogSearch.Proofs.Number.Value
import CatalogSearch.Schema.Value

namespace CatalogSearch

open Text (IsField)

/-! ### Spellings of a count -/

/-- Digits behind a minus, if the count is negative. -/
def Text.signed (seconds : Int) (digits : List Char) : List Char :=
  if seconds < 0 then '-' :: digits else digits

/-- **The spellings of a count of seconds**: an integer, a double that is worth it, or a text of its digits
between blanks, with a minus if it is negative and any number of zeros before it. -/
inductive Json.CountsSeconds (seconds : Int) : Json → Prop
  | int (n : WordInt) (worth : n.val = seconds) : CountsSeconds seconds (.number (.int n))
  | float (x : Binary64) (worth : x.value = seconds) : CountsSeconds seconds (.number (.float x))
  | text {s : String} {front digits back : List Char} {width : Nat}
      (blank : ∀ c ∈ front, Text.isBlank c = true) (blank' : ∀ c ∈ back, Text.isBlank c = true)
      (field : IsField (width + 1) seconds.natAbs digits)
      (spelled : s.toList = front ++ Text.signed seconds digits ++ back) : CountsSeconds seconds (.string s)

namespace Moment

section Digits

variable {seconds : Int} {width : Nat} {digits : List Char}
  (field : IsField (width + 1) seconds.natAbs digits)

include field

theorem exists_cons_digits : ∃ c more, digits = c :: more ∧ c.isDigit = true := by
  obtain ⟨c, more, rfl⟩ := List.exists_cons_of_length_eq_add_one field.length_eq
  exact ⟨c, more, rfl, field.isDigit c List.mem_cons_self⟩

theorem isBlank_signed : ∀ c ∈ Text.signed seconds digits, Text.isBlank c = false := by
  have dark : ∀ c ∈ digits, Text.isBlank c = false := fun c member =>
    Text.isBlank_of_isDigit (field.isDigit c member)
  intro c member
  unfold Text.signed at member
  split at member
  · rcases List.mem_cons.mp member with rfl | digit
    · decide
    · exact dark c digit
  · exact dark c member

theorem isTimestamp_signed : isTimestamp (Text.signed seconds digits) = true := by
  obtain ⟨c, more, rfl, first⟩ := exists_cons_digits field
  have all : (c :: more).all Text.isDecimalDigit = true := List.all_eq_true.mpr fun d member =>
    Text.isDecimalDigit_of_isDigit (field.isDigit d member)
  unfold Text.signed
  split
  · simp [isTimestamp, all]
  · have unsigned : c ≠ '-' := by
      rintro rfl
      cases first
    simp [isTimestamp, all, unsigned]

/-- **The digits of a count denote it**, if it is that of a signed word. -/
theorem secondsOfText?_signed :
    secondsOfText? (Text.signed seconds digits) = (WordInt.ofSigned? seconds).map (·.val) := by
  have denoted : Text.natOfDigits? digits = some seconds.natAbs := by
    obtain ⟨c, more, rfl, -⟩ := exists_cons_digits field
    rw [Text.natOfDigits?_eq (by simp) field.isDigit, field.value]
  unfold Text.signed
  split
  · next negative =>
    have worth : -(seconds.natAbs : Int) = seconds := by omega
    show (Text.natOfDigits? digits).bind _ = _
    rw [denoted, Option.bind_some, worth]
  · next natural =>
    have worth : (seconds.natAbs : Int) = seconds := by omega
    unfold secondsOfText?
    split
    · obtain ⟨c, more, same, digit⟩ := exists_cons_digits field
      cases same
      cases digit
    · rw [denoted, Option.bind_some, worth]

/-- **No other form takes the digits of a count.** -/
theorem ofTrimmed_signed :
    ofTrimmed (Text.signed seconds digits) = match WordInt.ofSigned? seconds with
      | some n => ofSeconds n.val
      | none => .error (.textNotTimestamp (String.ofList (Text.signed seconds digits))) := by
  have count := isTimestamp_signed field
  have noBareDate : ¬ isBareDate (Text.signed seconds digits) = true := by
    intro bare
    have few := separators_of_isTimestamp count
    rw [separators_of_isBareDate bare] at few
    omega
  by_cases zero : Text.signed seconds digits = [] ∨ Text.signed seconds digits = ['0']
  · have same : seconds = 0 := by
      rcases zero with empty | zero
      · rw [empty] at count
        cases count
      · unfold Text.signed at zero
        split at zero
        · cases zero
        · rw [zero] at field
          exact Int.natAbs_eq_zero.mp field.value.symm
    rw [ofTrimmed, if_pos zero, same]
    rfl
  · rw [ofTrimmed, if_neg zero, if_neg noBareDate, if_pos count, secondsOfText?_signed field]
    cases WordInt.ofSigned? seconds <;> rfl

/-- What the digits of a count denote between blanks. -/
theorem read_digits {s : String} {front back : List Char}
    (blank : ∀ c ∈ front, Text.isBlank c = true) (blank' : ∀ c ∈ back, Text.isBlank c = true)
    (spelled : s.toList = front ++ Text.signed seconds digits ++ back) :
    read (.string s) = match WordInt.ofSigned? seconds with
      | some n => ofSeconds n.val
      | none => .error (.textNotTimestamp (String.ofList (Text.signed seconds digits))) := by
  have some : Text.signed seconds digits ≠ [] := fun empty => by
    have count := isTimestamp_signed field
    rw [empty] at count
    cases count
  have dark := isBlank_signed field
  show ofText s = _
  rw [ofText, spelled, Text.trim_append blank blank' some (fun c first => dark c (List.mem_of_mem_head? first))
    (fun c last => dark c (List.mem_of_mem_getLast? last)), ofTrimmed_signed field]

end Digits

variable {seconds : Int} {value : Json}

/-! ### What a count denotes -/

theorem ofSigned?_of_fits (fits : -9223372036854775808 ≤ seconds ∧ seconds ≤ 9223372036854775807) :
    ∃ n, WordInt.ofSigned? seconds = some n ∧ n.val = seconds := by
  rw [WordInt.ofSigned?, if_pos (by omega), WordInt.ofInt?, dif_pos (by omega)]
  exact ⟨_, rfl, rfl⟩

theorem ofSigned?_eq_none (outside : ¬(-9223372036854775808 ≤ seconds ∧ seconds ≤ 9223372036854775807)) :
    WordInt.ofSigned? seconds = none := by
  unfold WordInt.ofSigned?
  split
  · exact dif_neg (by omega)
  · rfl

/-- The least signed word counts seconds back to a year that is not supported. -/
theorem ofSeconds_least : ofSeconds (-9223372036854775808) = .error (.timestampRange (-9223372036854775808)) :=
  rfl

/-- **All spellings of a count denote one moment**, if a signed word holds it and is not the least. -/
theorem read_eq_ofSeconds
    (inside : -9223372036854775808 < seconds ∧ seconds ≤ 9223372036854775807)
    (count : value.CountsSeconds seconds) : read value = ofSeconds seconds := by
  cases count with
  | int n worth =>
    subst worth
    exact if_pos inside.2
  | float x worth =>
    obtain ⟨whole, part, truncated⟩ := Binary64.isWhole_of_value_eq worth
    have small : x.wholePart < twoTo 63 := by
      rw [part]
      show seconds.natAbs < 9223372036854775808
      omega
    show ofNumber (.float x) = _
    rw [ofNumber, whole, truncated, if_pos (by simpa using small)]
  | text blank blank' field spelled =>
    obtain ⟨n, signed, rfl⟩ := ofSigned?_of_fits ⟨inside.1.le, inside.2⟩
    rw [read_digits field blank blank' spelled, signed]

/-- **No spelling of any other count denotes a moment.** -/
theorem read_eq_error
    (outside : ¬(-9223372036854775808 < seconds ∧ seconds ≤ 9223372036854775807))
    (count : value.CountsSeconds seconds) : ∃ fault, read value = .error fault := by
  cases count with
  | int n worth =>
    subst worth
    have least := n.lower
    by_cases large : n.val ≤ 9223372036854775807
    · have same : n.val = -9223372036854775808 := by omega
      rw [show read (.number (.int n)) = ofSeconds n.val from if_pos large, same, ofSeconds_least]
      exact ⟨_, rfl⟩
    · exact ⟨_, if_neg large⟩
  | float x worth =>
    obtain ⟨-, part, -⟩ := Binary64.isWhole_of_value_eq worth
    have large : ¬ x.wholePart < twoTo 63 := by
      rw [part]
      show ¬ seconds.natAbs < 9223372036854775808
      omega
    exact ⟨_, if_neg (by simp [large])⟩
  | text blank blank' field spelled =>
    rw [read_digits field blank blank' spelled]
    by_cases least : seconds = -9223372036854775808
    · subst least
      exact ⟨_, ofSeconds_least⟩
    · rw [ofSigned?_eq_none (by omega)]
      exact ⟨_, rfl⟩

/-! ### What a count is stored as -/

/-- A year of the calendar that moments can lie in. -/
theorem isSupported_iff {date : Date} :
    date.isSupported = true ↔ -262143 ≤ date.year ∧ date.year ≤ 262142 := by
  simp [Date.isSupported]

/-- A count other than zero denotes its universal time, if the year of it is supported. -/
theorem ofSeconds_eq {time : DateTime} (nonzero : seconds ≠ 0) (universal : time.IsUniversal seconds) :
    ofSeconds seconds = if time.date.isSupported then .ok (some (.time time))
      else .error (.timestampRange seconds) := by
  obtain rfl := DateTime.eq_ofSeconds universal
  rw [ofSeconds, if_neg nonzero, DateTime.ofSeconds?]
  by_cases supported : (DateTime.ofSeconds seconds).date.isSupported = true
  · rw [if_pos supported, if_pos supported]
  · rw [if_neg supported, if_neg supported]

/-- **All spellings of a count of seconds agree.** A signed word other than zero counts the seconds of one
universal time. If the year of it is supported, every spelling of the count is stored as one text, which says
that time and nothing else; if it is not, no spelling is stored. -/
theorem counts_agree (nonzero : seconds ≠ 0) (least : -9223372036854775808 ≤ seconds)
    (most : seconds ≤ 9223372036854775807) :
    ∃ time : DateTime, (∀ other, other.IsUniversal seconds ↔ other = time) ∧
      (-262143 ≤ time.date.year ∧ time.date.year ≤ 262142 →
        ∃ s : String, (∀ m : Moment, m.WrittenAs s.toList ↔ m = .time time) ∧
          ∀ value : Json, value.CountsSeconds seconds → value.asDate = .ok (.string s)) ∧
      (¬(-262143 ≤ time.date.year ∧ time.date.year ≤ 262142) →
        ∀ value : Json, value.CountsSeconds seconds → ∃ fault, value.asDate = .error fault) := by
  have universal := DateTime.isUniversal_ofSeconds seconds
  have one : ∀ other : DateTime, other.IsUniversal seconds ↔ other = .ofSeconds seconds := fun other =>
    ⟨DateTime.eq_ofSeconds, fun same => same ▸ universal⟩
  refine ⟨.ofSeconds seconds, one, fun supported => ?_, fun unsupported value count => ?_⟩
  · have stored := ofSeconds_eq nonzero universal
    rw [if_pos (isSupported_iff.mpr supported)] at stored
    refine ⟨(time (.ofSeconds seconds)).text, fun m => ⟨fun written => ?_, ?_⟩, fun value count => ?_⟩
    · exact written.unique (writtenAs_text _)
    · rintro rfl
      exact writtenAs_text _
    · have strict : -9223372036854775808 < seconds := by
        by_contra
        have same : seconds = -9223372036854775808 := by omega
        rw [same, ofSeconds_least] at stored
        cases stored
      rw [Json.asDate, read_eq_ofSeconds ⟨strict, most⟩ count, stored]
      rfl
  · have refused := ofSeconds_eq nonzero universal
    rw [if_neg (mt isSupported_iff.mp unsupported)] at refused
    by_cases inside : -9223372036854775808 < seconds ∧ seconds ≤ 9223372036854775807
    · rw [Json.asDate, read_eq_ofSeconds inside count, refused]
      exact ⟨_, rfl⟩
    · obtain ⟨fault, failed⟩ := read_eq_error inside count
      rw [Json.asDate, failed]
      exact ⟨fault, rfl⟩

/-- The last second of February in a year that is no leap year, though four divides it. -/
theorem counts_agree_february :
    let time : DateTime := ⟨⟨1900, 2, 28, by decide, by decide, by decide, by decide⟩,
      ⟨23, 59, 59, by decide, by decide, by decide⟩⟩
    let count : WordInt := ⟨-2203891201, by decide, by decide⟩
    (count.val ≠ 0 ∧ -9223372036854775808 ≤ count.val ∧ count.val ≤ 9223372036854775807) ∧
      time.IsUniversal count.val ∧
      (∀ m : Moment, m.WrittenAs "1900-02-28 23:59:59".toList ↔ m = .time time) ∧
      Json.asDate (.number (.int count)) = .ok (.string "1900-02-28 23:59:59") ∧
      Json.asDate (.number (.float (.ofInt (-2203891201)))) = .ok (.string "1900-02-28 23:59:59") ∧
      Json.asDate (.string " -002203891201\n") = .ok (.string "1900-02-28 23:59:59") := by
  intro time count
  obtain ⟨other, one, stored, -⟩ := counts_agree (by decide : (-2203891201 : Int) ≠ 0) (by decide) (by decide)
  have universal : time.IsUniversal (-2203891201) := ⟨by decide, by decide⟩
  obtain rfl := (one time).mp universal
  obtain ⟨s, only, agree⟩ := stored (by decide)
  have given : Json.asDate (.number (.int count)) = .ok (.string "1900-02-28 23:59:59") := by decide
  have int := agree (.number (.int count)) (.int _ rfl)
  have float := agree (.number (.float (.ofInt (-2203891201)))) (.float _ (Binary64.value_ofInt (by decide)))
  have text := agree (.string " -002203891201\n") <|
    .text (List.all_eq_true.mp rfl : ∀ c ∈ [' '], Text.isBlank c = true)
      (List.all_eq_true.mp rfl : ∀ c ∈ ['\n'], Text.isBlank c = true)
      (⟨rfl, List.all_eq_true.mp rfl, rfl⟩ : IsField (11 + 1) 2203891201 "002203891201".toList) rfl
  have same : s = "1900-02-28 23:59:59" := Json.string.inj (Except.ok.inj (int.symm.trans given))
  rw [same] at only int float text
  exact ⟨by decide, universal, only, int, float, text⟩

end Moment
end CatalogSearch
