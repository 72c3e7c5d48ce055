/-
**Integers spelled as texts.**

An integer field stores an integer as it is, and takes a text in two ways. Digits alone give the integer of a
signed word. Any other numeral, and one past a signed word, is read as the nearest double, and the integer part of
that is brought into a signed word; it need not be the integer part of the numeral.

* `Numeral.Spelling.ofInt` — the digits of an integer;
* `Json.integerOfText_eq_iff` — the numerals that give the integer part of their value;
* `Property.truncates_iff` — integer fields store just these exactly; integers and their digits are stored alike
  up to the greatest signed word.
-/

import CatalogSearch.Proofs.Number.Spelling
import CatalogSearch.Proofs.Number.WholePart
import CatalogSearch.Proofs.Schema.Sorts

namespace CatalogSearch

open Numeral (Spelling)

theorem WordInt.ofSigned?_val (n : WordInt) : ofSigned? n.val = if n.val < 2 ^ 63 then some n else none := by
  unfold ofSigned? ofInt?
  rw [dif_pos ⟨n.lower, n.upper⟩]
  rfl

/-! ### The digits of an integer -/

namespace Numeral.Spelling

/-- The digits of an integer, behind a minus if it is negative. -/
def ofInt (n : ℤ) : Spelling where
  front := []
  sign := if n < 0 then .minus else .none
  whole := ⟨Nat.toDigits 10 n.natAbs, fun _ => Nat.isDigit_of_mem_toDigits (by decide) (by decide)⟩
  fraction := none
  exponent := none
  back := []
  blank := List.forall_mem_nil _
  blank' := List.forall_mem_nil _
  given := .inl (List.ne_nil_of_length_pos Nat.length_toDigits_pos)

theorem isWhole_ofInt (n : ℤ) : (ofInt n).IsWhole := ⟨rfl, rfl⟩

theorem value_ofInt (n : ℤ) : (ofInt n).value = n := by
  have digits : (ofInt n).whole.value = n.natAbs := Nat.ofDigitChars_ten_toDigits
  rw [value_of_isWhole _ (isWhole_ofInt n), digits, Int.cast_inj]
  show (if n < 0 then Sign.minus else Sign.none).apply _ = _
  split
  · show -(n.natAbs : ℤ) = n
    omega
  · show (n.natAbs : ℤ) = n
    omega

theorem text_ofInt (n : ℤ) : (ofInt n).text = toString n := by
  cases n with
  | ofNat m =>
    show String.ofList (([] ++ ([] ++ (Nat.toDigits 10 m ++ ([] ++ [])))) ++ []) = toString m
    rw [Nat.toString_eq_ofList_toDigits]
    simp only [List.nil_append, List.append_nil]
  | negSucc m =>
    have digits : (ofInt (Int.negSucc m)).chars = '-' :: (Nat.toDigits 10 (m + 1) ++ ([] ++ [])) := by
      rw [chars, ofInt, if_pos (Int.negSucc_lt_zero m)]
      rfl
    have minus : String.ofList ['-'] = "-" := rfl
    show String.ofList (([] ++ chars _) ++ []) = "-" ++ toString (m + 1)
    rw [digits, Nat.toString_eq_ofList_toDigits, ← minus, ← String.ofList_append]
    simp only [List.nil_append, List.append_nil, List.cons_append]

end Numeral.Spelling

/-! ### Texts as integers -/

section Texts

variable {s : Spelling} {n : WordInt}

/-- **The numerals that give the integer part of their value**: of those with an integer part in a signed word the
ones in digits alone, and the ones whose nearest double is not past an integer. -/
theorem Json.integerOfText_eq_iff (worth : towardZero s.value = n.val) :
    integerOfText s.text = .number (.int n) ↔
      n.val < 2 ^ 63 ∧ (s.IsWhole ∨ n.val = 2 ^ 63 - 1 ∨ Binary64.KeepsWhole |s.value|) := by
  by_cases direct : s.IsWhole ∧ n.val < 2 ^ 63
  · obtain ⟨whole, fits⟩ := direct
    rw [Spelling.value_of_isWhole s whole, towardZero_intCast] at worth
    have read : Numeral.signed? s.text = some n := by
      rw [Spelling.signed?_text_of_isWhole s whole, worth, WordInt.ofSigned?_val, if_pos fits]
    rw [integerOfText, read]
    exact iff_of_true rfl ⟨fits, .inl whole⟩
  · have read : Numeral.signed? s.text = none := by
      by_cases whole : s.IsWhole
      · rw [Spelling.value_of_isWhole s whole, towardZero_intCast] at worth
        rw [Spelling.signed?_text_of_isWhole s whole, worth, WordInt.ofSigned?_val,
          if_neg fun fits => direct ⟨whole, fits⟩]
      · exact Spelling.signed?_text_of_not_isWhole s whole
    have small : |s.decimal.value| < 2 ^ 65 := by
      have past := Nat.lt_floor_add_one |s.value|
      have word : (⌊|s.value|⌋₊ : ℚ) < 2 ^ 64 := by
        rw [← natAbs_towardZero, worth]
        exact_mod_cast n.natAbs_lt
      rw [Spelling.value_decimal]
      linarith
    obtain ⟨x, found, sign, nearest⟩ := Decimal.exists_toBinary64? small
    have made : integerOfText s.text = wholeNumber x := by
      simp only [integerOfText, read, Spelling.read?_text, found]
    have signed := s.decimal.value_eq_abs
    rw [← sign] at signed
    rw [Spelling.value_decimal] at signed nearest
    have clamped := Binary64.clampSigned_truncate_eq_iff nearest signed worth
    rw [made, wholeNumber, Json.number.injEq, Number.int.injEq, clamped]
    exact and_congr_right fun fits => (or_iff_right fun whole => direct ⟨whole, fits⟩).symm

/-- A text that is no numeral gives none. -/
theorem Json.integerOfText_of_unspelled {t : String} (unspelled : ∀ s : Spelling, s.text ≠ t) :
    integerOfText t = .null := by
  have direct : Numeral.signed? t = none := by
    refine Option.eq_none_iff_forall_ne_some.mpr fun n found => ?_
    obtain ⟨s, same⟩ := Numeral.exists_text_of_signed? found
    exact unspelled s same
  have rounded : Numeral.read? t = none := by
    refine Option.eq_none_iff_forall_ne_some.mpr fun d found => ?_
    obtain ⟨s, same⟩ := Numeral.exists_text_of_read? found
    exact unspelled s same
  rw [integerOfText, direct, rounded]

end Texts

namespace Property

variable {property : Property}

theorem normalize_eq_asInteger (whole : property.kind = .integer ∨ property.kind = .long) {value : Json}
    (single : ∀ items, value.unwrapped ≠ .array items) : property.normalize value = .ok value.unwrapped.asInteger := by
  have plain : property.isAlias = false := by rcases whole with kind | kind <;> simp [isAlias, kind]
  rw [normalize_of_single plain single]
  rcases whole with kind | kind <;> rw [kind] <;> rfl

theorem normalize_number (whole : property.kind = .integer ∨ property.kind = .long) (n : WordInt) :
    property.normalize (.number (.int n)) = .ok (.number (.int n)) :=
  normalize_eq_asInteger whole nofun

theorem normalize_string (whole : property.kind = .integer ∨ property.kind = .long) (t : String) :
    property.normalize (.string t) = .ok (Json.integerOfText t) :=
  normalize_eq_asInteger whole nofun

/-- **The integers that an integer field stores.** A numeral between blanks is stored as the integer part of its
value just if that is in a signed word, and the numeral is nothing but digits, or the value is rounded to no double
past an integer, or the integer part is the greatest signed word. An integer is stored as it is, and its digits are
stored as the same integer just if a signed word holds it. A text that is no numeral is stored as null. -/
theorem truncates_iff (whole : property.kind = .integer ∨ property.kind = .long) :
    (∀ (s : Spelling) (n : WordInt), towardZero s.value = n.val →
      (property.normalize (.string s.text) = .ok (.number (.int n)) ↔
        n.val < 2 ^ 63 ∧ (s.IsWhole ∨ n.val = 2 ^ 63 - 1 ∨ Binary64.KeepsWhole |s.value|))) ∧
    (∀ n : WordInt, property.normalize (.number (.int n)) = .ok (.number (.int n)) ∧
      (property.normalize (.string (toString n.val)) = property.normalize (.number (.int n)) ↔ n.val < 2 ^ 63)) ∧
    ∀ t : String, (∀ s : Spelling, s.text ≠ t) → property.normalize (.string t) = .ok .null := by
  have spelled (s : Spelling) (n : WordInt) (worth : towardZero s.value = n.val) :
      property.normalize (.string s.text) = .ok (.number (.int n)) ↔
        n.val < 2 ^ 63 ∧ (s.IsWhole ∨ n.val = 2 ^ 63 - 1 ∨ Binary64.KeepsWhole |s.value|) := by
    rw [normalize_string whole, Except.ok.injEq]
    exact Json.integerOfText_eq_iff worth
  refine ⟨spelled, fun n => ⟨normalize_number whole n, ?_⟩, fun t unspelled => ?_⟩
  · have worth : towardZero (Spelling.ofInt n.val).value = n.val := by
      rw [Spelling.value_ofInt, towardZero_intCast]
    rw [normalize_number whole, ← Spelling.text_ofInt, spelled _ n worth]
    exact and_iff_left (.inl (Spelling.isWhole_ofInt n.val))
  · rw [normalize_string whole, Json.integerOfText_of_unspelled unspelled]

/-- A fraction between blanks, an integer of more bits than a double keeps, and no number. -/
theorem truncates_iff_fraction :
    (ofKind .integer).normalize (.string " -3.70 ") = .ok (.number (.int ⟨-3, by decide, by decide⟩)) ∧
      (ofKind .long).normalize (.string "9007199254740993") =
        (ofKind .long).normalize (.number (.int ⟨9007199254740993, by decide, by decide⟩)) ∧
      (ofKind .long).normalize (.string "inf") = .ok .null := by
  let spelling : Spelling :=
    { front := [' '], sign := .minus, whole := ⟨['3'], List.all_eq_true.mp rfl⟩
      fraction := some ⟨['7', '0'], List.all_eq_true.mp rfl⟩, exponent := none, back := [' ']
      blank := List.all_eq_true.mp rfl, blank' := List.all_eq_true.mp rfl, given := .inl (List.cons_ne_nil _ _) }
  have value : spelling.value = -(37 / 10) := by
    show -(((3 : ℕ) + (70 : ℕ) / 10 ^ 2) * 10 ^ (0 : ℤ) : ℚ) = _
    norm_num
  have worth : towardZero spelling.value = -3 := by
    rw [value, towardZero]
    norm_num
  have keeps : Binary64.KeepsWhole |spelling.value| := by
    have whole : ⌊(37 / 10 : ℚ)⌋₊ = 3 := by norm_num
    have length : Nat.log2 (2 * 3 + 1) = 2 := rfl
    rw [value, abs_neg, abs_of_pos (by norm_num)]
    refine .apart ?_
    rw [whole, length]
    norm_num
  obtain ⟨spelled, -⟩ := @truncates_iff (ofKind .integer) (.inl rfl)
  have unspelled : ∀ s : Spelling, s.text ≠ "inf" := by
    intro s same
    have read := s.read?_text
    rw [same] at read
    cases read
  obtain ⟨-, digits, others⟩ := @truncates_iff (ofKind .long) (.inr rfl)
  exact ⟨(spelled spelling ⟨-3, by decide, by decide⟩ worth).mpr ⟨by decide, .inr (.inr keeps)⟩,
    (digits ⟨9007199254740993, by decide, by decide⟩).2.mpr (by decide), others _ unspelled⟩

/-- **A numeral need not be stored as its integer part**: the greatest unsigned word is stored as the greatest
signed one. -/
theorem not_truncates : ¬ ∀ (property : Property) (s : Spelling) (n : WordInt),
    property.kind = .integer ∨ property.kind = .long → towardZero s.value = n.val →
      property.normalize (.string s.text) = .ok (.number (.int n)) := by
  intro truncates
  have worth : towardZero (Spelling.ofInt 18446744073709551615).value = 18446744073709551615 := by
    rw [Spelling.value_ofInt, towardZero_intCast]
  have stored := truncates (ofKind .long) _ ⟨18446744073709551615, by decide, by decide⟩ (.inr rfl) worth
  rw [Spelling.text_ofInt] at stored
  exact absurd stored (by decide +kernel)

end Property
end CatalogSearch
