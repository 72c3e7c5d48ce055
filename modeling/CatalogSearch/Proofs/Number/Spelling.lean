/-
**Decimal numerals as they are spelled.**

A numeral is spelled by digits, of which there is at least one before or behind its point, with a sign, a point
and an exponent if it has them, between blanks. Each part is told from the next by the character that begins it.

* `Numeral.Spelling` — the parts of a numeral; `Spelling.text` and `Spelling.value`: its text and its value;
* `Spelling.read?_text` — the text is read as a numeral of that value;
* `Spelling.signed?_text_of_isWhole` — it is read as an integer if it has neither a point nor an exponent;
* `exists_text_of_read?`, `exists_text_of_signed?` — no other text is read as either.
-/

import CatalogSearch.Number.Numeral
import CatalogSearch.Proofs.Number.Nearest
import CatalogSearch.Proofs.Text.Digits

namespace CatalogSearch.Numeral

/-- A sign, which may be left out. -/
inductive Sign where
  | none
  | plus
  | minus
deriving DecidableEq

/-- A run of digits, which may be empty. -/
structure Digits where
  chars : List Char
  isDigit : ∀ c ∈ chars, c.isDigit = true

/-- A power of ten, behind its letter. -/
structure Exponent where
  letter : Char
  isLetter : letter = 'e' ∨ letter = 'E'
  sign : Sign
  digits : Digits
  given : digits.chars ≠ []

namespace Sign

def chars : Sign → List Char
  | none => []
  | plus => ['+']
  | minus => ['-']

def isMinus (s : Sign) : Bool := s = minus

/-- The sign of a number. -/
def apply {α : Type} [Neg α] (s : Sign) (a : α) : α := if s.isMinus then -a else a

end Sign

namespace Digits

/-- The number that digits denote; nothing is zero. -/
def value (ds : Digits) : ℕ := Nat.ofDigitChars 10 ds.chars 0

def empty : Digits := ⟨[], List.forall_mem_nil _⟩

end Digits

namespace Exponent

def chars (e : Exponent) : List Char := e.letter :: (e.sign.chars ++ e.digits.chars)

def power (e : Exponent) : ℤ := e.sign.apply (e.digits.value : ℤ)

end Exponent

/-- **A numeral as it is spelled.** -/
structure Spelling where
  front : List Char
  sign : Sign
  whole : Digits
  fraction : Option Digits
  exponent : Option Exponent
  back : List Char
  blank : ∀ c ∈ front, Text.isBlank c = true
  blank' : ∀ c ∈ back, Text.isBlank c = true
  given : whole.chars ≠ [] ∨ ∃ ds, fraction = some ds ∧ ds.chars ≠ []

namespace Spelling

variable (s : Spelling)

/-- The digits behind the point. -/
def places : Digits := s.fraction.getD .empty

/-- The point and the digits behind it. -/
def fractionChars : List Char := (s.fraction.map fun ds => '.' :: ds.chars).getD []

def exponentChars : List Char := (s.exponent.map Exponent.chars).getD []

def power : ℤ := (s.exponent.map Exponent.power).getD 0

/-- The characters between the blanks. -/
def chars : List Char := s.sign.chars ++ (s.whole.chars ++ (s.fractionChars ++ s.exponentChars))

/-- **The text of a numeral.** -/
def text : String := String.ofList (s.front ++ s.chars ++ s.back)

/-- **The value of a numeral**: that of its digits, moved by its power of ten. -/
def value : ℚ :=
  s.sign.apply ((s.whole.value + s.places.value / 10 ^ s.places.chars.length) * 10 ^ s.power)

/-- There is neither a point nor an exponent. -/
def IsWhole : Prop := s.fraction = none ∧ s.exponent = none

/-- The numeral as it is read. -/
def decimal : Decimal where
  negative := s.sign.isMinus
  coefficient := Nat.ofDigitChars 10 (s.whole.chars ++ s.places.chars) 0
  exponent := s.power - s.places.chars.length

/-- **The numeral that is read has the value that is spelled.** -/
theorem value_decimal : s.decimal.value = s.value := by
  have joined : s.decimal.coefficient = s.whole.value * 10 ^ s.places.chars.length + s.places.value := by
    show Nat.ofDigitChars 10 (s.whole.chars ++ s.places.chars) 0 = _
    rw [Nat.ofDigitChars_append, Nat.ofDigitChars_eq_ofDigitChars_zero, mul_comm]
    rfl
  have shift : (10 : ℚ) ^ s.decimal.exponent = 10 ^ s.power / 10 ^ s.places.chars.length := by
    show (10 : ℚ) ^ (s.power - s.places.chars.length) = _
    rw [zpow_sub₀ (by norm_num), zpow_natCast]
  have scale : (10 : ℚ) ^ s.places.chars.length ≠ 0 := by positivity
  rw [Decimal.value, joined, shift]
  push_cast
  show (if s.sign.isMinus then (-1 : ℚ) else 1) * _ = s.sign.apply _
  unfold Sign.apply
  split <;> field_simp

theorem value_of_isWhole (whole : s.IsWhole) : s.value = (s.sign.apply (s.whole.value : ℤ) : ℤ) := by
  have places : s.places = .empty := by rw [Spelling.places, whole.1]; rfl
  have power : s.power = 0 := by rw [Spelling.power, whole.2]; rfl
  have nothing : Digits.value .empty = 0 := rfl
  rw [value, places, power, nothing, zpow_zero, mul_one, Nat.cast_zero, zero_div, add_zero]
  unfold Sign.apply
  split <;> push_cast <;> rfl

end Spelling

/-! ### Reading the parts -/

theorem unsigned_of_isDigit {c : Char} (digit : c.isDigit = true) : c ≠ '-' ∧ c ≠ '+' := by
  constructor <;> rintro rfl <;> cases digit

/-- A sign ends where a character follows that is none. -/
theorem sign_chars (sg : Sign) {rest : List Char} (unsigned : ∀ c ∈ rest.head?, c ≠ '-' ∧ c ≠ '+') :
    sign (sg.chars ++ rest) = (sg.isMinus, rest) := by
  cases sg with
  | none =>
    cases rest with
    | nil => rfl
    | cons c more =>
      obtain ⟨noMinus, noPlus⟩ := unsigned c rfl
      show sign (c :: more) = (false, c :: more)
      unfold sign
      split
      · next same => exact absurd (List.cons.inj same).1 noMinus
      · next same => exact absurd (List.cons.inj same).1 noPlus
      · rfl
  | plus => rfl
  | minus => rfl

theorem digits_chars (ds : Digits) {rest : List Char} (ends : ∀ c ∈ rest.head?, c.isDigit = false) :
    digits (ds.chars ++ rest) = (ds.chars, rest) := by
  rw [digits, Text.takeWhile_run ds.isDigit ends, Text.dropWhile_run ds.isDigit ends]

theorem Digits.natOfDigits?_chars {ds : Digits} (given : ds.chars ≠ []) :
    Text.natOfDigits? ds.chars = some ds.value := Text.natOfDigits?_eq given ds.isDigit

theorem Digits.unsigned (ds : Digits) : ∀ c ∈ ds.chars.head?, c ≠ '-' ∧ c ≠ '+' := fun c first =>
  unsigned_of_isDigit (ds.isDigit c (List.mem_of_mem_head? first))

theorem exponent?_chars (e : Exponent) : exponent? e.chars = some e.power := by
  have all : e.digits.chars.all Char.isDigit = true := List.all_eq_true.mpr e.digits.isDigit
  rw [Exponent.chars, exponent?, if_pos e.isLetter, sign_chars e.sign e.digits.unsigned]
  show (if e.digits.chars.all Char.isDigit then _ else none) = _
  rw [if_pos all, Digits.natOfDigits?_chars e.given]
  rfl

theorem Sign.isBlank (sg : Sign) : ∀ c ∈ sg.chars, Text.isBlank c = false := by
  cases sg with
  | none => nofun
  | plus => exact List.forall_mem_singleton.mpr rfl
  | minus => exact List.forall_mem_singleton.mpr rfl

theorem Digits.isBlank (ds : Digits) : ∀ c ∈ ds.chars, Text.isBlank c = false := fun c member =>
  Text.isBlank_of_isDigit (ds.isDigit c member)

theorem Exponent.isBlank (e : Exponent) : ∀ c ∈ e.chars, Text.isBlank c = false := by
  refine List.forall_mem_cons.mpr ⟨?_, List.forall_mem_append.mpr ⟨e.sign.isBlank, e.digits.isBlank⟩⟩
  rcases e.isLetter with same | same <;> rw [same] <;> decide

namespace Spelling

variable (s : Spelling)

theorem exponent?_exponentChars : exponent? s.exponentChars = some s.power := by
  unfold exponentChars power
  cases s.exponent with
  | none => rfl
  | some e => exact exponent?_chars e

/-- Digits end at a point, at the letter of an exponent or at the end. -/
theorem exponentChars_head : ∀ c ∈ s.exponentChars.head?, c = 'e' ∨ c = 'E' := by
  unfold exponentChars
  cases s.exponent with
  | none => nofun
  | some e =>
    intro c first
    cases first
    exact e.isLetter

theorem isDigit_of_exponentChars_head : ∀ c ∈ s.exponentChars.head?, c.isDigit = false := by
  intro c first
  rcases s.exponentChars_head c first with rfl | rfl <;> rfl

theorem isDigit_of_rest_head : ∀ c ∈ (s.fractionChars ++ s.exponentChars).head?, c.isDigit = false := by
  unfold fractionChars
  cases s.fraction with
  | none => exact s.isDigit_of_exponentChars_head
  | some ds =>
    intro c first
    cases first
    rfl

theorem mantissa?_chars : mantissa? (s.whole.chars ++ (s.fractionChars ++ s.exponentChars)) =
    some (s.whole.chars, s.places.chars, s.exponentChars) := by
  have given := s.given
  have letter := s.exponentChars_head
  have ends := s.isDigit_of_exponentChars_head
  have split := digits_chars s.whole s.isDigit_of_rest_head
  unfold fractionChars at split ⊢
  unfold places
  generalize s.exponentChars = rest at letter ends split ⊢
  cases fraction : s.fraction with
  | none =>
    have some : s.whole.chars.isEmpty = false := by simpa [fraction] using given
    simp only [fraction, Option.map_none, Option.getD_none, List.nil_append] at split ⊢
    rw [mantissa?, split]
    cases rest with
    | nil => simp [some, Digits.empty]
    | cons c more => rcases letter c rfl with rfl | rfl <;> simp [some, Digits.empty]
  | some ds =>
    have some : (s.whole.chars.isEmpty && ds.chars.isEmpty) = false := by
      simpa [fraction, or_iff_not_imp_left] using given
    simp only [fraction, Option.map_some, Option.getD_some, List.cons_append] at split ⊢
    rw [mantissa?, split]
    simp [digits_chars ds ends, some]

/-- There is a digit among the characters, or a point with one behind it. -/
theorem unsigned : ∀ c ∈ (s.whole.chars ++ (s.fractionChars ++ s.exponentChars)).head?, c ≠ '-' ∧ c ≠ '+' := by
  intro c first
  cases whole : s.whole.chars with
  | cons d more =>
    rw [whole] at first
    cases first
    exact s.whole.unsigned c (by rw [whole]; rfl)
  | nil =>
    obtain ⟨ds, fraction, -⟩ := s.given.resolve_left (by simp [whole])
    rw [whole, fractionChars, fraction] at first
    cases first
    decide

theorem ofTrimmed?_chars : ofTrimmed? s.chars = some s.decimal := by
  have given : s.whole.chars ++ s.places.chars ≠ [] := by
    intro empty
    obtain ⟨whole, places⟩ := List.append_eq_nil_iff.mp empty
    obtain ⟨ds, fraction, some⟩ := s.given.resolve_left (not_not_intro whole)
    rw [Spelling.places, fraction] at places
    exact some places
  have all : ∀ c ∈ s.whole.chars ++ s.places.chars, c.isDigit = true :=
    List.forall_mem_append.mpr ⟨s.whole.isDigit, s.places.isDigit⟩
  rw [chars, ofTrimmed?, sign_chars s.sign s.unsigned]
  show (mantissa? _).bind _ = _
  rw [mantissa?_chars, Option.bind_some]
  show (exponent? s.exponentChars).bind _ = _
  rw [exponent?_exponentChars, Option.bind_some]
  show (Text.natOfDigits? _).bind _ = _
  rw [Text.natOfDigits?_eq given all]
  rfl

theorem isBlank_chars : ∀ c ∈ s.chars, Text.isBlank c = false := by
  simp only [chars, List.forall_mem_append]
  refine ⟨s.sign.isBlank, s.whole.isBlank, ?_, ?_⟩
  · unfold fractionChars
    cases s.fraction with
    | none => nofun
    | some ds => exact List.forall_mem_cons.mpr ⟨by decide, ds.isBlank⟩
  · unfold exponentChars
    cases s.exponent with
    | none => nofun
    | some e => exact e.isBlank

theorem chars_ne_nil : s.chars ≠ [] := by
  intro empty
  have read := s.ofTrimmed?_chars
  rw [empty] at read
  cases read

theorem trim_text : Text.trim s.text.toList = s.chars := by
  rw [text, String.toList_ofList]
  exact Text.trim_append s.blank s.blank' s.chars_ne_nil (fun c first => s.isBlank_chars c (List.mem_of_mem_head? first))
    fun c last => s.isBlank_chars c (List.mem_of_mem_getLast? last)

/-- **The text of a numeral is read as that numeral.** -/
theorem read?_text : read? s.text = some s.decimal := by
  rw [read?, trim_text, ofTrimmed?_chars]

/-- Nothing follows the digits of a numeral without point and exponent. -/
theorem isWhole_iff : s.IsWhole ↔ s.fractionChars ++ s.exponentChars = [] := by
  have fraction : s.fractionChars = [] ↔ s.fraction = none := by
    unfold fractionChars
    cases s.fraction <;> simp
  have exponent : s.exponentChars = [] ↔ s.exponent = none := by
    unfold exponentChars
    cases s.exponent <;> simp [Exponent.chars]
  rw [List.append_eq_nil_iff, fraction, exponent, IsWhole]

/-- **It is read as an integer if it has neither a point nor an exponent.** -/
theorem signed?_text_of_isWhole (whole : s.IsWhole) :
    signed? s.text = WordInt.ofSigned? (s.sign.apply (s.whole.value : ℤ)) := by
  have given := s.given.resolve_right (by simp [whole.1])
  have rest : s.whole.chars ++ (s.fractionChars ++ s.exponentChars) = s.whole.chars := by
    rw [s.isWhole_iff.mp whole, List.append_nil]
  rw [signed?, trim_text, chars, sign_chars s.sign s.unsigned, rest]
  show (Text.natOfDigits? s.whole.chars).bind _ = _
  rw [Digits.natOfDigits?_chars given]
  rfl

theorem signed?_text_of_not_isWhole (parts : ¬ s.IsWhole) : signed? s.text = none := by
  rw [signed?, trim_text, chars, sign_chars s.sign s.unsigned]
  show (Text.natOfDigits? _).bind _ = _
  obtain ⟨c, more, rest⟩ := List.exists_cons_of_ne_nil (mt s.isWhole_iff.mpr parts)
  have noDigit : c.isDigit = false := s.isDigit_of_rest_head c (by rw [rest]; rfl)
  have member : c ∈ s.whole.chars ++ (s.fractionChars ++ s.exponentChars) := by
    rw [rest]
    exact List.mem_append_right _ List.mem_cons_self
  rw [Text.natOfDigits?_eq_none member noDigit, Option.bind_none]

end Spelling

/-! ### What is read is spelled -/

theorem exists_sign (cs : List Char) : ∃ sg : Sign, cs = sg.chars ++ (sign cs).2 := by
  unfold sign
  split
  · exact ⟨.minus, rfl⟩
  · exact ⟨.plus, rfl⟩
  · exact ⟨.none, rfl⟩

theorem exists_digits (cs : List Char) :
    ∃ ds : Digits, (digits cs).1 = ds.chars ∧ cs = ds.chars ++ (digits cs).2 :=
  ⟨⟨cs.takeWhile Char.isDigit, List.all_eq_true.mp List.all_takeWhile⟩, rfl, List.takeWhile_append_dropWhile.symm⟩

theorem exists_digits_of_natOfDigits? {cs : List Char} {n : ℕ} (found : Text.natOfDigits? cs = some n) :
    ∃ ds : Digits, ds.chars = cs ∧ ds.chars ≠ [] := by
  refine ⟨⟨cs, fun c member => ?_⟩, rfl, ?_⟩
  · by_contra other
    rw [Text.natOfDigits?_eq_none member (Bool.eq_false_iff.mpr other)] at found
    cases found
  · rintro rfl
    cases found

theorem exists_exponent {cs : List Char} {power : ℤ} (found : exponent? cs = some power) :
    ∃ e : Option Exponent, cs = (e.map Exponent.chars).getD [] := by
  cases cs with
  | nil => exact ⟨none, rfl⟩
  | cons letter rest =>
    obtain ⟨sg, signed⟩ := exists_sign rest
    rw [exponent?] at found
    split_ifs at found with isLetter
    cases denoted : Text.natOfDigits? (sign rest).2 with
    | none => simp [denoted] at found
    | some n =>
      obtain ⟨ds, spelled, given⟩ := exists_digits_of_natOfDigits? denoted
      rw [← spelled] at signed
      exact ⟨some ⟨letter, isLetter, sg, ds, given⟩, congrArg (letter :: ·) signed⟩

theorem exists_mantissa {cs before behind rest : List Char}
    (found : mantissa? cs = some (before, behind, rest)) :
    ∃ (whole : Digits) (fraction : Option Digits),
      cs = whole.chars ++ ((fraction.map fun ds => '.' :: ds.chars).getD [] ++ rest) ∧
        (whole.chars ≠ [] ∨ ∃ ds, fraction = some ds ∧ ds.chars ≠ []) := by
  obtain ⟨whole, first, split⟩ := exists_digits cs
  unfold mantissa? at found
  split at found
  · next w more read =>
    rw [read] at first split
    obtain ⟨ds, second, split'⟩ := exists_digits more
    dsimp only at first split found
    rw [first, second] at found
    split_ifs at found with given
    cases found
    refine ⟨whole, some ds, ?_, ?_⟩
    · rw [split]
      exact congrArg (whole.chars ++ '.' :: ·) split'
    · simpa [or_iff_not_imp_left] using given
  · next w more other read =>
    rw [read] at first split
    dsimp only at first split found
    rw [first] at found
    split_ifs at found with given
    cases found
    exact ⟨whole, none, split, .inl (by simpa using given)⟩

/-- Trimmed characters that are those of a numeral are between blanks. -/
theorem exists_text {t : String} {s : Spelling} (same : Text.trim t.toList = s.chars) :
    ∃ s : Spelling, s.text = t := by
  obtain ⟨front, back, split, blank, blank'⟩ := Text.exists_trim t.toList
  refine ⟨{ s with front, back, blank, blank' }, ?_⟩
  rw [same] at split
  exact (congrArg String.ofList split.symm).trans String.ofList_toList

/-- **What is read as a numeral is spelled as one.** -/
theorem exists_text_of_read? {t : String} {d : Decimal} (found : read? t = some d) :
    ∃ s : Spelling, s.text = t := by
  obtain ⟨sg, signed⟩ := exists_sign (Text.trim t.toList)
  obtain ⟨⟨before, behind, rest⟩, mantissa, found⟩ := Option.bind_eq_some_iff.mp found
  obtain ⟨power, exponent, -⟩ := Option.bind_eq_some_iff.mp found
  obtain ⟨whole, fraction, split, given⟩ := exists_mantissa mantissa
  obtain ⟨e, rest_eq⟩ := exists_exponent exponent
  have chars : Text.trim t.toList = sg.chars ++ (whole.chars ++
      ((fraction.map fun ds => '.' :: ds.chars).getD [] ++ (e.map Exponent.chars).getD [])) := by
    rw [← rest_eq]
    exact signed.trans (congrArg (sg.chars ++ ·) split)
  exact exists_text (s := ⟨[], sg, whole, fraction, e, [], List.forall_mem_nil _, List.forall_mem_nil _, given⟩) chars

/-- And so is what is read as an integer. -/
theorem exists_text_of_signed? {t : String} {n : WordInt} (found : signed? t = some n) :
    ∃ s : Spelling, s.text = t := by
  obtain ⟨sg, signed⟩ := exists_sign (Text.trim t.toList)
  obtain ⟨m, denoted, -⟩ := Option.bind_eq_some_iff.mp found
  obtain ⟨ds, spelled, given⟩ := exists_digits_of_natOfDigits? denoted
  have chars : Text.trim t.toList = sg.chars ++ (ds.chars ++ ([] ++ [])) := by
    rw [List.append_nil, List.append_nil, spelled]
    exact signed
  exact exists_text (s := ⟨[], sg, ds, none, none, [], List.forall_mem_nil _, List.forall_mem_nil _, .inl given⟩) chars

end CatalogSearch.Numeral
