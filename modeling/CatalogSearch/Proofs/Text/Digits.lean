/-
**Decimal digits, written and read.**

* `isDigit_iff`, `isUpper_iff`, `isLower_iff`, `isAlpha_iff` — digits and letters by their numbers;
* `natOfDigits?_eq` — one or more ASCII digits denote their value in base ten;
* `toString_inj` — numbers are told apart by their digits;
* `takeWhile_run`, `dropWhile_run` — a run of one kind is taken up to a character of another;
* `natOfDigits?_padded` — a number filled up with zeros is read back;
* `trimLeft_padded`, `trimRight_padded` — digits at an end of a text are not trimmed;
* `trim_append` — blanks around a text are, and `exists_trim` — nothing else is.
-/

import CatalogSearch.Calendar.Date
import CatalogSearch.Number.Rounding
import CatalogSearch.Text.Basic

namespace CatalogSearch.Text

/-- ASCII digits are those between `0` and `9`. -/
theorem isDigit_iff {c : Char} : c.isDigit = true ↔ 48 ≤ c.toNat ∧ c.toNat ≤ 57 :=
  Char.isDigit_iff_toNat

/-- The capitals of ASCII are those between `A` and `Z`. -/
theorem isUpper_iff {c : Char} : c.isUpper = true ↔ 65 ≤ c.toNat ∧ c.toNat ≤ 90 := decide_eq_true_iff

/-- The small letters of ASCII are those between `a` and `z`. -/
theorem isLower_iff {c : Char} : c.isLower = true ↔ 97 ≤ c.toNat ∧ c.toNat ≤ 122 :=
  Bool.and_eq_true_iff.trans (and_congr decide_eq_true_iff decide_eq_true_iff)

/-- The letters of ASCII are both. -/
theorem isAlpha_iff {c : Char} :
    c.isAlpha = true ↔ 65 ≤ c.toNat ∧ c.toNat ≤ 90 ∨ 97 ≤ c.toNat ∧ c.toNat ≤ 122 :=
  Bool.or_eq_true_iff.trans (or_congr isUpper_iff isLower_iff)

/-- An ASCII digit is a decimal digit. -/
theorem isDecimalDigit_of_isDigit {c : Char} (digit : c.isDigit = true) :
    isDecimalDigit c = true := by
  have bounds := isDigit_iff.mp digit
  simp [isDecimalDigit, inRanges, decimalDigitRanges, bounds.1, bounds.2]

/-- No digit is a blank. -/
theorem isBlank_of_isDigit {c : Char} (digit : c.isDigit = true) : isBlank c = false := by
  have bounds := isDigit_iff.mp digit
  simp only [isBlank, inRanges, blankRanges, List.any_cons, List.any_nil, Bool.or_false,
    Bool.or_eq_false_iff, Bool.and_eq_false_iff, decide_eq_false_iff_not]
  omega

/-- No digit is a capital letter. -/
theorem toLower_of_isDigit {c : Char} (digit : c.isDigit = true) : c.toLower = c := by
  have bounds := isDigit_iff.mp digit
  refine dif_neg ?_
  rintro ⟨low, _⟩
  have letter : 65 ≤ c.toNat := low
  omega

theorem natAfter?_eq {digits : List Char} (all : ∀ c ∈ digits, c.isDigit = true) (value : Nat) :
    natAfter? value digits = some (Nat.ofDigitChars 10 digits value) := by
  induction digits generalizing value with
  | nil => rfl
  | cons c rest ih =>
    have digit := all c List.mem_cons_self
    rw [natAfter?, digitValue?, if_pos digit, Option.bind_some,
      ih fun d member => all d (List.mem_cons_of_mem _ member), Nat.ofDigitChars_cons]

/-- **One or more digits denote their value in base ten.** -/
theorem natOfDigits?_eq {digits : List Char} (some : digits ≠ [])
    (all : ∀ c ∈ digits, c.isDigit = true) :
    natOfDigits? digits = .some (Nat.ofDigitChars 10 digits 0) := by
  rw [natOfDigits?, if_neg (by simpa using some), natAfter?_eq all]

/-- A text with another character denotes nothing. -/
theorem natAfter?_eq_none {cs : List Char} {c : Char} (member : c ∈ cs) (noDigit : c.isDigit = false) (value : Nat) :
    natAfter? value cs = none := by
  induction cs generalizing value with
  | nil => cases member
  | cons d rest ih =>
    rcases List.mem_cons.mp member with rfl | later
    · rw [natAfter?, digitValue?, if_neg (by simp [noDigit]), Option.bind_none]
    · exact Option.bind_eq_none_iff.mpr fun n _ => ih later _

theorem natOfDigits?_eq_none {cs : List Char} {c : Char} (member : c ∈ cs) (noDigit : c.isDigit = false) :
    natOfDigits? cs = none := by
  rw [natOfDigits?, if_neg (by simpa using List.ne_nil_of_mem member), natAfter?_eq_none member noDigit]

/-- **Numbers are told apart by their digits.** -/
theorem toString_inj {m n : Nat} : toString m = toString n ↔ m = n := by
  refine ⟨fun same => ?_, congrArg _⟩
  have digits : Nat.toDigits 10 m = Nat.toDigits 10 n := by
    simpa only [Nat.toString_eq_repr, Nat.toList_repr] using congrArg String.toList same
  calc m = Nat.ofDigitChars 10 (Nat.toDigits 10 m) 0 := Nat.ofDigitChars_ten_toDigits.symm
    _ = Nat.ofDigitChars 10 (Nat.toDigits 10 n) 0 := by rw [digits]
    _ = n := Nat.ofDigitChars_ten_toDigits

/-- A number is written in digits alone. -/
theorem isDigit_of_mem_toString {n : Nat} {c : Char} (inside : c ∈ (toString n).toList) :
    c.isDigit = true := by
  rw [Nat.toString_eq_repr, Nat.toList_repr] at inside
  exact Nat.isDigit_of_mem_toDigits (by decide) (by decide) inside

/-- A run of digits has a value below the power of ten of its length. -/
theorem ofDigitChars_lt {digits : List Char} (all : ∀ c ∈ digits, c.isDigit = true) :
    Nat.ofDigitChars 10 digits 0 < tenTo digits.length := by
  induction digits with
  | nil => decide
  | cons c rest ih =>
    have bounds := isDigit_iff.mp (all c List.mem_cons_self)
    have below := ih fun d member => all d (List.mem_cons_of_mem _ member)
    rw [Nat.ofDigitChars_cons, Nat.ofDigitChars_eq_ofDigitChars_zero, Nat.mul_zero, Nat.zero_add]
    have leading : c.toNat - '0'.toNat ≤ 9 := by
      show c.toNat - 48 ≤ 9
      omega
    have scaled := Nat.mul_le_mul_left (tenTo rest.length) leading
    show tenTo rest.length * (c.toNat - '0'.toNat) + Nat.ofDigitChars 10 rest 0 <
      tenTo rest.length * 10
    omega

/-! ### Runs -/

section Runs

variable {p : Char → Bool} {run rest : List Char} (all : ∀ c ∈ run, p c = true)
  (ends : ∀ c ∈ rest.head?, p c = false)

include all ends

/-- **A run is taken whole**, up to a character of another kind. -/
theorem takeWhile_run : (run ++ rest).takeWhile p = run := by
  rw [List.takeWhile_append_of_pos all]
  cases rest with
  | nil => rw [List.takeWhile_nil, List.append_nil]
  | cons c more => rw [List.takeWhile_cons_of_neg (by simp [ends c rfl]), List.append_nil]

/-- And what follows it is left. -/
theorem dropWhile_run : (run ++ rest).dropWhile p = rest := by
  have split := List.takeWhile_append_dropWhile (p := p) (l := run ++ rest)
  rw [takeWhile_run all ends] at split
  exact List.append_cancel_left split

end Runs

/-! ### Padded numbers -/

theorem isDigit_padded {width n : Nat} : ∀ c ∈ Date.padded width n, c.isDigit = true := by
  intro c member
  rcases List.mem_append.mp member with zero | digit
  · rw [(List.mem_replicate.mp zero).2]
    rfl
  · exact Nat.isDigit_of_mem_toDigits (by decide) (by decide) digit

theorem padded_ne_nil (width n : Nat) : Date.padded width n ≠ [] := by
  simp [Date.padded]

theorem length_padded {width n : Nat} (positive : 0 < width) (fits : n < tenTo width) :
    (Date.padded width n).length = width := by
  have short := (Nat.length_toDigits_le_iff (b := 10) (by decide) positive).mpr fits
  simp only [Date.padded, List.length_append, List.length_replicate]
  omega

/-- **A number filled up with zeros is read back.** -/
theorem natOfDigits?_padded (width n : Nat) : natOfDigits? (Date.padded width n) = some n := by
  rw [natOfDigits?_eq (padded_ne_nil width n) isDigit_padded, Date.padded, Nat.ofDigitChars_append,
    Nat.ofDigitChars_replicate_zero, Nat.mul_zero, Nat.ofDigitChars_ten_toDigits]

/-! ### Blanks at the ends -/

theorem trimLeft_cons {c : Char} (rest : List Char) (dark : isBlank c = false) :
    trimLeft (c :: rest) = c :: rest := List.dropWhile_cons_of_neg (by simp [dark])

theorem trimLeft_run {digits : List Char} (some : digits ≠ [])
    (all : ∀ c ∈ digits, c.isDigit = true) (rest : List Char) :
    trimLeft (digits ++ rest) = digits ++ rest := by
  obtain ⟨c, more, front⟩ := List.exists_cons_of_ne_nil some
  rw [front, List.cons_append]
  exact trimLeft_cons _ (isBlank_of_isDigit (all c (front ▸ List.mem_cons_self)))

theorem trimLeft_padded (width n : Nat) (rest : List Char) :
    trimLeft (Date.padded width n ++ rest) = Date.padded width n ++ rest :=
  trimLeft_run (padded_ne_nil width n) isDigit_padded rest

theorem trimRight_padded (width n : Nat) (front : List Char) :
    trimRight (front ++ Date.padded width n) = front ++ Date.padded width n := by
  have some : (Date.padded width n).reverse ≠ [] := by simpa using padded_ne_nil width n
  have all : ∀ c ∈ (Date.padded width n).reverse, c.isDigit = true := fun c member =>
    isDigit_padded c (List.mem_reverse.mp member)
  have reversed := trimLeft_run some all front.reverse
  rw [← List.reverse_append] at reversed
  exact (congrArg List.reverse reversed).trans (List.reverse_reverse _)

/-- **Blanks at the ends are trimmed.** -/
theorem trim_append {front middle back : List Char} (blank : ∀ c ∈ front, isBlank c = true)
    (blank' : ∀ c ∈ back, isBlank c = true) (some : middle ≠ []) (first : ∀ c ∈ middle.head?, isBlank c = false)
    (last : ∀ c ∈ middle.getLast?, isBlank c = false) : trim (front ++ middle ++ back) = middle := by
  obtain ⟨c, others, begins⟩ := List.exists_cons_of_ne_nil some
  obtain ⟨d, earlier, ends⟩ := List.exists_cons_of_ne_nil (mt List.reverse_eq_nil_iff.mp some)
  have left : trimLeft (front ++ middle ++ back) = middle ++ back := by
    rw [trimLeft, List.append_assoc, List.dropWhile_append_of_pos blank]
    rw [begins] at first ⊢
    exact trimLeft_cons _ (first c rfl)
  have right : (middle ++ back).reverse.dropWhile isBlank = middle.reverse := by
    have final : isBlank d = false := last d (by rw [List.getLast?_eq_head?_reverse, ends]; rfl)
    rw [List.reverse_append, List.dropWhile_append_of_pos fun c member => blank' c (List.mem_reverse.mp member),
      ends]
    exact trimLeft_cons _ final
  rw [trim, left, trimRight, right, List.reverse_reverse]

/-- What is trimmed is blanks at either end. -/
theorem exists_trim (cs : List Char) : ∃ front back, cs = front ++ trim cs ++ back ∧
    (∀ c ∈ front, isBlank c = true) ∧ ∀ c ∈ back, isBlank c = true := by
  have left : cs.takeWhile isBlank ++ trimLeft cs = cs := List.takeWhile_append_dropWhile
  have right : trimRight (trimLeft cs) ++ ((trimLeft cs).reverse.takeWhile isBlank).reverse =
      trimLeft cs := by
    rw [trimRight, ← List.reverse_append, List.takeWhile_append_dropWhile, List.reverse_reverse]
  refine ⟨cs.takeWhile isBlank, ((trimLeft cs).reverse.takeWhile isBlank).reverse, ?_,
    List.all_eq_true.mp List.all_takeWhile, fun c member => ?_⟩
  · rw [trim, List.append_assoc, right, left]
  · exact List.all_eq_true.mp List.all_takeWhile c (List.mem_reverse.mp member)

end CatalogSearch.Text
