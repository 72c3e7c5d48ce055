/-
**Fields of digits, and patterns of texts.**

* `IsField` — a given number of digits, and the number they denote;
* `IsField.append_lt_append_iff` — texts that begin with fields of one width are ordered by the numbers first,
  and by what follows where these agree;
* `Follows` — the pattern of a text, where `d` stands for any digit.
-/

import CatalogSearch.Proofs.Text.Digits
import Mathlib.Data.List.Forall2

namespace CatalogSearch.Text

/-! ### Fields -/

/-- **A field of digits**, and the number they denote in base ten. -/
structure IsField (width n : Nat) (cs : List Char) : Prop where
  length_eq : cs.length = width
  isDigit : ∀ c ∈ cs, c.isDigit = true
  value : Nat.ofDigitChars 10 cs 0 = n

variable {width m n : Nat} {cs ds front back : List Char}

theorem ofDigitChars_padded (width n : Nat) : Nat.ofDigitChars 10 (Date.padded width n) 0 = n := by
  have read := natOfDigits?_padded width n
  rw [natOfDigits?_eq (padded_ne_nil width n) isDigit_padded] at read
  exact Option.some.inj read

theorem isField_padded (positive : 0 < width) (fits : n < tenTo width) :
    IsField width n (Date.padded width n) :=
  ⟨length_padded positive fits, isDigit_padded, ofDigitChars_padded width n⟩

theorem ofDigitChars_cons (c : Char) (cs : List Char) :
    Nat.ofDigitChars 10 (c :: cs) 0 = tenTo cs.length * (c.toNat - 48) + Nat.ofDigitChars 10 cs 0 := by
  rw [Nat.ofDigitChars_cons, Nat.ofDigitChars_eq_ofDigitChars_zero, Nat.mul_zero, Nat.zero_add]
  rfl

/-- **Runs of digits of one length are ordered by the numbers they denote**, and by what follows them where
these agree. -/
theorem digits_append_lt_iff (same : cs.length = ds.length) (digits : ∀ c ∈ cs, c.isDigit = true)
    (digits' : ∀ c ∈ ds, c.isDigit = true) :
    cs ++ front < ds ++ back ↔ Nat.ofDigitChars 10 cs 0 < Nat.ofDigitChars 10 ds 0 ∨
      Nat.ofDigitChars 10 cs 0 = Nat.ofDigitChars 10 ds 0 ∧ front < back := by
  induction cs generalizing ds with
  | nil =>
    obtain rfl := List.length_eq_zero_iff.mp same.symm
    simp
  | cons c cs ih =>
    obtain ⟨d, ds, rfl⟩ := List.exists_cons_of_length_eq_add_one same.symm
    have bounds := isDigit_iff.mp (digits c List.mem_cons_self)
    have bounds' := isDigit_iff.mp (digits' d List.mem_cons_self)
    have rest : ∀ e ∈ cs, e.isDigit = true := fun e member => digits e (List.mem_cons_of_mem _ member)
    have rest' : ∀ e ∈ ds, e.isDigit = true := fun e member => digits' e (List.mem_cons_of_mem _ member)
    have length : cs.length = ds.length := Nat.succ_inj.mp same
    have small := ofDigitChars_lt rest
    have small' := ofDigitChars_lt rest'
    rw [List.cons_append, List.cons_append, List.cons_lt_cons_iff, ih length rest rest', ofDigitChars_cons,
      ofDigitChars_cons]
    rw [length] at small ⊢
    have order : c < d ↔ c.toNat < d.toNat := Iff.rfl
    rw [order, ← Char.toNat_inj]
    -- the first digits decide, since what follows is worth less than a unit of them
    rcases Nat.lt_trichotomy c.toNat d.toNat with less | equal | greater
    · have unit := Nat.mul_le_mul_left (tenTo ds.length) (by omega : c.toNat - 48 + 1 ≤ d.toNat - 48)
      rw [Nat.mul_add] at unit
      omega
    · simp [equal]
    · have unit := Nat.mul_le_mul_left (tenTo ds.length) (by omega : d.toNat - 48 + 1 ≤ c.toNat - 48)
      rw [Nat.mul_add] at unit
      omega

/-- **Texts that begin with fields of one width are ordered by the fields first.** -/
theorem IsField.append_lt_append_iff (first : IsField width m cs) (second : IsField width n ds) :
    cs ++ front < ds ++ back ↔ m < n ∨ m = n ∧ front < back := by
  obtain ⟨rfl, digits, rfl⟩ := first
  obtain ⟨same, digits', rfl⟩ := second
  exact digits_append_lt_iff same.symm digits digits'

/-- Digits denote one number. -/
theorem IsField.unique {other : Nat} (first : IsField width m cs) (second : IsField other n cs) : m = n :=
  first.value.symm.trans second.value

theorem IsField.lt_iff (first : IsField width m cs) (second : IsField width n ds) : cs < ds ↔ m < n := by
  have whole : cs ++ [] < ds ++ [] ↔ m < n ∨ m = n ∧ ([] : List Char) < [] := first.append_lt_append_iff second
  simpa using whole

/-- **Texts that begin with fields of one width** agree in the fields and in what follows. -/
theorem IsField.append_inj (first : IsField width m cs) (second : IsField width n ds)
    (same : cs ++ front = ds ++ back) : m = n ∧ front = back := by
  obtain ⟨rfl, rest⟩ := List.append_inj same (first.length_eq.trans second.length_eq.symm)
  exact ⟨first.unique second, rest⟩

/-! ### Patterns -/

/-- **A text follows a pattern**: any digit stands for a `d`, and every other sign for itself. -/
def Follows (pattern cs : List Char) : Prop :=
  List.Forall₂ (fun sign c => if sign = 'd' then c.isDigit = true else c = sign) pattern cs

instance (pattern cs : List Char) : Decidable (Follows pattern cs) :=
  inferInstanceAs (Decidable (List.Forall₂ _ pattern cs))

theorem Follows.append {pattern more : List Char} (first : Follows pattern cs) (second : Follows more ds) :
    Follows (pattern ++ more) (cs ++ ds) := List.rel_append first second

theorem Follows.cons {pattern : List Char} (sign : Char) (literal : sign ≠ 'd') (rest : Follows pattern cs) :
    Follows (sign :: pattern) (sign :: cs) :=
  List.Forall₂.cons ((if_neg literal).mpr rfl) rest

theorem IsField.follows (field : IsField width n cs) : Follows (List.replicate width 'd') cs := by
  obtain ⟨rfl, digits, -⟩ := field
  induction cs with
  | nil => exact List.Forall₂.nil
  | cons c cs ih =>
    exact List.Forall₂.cons (digits c List.mem_cons_self)
      (ih fun d member => digits d (List.mem_cons_of_mem _ member))

/-- A text holds the same signs as its pattern. -/
theorem Follows.mem_iff {pattern : List Char} {sign : Char} (follows : Follows pattern cs)
    (noDigit : sign.isDigit = false) (literal : sign ≠ 'd') : sign ∈ cs ↔ sign ∈ pattern := by
  unfold Follows at follows
  induction follows with
  | nil => exact Iff.rfl
  | @cons other c pattern cs same _ ih =>
    have head : sign = c ↔ sign = other := by
      by_cases wild : other = 'd'
      · rw [if_pos wild] at same
        refine iff_of_false ?_ (wild ▸ literal)
        rintro rfl
        exact absurd same (by simp [noDigit])
      · rw [if_neg wild] at same
        rw [same]
    rw [List.mem_cons, List.mem_cons, head, ih]

end CatalogSearch.Text
