/-
**The grammar of filter keys.**

A key is a marker that denotes an operator, and behind it a field name. The parts of a text are found without
looking at the operators: the marker ends where the first word character stands, so that there is one way at
most to part a text, whatever markers begin with one another.

* `Operator.Denotes` — the nine markers; `Operator.ofMarker?_eq_some_iff`: the ones that are read;
* `FilterKey.Parts` — the parts of a text; `FilterKey.Parts.unique`: there is one way at most;
* `FilterKey.read_eq_ok_iff`, `read_eq_invalidOperator_iff`, `read_eq_invalidFilterKey_iff` — the three outcomes;
* `FilterKey.read_text` — what is written is read; `FilterKey.text_of_read`: what is read is written, but for the
  sign of equality;
* `FilterKey.read_exact` — all of this together.
-/

import CatalogSearch.Proofs.Filter.OneCondition

namespace CatalogSearch

namespace Operator

/-- **The markers of operators.** -/
inductive Denotes : String → Operator → Prop
  | unmarked : Denotes "" equals
  | equals : Denotes "=" equals
  | notEquals : Denotes "!" notEquals
  | contains : Denotes "%" contains
  | above : Denotes ">" above
  | atLeast : Denotes ">=" atLeast
  | below : Denotes "<" below
  | atMost : Denotes "<=" atMost
  | between : Denotes "><" between

variable {marker : String} {operator : Operator}

theorem ofMarker?_eq_some_iff : ofMarker? marker = some operator ↔ Denotes marker operator := by
  constructor
  · intro known
    unfold ofMarker? at known
    split at known <;> cases known <;> constructor
  · intro denotes
    cases denotes <;> rfl

theorem ofMarker?_eq_none_iff : ofMarker? marker = none ↔ ∀ operator, ¬ Denotes marker operator := by
  simp only [Option.eq_none_iff_forall_ne_some, ne_eq, ofMarker?_eq_some_iff]

theorem denotes_symbol (operator : Operator) : Denotes operator.symbol operator :=
  ofMarker?_eq_some_iff.mp operator.ofMarker?_symbol.1

/-- An operator is marked by its sign, and equality by nothing also. -/
theorem Denotes.eq_symbol (denotes : Denotes marker operator) :
    marker = operator.symbol ∨ marker = "" ∧ operator = .equals := by
  cases denotes
  case unmarked => exact .inr ⟨rfl, rfl⟩
  all_goals exact .inl rfl

/-- No character of a marker is a word character. -/
theorem Denotes.dark (denotes : Denotes marker operator) : ∀ c ∈ marker.toList, Text.isWord c = false := by
  rcases denotes.eq_symbol with rfl | ⟨rfl, -⟩
  · exact operator.ofMarker?_symbol.2
  · exact fun c inside => nomatch inside

end Operator

namespace FilterKey

/-- **A text parted into what stands before its first word character and a field name.** -/
structure Parts (s marker field : String) : Prop where
  joined : s = marker ++ field
  dark : ∀ c ∈ marker.toList, Text.isWord c = false
  named : field ≠ ""
  word : ∀ c ∈ field.toList, Text.isWord c = true

/-- **A text that writes a key**: a marker that denotes the operator, and then the field name. -/
def Writes (s : String) (key : FilterKey) : Prop :=
  ∃ marker, s = marker ++ key.field ∧ Operator.Denotes marker key.operator ∧ key.field ≠ "" ∧
    ∀ c ∈ key.field.toList, Text.isWord c = true

variable {s marker field : String} {key : FilterKey}

theorem split?_eq_some_iff_parts : split? s = some (marker, field) ↔ Parts s marker field := by
  rw [split?_eq_some_iff]
  exact ⟨fun ⟨joined, dark, named, word⟩ => ⟨joined, dark, named, word⟩,
    fun parts => ⟨parts.joined, parts.dark, parts.named, parts.word⟩⟩

/-- **There is one way at most to part a text.** -/
theorem Parts.unique {marker' field' : String} (parts : Parts s marker field) (parts' : Parts s marker' field') :
    marker = marker' ∧ field = field' := by
  have same := (split?_eq_some_iff_parts.mpr parts).symm.trans (split?_eq_some_iff_parts.mpr parts')
  exact Prod.mk.inj (Option.some.inj same)

/-- A text writes a key just if its marker is the operator's. -/
theorem writes_iff : Writes s key ↔ ∃ marker, Parts s marker key.field ∧ Operator.Denotes marker key.operator := by
  constructor
  · rintro ⟨marker, joined, denotes, named, word⟩
    exact ⟨marker, ⟨joined, denotes.dark, named, word⟩, denotes⟩
  · rintro ⟨marker, parts, denotes⟩
    exact ⟨marker, parts.joined, denotes, parts.named, parts.word⟩

/-! ### What is read -/

theorem read_of_parts (parts : Parts s marker field) :
    read s = match Operator.ofMarker? marker with
      | none => .error (.invalidOperator field marker)
      | some operator => .ok ⟨operator, field⟩ := by
  have split := split?_eq_some_iff_parts.mpr parts
  cases known : Operator.ofMarker? marker <;> simp only [read, split, known]

theorem read_of_no_parts (apart : ¬ ∃ marker field, Parts s marker field) :
    read s = .error (.invalidFilterKey s) := by
  have none : split? s = none := by
    refine Option.eq_none_iff_forall_ne_some.mpr fun split found => apart ⟨split.1, split.2, ?_⟩
    exact split?_eq_some_iff_parts.mp found
  unfold read
  rw [none]

/-- **The keys that are read are those that are written.** -/
theorem read_eq_ok_iff : read s = .ok key ↔ Writes s key := by
  by_cases parted : ∃ marker field, Parts s marker field
  · obtain ⟨marker, field, parts⟩ := parted
    rw [writes_iff, read_of_parts parts]
    constructor
    · intro found
      cases known : Operator.ofMarker? marker with
      | none => simp [known] at found
      | some operator =>
        rw [known] at found
        cases found
        exact ⟨marker, parts, Operator.ofMarker?_eq_some_iff.mp known⟩
    · rintro ⟨marker', parts', denotes⟩
      obtain ⟨rfl, rfl⟩ := parts.unique parts'
      rw [Operator.ofMarker?_eq_some_iff.mpr denotes]
  · rw [read_of_no_parts parted, writes_iff]
    constructor
    · intro found
      cases found
    · rintro ⟨marker, parts, -⟩
      exact absurd ⟨marker, key.field, parts⟩ parted

/-- **A marker that denotes nothing is refused**, with the field that stands behind it. -/
theorem read_eq_invalidOperator_iff : read s = .error (.invalidOperator field marker) ↔
    Parts s marker field ∧ ∀ operator, ¬ Operator.Denotes marker operator := by
  rw [← Operator.ofMarker?_eq_none_iff]
  by_cases parted : ∃ marker field, Parts s marker field
  · obtain ⟨marker', field', parts⟩ := parted
    rw [read_of_parts parts]
    constructor
    · intro found
      cases known : Operator.ofMarker? marker' with
      | none =>
        rw [known] at found
        cases found
        exact ⟨parts, known⟩
      | some operator => simp [known] at found
    · rintro ⟨parts', unknown⟩
      obtain ⟨rfl, rfl⟩ := parts.unique parts'
      rw [unknown]
  · rw [read_of_no_parts parted]
    constructor
    · intro found
      cases found
    · rintro ⟨parts, -⟩
      exact absurd ⟨marker, field, parts⟩ parted

/-- **A text without parts is refused as a whole.** -/
theorem read_eq_invalidFilterKey_iff :
    read s = .error (.invalidFilterKey s) ↔ ¬ ∃ marker field, Parts s marker field := by
  refine ⟨fun refused => ?_, read_of_no_parts⟩
  rintro ⟨marker, field, parts⟩
  rw [read_of_parts parts] at refused
  split at refused <;> cases refused

/-! ### What is written -/

/-- **What is written is read.** -/
theorem read_text (named : key.field ≠ "") (word : ∀ c ∈ key.field.toList, Text.isWord c = true) :
    read key.text = .ok key := by
  refine read_eq_ok_iff.mpr ?_
  obtain ⟨operator, field⟩ := key
  cases operator
  case equals => exact ⟨"", String.empty_append.symm, .unmarked, named, word⟩
  all_goals exact ⟨_, rfl, Operator.denotes_symbol _, named, word⟩

/-- **What is read is written**, but for a sign of equality. -/
theorem text_of_read (found : read s = .ok key) :
    key.text.toList = if s.toList.head? = some '=' then s.toList.tail else s.toList := by
  obtain ⟨marker, rfl, denotes, named, word⟩ := read_eq_ok_iff.mp found
  obtain ⟨operator, field⟩ := key
  -- a field name does not begin with the sign, so that only the marker can
  have first : field.toList.head? ≠ some '=' := by
    intro sign
    have letter := word '=' (List.mem_of_mem_head? sign)
    exact absurd letter (by decide)
  cases denotes
  case unmarked =>
    rw [String.empty_append, if_neg first]
    rfl
  all_goals simp [text, Operator.symbol]

/-- **The grammar of filter keys.** A text is read as a key just if it is a marker that denotes the operator,
followed by the field name; if another marker stands before a field name, which parts the text in one way only,
the operator is refused, and all else is no key. A key that is read is written as it was, but for a sign of
equality, and what is written is read again. No character of a marker is one of a field name. -/
theorem read_exact (s : String) :
    (∀ key, read s = .ok key ↔ Writes s key) ∧
    (∀ marker field, read s = .error (.invalidOperator field marker) ↔
      Parts s marker field ∧ ∀ operator, ¬ Operator.Denotes marker operator) ∧
    (∀ marker field marker' field', Parts s marker field → Parts s marker' field' →
      marker = marker' ∧ field = field') ∧
    (read s = .error (.invalidFilterKey s) ↔ (¬ ∃ key, Writes s key) ∧
      ¬ ∃ marker field, Parts s marker field ∧ ∀ operator, ¬ Operator.Denotes marker operator) ∧
    (∀ key, read s = .ok key → read key.text = .ok key ∧
      key.text.toList = if s.toList.head? = some '=' then s.toList.tail else s.toList) ∧
    ∀ marker operator, Operator.Denotes marker operator → ∀ c ∈ marker.toList, Text.isWord c = false := by
  refine ⟨fun key => read_eq_ok_iff, fun marker field => read_eq_invalidOperator_iff,
    fun _ _ _ _ => Parts.unique, ?_, ?_, fun _ _ => Operator.Denotes.dark⟩
  · rw [read_eq_invalidFilterKey_iff]
    constructor
    · intro apart
      refine ⟨?_, fun ⟨marker, field, parts, _⟩ => apart ⟨marker, field, parts⟩⟩
      rintro ⟨key, written⟩
      obtain ⟨marker, parts, -⟩ := writes_iff.mp written
      exact apart ⟨marker, key.field, parts⟩
    · rintro ⟨unwritten, unmarked⟩ ⟨marker, field, parts⟩
      -- the marker denotes an operator or it does not
      refine unmarked ⟨marker, field, parts, fun operator denotes => unwritten ⟨⟨operator, field⟩, ?_⟩⟩
      exact writes_iff.mpr ⟨marker, parts, denotes⟩
  · intro key found
    obtain ⟨marker, -, -, named, word⟩ := read_eq_ok_iff.mp found
    exact ⟨read_text named word, text_of_read found⟩

/-- A name of letters past ASCII behind the longer of two signs, and behind a sign of equality that is not
written again. -/
theorem read_exact_cyrillic :
    read ">=ЦЕНА_1" = .ok ⟨.atLeast, "ЦЕНА_1"⟩ ∧ read "=ЦЕНА_1" = .ok ⟨.equals, "ЦЕНА_1"⟩ ∧
      read (text ⟨.atLeast, "ЦЕНА_1"⟩) = .ok ⟨.atLeast, "ЦЕНА_1"⟩ ∧
      (text ⟨.equals, "ЦЕНА_1"⟩).toList = "=ЦЕНА_1".toList.tail := by
  have range : read ">=ЦЕНА_1" = .ok ⟨.atLeast, "ЦЕНА_1"⟩ := by decide +kernel
  have single : read "=ЦЕНА_1" = .ok ⟨.equals, "ЦЕНА_1"⟩ := by decide +kernel
  obtain ⟨-, -, -, -, again, -⟩ := read_exact ">=ЦЕНА_1"
  obtain ⟨-, -, -, -, once, -⟩ := read_exact "=ЦЕНА_1"
  exact ⟨range, single, (again _ range).1, (once _ single).2⟩

end FilterKey
end CatalogSearch
