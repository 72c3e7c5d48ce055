/-
**The grammar of sort directives.**

A directive is the word of a direction, perhaps with `nulls ,` before it or `, nulls` behind it, and with blanks
around every word and comma. A text is parted at both sides of the direction before either part is asked for, so
that one that names nulls twice is parted like the others and refused at the end.

* `Text.IsCaseOf`, `Text.FoldsTo` — the letters that stand for a small one; `SortDirective.fold_eq_iff`: those of
  the word `nulls` are told by simple case folding;
* `SortDirective.Writes` — the texts that write a directive, in three forms; `SortDirective.NamesTwice` — those that
  name nulls on both sides;
* `SortDirective.Parts` — all of these with their parts; `SortDirective.parts?_of_parts`, `exists_parts`: a text has
  parts just if it is parted, and then in one way;
* `SortDirective.read_eq_ok_iff`, `read_eq_error_iff` — the two outcomes;
* `SortCompiler.unresolved_of_compile` — a sort of sound directives fails at names that the schema does not resolve;
* `SortDirective.directives_exact` — the grammar, and the default sort of settings that can be used.
-/

import CatalogSearch.Proofs.Strict
import CatalogSearch.Proofs.Text.Digits
import CatalogSearch.Settings
import Mathlib.Data.List.TakeWhile

namespace CatalogSearch

/-! ### Letters -/

namespace Text

/-- A small letter of ASCII, or its capital. -/
def IsCaseOf (c letter : Char) : Prop := c = letter ∨ c = letter.toUpper

/-- **What simple case folding turns into a small letter of ASCII**: the letter in either case, and for two of them a
third one, the long s and the sign of the kelvin. -/
inductive FoldsTo : Char → Char → Prop
  | either {c letter : Char} (either : IsCaseOf c letter) : FoldsTo c letter
  | longS : FoldsTo 'ſ' 's'
  | kelvin : FoldsTo (Char.ofNat 0x212A) 'k'

/-- Blanks and nothing else. -/
def Blanks (cs : List Char) : Prop := ∀ c ∈ cs, isBlank c = true

theorem toNat_toLower (c : Char) :
    c.toLower.toNat = if 65 ≤ c.toNat ∧ c.toNat ≤ 90 then c.toNat + 32 else c.toNat := by
  unfold Char.toLower
  split
  · next capital =>
    have bounds : 65 ≤ c.toNat ∧ c.toNat ≤ 90 := capital
    have sum : (c.val + 32).toNat = (c.toNat + 32) % 4294967296 := UInt32.toNat_add c.val 32
    rw [if_pos bounds]
    exact sum.trans (Nat.mod_eq_of_lt (by omega))
  · next other => exact (if_neg other).symm

theorem toNat_toUpper (c : Char) :
    c.toUpper.toNat = if 97 ≤ c.toNat ∧ c.toNat ≤ 122 then c.toNat - 32 else c.toNat := by
  unfold Char.toUpper
  split
  · next small =>
    have bounds : 97 ≤ c.toNat ∧ c.toNat ≤ 122 := small
    -- the distance between the cases is added as its complement
    have sum : (c.val + (65 - 97)).toNat = (c.toNat + 4294967264) % 4294967296 := UInt32.toNat_add c.val _
    rw [if_pos bounds]
    exact sum.trans (by omega)
  · next other => exact (if_neg other).symm

/-- **A letter becomes a small one if it is that in either case.** -/
theorem toLower_eq_iff {c letter : Char} (small : letter.isLower = true) :
    c.toLower = letter ↔ IsCaseOf c letter := by
  have bounds := isLower_iff.mp small
  rw [IsCaseOf, ← Char.toNat_inj, ← Char.toNat_inj, ← Char.toNat_inj, toNat_toLower, toNat_toUpper,
    if_pos bounds]
  split <;> omega

/-- A word is told letter by letter. -/
theorem map_eq_iff_forall₂ {f : Char → Char} {related : Char → Char → Prop} {letters word : List Char}
    (each : ∀ letter ∈ letters, ∀ c, f c = letter ↔ related c letter) :
    word.map f = letters ↔ List.Forall₂ related word letters := by
  induction letters generalizing word with
  | nil => cases word <;> simp
  | cons letter letters ih =>
    obtain ⟨here, later⟩ := List.forall_mem_cons.mp each
    cases word with
    | nil => simp
    | cons c word => rw [List.map_cons, List.cons.injEq, List.forall₂_cons, here, ih later]

theorem exists_trimLeft (cs : List Char) : ∃ blanks, cs = blanks ++ trimLeft cs ∧ Blanks blanks :=
  ⟨cs.takeWhile isBlank, List.takeWhile_append_dropWhile.symm, List.all_eq_true.mp List.all_takeWhile⟩

theorem trimLeft_eq_nil_iff {cs : List Char} : trimLeft cs = [] ↔ Blanks cs := by
  rw [trimLeft, List.dropWhile_eq_nil_iff]
  rfl

end Text

open Text

/-- The word of a direction, in letters of either case. -/
def SortOrder.IsWord (order : SortOrder) (word : List Char) : Prop :=
  List.Forall₂ IsCaseOf word order.text.toList

namespace SortDirective

/-- The word `nulls`, told by simple case folding. -/
def IsNulls (word : List Char) : Prop := List.Forall₂ FoldsTo word "nulls".toList

/-- A comma with blanks around it. -/
def IsComma (cs : List Char) : Prop :=
  ∃ before behind, cs = before ++ ',' :: behind ∧ Blanks before ∧ Blanks behind

/-- **The texts that write a directive**: the direction alone, with the nulls before it, or with the nulls behind
it. -/
inductive Writes : List Char → SortOrder → NullOrder → Prop
  | plain {order : SortOrder} {before word behind : List Char} (blank : Blanks before)
      (spelled : order.IsWord word) (blank' : Blanks behind) : Writes (before ++ word ++ behind) order .unspecified
  | first {order : SortOrder} {before nulls comma word behind : List Char} (blank : Blanks before)
      (named : IsNulls nulls) (parted : IsComma comma) (spelled : order.IsWord word) (blank' : Blanks behind) :
      Writes (before ++ nulls ++ comma ++ word ++ behind) order .first
  | last {order : SortOrder} {before word comma nulls behind : List Char} (blank : Blanks before)
      (spelled : order.IsWord word) (parted : IsComma comma) (named : IsNulls nulls) (blank' : Blanks behind) :
      Writes (before ++ word ++ comma ++ nulls ++ behind) order .last

/-- A text that names nulls on both sides of a direction. -/
inductive NamesTwice : List Char → Prop
  | both {order : SortOrder} {before nulls comma word comma' nulls' behind : List Char} (blank : Blanks before)
      (named : IsNulls nulls) (parted : IsComma comma) (spelled : order.IsWord word) (parted' : IsComma comma')
      (named' : IsNulls nulls') (blank' : Blanks behind) :
      NamesTwice (before ++ nulls ++ comma ++ word ++ comma' ++ nulls' ++ behind)

/-! ### Words and commas -/

variable {order : SortOrder} {nulls : NullOrder} {first last : Bool} {cs word comma rest : List Char}

theorem fold_eq_iff {letter : Char} (inside : letter ∈ "nulls".toList) (c : Char) :
    fold c = letter ↔ FoldsTo c letter := by
  have each : ∀ letter ∈ ['n', 'u', 'l', 'l', 's'], letter.isLower = true ∧ letter ≠ 'k' ∧
      ¬IsCaseOf 'ſ' letter := by
    unfold IsCaseOf
    simp only [List.forall_mem_cons, List.not_mem_nil, false_imp_iff, implies_true, and_true]
    decide
  obtain ⟨small, other, short⟩ := each letter inside
  unfold fold
  split
  · next long =>
    obtain rfl : c = 'ſ' := Char.toNat_inj.mp long
    constructor
    · rintro rfl
      exact .longS
    · intro folds
      cases folds with
      | either either => exact absurd either short
      | longS => rfl
  · next long =>
    rw [toLower_eq_iff small]
    refine ⟨.either, fun folds => ?_⟩
    cases folds with
    | either either => exact either
    | longS => exact absurd rfl long
    | kelvin => exact absurd rfl other

theorem isNulls_iff : word.map fold = "nulls".toList ↔ IsNulls word :=
  map_eq_iff_forall₂ fun _ inside => fold_eq_iff inside

theorem isWord_iff : word.map Char.toLower = order.text.toList ↔ order.IsWord word := by
  have small : ∀ letter ∈ order.text.toList, letter.isLower = true :=
    List.all_eq_true.mp (by cases order <;> rfl)
  exact map_eq_iff_forall₂ fun letter inside _ => toLower_eq_iff (small letter inside)

/-- The word of nulls begins with no blank. -/
theorem IsNulls.dark (named : IsNulls word) (rest : List Char) :
    ∀ c ∈ (word ++ rest).head?, isBlank c = false := by
  obtain ⟨c, others, folds, -, rfl⟩ := List.forall₂_cons_right_iff.mp named
  rintro d ⟨⟩
  cases folds with
  | either either => rcases either with rfl | rfl <;> decide

/-- The word of a direction begins with no blank, and with another letter than the word of nulls. -/
theorem head_of_isWord (spelled : order.IsWord word) (rest : List Char) :
    ∀ c ∈ (word ++ rest).head?, isBlank c = false ∧ fold c ≠ 'n' := by
  cases order with
  | asc =>
    obtain ⟨c, others, either, -, rfl⟩ := List.forall₂_cons_right_iff.mp spelled
    rintro d ⟨⟩
    rcases either with rfl | rfl <;> decide
  | desc =>
    obtain ⟨c, others, either, -, rfl⟩ := List.forall₂_cons_right_iff.mp spelled
    rintro d ⟨⟩
    rcases either with rfl | rfl <;> decide

theorem afterNulls?_append (named : IsNulls word) (rest : List Char) : afterNulls? (word ++ rest) = some rest := by
  have five : word.length = 5 := named.length_eq
  rw [afterNulls?, List.take_left' five, List.drop_left' five, if_pos (isNulls_iff.mpr named)]

theorem exists_of_afterNulls? (found : afterNulls? cs = some rest) :
    ∃ word, cs = word ++ rest ∧ IsNulls word := by
  unfold afterNulls? at found
  split at found
  · next named =>
    cases found
    exact ⟨cs.take 5, (List.take_append_drop 5 cs).symm, isNulls_iff.mp named⟩
  · cases found

theorem afterComma?_append (parted : IsComma comma) (dark : ∀ c ∈ rest.head?, isBlank c = false) :
    afterComma? (comma ++ rest) = some rest := by
  obtain ⟨before, behind, rfl, blank, blank'⟩ := parted
  have opened : trimLeft (before ++ ',' :: (behind ++ rest)) = ',' :: (behind ++ rest) :=
    dropWhile_run blank fun _ first => by cases first; decide
  have closed : trimLeft (behind ++ rest) = rest := dropWhile_run blank' dark
  rw [List.append_assoc, List.cons_append, afterComma?, opened]
  exact congrArg some closed

theorem exists_of_afterComma? (found : afterComma? cs = some rest) :
    ∃ comma, cs = comma ++ rest ∧ IsComma comma := by
  unfold afterComma? at found
  split at found
  · next behind shown =>
    cases found
    obtain ⟨before, whole, blank⟩ := exists_trimLeft cs
    obtain ⟨between, later, blank'⟩ := exists_trimLeft behind
    refine ⟨before ++ ',' :: between, ?_, before, between, rfl, blank, blank'⟩
    rw [List.append_assoc, List.cons_append, ← later, ← shown, ← whole]
  · cases found

theorem afterComma?_of_blanks (blank : Blanks cs) : afterComma? cs = none := by
  rw [afterComma?, trimLeft_eq_nil_iff.mpr blank]

theorem order?_append (spelled : order.IsWord word) (rest : List Char) :
    order? (word ++ rest) = some (order, rest) := by
  cases order with
  | asc =>
    have named : word.map Char.toLower = "asc".toList := isWord_iff.mpr spelled
    have three : word.length = 3 := spelled.length_eq
    rw [order?, List.take_left' three, List.drop_left' three, if_pos named]
  | desc =>
    have named : word.map Char.toLower = "desc".toList := isWord_iff.mpr spelled
    have four : word.length = 4 := spelled.length_eq
    -- the first letter tells the two words apart
    have other : ((word ++ rest).take 3).map Char.toLower ≠ "asc".toList := by
      rw [List.take_append_of_le_length (by omega), List.map_take, named]
      decide
    rw [order?, if_neg other, List.take_left' four, List.drop_left' four, if_pos named]

theorem exists_of_order? (found : order? cs = some (order, rest)) :
    ∃ word, cs = word ++ rest ∧ order.IsWord word := by
  unfold order? at found
  split at found
  · next named =>
    cases found
    exact ⟨cs.take 3, (List.take_append_drop 3 cs).symm, isWord_iff.mp named⟩
  · split at found
    · next named =>
      cases found
      exact ⟨cs.take 4, (List.take_append_drop 4 cs).symm, isWord_iff.mp named⟩
    · cases found

/-! ### The parts of a text -/

/-- What can stand before the word of a direction: nothing, or the nulls and a comma. -/
inductive Front : Bool → List Char → Prop
  | nothing : Front false []
  | nulls {word comma : List Char} (named : IsNulls word) (parted : IsComma comma) : Front true (word ++ comma)

/-- What can stand behind the word of a direction: nothing, or a comma and the nulls. -/
inductive Back : Bool → List Char → Prop
  | nothing : Back false []
  | nulls {comma word : List Char} (parted : IsComma comma) (named : IsNulls word) : Back true (comma ++ word)

/-- **A text with its parts**: whether nulls are named before the direction, and whether behind it. -/
inductive Parts (first : Bool) (order : SortOrder) (last : Bool) : List Char → Prop
  | parts {before front word back behind : List Char} (blank : Blanks before) (begins : Front first front)
      (spelled : order.IsWord word) (ends : Back last back) (blank' : Blanks behind) :
      Parts first order last (before ++ (front ++ (word ++ (back ++ behind))))

/-- The place of empty values that the two sides of a direction give; they cannot both. -/
def placement? : Bool → Bool → Option NullOrder
  | false, false => some .unspecified
  | true, false => some .first
  | false, true => some .last
  | true, true => none

theorem leading_append {front : List Char} (begins : Front first front) (spelled : order.IsWord word)
    (rest : List Char) :
    leading (front ++ (word ++ rest)) = (first, word ++ rest) := by
  have head := head_of_isWord spelled rest
  cases begins with
  | nothing =>
    have absent : afterNulls? (word ++ rest) = none := by
      refine if_neg fun named => ?_
      cases shown : word ++ rest with
      | nil => simp [shown] at named
      | cons c others =>
        rw [shown] at head named
        exact (head c rfl).2 (List.cons.inj named).1
    rw [List.nil_append, leading, absent, Option.bind_none]
  | nulls named parted =>
    have behind := afterComma?_append parted fun c shown => (head c shown).1
    rw [List.append_assoc, leading, afterNulls?_append named, Option.bind_some, behind]

theorem exists_of_leading (cs : List Char) :
    ∃ front, cs = front ++ (leading cs).2 ∧ Front (leading cs).1 front := by
  unfold leading
  split
  · next rest found =>
    obtain ⟨middle, named, parted⟩ := Option.bind_eq_some_iff.mp found
    obtain ⟨word, rfl, isNulls⟩ := exists_of_afterNulls? named
    obtain ⟨comma, rfl, isComma⟩ := exists_of_afterComma? parted
    exact ⟨word ++ comma, (List.append_assoc ..).symm, .nulls isNulls isComma⟩
  · exact ⟨[], rfl, .nothing⟩

theorem trailing_append {back behind : List Char} (ends : Back last back) (blank : Blanks behind) :
    trailing (back ++ behind) = (last, behind) := by
  cases ends with
  | nothing => rw [List.nil_append, trailing, afterComma?_of_blanks blank, Option.bind_none]
  | nulls parted named =>
    rw [List.append_assoc, trailing, afterComma?_append parted (named.dark behind), Option.bind_some,
      afterNulls?_append named]

theorem exists_of_trailing (cs : List Char) :
    ∃ back, cs = back ++ (trailing cs).2 ∧ Back (trailing cs).1 back := by
  unfold trailing
  split
  · next rest found =>
    obtain ⟨middle, parted, named⟩ := Option.bind_eq_some_iff.mp found
    obtain ⟨comma, rfl, isComma⟩ := exists_of_afterComma? parted
    obtain ⟨word, rfl, isNulls⟩ := exists_of_afterNulls? named
    exact ⟨comma ++ word, (List.append_assoc ..).symm, .nulls isComma isNulls⟩
  · exact ⟨[], rfl, .nothing⟩

/-- What stands behind the blanks at the start begins with no blank. -/
theorem Front.dark {front : List Char} (begins : Front first front) (spelled : order.IsWord word)
    (rest : List Char) :
    ∀ c ∈ (front ++ (word ++ rest)).head?, isBlank c = false := by
  cases begins with
  | nothing => exact fun c shown => (head_of_isWord spelled rest c shown).1
  | nulls named parted =>
    rw [List.append_assoc]
    exact named.dark _

/-- A text is parted from the left; what is left over must be blank. -/
theorem parts?_eq (text : String) : parts? text =
    (order? (leading (trimLeft text.toList)).2).bind fun directed =>
      if trimLeft (trailing directed.2).2 = [] then
        (placement? (leading (trimLeft text.toList)).1 (trailing directed.2).1).map (directed.1, ·)
      else none := by
  rw [parts?]
  generalize leading (trimLeft text.toList) = led
  obtain ⟨first, cs⟩ := led
  simp only
  cases order? cs with
  | none => rfl
  | some directed =>
    obtain ⟨order, rest⟩ := directed
    simp only [Option.bind_eq_bind, Option.bind_some]
    generalize trailing rest = trailed
    obtain ⟨last, behind⟩ := trailed
    cases trimLeft behind <;> cases first <;> cases last <;> rfl

/-- **A text with parts is parted so.** -/
theorem parts?_of_parts {text : String} (parts : Parts first order last text.toList) :
    parts? text = (placement? first last).map (order, ·) := by
  generalize chars : text.toList = cs at parts
  obtain @⟨before, front, word, back, behind, blank, begins, spelled, ends, blank'⟩ := parts
  have trimmed : trimLeft (before ++ (front ++ (word ++ (back ++ behind)))) =
      front ++ (word ++ (back ++ behind)) :=
    dropWhile_run blank (begins.dark spelled (back ++ behind))
  rw [parts?_eq, chars, trimmed, leading_append begins spelled, order?_append spelled, Option.bind_some,
    trailing_append ends blank', if_pos (trimLeft_eq_nil_iff.mpr blank')]

/-- **A text that is parted has parts.** -/
theorem exists_parts {text : String} (found : parts? text = some (order, nulls)) :
    ∃ first last, Parts first order last text.toList ∧ placement? first last = some nulls := by
  rw [parts?_eq] at found
  obtain ⟨⟨order', rest⟩, directed, found⟩ := Option.bind_eq_some_iff.mp found
  split at found
  · next empty =>
    obtain ⟨nulls', placed, same⟩ := Option.map_eq_some_iff.mp found
    cases same
    obtain ⟨before, whole, blank⟩ := exists_trimLeft text.toList
    obtain ⟨front, opened, begins⟩ := exists_of_leading (trimLeft text.toList)
    obtain ⟨word, spelt, spelled⟩ := exists_of_order? directed
    obtain ⟨back, closed, ends⟩ := exists_of_trailing rest
    have parts := Parts.parts blank begins spelled ends (trimLeft_eq_nil_iff.mp empty)
    rw [← closed, ← spelt, ← opened, ← whole] at parts
    exact ⟨_, _, parts, placed⟩
  · cases found

/-- A text writes a directive if its parts do not both name nulls. -/
theorem writes_iff : Writes cs order nulls ↔
    ∃ first last, Parts first order last cs ∧ placement? first last = some nulls := by
  constructor
  · intro writes
    cases writes with
    | plain blank spelled blank' =>
      have parts := Parts.parts blank .nothing spelled .nothing blank'
      exact ⟨false, false, by simpa using parts, rfl⟩
    | first blank named parted spelled blank' =>
      have parts := Parts.parts blank (.nulls named parted) spelled .nothing blank'
      exact ⟨true, false, by simpa using parts, rfl⟩
    | last blank spelled parted named blank' =>
      have parts := Parts.parts blank .nothing spelled (.nulls parted named) blank'
      exact ⟨false, true, by simpa using parts, rfl⟩
  · rintro ⟨first, last, ⟨blank, begins, spelled, ends, blank'⟩, placed⟩
    cases begins with
    | nothing =>
      cases ends with
      | nothing =>
        cases placed
        simpa using Writes.plain blank spelled blank'
      | nulls parted named =>
        cases placed
        simpa using Writes.last blank spelled parted named blank'
    | nulls named parted =>
      cases ends with
      | nothing =>
        cases placed
        simpa using Writes.first blank named parted spelled blank'
      | nulls => cases placed

/-! ### What is read -/

variable {field text : String} {directive : SortDirective}

theorem parts?_eq_some_iff : parts? text = some (order, nulls) ↔ Writes text.toList order nulls := by
  rw [writes_iff]
  refine ⟨exists_parts, ?_⟩
  rintro ⟨first, last, parts, placed⟩
  rw [parts?_of_parts parts, placed, Option.map_some]

/-- **The directives that are read are those that are written.** -/
theorem read_eq_ok_iff :
    read field text = .ok directive ↔
      directive.field = field ∧ Writes text.toList directive.order directive.nulls := by
  obtain ⟨name, order, nulls⟩ := directive
  rw [← parts?_eq_some_iff]
  cases found : parts? text with
  | none => simp [read, found]
  | some pair =>
    obtain ⟨order', nulls'⟩ := pair
    simp [read, found, eq_comm]

/-- **All else is refused as a whole.** -/
theorem read_eq_error_iff {error : Error} : read field text = .error error ↔
    error = .invalidSortFormat text ∧ ¬ ∃ order nulls, Writes text.toList order nulls := by
  simp only [← parts?_eq_some_iff]
  cases found : parts? text with
  | none => simp [read, found, eq_comm]
  | some pair =>
    obtain ⟨order', nulls'⟩ := pair
    simp [read, found]

theorem NamesTwice.exists_parts (twice : NamesTwice cs) : ∃ order, Parts true order true cs := by
  obtain @⟨order, _, _, _, _, _, _, _, blank, named, parted, spelled, parted', named', blank'⟩ := twice
  have parts := Parts.parts blank (.nulls named parted) spelled (.nulls parted' named') blank'
  exact ⟨order, by simpa using parts⟩

/-- **A text that names nulls on both sides writes nothing.** -/
theorem NamesTwice.not_writes (twice : NamesTwice text.toList) : ¬ Writes text.toList order nulls := by
  intro writes
  obtain ⟨order', parts⟩ := twice.exists_parts
  have refused : parts? text = none := parts?_of_parts parts
  cases refused.symm.trans (parts?_eq_some_iff.mpr writes)

end SortDirective

/-! ### Sorts of sound directives -/

variable {schema : Schema} {error : Error}

/-- A name that is not resolved is unknown, or an alias that does not lead to a field. -/
theorem Schema.fault_of_resolve {name : String} (failed : schema.resolve name = .error error) :
    error = .unknownProperty name ∨ ∃ path, error = .invalidAliasPath name path := by
  unfold resolve at failed
  split at failed
  · cases failed
    exact .inl rfl
  · split at failed
    · split at failed
      · cases failed
        exact .inr ⟨_, rfl⟩
      · split at failed
        · split at failed <;> cases failed
          exact .inr ⟨_, rfl⟩
        · cases failed
          exact .inr ⟨_, rfl⟩
    · cases failed

/-- A directive has clauses unless its field is not resolved. -/
theorem SortDirective.resolve_of_clauses {directive : SortDirective}
    (failed : directive.clauses schema = .error error) : schema.resolve directive.field = .error error := by
  unfold clauses at failed
  cases resolved : schema.resolve directive.field with
  | error fault =>
    rw [resolved] at failed
    cases failed
    rfl
  | ok field =>
    obtain ⟨property, found, -⟩ := Schema.find?_of_resolve resolved
    have got : schema.get field = .ok property := by rw [Schema.get, found]
    rw [resolved] at failed
    simp only [bind, Except.bind, got] at failed
    cases failed

/-- **A sort of sound directives fails at a name that is not resolved**, if at all. -/
theorem SortCompiler.unresolved_of_compile {pairs : List (String × String)}
    (sound : ∀ pair ∈ pairs, ∃ directive, SortDirective.read pair.1 pair.2 = .ok directive)
    (failed : (compile ⟨.strict⟩ schema pairs).result = .error error) :
    ∃ pair ∈ pairs, schema.resolve pair.1 = .error error := by
  rw [compile, Logged.result_andThen] at failed
  have stopped : (Logged.filterMap (fun pair : String × String =>
      Mode.strict.keep (.droppedSort pair.1) (compileOne schema pair.1 pair.2)) pairs).result = .error error := by
    generalize Logged.result _ = outcome at failed ⊢
    cases outcome with
    | error fault =>
      cases failed
      rfl
    | ok clauses => cases failed
  obtain ⟨pair, inside, failed⟩ := Mode.exists_of_keep_strict stopped
  obtain ⟨directive, known⟩ := sound pair inside
  obtain ⟨named, -⟩ := SortDirective.read_eq_ok_iff.mp known
  have unresolved : directive.clauses schema = .error error := by
    rw [compileOne, known] at failed
    exact failed
  exact ⟨pair, inside, named ▸ SortDirective.resolve_of_clauses unresolved⟩

/-- The directives of settings that can be used are sound. -/
theorem Settings.exists_read_of_usable {settings : Settings} (usable : settings.fault? = none) :
    ∀ pair ∈ settings.compiler.defaultSort, ∃ directive, SortDirective.read pair.1 pair.2 = .ok directive := by
  intro pair inside
  unfold fault? at usable
  split at usable
  · cases usable
  · next silent =>
    have clean := List.findSome?_eq_none_iff.mp silent pair inside
    cases outcome : SortDirective.read pair.1 pair.2 with
    | ok directive => exact ⟨directive, rfl⟩
    | error fault =>
      simp only [outcome] at clean
      cases clean

/-- **The grammar of sort directives.** A text is read as a directive just if it writes one, in one of the three
forms, and all else is refused with the text itself, above all what names nulls on both sides. So the default sort of
settings that can be used fails in the strict mode, under whatever schema, only at a name of it that is unknown or an
alias that does not lead to a field. -/
theorem SortDirective.directives_exact :
    (∀ field text : String,
      (∀ directive, read field text = .ok directive ↔
        directive.field = field ∧ Writes text.toList directive.order directive.nulls) ∧
      (∀ error, read field text = .error error ↔
        error = .invalidSortFormat text ∧ ¬ ∃ order nulls, Writes text.toList order nulls) ∧
      (NamesTwice text.toList → read field text = .error (.invalidSortFormat text))) ∧
    ∀ settings : Settings, settings.fault? = none → ∀ (schema : Schema) (error : Error),
      (SortCompiler.compile ⟨.strict⟩ schema settings.compiler.defaultSort).result = .error error →
      ∃ pair ∈ settings.compiler.defaultSort, schema.resolve pair.1 = .error error ∧
        (error = .unknownProperty pair.1 ∨ ∃ path, error = .invalidAliasPath pair.1 path) := by
  refine ⟨fun field text => ⟨fun _ => read_eq_ok_iff, fun _ => read_eq_error_iff, fun twice => ?_⟩, ?_⟩
  · refine read_eq_error_iff.mpr ⟨rfl, ?_⟩
    rintro ⟨order, nulls, writes⟩
    exact twice.not_writes writes
  · intro settings usable schema error failed
    have sound := settings.exists_read_of_usable usable
    obtain ⟨pair, inside, unresolved⟩ := SortCompiler.unresolved_of_compile sound failed
    exact ⟨pair, inside, unresolved, Schema.fault_of_resolve unresolved⟩

/-- A default sort with a long s in the word of nulls and blanks at the comma, whose second name is an alias of a
field that the schema does not have; and the sample of a text with nulls on both sides. -/
theorem SortDirective.directives_exact_alias :
    let settings : Settings := { compiler := { defaultSort := [("ID", " Nullſ\t, DESC"), ("SHADE", "asc ,nulls ")] } }
    let schema : Schema := ⟨[("ID", .ofKind .integer), ("SHADE", .ofAlias "COLOR")], by decide⟩
    Writes " Nullſ\t, DESC".toList .desc .first ∧
      read "ID" "nulls,asc,nulls" = .error (.invalidSortFormat "nulls,asc,nulls") ∧
      settings.fault? = none ∧
      (SortCompiler.compile ⟨.strict⟩ schema settings.compiler.defaultSort).result =
        .error (.invalidAliasPath "SHADE" (some "COLOR")) ∧
      ∃ pair ∈ settings.compiler.defaultSort,
        schema.resolve pair.1 = .error (.invalidAliasPath "SHADE" (some "COLOR")) := by
  intro settings schema
  obtain ⟨grammar, usable⟩ := directives_exact
  have written := ((grammar "ID" " Nullſ\t, DESC").1 ⟨"ID", .desc, .first⟩).mp (by decide +kernel)
  have twice : NamesTwice "nulls,asc,nulls".toList := by
    have named : IsNulls "nulls".toList := isNulls_iff.mp (by decide)
    have spelled : SortOrder.asc.IsWord "asc".toList := isWord_iff.mp (by decide)
    have blank : Blanks [] := List.forall_mem_nil _
    have parted : IsComma ",".toList := ⟨[], [], rfl, blank, blank⟩
    exact .both blank named parted spelled parted named blank
  have sound : settings.fault? = none := by decide +kernel
  have failed : (SortCompiler.compile ⟨.strict⟩ schema settings.compiler.defaultSort).result =
      .error (.invalidAliasPath "SHADE" (some "COLOR")) := by decide +kernel
  obtain ⟨pair, inside, unresolved, -⟩ := usable settings sound schema _ failed
  exact ⟨written.2, (grammar "ID" "nulls,asc,nulls").2.2 twice, sound, failed, pair, inside, unresolved⟩

end CatalogSearch
