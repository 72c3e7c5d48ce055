/-
**What the range of two numbers spans.**

The lower limit of a `><` condition is the number whose nearest double is the lesser. Doubles are ordered as
numbers are, so the limits are the lesser and the greater of the two numbers, in either order, unless the two
have one nearest double and differ. Then each order of the two gives the limits in that order, and one of
these ranges is empty.

* `Bounds.Spans` — the limits are the lesser and the greater of two numbers, by their exact values;
* `Number.Alike` — both numbers are integers, or both are doubles, as the values of one field are;
* `Number.limits` — the limits that two numbers are given; `Number.spans_limits_iff`: when they span them;
* `FilterCompiler.between_spans_iff` — the queries of both orders.
-/

import CatalogSearch.Proofs.Filter.OneCondition
import CatalogSearch.Proofs.Number.Value
import CatalogSearch.Proofs.Schema.Idempotence

namespace CatalogSearch

/-- **The range from the lesser of two numbers to the greater one**, both included. -/
def Bounds.Spans (bounds : Bounds) (a b : Number) : Prop :=
  ∃ low high : Number, bounds = { atLeast := some (.number low), atMost := some (.number high) } ∧
    low.value = min a.value b.value ∧ high.value = max a.value b.value

theorem Bounds.Spans.symm {bounds : Bounds} {a b : Number} (spans : bounds.Spans a b) : bounds.Spans b a := by
  obtain ⟨low, high, same, least, most⟩ := spans
  exact ⟨low, high, same, least.trans (min_comm _ _), most.trans (max_comm _ _)⟩

namespace Number

/-- Both numbers are integers, or both are doubles. -/
inductive Alike : Number → Number → Prop
  | ints (m n : WordInt) : Alike (.int m) (.int n)
  | floats (x y : Binary64) : Alike (.float x) (.float y)

variable {a b : Number}

theorem Alike.symm (alike : Alike a b) : Alike b a := by
  cases alike with
  | ints m n => exact .ints n m
  | floats x y => exact .floats y x

/-- **Of two numbers that are told apart the one that comes after is the greater.** -/
theorem value_lt_of_order_lt (alike : Alike a b) (less : a.order < b.order) : a.value < b.value := by
  cases alike with
  | ints m n =>
    have apart : m.val < n.val := by
      by_contra reverse
      exact absurd less (not_lt.mpr (Binary64.order_ofInt_mono (not_lt.mp reverse)))
    exact Int.cast_lt.mpr apart
  | floats x y => exact Binary64.order_lt_iff.mp less

/-- Two numbers of one sort are told apart by their nearest doubles if neither is larger than `2 ^ 53`. -/
theorem value_eq_of_order_eq (alike : Alike a b) (first : |a.value| ≤ 2 ^ 53) (second : |b.value| ≤ 2 ^ 53)
    (same : a.order = b.order) : a.value = b.value := by
  cases alike with
  | ints m n =>
    have short : ∀ k : WordInt, |(Number.int k).value| ≤ 2 ^ 53 → k.val.natAbs ≤ 2 ^ 53 := by
      intro k bounded
      have cast : |(k.val : ℚ)| ≤ 2 ^ 53 := bounded
      have whole : |k.val| ≤ 2 ^ 53 := by exact_mod_cast cast
      rw [Int.abs_eq_natAbs] at whole
      omega
    have equal := Binary64.order_eq_iff.mp same
    rw [toBinary64, toBinary64, Binary64.value_ofInt (short m first),
      Binary64.value_ofInt (short n second)] at equal
    exact equal
  | floats x y => exact Binary64.order_eq_iff.mp same

/-- The limits that two numbers are given. -/
def limits (a b : Number) : Bounds :=
  if b.order < a.order then { atLeast := some (.number b), atMost := some (.number a) }
  else { atLeast := some (.number a), atMost := some (.number b) }

/-- **The limits span the numbers unless these are not told apart and come the greater one first.** -/
theorem spans_limits_iff (alike : Alike a b) :
    (limits a b).Spans a b ↔ (a.order = b.order → a.value ≤ b.value) := by
  unfold limits
  by_cases after : b.order < a.order
  · have less := value_lt_of_order_lt alike.symm after
    rw [if_pos after]
    constructor
    · intro _ same
      exact absurd same after.ne'
    · intro _
      exact ⟨b, a, rfl, (min_eq_right less.le).symm, (max_eq_left less.le).symm⟩
  · -- two numbers that are not told apart come here too: the first one is taken for the lesser
    rw [if_neg after]
    constructor
    · rintro ⟨low, high, same, least, -⟩ -
      cases same
      exact least.trans_le (min_le_right _ _)
    · intro ordered
      have le : a.value ≤ b.value := by
        rcases (not_lt.mp after).lt_or_eq with less | same
        · exact (value_lt_of_order_lt alike less).le
        · exact ordered same
      exact ⟨a, b, rfl, (min_eq_left le).symm, (max_eq_right le).symm⟩

/-- Both orders span the numbers unless these differ and are not told apart. -/
theorem spans_both_iff (alike : Alike a b) :
    (limits a b).Spans a b ∧ (limits b a).Spans a b ↔ (a.order = b.order → a.value = b.value) := by
  have first := spans_limits_iff alike
  have second := spans_limits_iff alike.symm
  constructor
  · rintro ⟨spans, reverse⟩ same
    exact le_antisymm (first.mp spans same) (second.mp reverse.symm same.symm)
  · intro equal
    refine ⟨first.mpr fun same => (equal same).le, (second.mpr fun same => ?_).symm⟩
    exact (equal same.symm).ge

end Number

/-! ### The numbers of a field -/

/-- The kinds whose values are numbers. -/
def Kind.numeric : List Kind := [integer, long, float, double]

namespace Kind

variable {kind : Kind} {x y : Json} {a b : Number}

theorem exists_int_of_normalizeScalar (whole : kind = integer ∨ kind = long)
    (stored : kind.normalizeScalar x = .ok (.number a)) : ∃ n, a = .int n := by
  have made : x.asInteger = .number a := by rcases whole with rfl | rfl <;> exact Except.ok.inj stored
  rcases asInteger_cases x with none | ⟨n, found⟩
  · cases none.symm.trans made
  · cases found.symm.trans made
    exact ⟨n, rfl⟩

theorem exists_float_of_normalizeScalar (double : kind = .float ∨ kind = .double)
    (stored : kind.normalizeScalar x = .ok (.number a)) : ∃ u, a = .float u := by
  have made : x.asFloat = .number a := by rcases double with rfl | rfl <;> exact Except.ok.inj stored
  rcases asFloat_cases x with none | ⟨u, found⟩
  · cases none.symm.trans made
  · cases found.symm.trans made
    exact ⟨u, rfl⟩

/-- **The numbers of a field of integers are integers, and those of a field of doubles are doubles.** -/
theorem alike_of_normalizeScalar (numbers : kind ∈ numeric)
    (first : kind.normalizeScalar x = .ok (.number a)) (second : kind.normalizeScalar y = .ok (.number b)) :
    Number.Alike a b := by
  have sort : (kind = integer ∨ kind = long) ∨ kind = .float ∨ kind = .double := by
    simpa [numeric, or_assoc] using numbers
  rcases sort with whole | double
  · obtain ⟨m, rfl⟩ := exists_int_of_normalizeScalar whole first
    obtain ⟨n, rfl⟩ := exists_int_of_normalizeScalar whole second
    exact .ints m n
  · obtain ⟨u, rfl⟩ := exists_float_of_normalizeScalar double first
    obtain ⟨v, rfl⟩ := exists_float_of_normalizeScalar double second
    exact .floats u v

end Kind

namespace Property

variable {property : Property} {x y : Json} {a b : Number}

/-- A value that is stored as a scalar is no array. -/
theorem normalizeScalar_of_isScalar {stored : Json} (found : property.normalize x = .ok stored)
    (scalar : stored.IsScalar) : property.kind.normalizeScalar x.unwrapped = .ok stored := by
  unfold normalize at found
  split at found
  · cases found
  · split at found
    · obtain ⟨items, -, same⟩ := map_eq_ok.mp found
      cases same
      exact scalar.elim
    · exact found

theorem normalizeScalar_of_number (stored : property.normalize x = .ok (.number a)) :
    property.kind.normalizeScalar x.unwrapped = .ok (.number a) :=
  normalizeScalar_of_isScalar stored trivial

/-- Two values that are stored as scalars are stored so as a pair. -/
theorem normalize_pair {first second : Json} (found : property.normalize x = .ok first)
    (found' : property.normalize y = .ok second) (scalar : first.IsScalar) (scalar' : second.IsScalar) :
    property.normalize (.array [x, y]) = .ok (.array [first, second]) := by
  have plain : property.isAlias = false := by
    by_contra aliased
    rw [normalize, if_pos (by simpa using aliased)] at found
    cases found
  unfold normalize
  rw [if_neg (by simp [plain])]
  show Except.map Json.array ([x, y].mapM fun item => property.kind.normalizeScalar item.unwrapped) = _
  simp only [List.mapM_cons, List.mapM_nil, normalizeScalar_of_isScalar found scalar,
    normalizeScalar_of_isScalar found' scalar']
  rfl

end Property

namespace FilterCompiler

variable {compiler : FilterCompiler} {schema : Schema} {key field : String} {property : Property}
  {x y : Json} {a b : Number}

/-- The query of a range between two values that the field stores as numbers. -/
theorem compile_between (asks : compiler.Asks schema key .between field property)
    (first : property.normalize x = .ok (.number a)) (second : property.normalize y = .ok (.number b)) :
    compiler.compile schema [(key, .array [x, y])] =
      .done (.bool [.onRange field (Number.limits a b)] [] []) := by
  have clause : (⟨.between, field, property.kind, .array [.number a, .number b]⟩ : Condition).clause .and =
      .ok (.must, .onRange field (Number.limits a b)) := by
    by_cases after : b.order < a.order <;>
      simp [Condition.clause, Condition.between, Json.isAfter?, Number.limits, after, Except.map,
        Condition.affirmed, Logic.occur]
  exact asks.compile_eq rfl (Property.normalize_pair first second trivial trivial) clause

/-- **Both orders of two numbers span them just if numbers with one nearest double are one number**, which
doubles are, and integers up to `2 ^ 53`. -/
theorem between_spans_iff (asks : compiler.Asks schema key .between field property)
    (numeric : property.kind ∈ Kind.numeric) (first : property.normalize x = .ok (.number a))
    (second : property.normalize y = .ok (.number b)) :
    ∃ bounds reverse : Bounds,
      compiler.compile schema [(key, .array [x, y])] = .done (.bool [.onRange field bounds] [] []) ∧
      compiler.compile schema [(key, .array [y, x])] = .done (.bool [.onRange field reverse] [] []) ∧
      (bounds.Spans a b ∧ reverse.Spans a b ↔
        (a.toBinary64.value = b.toBinary64.value → a.value = b.value)) ∧
      (property.kind = .float ∨ property.kind = .double ∨ |a.value| ≤ 2 ^ 53 ∧ |b.value| ≤ 2 ^ 53 →
        bounds.Spans a b ∧ reverse.Spans a b) := by
  have scalar := Property.normalizeScalar_of_number first
  have scalar' := Property.normalizeScalar_of_number second
  have alike := Kind.alike_of_normalizeScalar numeric scalar scalar'
  refine ⟨Number.limits a b, Number.limits b a, compile_between asks first second,
    compile_between asks second first, ?_, ?_⟩
  · rw [Number.spans_both_iff alike, ← Binary64.order_eq_iff]
    rfl
  · intro exact
    refine (Number.spans_both_iff alike).mpr fun same => ?_
    rcases or_assoc.mpr exact with double | ⟨short, short'⟩
    · obtain ⟨u, rfl⟩ := Kind.exists_float_of_normalizeScalar double scalar
      obtain ⟨v, rfl⟩ := Kind.exists_float_of_normalizeScalar double scalar'
      exact Binary64.order_eq_iff.mp same
    · exact Number.value_eq_of_order_eq alike short short' same

/-- The greatest word and a text with a negative integer, far apart as they are. -/
theorem between_spans_words :
    let schema : Schema := ⟨[("N", .ofKind .long)], by decide⟩
    let great : Number := .int ⟨18446744073709551615, by decide, by decide⟩
    let small : Number := .int ⟨-5, by decide, by decide⟩
    ∃ bounds reverse : Bounds,
      compile {} schema [("><N", .array [.number great, .string " -5"])] =
        .done (.bool [.onRange "N" bounds] [] []) ∧
      compile {} schema [("><N", .array [.string " -5", .number great])] =
        .done (.bool [.onRange "N" reverse] [] []) ∧
      bounds.Spans great small ∧ reverse.Spans great small := by
  intro schema great small
  have sign : "><N" = Operator.between.symbol ++ "N" := by decide
  have asks : Asks {} schema "><N" .between "N" (.ofKind .long) :=
    asks_of_name sign (by decide) (List.all_eq_true.mp rfl) (by rintro _ ⟨⟩; decide) rfl rfl
  have first : (Property.ofKind .long).normalize (.number great) = .ok (.number great) := rfl
  have second : (Property.ofKind .long).normalize (.string " -5") = .ok (.number small) := by decide
  obtain ⟨bounds, reverse, given, turned, exact, -⟩ := between_spans_iff asks (by decide) first second
  refine ⟨bounds, reverse, given, turned, exact.mpr fun same => ?_⟩
  exact absurd (Binary64.order_eq_iff.mpr same) (by decide +kernel)

/-- **A range need not span its two numbers**: two integers of 54 bits that have one nearest double, the
greater one given first, make a range that nothing is in. -/
theorem not_between_spans :
    ¬ ∀ (compiler : FilterCompiler) (schema : Schema) (key field : String) (property : Property)
        (x y : Json) (a b : Number), compiler.Asks schema key .between field property →
      property.kind ∈ Kind.numeric → property.normalize x = .ok (.number a) →
      property.normalize y = .ok (.number b) →
        ∃ bounds reverse : Bounds,
          compiler.compile schema [(key, .array [x, y])] = .done (.bool [.onRange field bounds] [] []) ∧
          compiler.compile schema [(key, .array [y, x])] = .done (.bool [.onRange field reverse] [] []) ∧
          bounds.Spans a b ∧ reverse.Spans a b := by
  intro spans
  let schema : Schema := ⟨[("N", .ofKind .long)], by decide⟩
  let a : Number := .int ⟨9007199254740993, by decide, by decide⟩
  let b : Number := .int ⟨9007199254740992, by decide, by decide⟩
  have sign : "><N" = Operator.between.symbol ++ "N" := by decide
  have asks : Asks {} schema "><N" .between "N" (.ofKind .long) :=
    asks_of_name sign (by decide) (List.all_eq_true.mp rfl) (by rintro _ ⟨⟩; decide) rfl rfl
  have first : (Property.ofKind .long).normalize (.number a) = .ok (.number a) := rfl
  have second : (Property.ofKind .long).normalize (.number b) = .ok (.number b) := rfl
  obtain ⟨bounds, reverse, compiled, -, spanned, -⟩ :=
    spans {} schema "><N" "N" _ _ _ a b asks (by decide) first second
  have limits : Number.limits a b = bounds := by
    have equal := (compile_between asks first second).symm.trans compiled
    generalize Number.limits a b = limits at equal
    cases equal
    rfl
  rw [← limits] at spanned
  have same : a.order = b.order := by decide +kernel
  have le : (9007199254740993 : ℚ) ≤ 9007199254740992 :=
    (Number.spans_limits_iff (.ints _ _)).mp spanned same
  norm_num at le

end FilterCompiler
end CatalogSearch
