/-
**Stored values are stored as they are.**

* `Kind.known` — the kinds with rules of their own for values;
* `Kind.IsStored` — a scalar that a kind leaves as it is;
* `Kind.isStored_of_normalizeScalar` — what a known kind makes of a value is stored;
* `Property.normalize_of_normalize` — so normalizing twice is normalizing once, in arrays too;
* `Property.normalize_idempotent` — and a stored date denotes the moment it was stored for.
-/

import CatalogSearch.Proofs.Calendar.ReadBack
import CatalogSearch.Proofs.Strict
import CatalogSearch.Schema.Value

namespace CatalogSearch

namespace Json

/-- A value without parts. -/
def IsScalar : Json → Prop
  | .array _ | .object _ => False
  | _ => True

theorem unwrapped_of_isScalar {value : Json} (scalar : value.IsScalar) : value.unwrapped = value := by
  cases value with
  | object => exact scalar.elim
  | _ => rfl

end Json

namespace Kind

/-- The kinds with rules of their own for values. -/
def known : List Kind := [keyword, text, integer, long, float, double, boolean, date]

/-- A scalar that a field of this kind stores as it is. -/
def IsStored (kind : Kind) (value : Json) : Prop :=
  value.IsScalar ∧ kind.normalizeScalar value = .ok value

/-! ### The rules of each kind -/

theorem isStored_of_asKeyword {value stored : Json} (found : value.asKeyword = .ok stored) :
    stored.IsScalar ∧ stored.asKeyword = .ok stored := by
  unfold Json.asKeyword at found
  split at found <;> cases found <;> exact ⟨trivial, rfl⟩

theorem integerOfText_cases (s : String) :
    Json.integerOfText s = .null ∨ ∃ n, Json.integerOfText s = .number (.int n) := by
  unfold Json.integerOfText
  split
  · exact .inr ⟨_, rfl⟩
  · split
    · exact .inl rfl
    · split <;> exact .inr ⟨_, rfl⟩

/-- A value as an integer is an integer, or null. -/
theorem asInteger_cases (value : Json) :
    value.asInteger = .null ∨ ∃ n, value.asInteger = .number (.int n) := by
  cases value with
  | number n => cases n <;> exact .inr ⟨_, rfl⟩
  | string s => exact integerOfText_cases s
  | _ => exact .inl rfl

theorem isStored_asInteger (value : Json) :
    value.asInteger.IsScalar ∧ value.asInteger.asInteger = value.asInteger := by
  rcases asInteger_cases value with empty | ⟨n, whole⟩
  · rw [empty]
    exact ⟨trivial, rfl⟩
  · rw [whole]
    exact ⟨trivial, rfl⟩

/-- A value as a double is a double, or null. -/
theorem asFloat_cases (value : Json) :
    value.asFloat = .null ∨ ∃ x, value.asFloat = .number (.float x) := by
  cases value with
  | number n => exact .inr ⟨_, rfl⟩
  | string s =>
    rcases given : (Numeral.read? s).bind Decimal.toBinary64? with _ | x
    · exact .inl (by rw [Json.asFloat, given])
    · exact .inr ⟨x, by rw [Json.asFloat, given]⟩
  | _ => exact .inl rfl

theorem isStored_asFloat (value : Json) :
    value.asFloat.IsScalar ∧ value.asFloat.asFloat = value.asFloat := by
  rcases asFloat_cases value with empty | ⟨x, double⟩
  · rw [empty]
    exact ⟨trivial, rfl⟩
  · rw [double]
    exact ⟨trivial, rfl⟩

theorem isStored_asTruth (value : Json) :
    value.asTruth.IsScalar ∧ value.asTruth.asTruth = value.asTruth := by
  cases value <;> exact ⟨trivial, rfl⟩

theorem isStored_of_asDate {value stored : Json} (found : value.asDate = .ok stored) :
    stored.IsScalar ∧ stored.asDate = .ok stored := by
  obtain ⟨moment, read, same⟩ := map_eq_ok.mp found
  cases moment with
  | none =>
    cases same
    exact ⟨trivial, rfl⟩
  | some m =>
    cases same
    refine ⟨trivial, map_eq_ok.mpr ⟨some m, ?_, rfl⟩⟩
    exact Moment.ofText_text (Moment.isStorable_of_read read)

/-- **What a known kind makes of a value is stored.** -/
theorem isStored_of_normalizeScalar {kind : Kind} {value stored : Json} (rules : kind ∈ known)
    (found : kind.normalizeScalar value = .ok stored) : kind.IsStored stored := by
  cases kind with
  | keyword | text => exact isStored_of_asKeyword found
  | integer | long =>
    cases found
    exact (isStored_asInteger value).imp id (congrArg Except.ok)
  | float | double =>
    cases found
    exact (isStored_asFloat value).imp id (congrArg Except.ok)
  | boolean =>
    cases found
    exact (isStored_asTruth value).imp id (congrArg Except.ok)
  | date => exact isStored_of_asDate found
  | aliased => cases found
  | other name => simp [known] at rules

end Kind

namespace Property

/-- What the field of a known kind makes of a value it leaves as it is. -/
theorem normalize_of_normalize {property : Property} {value stored : Json} (rules : property.kind ∈ Kind.known)
    (found : property.normalize value = .ok stored) : property.normalize stored = .ok stored := by
  have item : ∀ a b : Json, property.kind.normalizeScalar a.unwrapped = .ok b →
      property.kind.normalizeScalar b.unwrapped = .ok b := by
    intro a b made
    obtain ⟨scalar, fixed⟩ := Kind.isStored_of_normalizeScalar rules made
    rw [Json.unwrapped_of_isScalar scalar, fixed]
  unfold normalize at found ⊢
  by_cases other : property.isAlias = true
  · rw [if_pos other] at found
    cases found
  rw [if_neg other] at found ⊢
  split at found
  · next items =>
    obtain ⟨results, mapped, same⟩ := map_eq_ok.mp found
    cases same
    exact map_eq_ok.mpr ⟨results, mapM_of_stable item mapped, rfl⟩
  · obtain ⟨scalar, fixed⟩ := Kind.isStored_of_normalizeScalar rules found
    rw [Json.unwrapped_of_isScalar scalar]
    cases stored with
    | array => exact scalar.elim
    | _ => exact fixed

/-- **Normalizing twice is normalizing once**, and every stored date is read back as the moment that
it was stored for. -/
theorem normalize_idempotent :
    (∀ (property : Property) (value stored : Json), property.kind ∈ Kind.known →
        property.normalize value = .ok stored → property.normalize stored = .ok stored) ∧
      ∀ (value : Json) (moment : Moment), Moment.read value = .ok (some moment) →
        Moment.ofText moment.text = .ok (some moment) := by
  refine ⟨?_, fun _ _ read => Moment.ofText_text (Moment.isStorable_of_read read)⟩
  intro property value stored rules found
  exact normalize_of_normalize rules found

/-- Days and times of every sort are stored once and for all: a bare date, a leap second, a year
before the first and one of five digits. -/
theorem normalize_idempotent_dates :
    (ofKind .date).normalize
      (.array [.string " 14.06.2019 ", .string "31.12.2016 23:59:60", .string "-0044-03-15T12:00",
        .string "+12345-06-07 08:09:10", .bool false]) =
      .ok (.array [.string "2019-06-14", .string "2016-12-31 23:59:60",
        .string "-0044-03-15 12:00:00", .string "+12345-06-07 08:09:10", .null]) ∧
    (ofKind .date).normalize
      (.array [.string "2019-06-14", .string "2016-12-31 23:59:60",
        .string "-0044-03-15 12:00:00", .string "+12345-06-07 08:09:10", .null]) =
      .ok (.array [.string "2019-06-14", .string "2016-12-31 23:59:60",
        .string "-0044-03-15 12:00:00", .string "+12345-06-07 08:09:10", .null]) ∧
    Moment.read (.number (.int ⟨-63549403200, by decide, by decide⟩)) =
      .ok (some (.time (.ofSeconds (-63549403200)))) ∧
    Moment.ofText (Moment.time (.ofSeconds (-63549403200))).text =
      .ok (some (.time (.ofSeconds (-63549403200)))) := by
  have stored : (ofKind .date).normalize
      (.array [.string " 14.06.2019 ", .string "31.12.2016 23:59:60", .string "-0044-03-15T12:00",
        .string "+12345-06-07 08:09:10", .bool false]) =
      .ok (.array [.string "2019-06-14", .string "2016-12-31 23:59:60",
        .string "-0044-03-15 12:00:00", .string "+12345-06-07 08:09:10", .null]) := rfl
  have read : Moment.read (.number (.int ⟨-63549403200, by decide, by decide⟩)) =
      .ok (some (.time (.ofSeconds (-63549403200)))) := rfl
  exact ⟨stored, normalize_idempotent.1 _ _ _ (by decide) stored, read,
    normalize_idempotent.2 _ _ read⟩

end Property
end CatalogSearch
