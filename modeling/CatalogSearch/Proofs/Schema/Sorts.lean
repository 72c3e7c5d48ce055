/-
**The sorts of stored values.**

A field stores scalars of one sort, or a flat array of them: whatever arrays and objects a value is made of, only
the outermost array stays, rich text is opened once around it and once around each item, and what is still no
scalar then is null, a truth value or a fault.

* `Kind.HasScalar` — the scalars of a kind; `Kind.hasScalar_of_normalizeScalar`: those that its rule makes;
* `Property.normalize_of_array`, `normalize_of_single` — what becomes of an array, and of any other value;
* `Json.exists_asKeyword_iff` — texts are made of scalars only, and `Kind.exists_normalizeScalar` — numbers and
  truth values of everything;
* `Property.normalize_sorted` — the stored values of all known kinds, and the faults.
-/

import CatalogSearch.Proofs.Schema.Idempotence

namespace CatalogSearch

theorem Json.not_isScalar_iff {value : Json} :
    ¬ value.IsScalar ↔ (∃ items, value = .array items) ∨ ∃ members, value = .object members := by
  cases value <;> simp [IsScalar]

namespace Kind

/-- **The scalars of a kind**: null, and values of one sort. Doubles are finite ones by their type. -/
inductive HasScalar : Kind → Json → Prop
  | null (kind : Kind) : HasScalar kind .null
  | keyword (s : String) : HasScalar keyword (.string s)
  | text (s : String) : HasScalar text (.string s)
  | integer (n : WordInt) : HasScalar integer (.number (.int n))
  | long (n : WordInt) : HasScalar long (.number (.int n))
  | float (x : Binary64) : HasScalar float (.number (.float x))
  | double (x : Binary64) : HasScalar double (.number (.float x))
  | boolean (b : Bool) : HasScalar boolean (.bool b)
  | date (s : String) : HasScalar date (.string s)

variable {kind : Kind} {value stored : Json}

/-- No scalar of a kind is an array or an object. -/
theorem HasScalar.isScalar (scalar : kind.HasScalar stored) : stored.IsScalar := by
  cases scalar <;> trivial

end Kind

/-! ### Single values -/

theorem Json.asKeyword_cases {value stored : Json} (found : value.asKeyword = .ok stored) :
    stored = .null ∨ ∃ s, stored = .string s := by
  unfold asKeyword at found
  split at found <;> cases found
  case h_1 | h_2 => exact .inl rfl
  all_goals exact .inr ⟨_, rfl⟩

theorem Json.asDate_cases {value stored : Json} (found : value.asDate = .ok stored) :
    stored = .null ∨ ∃ s, stored = .string s := by
  obtain ⟨moment, -, rfl⟩ := map_eq_ok.mp found
  cases moment with
  | none => exact .inl rfl
  | some m => exact .inr ⟨m.text, rfl⟩

/-- **A text is made of every scalar, and of nothing else.** -/
theorem Json.exists_asKeyword_iff {value : Json} :
    (∃ stored, value.asKeyword = .ok stored) ↔ value.IsScalar := by
  cases value with
  | array | object => simp [asKeyword, IsScalar]
  | bool b => cases b <;> simp [asKeyword, IsScalar]
  | _ => simp [asKeyword, IsScalar]

namespace Kind

variable {kind : Kind} {value stored : Json}

/-- **What the rule of a kind makes is a scalar of the kind.** -/
theorem hasScalar_of_normalizeScalar (rules : kind ∈ known) (found : kind.normalizeScalar value = .ok stored) :
    kind.HasScalar stored := by
  cases kind with
  | keyword =>
    rcases Json.asKeyword_cases found with rfl | ⟨s, rfl⟩
    · exact .null _
    · exact .keyword s
  | text =>
    rcases Json.asKeyword_cases found with rfl | ⟨s, rfl⟩
    · exact .null _
    · exact .text s
  | integer =>
    cases found
    rcases asInteger_cases value with empty | ⟨n, whole⟩
    · exact empty ▸ .null _
    · exact whole ▸ .integer n
  | long =>
    cases found
    rcases asInteger_cases value with empty | ⟨n, whole⟩
    · exact empty ▸ .null _
    · exact whole ▸ .long n
  | float =>
    cases found
    rcases asFloat_cases value with empty | ⟨x, double⟩
    · exact empty ▸ .null _
    · exact double ▸ .float x
  | double =>
    cases found
    rcases asFloat_cases value with empty | ⟨x, double⟩
    · exact empty ▸ .null _
    · exact double ▸ .double x
  | boolean =>
    cases found
    cases value with
    | null => exact .null _
    | _ => exact .boolean _
  | date =>
    rcases Json.asDate_cases found with rfl | ⟨s, rfl⟩
    · exact .null _
    · exact .date s
  | aliased => cases found
  | other name => simp [known] at rules

/-- Numbers and truth values are made of everything. -/
theorem exists_normalizeScalar (total : kind ∈ [integer, long, float, double, boolean]) (value : Json) :
    ∃ stored, kind.normalizeScalar value = .ok stored := by
  simp only [List.mem_cons, List.not_mem_nil, or_false] at total
  rcases total with rfl | rfl | rfl | rfl | rfl <;> exact ⟨_, rfl⟩

end Kind

/-! ### Arrays -/

namespace Property

variable {property : Property} {value stored : Json} {items : List Json}

theorem isAlias_of_known (rules : property.kind ∈ Kind.known) : property.isAlias = false := by
  unfold isAlias
  cases sort : property.kind with
  | aliased => simp [sort, Kind.known] at rules
  | _ => rfl

section Plain

variable (plain : property.isAlias = false)

include plain

/-- An array is stored item by item, each item unwrapped. -/
theorem normalize_of_array (sequence : value.unwrapped = .array items) :
    property.normalize value =
      (items.mapM fun item => property.kind.normalizeScalar item.unwrapped).map .array := by
  unfold normalize
  rw [if_neg (by simp [plain]), sequence]

/-- Any other value is stored by the rule of the kind. -/
theorem normalize_of_single (single : ∀ items, value.unwrapped ≠ .array items) :
    property.normalize value = property.kind.normalizeScalar value.unwrapped := by
  unfold normalize
  rw [if_neg (by simp [plain])]
  split
  · next items sequence => exact absurd sequence (single items)
  · rfl

/-- **What a field stores**: one value for each item of an array, in order, or else one value. -/
theorem normalize_eq_ok_iff : property.normalize value = .ok stored ↔
    (∃ items results, value.unwrapped = .array items ∧ stored = .array results ∧
      List.Forall₂ (fun item result => property.kind.normalizeScalar item.unwrapped = .ok result) items results) ∨
    (∀ items, value.unwrapped ≠ .array items) ∧ property.kind.normalizeScalar value.unwrapped = .ok stored := by
  by_cases sequence : ∃ items, value.unwrapped = .array items
  · obtain ⟨items, sequence⟩ := sequence
    rw [normalize_of_array plain sequence, map_eq_ok]
    simp only [mapM_eq_ok_iff]
    constructor
    · rintro ⟨results, made, rfl⟩
      exact .inl ⟨items, results, sequence, rfl, made⟩
    · rintro (⟨items', results, same, rfl, made⟩ | ⟨single, -⟩)
      · cases sequence.symm.trans same
        exact ⟨results, made, rfl⟩
      · exact absurd sequence (single items)
  · have single : ∀ items, value.unwrapped ≠ .array items := fun items same => sequence ⟨items, same⟩
    rw [normalize_of_single plain single]
    constructor
    · exact fun made => .inr ⟨single, made⟩
    · rintro (⟨items, results, same, -, -⟩ | ⟨-, made⟩)
      · exact absurd same (single items)
      · exact made

/-- A value is stored if the rule of the kind takes it, or each item of it if it is an array. -/
theorem exists_normalize_iff : (∃ stored, property.normalize value = .ok stored) ↔
    (∃ items, value.unwrapped = .array items ∧
      ∀ item ∈ items, ∃ result, property.kind.normalizeScalar item.unwrapped = .ok result) ∨
    (∀ items, value.unwrapped ≠ .array items) ∧
      ∃ stored, property.kind.normalizeScalar value.unwrapped = .ok stored := by
  simp only [normalize_eq_ok_iff plain]
  constructor
  · rintro ⟨stored, ⟨items, results, sequence, -, made⟩ | ⟨single, made⟩⟩
    · exact .inl ⟨items, sequence, exists_mapM_iff.mp ⟨results, mapM_eq_ok_iff.mpr made⟩⟩
    · exact .inr ⟨single, stored, made⟩
  · rintro (⟨items, sequence, each⟩ | ⟨single, stored, made⟩)
    · obtain ⟨results, made⟩ := exists_mapM_iff.mpr each
      exact ⟨.array results, .inl ⟨items, results, sequence, rfl, mapM_eq_ok_iff.mp made⟩⟩
    · exact ⟨stored, .inr ⟨single, made⟩⟩

end Plain

theorem exists_normalize_of_total (total : property.kind ∈ [Kind.integer, .long, .float, .double, .boolean])
    (value : Json) : ∃ stored, property.normalize value = .ok stored := by
  have plain : property.isAlias = false :=
    isAlias_of_known ((by decide : [Kind.integer, .long, .float, .double, .boolean] ⊆ Kind.known) total)
  refine (exists_normalize_iff plain).mpr ?_
  by_cases sequence : ∃ items, value.unwrapped = .array items
  · obtain ⟨items, sequence⟩ := sequence
    exact .inl ⟨items, sequence, fun item _ => Kind.exists_normalizeScalar total _⟩
  · exact .inr ⟨fun items same => sequence ⟨items, same⟩, Kind.exists_normalizeScalar total _⟩

/-- **A text is stored of a value without parts, or of an array of such**, rich text unwrapped. -/
theorem exists_normalize_text_iff (texts : property.kind ∈ [Kind.keyword, .text]) :
    (∃ stored, property.normalize value = .ok stored) ↔
      (∃ items, value.unwrapped = .array items ∧ ∀ item ∈ items, item.unwrapped.IsScalar) ∨
        value.unwrapped.IsScalar := by
  have plain : property.isAlias = false :=
    isAlias_of_known ((by decide : [Kind.keyword, .text] ⊆ Kind.known) texts)
  have rule : ∀ value, property.kind.normalizeScalar value = value.asKeyword := by
    intro value
    simp only [List.mem_cons, List.not_mem_nil, or_false] at texts
    rcases texts with kind | kind <;> rw [kind] <;> rfl
  simp only [exists_normalize_iff plain, rule, Json.exists_asKeyword_iff]
  refine or_congr_right ⟨And.right, fun scalar => ⟨fun items same => ?_, scalar⟩⟩
  rw [same] at scalar
  exact scalar

/-- **The stored values of the known kinds.** A value that is stored is a scalar of the kind, or a flat array of
such with one for each item, in the order of the items, if the unwrapped value is an array. Numbers and truth
values are made of everything; texts are not made of an object, nor of an array with an item that is an array or
an object when it is unwrapped, and of all else they are. -/
theorem normalize_sorted (property : Property) (rules : property.kind ∈ Kind.known) (value : Json) :
    (∀ stored, property.normalize value = .ok stored →
      (∃ items results, value.unwrapped = .array items ∧ stored = .array results ∧
        List.Forall₂ (fun item result => property.kind.normalizeScalar item.unwrapped = .ok result ∧
          property.kind.HasScalar result) items results) ∨
      (∀ items, value.unwrapped ≠ .array items) ∧ property.kind.HasScalar stored) ∧
    (property.kind ∈ [Kind.integer, .long, .float, .double, .boolean] →
      ∃ stored, property.normalize value = .ok stored) ∧
    (property.kind ∈ [Kind.keyword, .text] →
      ((∃ fault, property.normalize value = .error fault) ↔
        (∃ members, value.unwrapped = .object members) ∨
        ∃ items, value.unwrapped = .array items ∧
          ∃ item ∈ items, (∃ inner, item.unwrapped = .array inner) ∨
            ∃ members, item.unwrapped = .object members)) := by
  refine ⟨fun stored found => ?_, fun total => exists_normalize_of_total total value, fun texts => ?_⟩
  · refine ((normalize_eq_ok_iff (isAlias_of_known rules)).mp found).imp ?_ ?_
    · rintro ⟨items, results, sequence, rfl, made⟩
      refine ⟨items, results, sequence, rfl, made.imp fun item result one => ?_⟩
      exact ⟨one, Kind.hasScalar_of_normalizeScalar rules one⟩
    · rintro ⟨single, made⟩
      exact ⟨single, Kind.hasScalar_of_normalizeScalar rules made⟩
  · have refused : (∃ fault, property.normalize value = .error fault) ↔
        ¬ ∃ stored, property.normalize value = .ok stored := by
      cases property.normalize value <;> simp
    rw [refused, exists_normalize_text_iff texts]
    simp only [← Json.not_isScalar_iff]
    cases value.unwrapped with
    | array items => simp [Json.IsScalar]
    | _ => simp [Json.IsScalar]

/-- Rich text around an array and around an item of it; an integer past the greatest double, and a value with
parts, which is no integer; and a text that an array inside an array is refused for. -/
theorem normalize_sorted_nested :
    let values : Json := .object [("Text", .array [.object [("TEXT", .string " 1e400 ")], .number (.float (.zero true)),
      .array [.string "7"], .string "-3.7"])]
    let stored : List Json := [.number (.int .greatestSigned), .number (.int ⟨0, by decide, by decide⟩), .null,
      .number (.int ⟨-3, by decide, by decide⟩)]
    (ofKind .long).normalize values = .ok (.array stored) ∧ (∀ result ∈ stored, Kind.HasScalar .long result) ∧
      ∃ fault, (ofKind .keyword).normalize values = .error fault := by
  intro values stored
  have made : (ofKind .long).normalize values = .ok (.array stored) := by decide +kernel
  obtain ⟨sorted, -, -⟩ := normalize_sorted (ofKind .long) (by decide) values
  obtain ⟨-, -, refused⟩ := normalize_sorted (ofKind .keyword) (by decide) values
  refine ⟨made, fun result inside => ?_, (refused (by decide)).mpr (.inr ?_)⟩
  · rcases sorted _ made with ⟨items, results, -, same, each⟩ | ⟨single, -⟩
    · cases same
      obtain ⟨item, -, -, scalar⟩ := exists_of_mem_right each inside
      exact scalar
    · exact absurd rfl (single _)
  · exact ⟨_, rfl, .array [.string "7"], by simp, .inl ⟨_, rfl⟩⟩

end Property
end CatalogSearch
