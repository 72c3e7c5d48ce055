/-
**Values of unknown kinds.**

A kind without rules stores every value, but rich text is opened before the rules of any kind are asked: at the
top, and in each item of an array there. All that is deeper stays. So a value passes untouched unless an object
with a member `text` stands at one of these places; it is stored as that member then, which is less than the
value.

* `Json.holdsRichText` — rich text at the top, or as an item there; `Json.opened` — the value without it;
* `Json.opened_eq_self_iff` — the values that opening leaves as they are;
* `Property.normalize_of_unknown` — what a field of an unknown kind stores;
* `Property.untouched_iff` — the values that are stored untouched, that documents keep, and that conditions
  compare with as they are given.
-/

import CatalogSearch.Proofs.Filter.OneCondition
import CatalogSearch.Proofs.Schema.Documents
import CatalogSearch.Proofs.Schema.Sorts

namespace CatalogSearch

namespace Json

/-- An object with a member whose name is `text` but for case. -/
def isRichText : Json → Bool
  | .object members => members.any fun member => isTextName member.1
  | _ => false

/-- Rich text, or an array with an item that is. -/
def holdsRichText : Json → Bool
  | .array items => items.any isRichText
  | value => value.isRichText

/-- The value with rich text opened at the top, and then in the items of an array. -/
def opened (value : Json) : Json :=
  match value.unwrapped with
  | .array items => .array (items.map unwrapped)
  | single => single

variable {value : Json}

/-- **Only rich text is unwrapped**: its text is a part of it, and so another value. -/
theorem unwrapped_eq_self_iff : value.unwrapped = value ↔ value.isRichText = false := by
  cases value with
  | object members =>
    cases first : members.find? fun member => isTextName member.1 with
    | none =>
      have apart : ∀ member ∈ members, isTextName member.1 = false := by simpa using first
      simpa [unwrapped, isRichText, first] using apart
    | some entry =>
      have inside := List.mem_of_find?_eq_some first
      have named := List.find?_some first
      have rich : isRichText (.object members) = true := List.any_eq_true.mpr ⟨entry, inside, named⟩
      have less : sizeOf entry.2 < sizeOf (Json.object members) := by
        have part := List.sizeOf_lt_of_mem inside
        obtain ⟨name, inner⟩ := entry
        simp only [Prod.mk.sizeOf_spec] at part
        simp only [Json.object.sizeOf_spec]
        omega
      have taken : unwrapped (.object members) = entry.2 := by simp [unwrapped, first]
      rw [taken, rich]
      refine iff_of_false (fun same => ?_) (by simp)
      exact absurd (congrArg sizeOf same) less.ne
  | _ => exact iff_of_true rfl rfl

/-- **The values that opening leaves as they are**: there is no rich text in them where it is looked for. -/
theorem opened_eq_self_iff : value.opened = value ↔ value.holdsRichText = false := by
  cases value with
  | array items =>
    have each : items.map unwrapped = items ↔ ∀ item ∈ items, item.unwrapped = item := by
      conv_lhs => rhs; rw [← List.map_id items]
      exact List.map_inj_left
    show Json.array (items.map unwrapped) = .array items ↔ items.any isRichText = false
    rw [Json.array.injEq, each]
    simp only [unwrapped_eq_self_iff, List.any_eq_false, Bool.not_eq_true]
  | object members =>
    show opened (.object members) = .object members ↔ isRichText (.object members) = false
    rw [← unwrapped_eq_self_iff, opened]
    split
    · next items sequence => simp [sequence]
    · rfl
  | _ => exact iff_of_true rfl rfl

end Json

namespace Property

variable {property : Property} {name : String}

theorem isAlias_of_unknown (unknown : property.kind = .other name) : property.isAlias = false := by
  simp [isAlias, unknown]

/-- **A field of an unknown kind stores every value**, opened. -/
theorem normalize_of_unknown (unknown : property.kind = .other name) (value : Json) :
    property.normalize value = .ok value.opened := by
  refine (normalize_eq_ok_iff (isAlias_of_unknown unknown)).mpr ?_
  unfold Json.opened
  split
  · next items sequence =>
    refine .inl ⟨items, items.map Json.unwrapped, sequence, rfl, ?_⟩
    rw [List.forall₂_map_right_iff, List.forall₂_same, unknown]
    exact fun item _ => rfl
  · next single =>
    rw [unknown]
    exact .inr ⟨single, rfl⟩

/-- **The values of an unknown kind that pass untouched** are those without rich text at the top and in the items
there. Every value is stored. Just these are stored as they are; just these a document keeps of its record; and
just with these a condition compares as they are given. -/
theorem untouched_iff (unknown : property.kind = .other name) (value : Json) :
    (∃ stored, property.normalize value = .ok stored) ∧
    (property.normalize value = .ok value ↔ value.holdsRichText = false) ∧
    (∀ (schema : Schema) (record document : Members Json) (field : String),
      schema.find? field = some property → record.get? field = some value →
      schema.document record = .ok document →
      (document.get? field = some value ↔ value.holdsRichText = false)) ∧
    (∀ (compiler : FilterCompiler) (schema : Schema) (key field : String) (operator : Operator),
      compiler.Asks schema key operator field property → value.member? FilterTree.logicName = none →
      (compiler.normalize schema [(key, value)] =
        .done (.group .and [.leaf ⟨operator, field, property.kind, value⟩]) ↔ value.holdsRichText = false)) := by
  have stored := normalize_of_unknown unknown value
  simp only [← Json.opened_eq_self_iff]
  refine ⟨⟨_, stored⟩, ?_, ?_, ?_⟩
  · rw [stored, Except.ok.injEq]
  · intro schema record document field found given made
    obtain ⟨kept, there, normalized⟩ := Schema.exists_get?_document found (isAlias_of_unknown unknown) made
    rw [Schema.given, given, Option.getD_some, stored] at normalized
    cases normalized
    rw [there, Option.some.injEq]
  · intro compiler schema key field operator asks plain
    rw [asks.normalize_eq plain stored]
    constructor
    · intro same
      simpa [Logged.done] using same
    · intro same
      rw [same]

/-- A point of a map, in a list with a value whose rich text is too deep to be looked for. -/
theorem untouched_iff_points :
    let place : Property := ofKind (.other "geo_point")
    let schema : Schema := ⟨[("ID", .ofKind .integer), ("PLACE", place)], by decide⟩
    let value : Json := .array [.object [("lat", .number .zero), ("lon", .number .zero)],
      .array [.object [("TEXT", .string "a")]], .object [("note", .object [("text", .null)])]]
    place.normalize value = .ok value ∧
      schema.document [("PLACE", value)] = .ok [("ID", .null), ("PLACE", value)] ∧
      Members.get? [("ID", Json.null), ("PLACE", value)] "PLACE" = some value ∧
      FilterCompiler.normalize {} schema [("!PLACE", value)] =
        .done (.group .and [.leaf ⟨.notEquals, "PLACE", .other "geo_point", value⟩]) := by
  intro place schema value
  have made : schema.document [("PLACE", value)] = .ok [("ID", .null), ("PLACE", value)] := by rfl
  have sign : "!PLACE" = Operator.notEquals.symbol ++ "PLACE" := by decide
  have asks : FilterCompiler.Asks {} schema "!PLACE" .notEquals "PLACE" place :=
    FilterCompiler.asks_of_name sign (by decide) (List.all_eq_true.mp rfl) (by rintro _ ⟨⟩; decide) rfl rfl
  obtain ⟨-, stored, kept, compared⟩ := @untouched_iff place "geo_point" rfl value
  have bare : value.holdsRichText = false := by decide
  exact ⟨stored.mpr bare, made, (kept schema _ _ "PLACE" rfl rfl made).mpr bare,
    (compared {} schema _ _ _ asks rfl).mpr bare⟩

/-- **A value of an unknown kind need not pass untouched**: of an object with a member `text` only that is
stored. -/
theorem not_untouched : ¬ ∀ (property : Property) (name : String) (value : Json), property.kind = .other name →
    property.normalize value = .ok value := by
  intro passes
  have passed := passes (ofKind (.other "object")) "object"
    (.object [("lang", .string "en"), ("text", .string "shoe")]) rfl
  exact absurd passed (by decide)

end Property
end CatalogSearch
