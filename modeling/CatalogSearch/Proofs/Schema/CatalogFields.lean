/-
**What a catalog's schema consists of, and under which names.**

The fields of custom properties are named `PROPERTY_…`, and no other field is. Behind that stands a code or a
number, which can be of the same text, and perhaps `_VALUE`.

* `Catalog.Custom.Field` — the fields that a property adds; `Catalog.Custom.mem_fields_iff` says that it adds
  these and no others;
* `Catalog.Description.fields_eq` — the schema's fields from left to right; `Catalog.Description.mem_added_iff`
  says that the custom ones are those of its properties;
* `Catalog.Description.find?_of_isCustomName` — custom names are looked up among the custom fields;
* `Catalog.Description.find?_standard` — no standard field is lost to another one;
* `Catalog.Description.find?_custom` — neither is a custom field, if no other of its name differs from it.
-/

import CatalogSearch.Proofs.Strict
import CatalogSearch.Proofs.Text.Digits
import CatalogSearch.Schema.Catalog

namespace CatalogSearch.Catalog

/-! ### Names -/

/-- No number ends in letters. -/
theorem toString_ne_append_value (n : Nat) (front : String) : toString n ≠ front ++ "_VALUE" := by
  intro same
  have inside : 'V' ∈ (toString n).toList := by
    rw [same, String.toList_append]
    exact List.mem_append_right _ (by decide)
  exact absurd (Text.isDigit_of_mem_toString inside) (by decide)

/-- Whether a name is one that a custom property's field can have. -/
def IsCustomName (name : String) : Prop := "PROPERTY_".toList <+: name.toList

instance (name : String) : Decidable (IsCustomName name) := inferInstanceAs (Decidable (_ <+: _))

theorem isCustomName_append (tail : String) : IsCustomName ("PROPERTY_" ++ tail) := by
  rw [IsCustomName, String.toList_append]
  exact List.prefix_append _ _

namespace Custom

variable {custom other : Custom} {values property : Property} {name : String}

theorem codeName_inj : custom.codeName = other.codeName ↔ custom.code = other.code :=
  String.append_right_inj _

theorem idName_inj : custom.idName = other.idName ↔ custom.id = other.id :=
  (String.append_right_inj _).trans Text.toString_inj

theorem codeName_eq_idName_iff : custom.codeName = other.idName ↔ custom.code = toString other.id :=
  String.append_right_inj _

theorem codeName_eq_decoded_iff :
    custom.codeName = other.codeName ++ "_VALUE" ↔ custom.code = other.code ++ "_VALUE" := by
  rw [codeName, codeName, String.append_assoc, String.append_right_inj]

theorem codeName_eq_decodedById_iff :
    custom.codeName = other.idName ++ "_VALUE" ↔ custom.code = toString other.id ++ "_VALUE" := by
  rw [codeName, idName, String.append_assoc, String.append_right_inj]

theorem idName_ne_append_value (tail : String) : custom.idName ≠ "PROPERTY_" ++ tail ++ "_VALUE" := by
  rw [idName, String.append_assoc, Ne, String.append_right_inj]
  exact toString_ne_append_value _ _

/-! ### The fields of one property -/

/-- The definition of the field by code: for a list that of a field of codes. -/
def stored (custom : Custom) (values : Property) : Property :=
  if custom.isList then listProperty else values

/-- **The fields that a property adds**, whose values have a definition. -/
inductive Field (custom : Custom) (values : Property) : String → Property → Prop where
  | byCode : Field custom values custom.codeName (custom.stored values)
  | byId : Field custom values custom.idName (.ofAlias custom.codeName)
  | decoded (listed : custom.isList = true) : Field custom values (custom.codeName ++ "_VALUE") values
  | decodedById (listed : custom.isList = true) :
      Field custom values (custom.idName ++ "_VALUE") (.ofAlias (custom.codeName ++ "_VALUE"))

/-- **A property adds its fields and no others.** -/
theorem mem_fields_iff {fields : List (String × Property)} (typed : custom.valueProperty = .ok values)
    (made : custom.fields = .ok fields) :
    (name, property) ∈ fields ↔ custom.Field values name property := by
  rw [Custom.fields, typed] at made
  cases made
  by_cases listed : custom.isList = true
  · have coded : custom.stored values = listProperty := if_pos listed
    simp only [if_pos listed, List.mem_cons, List.not_mem_nil, or_false, Prod.mk.injEq]
    constructor
    · rintro (⟨rfl, rfl⟩ | ⟨rfl, rfl⟩ | ⟨rfl, rfl⟩ | ⟨rfl, rfl⟩)
      · exact coded ▸ .byCode
      · exact .byId
      · exact .decoded listed
      · exact .decodedById listed
    · intro field
      cases field <;> simp [coded]
  · have uncoded : custom.stored values = values := if_neg listed
    simp only [if_neg listed, List.mem_cons, List.not_mem_nil, or_false, Prod.mk.injEq]
    constructor
    · rintro (⟨rfl, same⟩ | ⟨rfl, rfl⟩)
      · have field : custom.Field values custom.codeName (custom.stored values) := .byCode
        rw [uncoded] at field
        exact same ▸ field
      · exact .byId
    · intro field
      cases field with
      | byCode => exact .inl ⟨rfl, uncoded⟩
      | byId => exact .inr ⟨rfl, rfl⟩
      | decoded yes => exact absurd yes listed
      | decodedById yes => exact absurd yes listed

theorem Field.isCustomName (field : custom.Field values name property) : IsCustomName name := by
  cases field with
  | byCode => exact isCustomName_append _
  | byId => exact isCustomName_append _
  | decoded => exact String.append_assoc .. ▸ isCustomName_append _
  | decodedById => exact String.append_assoc .. ▸ isCustomName_append _

theorem exists_valueProperty {fields : List (String × Property)} (made : custom.fields = .ok fields) :
    ∃ values, custom.valueProperty = .ok values := by
  obtain ⟨values, typed, -⟩ := map_eq_ok.mp made
  exact ⟨values, typed⟩

/-- Values are neither aliases nor codes. -/
theorem plain_of_valueProperty (typed : custom.valueProperty = .ok values) :
    values.isAlias = false ∧ values ≠ listProperty := by
  unfold valueProperty at typed
  split at typed
  · cases typed
  · split at typed
    · cases typed
      decide
    · split at typed
      · cases typed
        decide
      · split at typed <;> cases typed <;> decide

theorem isAlias_stored (typed : custom.valueProperty = .ok values) :
    (custom.stored values).isAlias = false := by
  unfold stored
  split
  · rfl
  · exact (plain_of_valueProperty typed).1

end Custom

/-! ### The fields of all properties -/

/-- The fields of a property, none if it has no type. -/
def Custom.added (custom : Custom) : List (String × Property) := custom.fields.toOption.getD []

/-- **The custom fields are those of one property after another**, each of which has a type. -/
theorem Description.customFields_eq_ok {description : Description} {fields : List (String × Property)}
    (made : description.customFields = .ok fields) :
    fields = description.properties.flatMap Custom.added ∧
      ∀ custom ∈ description.properties, custom.fields = .ok custom.added := by
  obtain ⟨parts, read, rfl⟩ := map_eq_ok.mp made
  clear made
  have each := mapM_eq_ok_iff.mp read
  clear read
  generalize description.properties = properties at each ⊢
  induction each with
  | nil => exact ⟨rfl, List.forall_mem_nil _⟩
  | @cons custom first rest others own _ ih =>
    obtain ⟨same, each⟩ := ih
    have here : custom.added = first := by rw [Custom.added, own]; rfl
    exact ⟨by rw [List.flatten_cons, List.flatMap_cons, here, same],
      List.forall_mem_cons.mpr ⟨here ▸ own, each⟩⟩

namespace Description

variable {description : Description} {schema : Schema} {name : String} {property : Property}

/-- The fields behind the custom ones: those of sections, stores and prices. -/
def otherFields (description : Description) : List (String × Property) :=
  membershipFields ++ description.stores.flatMap storeFields ++ description.priceGroups.flatMap priceFields

theorem not_isCustomName_standard : ∀ name ∈ Members.names standardFields, ¬ IsCustomName name := by
  decide

theorem apart_of_catalog {name : String} (named : "CATALOG_".toList <+: name.toList) :
    ¬ IsCustomName name ∧ name ∉ Members.names standardFields := by
  have standard : ∀ known ∈ Members.names standardFields, ¬ "CATALOG_".toList <+: known.toList := by decide
  refine ⟨fun custom => ?_, fun known => standard name known named⟩
  rcases List.prefix_or_prefix_of_prefix named custom with within | within <;> revert within <;> decide

/-- **The fields of sections, stores and prices** are no aliases, and have names of their own. -/
theorem of_mem_otherFields {field : String × Property} (inside : field ∈ description.otherFields) :
    field.2.isAlias = false ∧ ¬ IsCustomName field.1 ∧ field.1 ∉ Members.names standardFields := by
  rcases List.mem_append.mp inside with inside | priced
  · rcases List.mem_append.mp inside with member | stored
    · have each : ∀ field ∈ membershipFields, field.2.isAlias = false ∧ ¬ IsCustomName field.1 ∧
          field.1 ∉ Members.names standardFields := by decide
      exact each field member
    · obtain ⟨store, -, here⟩ := List.mem_flatMap.mp stored
      obtain rfl := List.mem_singleton.mp here
      exact ⟨rfl, apart_of_catalog (by simp)⟩
  · obtain ⟨group, -, here⟩ := List.mem_flatMap.mp priced
    simp only [priceFields, List.mem_cons, List.not_mem_nil, or_false] at here
    rcases here with rfl | rfl
    · exact ⟨rfl, apart_of_catalog (by simp)⟩
    · exact ⟨rfl, apart_of_catalog (by simp)⟩

variable (built : description.schema = .ok schema)
include built

/-- **The fields of a catalog's schema**, from left to right. -/
theorem fields_eq : schema.fields = Members.ofList
    (standardFields ++ (description.properties.flatMap Custom.added ++ description.otherFields)) := by
  obtain ⟨fields, made, rfl⟩ := map_eq_ok.mp built
  obtain ⟨rfl, -⟩ := customFields_eq_ok made
  rw [Schema.fields_ofList, otherFields]
  simp only [List.append_assoc]

theorem fields_eq_ok {custom : Custom} (inside : custom ∈ description.properties) :
    custom.fields = .ok custom.added := by
  obtain ⟨fields, made, -⟩ := map_eq_ok.mp built
  exact (customFields_eq_ok made).2 custom inside

/-- **Each custom field is a field of a property.** -/
theorem mem_added_iff : (name, property) ∈ description.properties.flatMap Custom.added ↔
    ∃ custom ∈ description.properties, ∃ values, custom.valueProperty = .ok values ∧
      custom.Field values name property := by
  rw [List.mem_flatMap]
  constructor
  · rintro ⟨custom, inside, added⟩
    have made := fields_eq_ok built inside
    obtain ⟨values, typed⟩ := Custom.exists_valueProperty made
    exact ⟨custom, inside, values, typed, (Custom.mem_fields_iff typed made).mp added⟩
  · rintro ⟨custom, inside, values, typed, field⟩
    exact ⟨custom, inside, (Custom.mem_fields_iff typed (fields_eq_ok built inside)).mpr field⟩

/-- **A custom name is looked up among the custom fields**, from the last one. -/
theorem find?_of_isCustomName (named : IsCustomName name) :
    schema.find? name = Members.get? (description.properties.flatMap Custom.added).reverse name := by
  have before : Members.get? standardFields.reverse name = none := by
    refine Members.get?_eq_none_iff.mpr fun inside => not_isCustomName_standard name ?_ named
    simpa [Members.names] using inside
  have behind : Members.get? description.otherFields.reverse name = none := by
    refine Members.get?_eq_none_iff.mpr fun inside => ?_
    obtain ⟨field, there, rfl⟩ := List.mem_map.mp inside
    exact (of_mem_otherFields (List.mem_reverse.mp there)).2.1 named
  rw [Schema.find?, fields_eq built, Members.get?_ofList, List.reverse_append, List.reverse_append,
    Members.get?_append, Members.get?_append, behind, before, Option.none_or, Option.or_none]

/-- **No standard field is lost to another one.** -/
theorem find?_standard (inside : (name, property) ∈ standardFields) :
    schema.find? name = some property := by
  have distinct : (Members.names standardFields).Nodup := by decide
  have known : name ∈ Members.names standardFields := List.mem_map_of_mem inside
  rw [Schema.find?, fields_eq built, Members.get?_ofList]
  refine Members.get?_of_forall (List.mem_reverse.mpr (List.mem_append_left _ inside)) fun other there => ?_
  rcases List.mem_append.mp (List.mem_reverse.mp there) with again | there
  · have same := (Members.get?_of_mem distinct inside).symm.trans (Members.get?_of_mem distinct again)
    exact (Option.some.inj same).symm
  · rcases List.mem_append.mp there with custom | behind
    · obtain ⟨_, _, _, _, field⟩ := (mem_added_iff built).mp custom
      exact absurd field.isCustomName (not_isCustomName_standard name known)
    · exact absurd known (of_mem_otherFields behind).2.2

/-- **No custom field is lost** if all of its name have its definition. -/
theorem find?_custom {custom : Custom} {values : Property} (inside : custom ∈ description.properties)
    (typed : custom.valueProperty = .ok values) (field : custom.Field values name property)
    (only : ∀ other ∈ description.properties, ∀ others again, other.valueProperty = .ok others →
      other.Field others name again → again = property) : schema.find? name = some property := by
  rw [find?_of_isCustomName built field.isCustomName]
  have there := (mem_added_iff built).mpr ⟨custom, inside, values, typed, field⟩
  refine Members.get?_of_forall (List.mem_reverse.mpr there) fun again added => ?_
  obtain ⟨other, beside, others, known, met⟩ := (mem_added_iff built).mp (List.mem_reverse.mp added)
  exact only other beside others again known met

end Description
end CatalogSearch.Catalog
