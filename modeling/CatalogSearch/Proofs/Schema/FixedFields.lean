/-
**The fields that every catalog has.**

The fields of custom properties have names of their own, whatever codes and numbers the properties have, so that
the others stand in a catalog's schema as if there were no properties: the standard ones, those of sections, and
behind them those of stores and price groups, each of which comes once. A property without a type is the only fault.

* `Catalog.Custom.HasType` — what a property must have; `Catalog.Custom.fields_eq_error_iff`: its fault otherwise;
* `Catalog.Description.schema_eq_error_iff` — the first such property is the error;
* `Catalog.Description.isCustomName_of_mem_added` — no custom field has the name of another one;
* `Catalog.Description.ofList_otherFields` — the fields that are not custom; `Catalog.Description.fixed_eq` — they
  are all that there is of other names;
* `Catalog.Description.fixed_fields` — all of this together.
-/

import CatalogSearch.Proofs.Schema.CatalogFields
import Mathlib.Data.List.Nodup

namespace CatalogSearch.Catalog

/-! ### Properties without a type -/

/-- A property has a type if one is given that is not empty. -/
def Custom.HasType (custom : Custom) : Prop := ∃ type, custom.type? = some type ∧ type ≠ ""

theorem Custom.hasType_iff {custom : Custom} :
    custom.HasType ↔ ∃ type, custom.type?.filter (· ≠ "") = some type := by
  simp [HasType, Option.filter_eq_some_iff]

theorem Custom.valueProperty_eq_error_iff {custom : Custom} {error : Error} :
    custom.valueProperty = .error error ↔ ¬ custom.HasType ∧ error = .schema (.noPropertyType custom.code) := by
  rw [hasType_iff]
  unfold valueProperty
  split
  · next absent =>
    rw [absent]
    simp [eq_comm]
  · next type given =>
    have typed : ∃ type, custom.type?.filter (· ≠ "") = some type := ⟨type, given⟩
    refine ⟨fun failed => ?_, fun untyped => absurd typed untyped.1⟩
    split at failed
    · cases failed
    · split at failed
      · cases failed
      · split at failed <;> cases failed

/-- **A property without a type is refused**, under its code; and nothing else is wrong with one. -/
theorem Custom.fields_eq_error_iff {custom : Custom} {error : Error} :
    custom.fields = .error error ↔ ¬ custom.HasType ∧ error = .schema (.noPropertyType custom.code) := by
  rw [← valueProperty_eq_error_iff, Custom.fields]
  cases custom.valueProperty <;> simp [Except.map]

theorem Custom.exists_fields_iff {custom : Custom} : (∃ fields, custom.fields = .ok fields) ↔ custom.HasType := by
  constructor
  · rintro ⟨fields, made⟩
    by_contra untyped
    cases made.symm.trans (fields_eq_error_iff.mpr ⟨untyped, rfl⟩)
  · intro typed
    cases made : custom.fields with
    | ok fields => exact ⟨fields, rfl⟩
    | error error => exact absurd typed (fields_eq_error_iff.mp made).1

/-- The fields whose names are not those of custom properties, in order. -/
def fixed (fields : Members Property) : Members Property :=
  fields.filter fun field => !decide (IsCustomName field.1)

namespace Description

variable {description : Description} {schema : Schema} {error : Error}

/-- **The first property without a type is the error.** -/
theorem schema_eq_error_iff : description.schema = .error error ↔
    ∃ front custom back, description.properties = front ++ custom :: back ∧ (∀ early ∈ front, early.HasType) ∧
      ¬ custom.HasType ∧ error = .schema (.noPropertyType custom.code) := by
  have same : description.schema = .error error ↔ description.properties.mapM Custom.fields = .error error := by
    unfold Description.schema customFields
    cases description.properties.mapM Custom.fields <;> simp [Except.map]
  rw [same, mapM_eq_error_iff]
  simp only [Custom.exists_fields_iff, Custom.fields_eq_error_iff]

/-- A catalog has a schema if all of its properties have a type. -/
theorem exists_schema_iff :
    (∃ schema, description.schema = .ok schema) ↔ ∀ custom ∈ description.properties, custom.HasType := by
  simp only [← Custom.exists_fields_iff]
  rw [← exists_mapM_iff]
  unfold Description.schema customFields
  cases description.properties.mapM Custom.fields <;> simp [Except.map]

/-! ### The fields that are not custom -/

/-- **No custom field has the name of another one.** -/
theorem isCustomName_of_mem_added (built : description.schema = .ok schema) {field : String × Property}
    (inside : field ∈ description.properties.flatMap Custom.added) : IsCustomName field.1 := by
  obtain ⟨_, _, _, _, known⟩ := (mem_added_iff built).mp inside
  exact known.isCustomName

/-- A number behind a word is told by the whole. -/
theorem eq_of_numbered {word : String} {m n : Nat} (same : word ++ toString m = word ++ toString n) : m = n :=
  Text.toString_inj.mp ((String.append_right_inj word).mp same)

/-- No two words that go apart begin one name. -/
theorem ne_of_words {word other front rest : String} (apart : ¬ word.toList <+: other.toList)
    (apart' : ¬ other.toList <+: word.toList) : word ++ front ≠ other ++ rest := by
  intro same
  have begins : word.toList <+: (other ++ rest).toList := by
    rw [← same, String.toList_append]
    exact List.prefix_append _ _
  have begins' : other.toList <+: (other ++ rest).toList := by
    rw [String.toList_append]
    exact List.prefix_append _ _
  rcases List.prefix_or_prefix_of_prefix begins begins' with within | within
  · exact apart within
  · exact apart' within

/-- The names of prices and of currencies. -/
theorem mem_names_priceFields {group : Nat} {name : String} (inside : name ∈ Members.names (priceFields group)) :
    name = "CATALOG_PRICE_" ++ toString group ∨ name = "CATALOG_CURRENCY_" ++ toString group := by
  simpa [priceFields, Members.names] using inside

/-- The fields of a price group are told by their names. -/
theorem group_of_name {group other : Nat} {name : String} (inside : name ∈ Members.names (priceFields group))
    (inside' : name ∈ Members.names (priceFields other)) : group = other := by
  rcases mem_names_priceFields inside with rfl | rfl <;> rcases mem_names_priceFields inside' with same | same
  · exact eq_of_numbered same
  · exact absurd same (ne_of_words (by decide) (by decide))
  · exact absurd same (ne_of_words (by decide) (by decide))
  · exact eq_of_numbered same

theorem nodup_names_common : (Members.names (standardFields ++ membershipFields)).Nodup := by decide

/-- The fields that every catalog has are not those of stores and prices. -/
theorem not_prefix_of_common :
    ∀ name ∈ Members.names (standardFields ++ membershipFields), ¬"CATALOG_".toList <+: name.toList := by decide

/-- Each store adds its field once. -/
theorem overlay_storeFields (stores : List Nat) :
    Members.overlay (standardFields ++ membershipFields) (stores.flatMap storeFields) =
      standardFields ++ membershipFields ++ stores.eraseDups.flatMap storeFields := by
  refine Members.overlay_flatMap nodup_names_common ?_ ?_ ?_ _
  · exact fun _ => List.nodup_singleton _
  · rintro store name inside known
    obtain rfl := List.mem_singleton.mp inside
    exact not_prefix_of_common _ known (by simp)
  · rintro store other name inside inside'
    obtain rfl := List.mem_singleton.mp inside
    exact eq_of_numbered (List.mem_singleton.mp inside')

/-- Each price group adds its two fields once, behind those of the stores. -/
theorem overlay_priceFields (stores groups : List Nat) :
    Members.overlay (standardFields ++ membershipFields ++ stores.eraseDups.flatMap storeFields)
      (groups.flatMap priceFields) =
      standardFields ++ membershipFields ++ stores.eraseDups.flatMap storeFields ++
        groups.eraseDups.flatMap priceFields := by
  have distinct := Members.nodup_names_overlay nodup_names_common (stores.flatMap storeFields)
  rw [overlay_storeFields] at distinct
  refine Members.overlay_flatMap distinct ?_ ?_ (fun _ _ _ => group_of_name) _
  · intro group
    refine List.nodup_cons.mpr ⟨fun same => ?_, List.nodup_singleton _⟩
    exact ne_of_words (by decide) (by decide) (List.mem_singleton.mp same)
  · intro group name inside known
    obtain ⟨field, there, rfl⟩ := List.mem_map.mp known
    rcases List.mem_append.mp there with early | late
    · refine not_prefix_of_common _ (List.mem_map_of_mem early) ?_
      rcases mem_names_priceFields inside with same | same <;> rw [same] <;> simp
    · obtain ⟨store, -, here⟩ := List.mem_flatMap.mp late
      obtain rfl := List.mem_singleton.mp here
      rcases mem_names_priceFields inside with same | same <;>
        exact ne_of_words (by decide) (by decide) same

/-- **The fields that are not custom**: each store and each price group has its own, once. -/
theorem ofList_otherFields (description : Description) :
    Members.ofList (standardFields ++ description.otherFields) =
      standardFields ++ membershipFields ++ description.stores.eraseDups.flatMap storeFields ++
        description.priceGroups.eraseDups.flatMap priceFields := by
  have common : Members.overlay [] (standardFields ++ membershipFields) = standardFields ++ membershipFields :=
    Members.ofList_eq_self nodup_names_common
  rw [otherFields, ← List.append_assoc, ← List.append_assoc]
  show Members.overlay [] _ = _
  rw [Members.overlay_append, Members.overlay_append, common, overlay_storeFields, overlay_priceFields]

/-- **The fields that are not custom are those of a catalog without properties.** -/
theorem fixed_eq (built : description.schema = .ok schema) :
    fixed schema.fields = Members.ofList (standardFields ++ description.otherFields) := by
  have custom : fixed (description.properties.flatMap Custom.added) = [] := by
    refine List.filter_eq_nil_iff.mpr fun field inside => ?_
    simpa using isCustomName_of_mem_added built inside
  have standard : fixed standardFields = standardFields := by decide
  have other : fixed description.otherFields = description.otherFields := by
    refine List.filter_eq_self.mpr fun field inside => ?_
    simpa using (of_mem_otherFields inside).2.1
  unfold fixed at custom standard other ⊢
  rw [fields_eq built]
  refine (Members.filter_overlay (fun name => !decide (IsCustomName name)) [] _).trans ?_
  rw [List.filter_append, List.filter_append, standard, custom, other, List.nil_append]
  rfl

/-- **The fixed fields of a catalog's schema.** There is a schema just if every property has a type, and the error
is the first property that has none, under its code. The fields whose names are not custom are those of the same
catalog without properties: the standard fields, those of sections, and those of stores and price groups, each
once and where it is first named. -/
theorem fixed_fields (description : Description) :
    (∀ error, description.schema = .error error ↔
      ∃ front custom back, description.properties = front ++ custom :: back ∧
        (∀ early ∈ front, early.HasType) ∧ ¬ custom.HasType ∧ error = .schema (.noPropertyType custom.code)) ∧
    ((∃ schema, description.schema = .ok schema) ↔ ∀ custom ∈ description.properties, custom.HasType) ∧
    ∃ bare, { description with properties := [] }.schema = .ok bare ∧
      bare.fields = standardFields ++ membershipFields ++ description.stores.eraseDups.flatMap storeFields ++
        description.priceGroups.eraseDups.flatMap priceFields ∧
      ∀ schema, description.schema = .ok schema →
        fixed schema.fields = bare.fields := by
  obtain ⟨bare, made⟩ : ∃ bare, { description with properties := [] }.schema = .ok bare :=
    exists_schema_iff.mpr (List.forall_mem_nil _)
  have whole : bare.fields = Members.ofList (standardFields ++ description.otherFields) := fields_eq made
  refine ⟨fun error => schema_eq_error_iff, exists_schema_iff, bare, made, ?_, fun schema built => ?_⟩
  · rw [whole, ofList_otherFields]
  · rw [whole, fixed_eq built]

/-- A list under the name of a field of sections, and a text without a name, beside stores and price groups that
come twice; and the same catalog when both properties have lost their types. -/
theorem fixed_fields_repeated :
    let list : Custom := { id := 7, code := "GROUP_IDS", type? := some "L" }
    let text : Custom := { id := 0, code := "", type? := some "S" }
    let described (properties : List Custom) : Description := ⟨properties, [3, 3], [2, 1, 2]⟩
    (∃ schema, (described [list, text]).schema = .ok schema ∧
      fixed schema.fields =
        standardFields ++ membershipFields ++ storeFields 3 ++ priceFields 2 ++ priceFields 1) ∧
    (described [{ list with type? := some "" }, { text with type? := none }]).schema =
      .error (.schema (.noPropertyType "GROUP_IDS")) := by
  intro list text described
  constructor
  · obtain ⟨-, complete, bare, -, fields, rest⟩ := fixed_fields (described [list, text])
    have typed : ∀ custom ∈ (described [list, text]).properties, custom.HasType := by
      intro custom inside
      rcases List.mem_pair.mp inside with rfl | rfl
      · exact ⟨"L", rfl, by decide⟩
      · exact ⟨"S", rfl, by decide⟩
    obtain ⟨schema, made⟩ := complete.mpr typed
    refine ⟨schema, made, (rest schema made).trans (fields.trans ?_)⟩
    decide
  · obtain ⟨refused, -⟩ := fixed_fields (described [{ list with type? := some "" }, { text with type? := none }])
    refine (refused _).mpr ⟨[], _, _, rfl, List.forall_mem_nil _, ?_, rfl⟩
    rintro ⟨type, given, some⟩
    cases given
    exact some rfl

end Description
end CatalogSearch.Catalog
