/-
**Custom properties are addressed by code and by number, if no code looks like another's number.**

The fields of all properties share one space of names, in which a later field takes the place of an earlier
one. The alias of a number is lost to a property of that code, or leads to itself if the code is the
property's own. The decoded values of a list are lost to a property whose code is the list's with `_VALUE`.

* `Catalog.Description.HasOwnNames` — no code is a number, or that of a list with `_VALUE`; and behind the
  code of a list with `_VALUE` the same is stored;
* `Catalog.Custom.Addressed` — what it is for a property to be found by code and by number;
* `Schema.AliasesLead` — each alias stands for a field that is no alias;
* `Catalog.Description.HasOwnNames.eq_of_fields` — fields of one name have one definition then;
* `Catalog.Description.find?_idName` — what the alias of a number is lost to;
* `Catalog.Description.addressed_iff` — this is what it takes, and all that it takes;
* `Catalog.Description.not_addressed_number` — it is not always so.
-/

import CatalogSearch.Proofs.Schema.CatalogFields
import Mathlib.Data.List.Nodup

namespace CatalogSearch

/-- Each alias of a schema stands for a field that is there and is no alias. -/
def Schema.AliasesLead (schema : Schema) : Prop :=
  ∀ name property, schema.find? name = some property → property.isAlias = true →
    ∃ field, schema.resolve name = .ok field ∧
      ∃ target, schema.find? field = some target ∧ target.isAlias = false

namespace Catalog

/-- **A property is addressed**: by number its field by code is found, and this one holds the property's
values, or a list's codes beside the decoded values. -/
structure Custom.Addressed (custom : Custom) (schema : Schema) (values : Property) : Prop where
  byId : schema.resolve custom.idName = .ok custom.codeName
  byCode : schema.find? custom.codeName = some (custom.stored values)
  decoded : custom.isList = true → schema.find? (custom.codeName ++ "_VALUE") = some values
  decodedById : custom.isList = true →
    schema.resolve (custom.idName ++ "_VALUE") = .ok (custom.codeName ++ "_VALUE")

/-- **No property takes the names of another**, nor its own. -/
structure Description.HasOwnNames (description : Description) : Prop where
  /-- No code is the number of a property. -/
  noNumber : ∀ custom ∈ description.properties, ∀ other ∈ description.properties,
    custom.code ≠ toString other.id
  /-- No code is that of the decoded values under a number. -/
  noDecodedNumber : ∀ custom ∈ description.properties, ∀ list ∈ description.properties,
    list.isList = true → custom.code ≠ toString list.id ++ "_VALUE"
  /-- Under a code of decoded values there is what they are. -/
  sameDecoded : ∀ custom ∈ description.properties, ∀ list ∈ description.properties,
    list.isList = true → custom.code = list.code ++ "_VALUE" →
      custom.isList = false ∧ custom.valueProperty = list.valueProperty

instance (description : Description) : Decidable description.HasOwnNames :=
  decidable_of_iff (_ ∧ _ ∧ _) ⟨fun ⟨number, decoded, same⟩ => ⟨number, decoded, same⟩,
    fun own => ⟨own.noNumber, own.noDecodedNumber, own.sameDecoded⟩⟩

namespace Description

variable {description : Description}

/-- A property under the code of decoded values stores what they are. -/
theorem HasOwnNames.stored_eq (own : description.HasOwnNames) {custom list : Custom}
    {values decoded : Property} (inside : custom ∈ description.properties)
    (beside : list ∈ description.properties) (listed : list.isList = true)
    (named : custom.code = list.code ++ "_VALUE") (typed : custom.valueProperty = .ok values)
    (known : list.valueProperty = .ok decoded) : custom.stored values = decoded := by
  obtain ⟨plain, same⟩ := own.sameDecoded custom inside list beside listed named
  have stored : custom.stored values = values := if_neg (by simp [plain])
  rw [stored]
  exact Except.ok.inj (typed.symm.trans (same.trans known))

/-- **Fields of one name have one definition** where each property has its own names. -/
theorem HasOwnNames.eq_of_fields (own : description.HasOwnNames)
    (ids : (description.properties.map Custom.id).Nodup)
    (codes : (description.properties.map Custom.code).Nodup) {custom other : Custom}
    (inside : custom ∈ description.properties) (beside : other ∈ description.properties)
    {values others property again : Property} (typed : custom.valueProperty = .ok values)
    (known : other.valueProperty = .ok others) {name same : String} (met : name = same)
    (field : custom.Field values name property) (clash : other.Field others same again) :
    again = property := by
  have alike : custom = other → values = others := by
    rintro rfl
    exact Except.ok.inj (typed.symm.trans known)
  have byCode : custom.code = other.code → custom = other := List.inj_on_of_nodup_map codes inside beside
  have byId : custom.id = other.id → custom = other := List.inj_on_of_nodup_map ids inside beside
  -- One case for each two fields: a code, a number, and either with the ending.
  cases field with
  | byCode =>
    cases clash with
    | byCode =>
      obtain rfl := byCode (Custom.codeName_inj.mp met)
      rw [alike rfl]
    | byId => exact absurd (Custom.codeName_eq_idName_iff.mp met) (own.noNumber custom inside other beside)
    | decoded listed =>
      exact (own.stored_eq inside beside listed (Custom.codeName_eq_decoded_iff.mp met) typed known).symm
    | decodedById listed =>
      exact absurd (Custom.codeName_eq_decodedById_iff.mp met)
        (own.noDecodedNumber custom inside other beside listed)
  | byId =>
    cases clash with
    | byCode =>
      exact absurd (Custom.codeName_eq_idName_iff.mp met.symm) (own.noNumber other beside custom inside)
    | byId =>
      obtain rfl := byId (Custom.idName_inj.mp met)
      rfl
    | decoded => exact absurd met (Custom.idName_ne_append_value _)
    | decodedById => exact absurd met (Custom.idName_ne_append_value _)
  | decoded listed =>
    cases clash with
    | byCode =>
      exact own.stored_eq beside inside listed (Custom.codeName_eq_decoded_iff.mp met.symm) known typed
    | byId => exact absurd met.symm (Custom.idName_ne_append_value _)
    | decoded => exact (alike (byCode (Custom.codeName_inj.mp (String.append_left_inj _ |>.mp met)))).symm
    | decodedById =>
      exact absurd (Custom.codeName_eq_idName_iff.mp ((String.append_left_inj _).mp met))
        (own.noNumber custom inside other beside)
  | decodedById listed =>
    cases clash with
    | byCode =>
      exact absurd (Custom.codeName_eq_decodedById_iff.mp met.symm)
        (own.noDecodedNumber other beside custom inside listed)
    | byId => exact absurd met.symm (Custom.idName_ne_append_value _)
    | decoded =>
      exact absurd (Custom.codeName_eq_idName_iff.mp ((String.append_left_inj _).mp met).symm)
        (own.noNumber other beside custom inside)
    | decodedById =>
      obtain rfl := byId (Custom.idName_inj.mp ((String.append_left_inj _).mp met))
      rfl

section

variable {schema : Schema} (ids : (description.properties.map Custom.id).Nodup)
  (codes : (description.properties.map Custom.code).Nodup) (built : description.schema = .ok schema)
include ids codes built

theorem find?_of_hasOwnNames (own : description.HasOwnNames) {custom : Custom} {values property : Property}
    {name : String} (inside : custom ∈ description.properties) (typed : custom.valueProperty = .ok values)
    (field : custom.Field values name property) : schema.find? name = some property :=
  find?_custom built inside typed field fun _ beside _ _ known clash =>
    own.eq_of_fields ids codes inside beside typed known rfl field clash

theorem addressed_of_hasOwnNames (own : description.HasOwnNames) {custom : Custom} {values : Property}
    (inside : custom ∈ description.properties) (typed : custom.valueProperty = .ok values) :
    custom.Addressed schema values := by
  have found : ∀ {name property}, custom.Field values name property → schema.find? name = some property :=
    find?_of_hasOwnNames ids codes built own inside typed
  have plain : values.isAlias = false := (Custom.plain_of_valueProperty typed).1
  refine ⟨?_, found .byCode, fun listed => found (.decoded listed), fun listed => ?_⟩
  · have given : custom.codeName ≠ "" := by simp [Custom.codeName]
    have led := Property.aliasPath?_ofAlias given
    exact Schema.resolve_of_alias (found .byId) rfl led (found .byCode) (Custom.isAlias_stored typed)
  · have given : custom.codeName ++ "_VALUE" ≠ "" := by simp
    have led := Property.aliasPath?_ofAlias given
    exact Schema.resolve_of_alias (found (.decodedById listed)) rfl led (found (.decoded listed)) plain

theorem aliasesLead_of_hasOwnNames (own : description.HasOwnNames) : schema.AliasesLead := by
  have leads : ∀ {name field}, schema.resolve name = .ok field →
      ∃ field, schema.resolve name = .ok field ∧
        ∃ target, schema.find? field = some target ∧ target.isAlias = false :=
    fun resolved => ⟨_, resolved, Schema.find?_of_resolve resolved⟩
  intro name property found aliased
  have inside := Members.mem_of_mem_ofList (fields_eq built ▸ Members.mem_of_get? found)
  rcases List.mem_append.mp inside with standard | inside
  · have each : ∀ field ∈ standardFields, field.2.isAlias = true → ∃ target ∈ standardFields,
        field.2.aliasPath? = some target.1 ∧ target.2.isAlias = false := by decide
    obtain ⟨target, there, led, plain⟩ := each _ standard aliased
    exact leads (Schema.resolve_of_alias found aliased led (find?_standard built there) plain)
  · rcases List.mem_append.mp inside with added | other
    · obtain ⟨custom, inside, values, typed, field⟩ := (mem_added_iff built).mp added
      have addressed := addressed_of_hasOwnNames ids codes built own inside typed
      have plain := (Custom.plain_of_valueProperty typed).1
      cases field with
      | byCode => exact absurd aliased (by simp [Custom.isAlias_stored typed])
      | byId => exact leads addressed.byId
      | decoded => exact absurd aliased (by simp [plain])
      | decodedById listed => exact leads (addressed.decodedById listed)
    · exact absurd aliased (by simp [(of_mem_otherFields other).1])

end

end Description

/-! ### What it takes -/

/-- Of one property's fields the alias by number is behind the field by code. -/
theorem Custom.get?_added_idName {custom : Custom} {values : Property}
    (typed : custom.valueProperty = .ok values) :
    Members.get? custom.added.reverse custom.idName = some (.ofAlias custom.codeName) := by
  have coded : custom.codeName ++ "_VALUE" ≠ custom.idName := (idName_ne_append_value _).symm
  have numbered : custom.idName ++ "_VALUE" ≠ custom.idName := (idName_ne_append_value _).symm
  rw [added, fields, typed]
  by_cases listed : custom.isList = true <;>
    simp [Except.map, Except.toOption, listed, Members.get?, coded, numbered]

/-- What has a name by number is of that number, or has it for its code. -/
theorem Custom.Field.of_idName {custom other : Custom} {values property : Property} {name : String}
    (field : other.Field values name property) (named : name = custom.idName) :
    other.code = toString custom.id ∨ other.id = custom.id := by
  cases field with
  | byCode => exact .inl (codeName_eq_idName_iff.mp named)
  | byId => exact .inr (idName_inj.mp named)
  | decoded => exact absurd named.symm (idName_ne_append_value _)
  | decodedById => exact absurd named.symm (idName_ne_append_value _)

/-- **The alias by number is lost to no property** but one of that code. -/
theorem Description.find?_idName {description : Description} {schema : Schema}
    (ids : (description.properties.map Custom.id).Nodup) (built : description.schema = .ok schema)
    {custom : Custom} (inside : custom ∈ description.properties)
    (only : ∀ other ∈ description.properties, other.code = toString custom.id → other = custom) :
    schema.find? custom.idName = some (.ofAlias custom.codeName) := by
  obtain ⟨values, typed⟩ := Custom.exists_valueProperty (fields_eq_ok built inside)
  have named : IsCustomName custom.idName := isCustomName_append _
  obtain ⟨front, back, parts⟩ := List.append_of_mem inside
  have absent : custom ∉ back := by
    have distinct := ids.of_map
    rw [parts, List.nodup_append] at distinct
    exact (List.nodup_cons.mp distinct.2.1).1
  have behind : Members.get? (back.flatMap Custom.added).reverse custom.idName = none := by
    refine Members.get?_eq_none_iff.mpr fun met => ?_
    obtain ⟨⟨name, property⟩, there, same⟩ := List.mem_map.mp met
    obtain ⟨other, later, added⟩ := List.mem_flatMap.mp (List.mem_reverse.mp there)
    have beside : other ∈ description.properties := by
      rw [parts]
      exact List.mem_append_right _ (List.mem_cons_of_mem _ later)
    have made := fields_eq_ok built beside
    obtain ⟨others, known⟩ := Custom.exists_valueProperty made
    have again : other = custom := by
      rcases ((Custom.mem_fields_iff known made).mp added).of_idName same with code | number
      · exact only other beside code
      · exact List.inj_on_of_nodup_map ids beside inside number
    exact absent (again ▸ later)
  rw [find?_of_isCustomName built named, parts, List.flatMap_append, List.flatMap_cons,
    List.reverse_append, List.reverse_append, Members.get?_append, Members.get?_append, behind,
    Custom.get?_added_idName typed]
  rfl

namespace Description

section

variable {description : Description} {schema : Schema} (each : ∀ custom ∈ description.properties,
  ∃ values, custom.valueProperty = .ok values ∧ custom.Addressed schema values)
include each

/-- A field by code stands for itself, so that what has its name cannot stand for another one. -/
theorem resolve_codeName {custom : Custom} (inside : custom ∈ description.properties) :
    schema.resolve custom.codeName = .ok custom.codeName := by
  obtain ⟨values, typed, addressed⟩ := each custom inside
  exact Schema.resolve_of_plain addressed.byCode (Custom.isAlias_stored typed)

theorem noNumber_of_addressed (ids : (description.properties.map Custom.id).Nodup)
    (codes : (description.properties.map Custom.code).Nodup) (built : description.schema = .ok schema)
    {custom other : Custom} (inside : custom ∈ description.properties)
    (beside : other ∈ description.properties) : custom.code ≠ toString other.id := by
  intro named
  obtain ⟨values, typed, addressed⟩ := each other beside
  have same : custom.codeName = other.idName := Custom.codeName_eq_idName_iff.mpr named
  have stands : other.codeName = custom.codeName :=
    Except.ok.inj (addressed.byId.symm.trans (same ▸ resolve_codeName each inside))
  -- So the code is the property's own, and the name is that of its alias, which comes last.
  have own : custom.code = other.code := (Custom.codeName_inj.mp stands).symm
  have last := find?_idName ids built beside fun third there again =>
    List.inj_on_of_nodup_map codes there beside (again.trans (named.symm.trans own))
  have first := addressed.byCode
  rw [stands, same, last] at first
  have plain := Custom.isAlias_stored typed
  rw [← Option.some.inj first] at plain
  cases plain

theorem noDecodedNumber_of_addressed {custom list : Custom} (inside : custom ∈ description.properties)
    (beside : list ∈ description.properties) (listed : list.isList = true)
    (noNumber : list.code ≠ toString list.id) : custom.code ≠ toString list.id ++ "_VALUE" := by
  intro named
  obtain ⟨values, typed, addressed⟩ := each list beside
  have same : custom.codeName = list.idName ++ "_VALUE" := Custom.codeName_eq_decodedById_iff.mpr named
  have stands : list.codeName ++ "_VALUE" = custom.codeName :=
    Except.ok.inj ((addressed.decodedById listed).symm.trans (same ▸ resolve_codeName each inside))
  have met : list.codeName = list.idName := (String.append_left_inj _).mp (stands.trans same)
  exact noNumber (Custom.codeName_eq_idName_iff.mp met)

theorem sameDecoded_of_addressed {custom list : Custom} (inside : custom ∈ description.properties)
    (beside : list ∈ description.properties) (listed : list.isList = true)
    (named : custom.code = list.code ++ "_VALUE") :
    custom.isList = false ∧ custom.valueProperty = list.valueProperty := by
  obtain ⟨values, typed, addressed⟩ := each custom inside
  obtain ⟨decoded, known, other⟩ := each list beside
  have same : custom.codeName = list.codeName ++ "_VALUE" := Custom.codeName_eq_decoded_iff.mpr named
  have stored : custom.stored values = decoded := by
    have found := addressed.byCode
    rw [same, other.decoded listed] at found
    exact (Option.some.inj found).symm
  by_cases coded : custom.isList = true
  · have codes : custom.stored values = Custom.listProperty := if_pos coded
    exact absurd (stored.symm.trans codes) (Custom.plain_of_valueProperty known).2
  · have plain : custom.stored values = values := if_neg coded
    refine ⟨by simpa using coded, ?_⟩
    rw [typed, known, ← stored, plain]

end

/-- **Catalogs whose properties are addressed** are those whose properties have their own names: then, and
only then, all aliases of the schema lead to fields, every property is found by code and by number, and so
are the decoded values of every list. -/
theorem addressed_iff {description : Description} {schema : Schema}
    (ids : (description.properties.map Custom.id).Nodup)
    (codes : (description.properties.map Custom.code).Nodup) (built : description.schema = .ok schema) :
    (schema.AliasesLead ∧ ∀ custom ∈ description.properties, ∃ values,
      custom.valueProperty = .ok values ∧ custom.Addressed schema values) ↔ description.HasOwnNames := by
  constructor
  · rintro ⟨-, each⟩
    have noNumber : ∀ custom ∈ description.properties, ∀ other ∈ description.properties,
        custom.code ≠ toString other.id :=
      fun _ inside _ beside => noNumber_of_addressed each ids codes built inside beside
    exact ⟨noNumber,
      fun _ inside list beside listed =>
        noDecodedNumber_of_addressed each inside beside listed (noNumber list beside list beside),
      fun _ inside _ => sameDecoded_of_addressed each inside⟩
  · intro own
    refine ⟨aliasesLead_of_hasOwnNames ids codes built own, fun custom inside => ?_⟩
    obtain ⟨values, typed⟩ := Custom.exists_valueProperty (fields_eq_ok built inside)
    exact ⟨values, typed, addressed_of_hasOwnNames ids codes built own inside typed⟩

/-- A list beside a text that has the code of the list's decoded values. -/
theorem addressed_iff_list :
    let description : Description :=
      { properties := [ { id := 5, code := "COLOR", type? := some "L" },
          { id := 12, code := "COLOR_VALUE", type? := some "S" },
          { id := 7, code := "5_VALUES", type? := some "N" } ] }
    (description.properties.map Custom.id).Nodup ∧ (description.properties.map Custom.code).Nodup ∧
      description.HasOwnNames ∧ ∃ schema, description.schema = .ok schema ∧
        (schema.AliasesLead ∧ ∀ custom ∈ description.properties, ∃ values,
          custom.valueProperty = .ok values ∧ custom.Addressed schema values) := by
  intro description
  have ids : (description.properties.map Custom.id).Nodup := by decide
  have codes : (description.properties.map Custom.code).Nodup := by decide
  have own : description.HasOwnNames := by decide
  obtain ⟨schema, built⟩ : ∃ schema, description.schema = .ok schema := ⟨_, rfl⟩
  exact ⟨ids, codes, own, schema, built, (addressed_iff ids codes built).mpr own⟩

/-- Under a code that is the property's own number the alias leads to itself. -/
example : ¬ ({ properties := [{ id := 1, code := "1", type? := some "S" }] } : Description).HasOwnNames := by
  decide

/-- **Not every property is addressed**: where one has the number of another for its code, the alias of
that number leads to another alias. -/
theorem not_addressed_number :
    let description : Description :=
      { properties := [ { id := 10, code := "11", type? := some "S" },
          { id := 11, code := "BRAND", type? := some "S" } ] }
    (description.properties.map Custom.id).Nodup ∧ (description.properties.map Custom.code).Nodup ∧
      ∃ schema, description.schema = .ok schema ∧
        schema.resolve "PROPERTY_10" = .error (.invalidAliasPath "PROPERTY_10" (some "PROPERTY_11")) ∧
        ¬ (schema.AliasesLead ∧ ∀ custom ∈ description.properties, ∃ values,
          custom.valueProperty = .ok values ∧ custom.Addressed schema values) := by
  intro description
  have ids : (description.properties.map Custom.id).Nodup := by decide
  have codes : (description.properties.map Custom.code).Nodup := by decide
  obtain ⟨schema, built, fails⟩ : ∃ schema, description.schema = .ok schema ∧
      schema.resolve "PROPERTY_10" = .error (.invalidAliasPath "PROPERTY_10" (some "PROPERTY_11")) :=
    ⟨_, rfl, by decide⟩
  refine ⟨ids, codes, schema, built, fails, ?_⟩
  rintro ⟨-, each⟩
  obtain ⟨values, -, addressed⟩ := each ⟨10, "11", some "S", none⟩ List.mem_cons_self
  cases fails.symm.trans addressed.byId

end Description
end Catalog
end CatalogSearch
