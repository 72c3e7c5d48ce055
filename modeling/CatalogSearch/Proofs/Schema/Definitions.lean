/-
**Definitions, written and read.**

Whatever is built by the operations on properties and schemas can be written as an index mapping and
read again.

* `Property.Made`, `Schema.Made` — what the operations make, kinds being given by name, if only such values are
  read as are admitted; `Property.Built`, `Schema.Built` — what they make of any values;
* `Property.Made.get?_type` — no parameter of such a property is named `type`, so that the kind is
  written under it and `Property.Made.exists_ofMembers_toMembers` holds: what is written can be read;
* `Schema.forall_fields_of_ofDefinitions?`, `forall_fields_of_addDefinitions` — what holds of every
  property that is read holds of all fields; `Schema.Made.forall_fields` — so what holds of every property
  that is made holds of the fields of every schema that is made;
* `Schema.contains_of_ofProperties` — the fields that are read are those whose definitions are objects;
  `Schema.exists_ofProperties_iff` — they are read if every one of these can be.
-/

import CatalogSearch.Schema.Mapping

namespace CatalogSearch

/-- After an insertion there is the new value, and nothing else that was not there before. -/
theorem Members.forall_mem_insert {α : Type} {P : α → Prop} {members : Members α}
    (each : ∀ entry ∈ members, P entry.2) (name : String) {value : α} (holds : P value) :
    ∀ entry ∈ members.insert name value, P entry.2 := by
  intro entry inside
  rcases mem_of_mem_insert inside with before | rfl
  · exact each entry before
  · exact holds

/-! ### Properties -/

namespace Property

/-- **The properties that the operations make**: new ones, changed ones, and those that are read from admitted
values. -/
inductive Made (admits : Json → Bool) : Property → Prop where
  | new (kind : String) : Made admits (.ofKind (.ofName kind))
  | ofAlias (path : String) : Made admits (.ofAlias path)
  | set {property : Property} (made : Made admits property) (name : String) (value : Json) :
      Made admits (property.set name value)
  | read {members : Members Json} {property : Property} (admitted : admits (.object members) = true)
      (read : ofMembers members = .ok property) : Made admits property

/-- The properties that can be built of any values. -/
abbrev Built : Property → Prop := Made fun _ => true

variable {admits : Json → Bool}

theorem get?_type_of_ofMembers {members : Members Json} {property : Property}
    (read : ofMembers members = .ok property) : property.get? "type" = none := by
  unfold ofMembers at read
  split at read <;> cases read <;> exact (Members.get?_erase members "type" "type").trans (if_pos rfl)

/-- Setting `type` sets the kind, and never adds a parameter of that name. -/
theorem get?_type_set {property : Property} (free : property.get? "type" = none) (name : String) (value : Json) :
    (property.set name value).get? "type" = none := by
  unfold Property.set
  by_cases kind : name = "type"
  · rw [if_pos kind]
    cases value <;> exact free
  · rw [if_neg kind, Property.get?, Members.get?_insert, if_neg kind]
    exact free

/-- **No parameter is named `type`.** -/
theorem Made.get?_type {property : Property} (made : property.Made admits) :
    property.get? "type" = none := by
  induction made with
  | new kind => rfl
  | ofAlias path => rfl
  | set _ name value ih => exact get?_type_set ih name value
  | read _ read => exact get?_type_of_ofMembers read

/-- The kind is written under `type`. -/
theorem Made.get?_toMembers_type {property : Property} (made : property.Made admits) :
    property.toMembers.get? "type" = some (.string property.kind.name) :=
  Members.get?_overlay_of_not_mem _ (Members.get?_eq_none_iff.mp made.get?_type)

/-- **What is written can be read.** -/
theorem Made.exists_ofMembers_toMembers {property : Property} (made : property.Made admits) :
    ∃ read, ofMembers property.toMembers = .ok read := by
  unfold ofMembers
  rw [made.get?_toMembers_type]
  exact ⟨_, rfl⟩

end Property

/-! ### Schemas -/

namespace Schema

/-- **The schemas that the operations make**: from fields one by one, from a list of them, from other schemas, and
by reading admitted values or any text. -/
inductive Made (admits : Json → Bool) : Schema → Prop where
  | empty : Made admits .empty
  | insert {schema : Schema} {property : Property} (made : Made admits schema) (name : String)
      (field : property.Made admits) : Made admits (schema.insert name property)
  | ofList {fields : List (String × Property)} (each : ∀ field ∈ fields, field.2.Made admits) :
      Made admits (.ofList fields)
  | difference {schema : Schema} (made : Made admits schema) (other : Schema) :
      Made admits (schema.difference other)
  | ofProperties {properties : Members Json} {schema : Schema} (admitted : admits (.object properties) = true)
      (read : (ofProperties properties).result = .ok schema) : Made admits schema
  | ofMapping {mapping : Json} {schema : Schema} (admitted : admits mapping = true)
      (read : ofMapping? mapping = some schema) : Made admits schema
  | ofText {precision : Json.Reader.Precision} {text : String} {schema : Schema}
      (read : ofText? precision text = some schema) : Made admits schema

/-- The schemas that can be built of any values. -/
abbrev Built : Schema → Prop := Made fun _ => true

/-- The definition that is read is an object, whose members define the property. -/
theorem of_ofJson? {value : Json} {property : Property} (read : Property.ofJson? value = some property) :
    ∃ members, value = .object members ∧ Property.ofMembers members = .ok property := by
  cases value with
  | object members =>
    replace read : (Property.ofMembers members).toOption = some property := read
    cases outcome : Property.ofMembers members with
    | error given => simp [outcome, Except.toOption] at read
    | ok found =>
      rw [outcome] at read
      cases read
      exact ⟨members, rfl, outcome⟩
  | _ => cases read

theorem made_of_ofJson? {admits : Json → Bool} {value : Json} {property : Property}
    (admitted : admits value = true) (read : Property.ofJson? value = some property) :
    property.Made admits := by
  obtain ⟨members, rfl, made⟩ := of_ofJson? read
  exact .read admitted made

theorem built_of_writtenProperty? {value : Json} {property : Property}
    (read : writtenProperty? value = some property) : property.Built := by
  obtain ⟨members, _, found⟩ := Option.bind_eq_some_iff.mp read
  split at found
  · cases found
  · exact made_of_ofJson? rfl found

/-- Fields are inserted one by one: what holds of every property that is read holds of all fields. -/
theorem forall_fields_of_ofDefinitions? {P : Property → Prop} {read? : Json → Option Property}
    {definitions : Members Json}
    (each : ∀ entry ∈ definitions, ∀ property, read? entry.2 = some property → P property)
    {found : Schema} (read : ofDefinitions? read? (.object definitions) = some found) :
    ∀ field ∈ found.fields, P field.2 := by
  have general : ∀ (members : Members Json) (schema : Schema), members ⊆ definitions →
      (∀ field ∈ schema.fields, P field.2) →
      members.foldlM (fun schema field => (read? field.2).map (schema.insert field.1)) schema =
        some found → ∀ field ∈ found.fields, P field.2 := by
    intro members
    induction members with
    | nil =>
      intro schema _ held same
      cases same
      exact held
    | cons head rest ih =>
      intro schema inside held folded
      rw [List.foldlM_cons] at folded
      obtain ⟨next, inserted, later⟩ := Option.bind_eq_some_iff.mp folded
      obtain ⟨property, made, same⟩ := Option.map_eq_some_iff.mp inserted
      obtain ⟨first, others⟩ := List.cons_subset.mp inside
      refine ih next others (same ▸ ?_) later
      exact Members.forall_mem_insert held head.1 (each head first property made)
  exact general definitions .empty (List.Subset.refl _) (List.forall_mem_nil _) read

/-- Definitions that can be read are the members of an object. -/
theorem exists_members_of_ofDefinitions? {read? : Json → Option Property} {definitions : Json}
    {found : Schema} (read : ofDefinitions? read? definitions = some found) :
    ∃ members, definitions = .object members := by
  cases definitions with
  | object members => exact ⟨members, rfl⟩
  | _ => cases read

/-- A definition adds a field, or none. -/
theorem forall_fields_of_addDefinition {P : Property → Prop} {schema found : Schema} {name : String}
    {definition : Json} (held : ∀ field ∈ schema.fields, P field.2)
    (each : ∀ members property, definition = .object members →
      Property.ofMembers members = .ok property → P property)
    (read : (addDefinition schema name definition).result = .ok found) :
    ∀ field ∈ found.fields, P field.2 := by
  unfold addDefinition at read
  split at read
  · split at read
    · next made =>
      cases read
      exact Members.forall_mem_insert held name (each _ _ rfl made)
    · cases read
  · cases read
    exact held

/-- What holds of every property that a definition defines holds of all fields. -/
theorem forall_fields_of_addDefinitions {P : Property → Prop} {definitions : Members Json}
    {schema found : Schema} (held : ∀ field ∈ schema.fields, P field.2)
    (each : ∀ entry ∈ definitions, ∀ members property, entry.2 = .object members →
      Property.ofMembers members = .ok property → P property)
    (read : (addDefinitions schema definitions).result = .ok found) :
    ∀ field ∈ found.fields, P field.2 := by
  induction definitions generalizing schema with
  | nil =>
    cases read
    exact held
  | cons head rest ih =>
    obtain ⟨first, others⟩ := List.forall_mem_cons.mp each
    obtain ⟨next, added, later⟩ := Logged.result_andThen_eq_ok.mp read
    exact ih (forall_fields_of_addDefinition held first added) others later

theorem exists_of_mem_mapM {α β : Type} {step : α → Option β} {items : List α} {results : List β}
    (mapped : items.mapM step = some results) {b : β} (member : b ∈ results) :
    ∃ a, step a = some b := by
  induction items generalizing results with
  | nil =>
    cases mapped
    cases member
  | cons a rest ih =>
    rw [List.mapM_cons] at mapped
    obtain ⟨first, made, mapped⟩ := Option.bind_eq_some_iff.mp mapped
    obtain ⟨others, later, same⟩ := Option.bind_eq_some_iff.mp mapped
    cases same
    rcases List.mem_cons.mp member with rfl | inside
    · exact ⟨a, made⟩
    · exact ih later inside

/-- A mapping is read from the definitions under `properties`, or else it has no fields. -/
theorem of_ofMapping? {mapping : Json} {found : Schema} (read : ofMapping? mapping = some found) :
    (∃ (members definitions : Members Json), mapping = .object members ∧
        members.get? "properties" = some (.object definitions) ∧
        ofDefinitions? Property.ofJson? (.object definitions) = some found) ∨ found = .empty := by
  obtain ⟨members, isObject, read⟩ := Option.bind_eq_some_iff.mp read
  split at read
  · next given under =>
    obtain ⟨definitions, rfl⟩ := exists_members_of_ofDefinitions? read
    refine .inl ⟨members, definitions, ?_, under, read⟩
    cases mapping <;> cases isObject
    rfl
  · cases read
    exact .inr rfl

/-- A text is read from the definitions that stand last under `properties`, or else it has no fields. -/
theorem of_ofText? {precision : Json.Reader.Precision} {text : String} {found : Schema}
    (read : ofText? precision text = some found) :
    (∃ definitions, ofDefinitions? writtenProperty? (.object definitions) = some found) ∨
      found = .empty := by
  obtain ⟨given, _, mapped⟩ := Option.bind_eq_some_iff.mp read
  obtain ⟨schemas, each, last⟩ := Option.bind_eq_some_iff.mp mapped
  cases last
  cases final : schemas.getLast? with
  | none => exact .inr rfl
  | some schema =>
    obtain ⟨definitions, read⟩ := exists_of_mem_mapM each (List.mem_of_getLast? final)
    obtain ⟨members, rfl⟩ := exists_members_of_ofDefinitions? read
    exact .inl ⟨members, read⟩

theorem forall_fields_ofList {P : Property → Prop} {fields : List (String × Property)}
    (each : ∀ field ∈ fields, P field.2) : ∀ field ∈ (ofList fields).fields, P field.2 := by
  intro field inside
  rw [fields_ofList] at inside
  exact each field (Members.mem_of_mem_ofList inside)

/-- **What holds of every property that is made, and of those that a text defines, holds of the fields of every
schema that is made**, if what is admitted consists of what is. -/
theorem Made.forall_fields {P : Property → Prop} {admits : Json → Bool}
    (within : ∀ members, admits (.object members) = true → ∀ entry ∈ members, admits entry.2 = true)
    (each : ∀ property, property.Made admits → P property)
    (written : ∀ value property, writtenProperty? value = some property → P property)
    {schema : Schema} (made : schema.Made admits) : ∀ field ∈ schema.fields, P field.2 := by
  induction made with
  | empty => exact List.forall_mem_nil _
  | insert _ name field ih => exact Members.forall_mem_insert ih name (each _ field)
  | ofList fields => exact forall_fields_ofList fun field inside => each _ (fields field inside)
  | difference _ other ih => exact fun field member => ih field (List.mem_filter.mp member).1
  | ofProperties admitted read =>
    refine forall_fields_of_addDefinitions (List.forall_mem_nil _) ?_ read
    intro entry inside members property same found
    exact each property (.read (same ▸ within _ admitted entry inside) found)
  | ofMapping admitted read =>
    rcases of_ofMapping? read with ⟨members, definitions, rfl, given, read⟩ | rfl
    · have deeper := within definitions (within members admitted _ (Members.mem_of_get? given))
      refine forall_fields_of_ofDefinitions? (fun entry inside property found => ?_) read
      exact each property (made_of_ofJson? (deeper entry inside) found)
    · exact List.forall_mem_nil _
  | ofText read =>
    rcases of_ofText? read with ⟨definitions, read⟩ | rfl
    · exact forall_fields_of_ofDefinitions? (fun entry _ => written entry.2) read
    · exact List.forall_mem_nil _

/-- **The properties of a schema that can be built can be built.** -/
theorem Built.forall_fields {schema : Schema} (built : schema.Built) :
    ∀ field ∈ schema.fields, field.2.Built :=
  Made.forall_fields (fun _ _ _ _ => rfl) (fun _ => id) (fun _ _ => built_of_writtenProperty?) built

/-! ### Reading definitions -/

theorem contains_iff {schema : Schema} {name : String} :
    schema.contains name = true ↔ name ∈ schema.names := Members.isSome_get?_iff

theorem contains_insert (schema : Schema) (name other : String) (property : Property) :
    (schema.insert name property).contains other = (decide (name = other) || schema.contains other) := by
  rw [contains, find?, insert, Members.get?_insert]
  by_cases same : name = other <;> simp [same, contains, find?]

/-- A definition that is an object adds the field of its name, any other nothing. -/
theorem contains_of_addDefinition {schema found : Schema} {key : String} {definition : Json}
    (read : (addDefinition schema key definition).result = .ok found) (name : String) :
    found.contains name = true ↔
      schema.contains name = true ∨ ∃ members, (name, Json.object members) = (key, definition) := by
  unfold addDefinition at read
  split at read
  · next members =>
    split at read
    · cases read
      rw [contains_insert]
      by_cases same : key = name
      · simp [same]
      · simp [same, Ne.symm same]
    · cases read
  · next plain =>
    cases read
    constructor
    · exact .inl
    · rintro (kept | ⟨members, same⟩)
      · exact kept
      · exact absurd (congrArg Prod.snd same).symm (plain members)

theorem contains_of_addDefinitions {definitions : Members Json} {schema found : Schema}
    (read : (addDefinitions schema definitions).result = .ok found) (name : String) :
    found.contains name = true ↔
      schema.contains name = true ∨ ∃ members, (name, Json.object members) ∈ definitions := by
  induction definitions generalizing schema with
  | nil =>
    cases read
    simp
  | cons head rest ih =>
    obtain ⟨next, added, later⟩ := Logged.result_andThen_eq_ok.mp read
    rw [ih later, contains_of_addDefinition added, or_assoc, ← exists_or]
    simp only [List.mem_cons]

/-- **The fields that are read are those whose definitions are objects.** -/
theorem contains_of_ofProperties {definitions : Members Json} {found : Schema}
    (read : (ofProperties definitions).result = .ok found) (name : String) :
    found.contains name = true ↔ ∃ members, (name, Json.object members) ∈ definitions := by
  rw [contains_of_addDefinitions read]
  exact or_iff_right Bool.false_ne_true

/-- The definitions that are objects can be read. -/
def AreReadable (definitions : Members Json) : Prop :=
  ∀ entry ∈ definitions, ∀ members, entry.2 = .object members →
    ∃ property, Property.ofMembers members = .ok property

theorem exists_addDefinition_iff (schema : Schema) (name : String) (definition : Json) :
    (∃ found, (addDefinition schema name definition).result = .ok found) ↔
      ∀ members, definition = .object members → ∃ property, Property.ofMembers members = .ok property := by
  cases definition with
  | object members =>
    cases outcome : Property.ofMembers members <;> simp [addDefinition, outcome]
  | _ => simp [addDefinition]

theorem exists_addDefinitions_iff (definitions : Members Json) (schema : Schema) :
    (∃ found, (addDefinitions schema definitions).result = .ok found) ↔ AreReadable definitions := by
  induction definitions generalizing schema with
  | nil => exact ⟨fun _ => List.forall_mem_nil _, fun _ => ⟨schema, rfl⟩⟩
  | cons head rest ih =>
    unfold AreReadable
    rw [List.forall_mem_cons, ← exists_addDefinition_iff schema head.1]
    constructor
    · rintro ⟨found, read⟩
      obtain ⟨next, added, later⟩ := Logged.result_andThen_eq_ok.mp read
      exact ⟨⟨next, added⟩, (ih next).mp ⟨found, later⟩⟩
    · rintro ⟨⟨next, added⟩, others⟩
      obtain ⟨found, later⟩ := (ih next).mpr others
      exact ⟨found, Logged.result_andThen_eq_ok.mpr ⟨next, added, later⟩⟩

/-- **Definitions are read if every one that is an object can be.** -/
theorem exists_ofProperties_iff {definitions : Members Json} :
    (∃ found, (ofProperties definitions).result = .ok found) ↔ AreReadable definitions :=
  exists_addDefinitions_iff definitions .empty

/-- **What a schema writes can be read.** -/
theorem Built.areReadable_toProperties {schema : Schema} (built : schema.Built) :
    AreReadable schema.toProperties := by
  intro entry member members same
  obtain ⟨field, inside, rfl⟩ := List.mem_map.mp member
  cases same
  exact (built.forall_fields field inside).exists_ofMembers_toMembers

end Schema
end CatalogSearch
