/-
**Schemas survive being written and read.**

There are two writers, of entries one after another and of a map, and two readers, of definitions and of
a whole mapping. The writers agree because no parameter is named `type`. The readers agree on definitions
that are objects.

* `Json.isProper` — no object in a value names a member twice;
* `Property.Assembled`, `Schema.Assembled` — what the operations make of proper values;
* `Property.Exact` — a property that its written form tells all of; `Property.Assembled.exact` and
  `Schema.Assembled.forall_exact` say that what is assembled consists of these;
* `Schema.toOption_ofProperties` — the readers agree;
* `Schema.round_trip` — writers and readers together.
-/

import CatalogSearch.Proofs.Schema.Definitions

namespace CatalogSearch

namespace Json

mutual

/-- Whether no object in a value names a member twice. -/
def isProper : Json → Bool
  | .array items => areProper items
  | .object members => decide (Members.names members).Nodup && membersAreProper members
  | _ => true

/-- Whether no object in a sequence names a member twice. -/
def areProper : List Json → Bool
  | [] => true
  | value :: rest => value.isProper && areProper rest

/-- Whether no object under any name names a member twice. -/
def membersAreProper : List (String × Json) → Bool
  | [] => true
  | (_, value) :: rest => value.isProper && membersAreProper rest

end

theorem nodup_names_of_isProper {members : Members Json}
    (proper : (Json.object members).isProper = true) : (Members.names members).Nodup := by
  rw [isProper, Bool.and_eq_true, decide_eq_true_eq] at proper
  exact proper.1

theorem isProper_of_mem {members : Members Json} (proper : (Json.object members).isProper = true)
    {entry : String × Json} (inside : entry ∈ members) : entry.2.isProper = true := by
  rw [isProper, Bool.and_eq_true] at proper
  replace proper := proper.2
  induction members with
  | nil => cases inside
  | cons head rest ih =>
    obtain ⟨name, value⟩ := head
    rw [membersAreProper, Bool.and_eq_true] at proper
    rcases List.mem_cons.mp inside with rfl | later
    · exact proper.1
    · exact ih later proper.2

end Json

/-! ### Properties -/

namespace Property

/-- **The properties that the operations make**, where no object that is read names a member twice. -/
abbrev Assembled : Property → Prop := Made Json.isProper

/-- **What a written form tells all of**: a kind that has its name, and parameters of different names,
none of them `type`. -/
structure Exact (property : Property) : Prop where
  kind_eq : Kind.ofName property.kind.name = property.kind
  get?_type : property.get? "type" = none
  distinct : (Members.names property.parameters).Nodup

theorem exists_kind_of_ofMembers {members : Members Json} {property : Property}
    (read : ofMembers members = .ok property) :
    (∃ name, property.kind = .ofName name) ∧ property.parameters = members.erase "type" := by
  unfold ofMembers at read
  split at read
  · cases read
    exact ⟨⟨"keyword", rfl⟩, rfl⟩
  · next kind _ =>
    cases read
    exact ⟨⟨kind, rfl⟩, rfl⟩
  · cases read

theorem exact_of_ofMembers {members : Members Json} {property : Property}
    (distinct : (Members.names members).Nodup) (read : ofMembers members = .ok property) :
    property.Exact := by
  obtain ⟨⟨name, kind⟩, parameters⟩ := exists_kind_of_ofMembers read
  refine ⟨?_, get?_type_of_ofMembers read, ?_⟩
  · rw [kind, Kind.name_ofName]
  · rw [parameters]
    exact Members.nodup_names_erase distinct "type"

theorem Exact.set {property : Property} (exact : property.Exact) (name : String) (value : Json) :
    (property.set name value).Exact := by
  have free := get?_type_set exact.get?_type name value
  unfold Property.set at free ⊢
  by_cases kind : name = "type"
  · rw [if_pos kind]
    -- What is no text does not change the kind.
    cases value with
    | string given => exact ⟨congrArg Kind.ofName (Kind.name_ofName given), exact.get?_type, exact.distinct⟩
    | _ => exact exact
  · rw [if_neg kind] at free ⊢
    exact ⟨exact.kind_eq, free, Members.nodup_names_insert exact.distinct name value⟩

/-- **What is assembled is exact.** -/
theorem Assembled.exact {property : Property} (assembled : property.Assembled) : property.Exact := by
  induction assembled with
  | new kind => exact ⟨congrArg Kind.ofName (Kind.name_ofName kind), rfl, List.nodup_nil⟩
  | ofAlias path => exact ⟨rfl, rfl, List.nodup_cons.mpr ⟨List.not_mem_nil, List.nodup_nil⟩⟩
  | set _ name value ih => exact ih.set name value
  | read proper read => exact exact_of_ofMembers (Json.nodup_names_of_isProper proper) read

/-- **Both writers of an exact property agree.** -/
theorem Exact.toMembers_eq {property : Property} (exact : property.Exact) :
    property.toMembers = property.entries := by
  have fresh : ∀ name ∈ Members.names property.parameters, name ∉ ["type"] := by
    intro name inside same
    exact Members.get?_eq_none_iff.mp exact.get?_type (List.mem_singleton.mp same ▸ inside)
  exact Members.overlay_eq_append exact.distinct fresh

/-- **An exact property is read as it was written.** -/
theorem Exact.ofMembers_entries {property : Property} (exact : property.Exact) :
    ofMembers property.entries = .ok property := by
  -- Erasing `type` takes away the entry of the kind and, of the parameters, nothing.
  have kept : Members.erase property.parameters "type" = property.parameters := by
    refine List.filter_eq_self.mpr fun entry inside => decide_eq_true fun same => ?_
    have there := Members.get?_of_mem exact.distinct inside
    rw [same] at there
    exact Option.some_ne_none _ (there.symm.trans exact.get?_type)
  have rest : Members.erase property.entries "type" = property.parameters := kept
  have kind : property.entries.get? "type" = some (.string property.kind.name) := rfl
  rw [ofMembers, kind, rest]
  show Except.ok ⟨Kind.ofName property.kind.name, property.parameters⟩ = Except.ok property
  rw [exact.kind_eq]

end Property

/-! ### Schemas -/

namespace Schema

/-- **The schemas that the operations make** of assembled properties and proper values. -/
abbrev Assembled : Schema → Prop := Made Json.isProper

theorem exact_of_writtenProperty? {value : Json} {property : Property}
    (read : writtenProperty? value = some property) : property.Exact := by
  obtain ⟨members, isObject, found⟩ := Option.bind_eq_some_iff.mp read
  cases value <;> cases isObject
  split at found
  · cases found
  · -- The members are merged before they are read, so the text may repeat names.
    obtain ⟨merged, same, made⟩ := of_ofJson? found
    cases same
    exact Property.exact_of_ofMembers (Members.nodup_names_ofList _) made

/-- **What is assembled consists of exact properties.** -/
theorem Assembled.forall_exact {schema : Schema} (assembled : schema.Assembled) :
    ∀ field ∈ schema.fields, field.2.Exact :=
  Made.forall_fields (fun _ proper _ inside => Json.isProper_of_mem proper inside)
    (fun _ => Property.Assembled.exact) (fun _ _ => exact_of_writtenProperty?) assembled

/-! ### Both writers -/

/-- **The writers agree** on exact properties. -/
theorem written_eq_toMapping {schema : Schema} (exact : ∀ field ∈ schema.fields, field.2.Exact) :
    schema.written = schema.toMapping := by
  have same : (schema.fields.map fun field => (field.1, Json.object field.2.entries)) =
      schema.toProperties := by
    refine List.map_congr_left fun field inside => ?_
    rw [Property.toJson, (exact field inside).toMembers_eq]
  rw [written, toMapping, same]

/-! ### Both readers -/

theorem eq_of_fields_eq {schema other : Schema} (same : schema.fields = other.fields) :
    schema = other := by
  cases schema
  cases other
  cases same
  rfl

/-- The fields of a schema, inserted one by one, make the schema. -/
theorem ofList_fields (schema : Schema) : ofList schema.fields = schema := by
  have fresh : ∀ name ∈ schema.names, name ∉ Members.names (empty.fields) :=
    fun _ _ => List.not_mem_nil
  exact eq_of_fields_eq
    ((fields_ofList schema.fields).trans (Members.overlay_eq_append schema.distinct fresh))

/-- What exact properties write is read as these properties, one by one. -/
theorem addDefinitions_toJson {fields : List (String × Property)}
    (exact : ∀ field ∈ fields, field.2.Exact) (start : Schema) :
    addDefinitions start (fields.map fun field => (field.1, field.2.toJson)) =
      .done (fields.foldl (fun schema field => schema.insert field.1 field.2) start) := by
  induction fields generalizing start with
  | nil => rfl
  | cons head rest ih =>
    obtain ⟨first, others⟩ := List.forall_mem_cons.mp exact
    have added : addDefinition start head.1 head.2.toJson = .done (start.insert head.1 head.2) := by
      rw [Property.toJson, first.toMembers_eq, addDefinition, first.ofMembers_entries]
    rw [List.map_cons, addDefinitions, added, Logged.done_andThen, ih others]
    rfl

/-- **What an exact schema writes is read as the schema**, and nothing is warned of. -/
theorem ofProperties_toProperties {schema : Schema}
    (exact : ∀ field ∈ schema.fields, field.2.Exact) :
    ofProperties schema.toProperties = .done schema := by
  rw [ofProperties, toProperties, addDefinitions_toJson exact]
  exact congrArg Logged.done schema.ofList_fields

/-- Every definition is an object. -/
def AreObjects (definitions : Members Json) : Prop :=
  ∀ entry ∈ definitions, ∃ members, entry.2 = .object members

theorem toOption_addDefinition (schema : Schema) (name : String) (members : Members Json) :
    (addDefinition schema name (.object members)).result.toOption =
      (Property.ofJson? (.object members)).map (schema.insert name) := by
  show (addDefinition schema name (.object members)).result.toOption =
    (Property.ofMembers members).toOption.map (schema.insert name)
  rw [addDefinition]
  cases Property.ofMembers members <;> rfl

/-- **Both readers agree** on definitions that are objects. -/
theorem toOption_ofProperties {definitions : Members Json} (objects : AreObjects definitions) :
    (ofProperties definitions).result.toOption =
      ofMapping? (.object [("properties", .object definitions)]) := by
  -- Both are folds over the definitions from the empty schema, and agree from any.
  show (addDefinitions empty definitions).result.toOption = definitions.foldlM _ empty
  generalize empty = start
  induction definitions generalizing start with
  | nil => rfl
  | cons head rest ih =>
    obtain ⟨name, definition⟩ := head
    obtain ⟨⟨members, rfl⟩, others⟩ := List.forall_mem_cons.mp objects
    rw [addDefinitions, Logged.result_andThen, List.foldlM_cons, ← toOption_addDefinition]
    cases (addDefinition start name (.object members)).result with
    | error fault => rfl
    | ok next => exact ih others next

/-! ### The whole -/

/-- **Whatever is assembled survives being written and read**: no parameter is named `type`, both writers
write the same, and both readers read it as it was, in its order and without a warning. And on any
definitions that are objects both readers agree. -/
theorem round_trip {schema : Schema} (assembled : schema.Assembled) :
    (∀ field ∈ schema.fields, "type" ∉ Members.names field.2.parameters) ∧
      schema.written = schema.toMapping ∧
      ofMapping? schema.written = some schema ∧
      ofProperties schema.toProperties = .done schema ∧
      ∀ definitions, AreObjects definitions →
        ∀ found, (ofProperties definitions).result = .ok found ↔
          ofMapping? (.object [("properties", .object definitions)]) = some found := by
  have exact := assembled.forall_exact
  have written := written_eq_toMapping exact
  have read := ofProperties_toProperties exact
  have objects : AreObjects schema.toProperties := by
    intro entry inside
    obtain ⟨field, _, rfl⟩ := List.mem_map.mp inside
    exact ⟨_, rfl⟩
  refine ⟨fun field inside => Members.get?_eq_none_iff.mp (exact field inside).get?_type, written, ?_,
    read, fun definitions objects found => ?_⟩
  · rw [written, toMapping, ← toOption_ofProperties objects, read]
    rfl
  · rw [← toOption_ofProperties objects]
    cases (ofProperties definitions).result <;> simp [Except.toOption]

/-- A field is read that has no type, and in front of it stands one whose kind was set and then could not
be set to a number. -/
theorem round_trip_read_and_set :
    ∃ schema read : Schema,
      (ofProperties [("TEXT", .object [("boost", .number .zero)])]).result = .ok read ∧
      schema = ofList (("PLACE", ((Property.ofKind .keyword).set "type" (.string "geo_point")).set "type"
        (.number .zero)) :: read.fields) ∧
      schema.names = ["PLACE", "TEXT"] ∧
      schema.written = schema.toMapping ∧ ofMapping? schema.written = some schema ∧
      ((ofProperties [("TEXT", .object [("boost", .number .zero)])]).result = .ok read ↔
        ofMapping? (.object [("properties", .object [("TEXT", .object [("boost", .number .zero)])])]) =
          some read) := by
  let text : Property := ⟨.keyword, [("boost", .number .zero)]⟩
  let read : Schema := ⟨[("TEXT", text)], by decide⟩
  let place := ((Property.ofKind .keyword).set "type" (.string "geo_point")).set "type" (.number .zero)
  have isAssembled : place.Assembled := ((Property.Made.new "keyword").set "type" _).set "type" _
  have isRead : Property.ofMembers [("boost", .number .zero)] = .ok text := rfl
  have assembled : (ofList [("PLACE", place), ("TEXT", text)]).Assembled :=
    .ofList (List.forall_mem_cons.mpr ⟨isAssembled,
      List.forall_mem_singleton.mpr (.read (by decide) isRead)⟩)
  obtain ⟨_, written, reread, _, agree⟩ := round_trip assembled
  have objects : AreObjects [("TEXT", .object [("boost", .number .zero)])] :=
    List.forall_mem_singleton.mpr ⟨_, rfl⟩
  exact ⟨_, read, rfl, rfl, rfl, written, reread, agree _ objects read⟩

end Schema
end CatalogSearch
