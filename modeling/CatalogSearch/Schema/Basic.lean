/-
**Schemas: the ordered fields of an index.**

* `Schema.insert` — puts a field in place of one of its name, or behind all others;
* `Schema.find?`, `Schema.get` — the property of a name; `Schema.position?` — its place;
* `Schema.resolve` — the field that a name or alias stands for; `Schema.resolve_eq_ok_iff` says when
  there is one;
* `Schema.displayName` — the spelling of a name in the schema;
* `Schema.difference` — the fields that another schema lacks.
-/

import CatalogSearch.Schema.Property
import CatalogSearch.Error
import CatalogSearch.Text.Lowercase

namespace CatalogSearch

/-- Fields in order, no two of one name. -/
structure Schema where
  fields : Members Property
  distinct : (Members.names fields).Nodup
deriving DecidableEq

namespace Schema

/-- The schema without fields. -/
def empty : Schema := ⟨[], List.nodup_nil⟩

instance : Inhabited Schema := ⟨empty⟩

/-- Puts a field in place of the one of its name, or behind all others. -/
def insert (schema : Schema) (name : String) (property : Property) : Schema :=
  ⟨schema.fields.insert name property, Members.nodup_names_insert schema.distinct name property⟩

/-- The schema that a list of fields builds by insertion from left to right. -/
def ofList (fields : List (String × Property)) : Schema :=
  fields.foldl (fun schema field => schema.insert field.1 field.2) empty

theorem fields_foldl_insert (schema : Schema) (fields : List (String × Property)) :
    (fields.foldl (fun schema field => schema.insert field.1 field.2) schema).fields =
      Members.overlay schema.fields fields := by
  induction fields generalizing schema with
  | nil => rfl
  | cons head rest ih => exact ih (schema.insert head.1 head.2)

/-- The fields of a schema that is built by insertion are the members that are. -/
theorem fields_ofList (fields : List (String × Property)) :
    (ofList fields).fields = Members.ofList fields := fields_foldl_insert empty fields

/-- The names in order. -/
def names (schema : Schema) : List String := Members.names schema.fields

/-- The number of fields. -/
def size (schema : Schema) : Nat := schema.fields.length

/-- Whether there are no fields. -/
def isEmpty (schema : Schema) : Bool := schema.fields.isEmpty

/-- The place of a name among the fields. -/
def position? (schema : Schema) (name : String) : Option Nat := schema.names.idxOf? name

/-- The property of a name. -/
def find? (schema : Schema) (name : String) : Option Property := schema.fields.get? name

/-- Whether the schema has a field of this name. -/
def contains (schema : Schema) (name : String) : Bool := (schema.find? name).isSome

/-- The property of a name that must be there. -/
def get (schema : Schema) (name : String) : Except Error Property :=
  match schema.find? name with
  | some property => .ok property
  | none => .error (.unknownProperty name)

theorem find?_of_get {schema : Schema} {name : String} {property : Property}
    (got : schema.get name = .ok property) : schema.find? name = some property := by
  unfold get at got
  split at got <;> cases got
  assumption

/-- The field that a name stands for. An alias must lead to a field of the schema that is no alias. -/
def resolve (schema : Schema) (name : String) : Except Error String :=
  match schema.find? name with
  | none => .error (.unknownProperty name)
  | some property =>
    if property.isAlias then
      match property.aliasPath? with
      | none => .error (.invalidAliasPath name none)
      | some path =>
        match schema.find? path with
        | some target =>
          if target.isAlias then .error (.invalidAliasPath name (some path)) else .ok path
        | none => .error (.invalidAliasPath name (some path))
    else .ok name

/-- A name stands for itself if it is no alias, and an alias for the field at its path. -/
theorem resolve_eq_ok_iff {schema : Schema} {name field : String} :
    schema.resolve name = .ok field ↔
      ∃ property, schema.find? name = some property ∧
        if property.isAlias then property.aliasPath? = some field ∧
          ∃ target, schema.find? field = some target ∧ target.isAlias = false
        else field = name := by
  unfold resolve
  cases found : schema.find? name with
  | none => simp
  | some property =>
    cases aliased : property.isAlias with
    | false =>
      simp only [Option.some.injEq, exists_eq_left', aliased, Bool.false_eq_true, if_false,
        Except.ok.injEq]
      exact eq_comm
    | true =>
      cases led : property.aliasPath? with
      | none => simp [aliased, led]
      | some path =>
        by_cases same : path = field
        · subst same
          cases behind : schema.find? path with
          | none => simp [aliased, led, behind]
          | some target => cases hop : target.isAlias <;> simp [aliased, led, behind, hop]
        · cases behind : schema.find? path with
          | none => simp [aliased, led, behind, same]
          | some target => cases hop : target.isAlias <;> simp [aliased, led, behind, hop, same]

/-- A field that is no alias stands for itself. -/
theorem resolve_of_plain {schema : Schema} {name : String} {property : Property}
    (found : schema.find? name = some property) (plain : property.isAlias = false) :
    schema.resolve name = .ok name :=
  resolve_eq_ok_iff.mpr ⟨property, found, by simp [plain]⟩

/-- An alias stands for the field at its path, if that is no alias. -/
theorem resolve_of_alias {schema : Schema} {name path : String} {property target : Property}
    (found : schema.find? name = some property) (aliased : property.isAlias = true)
    (led : property.aliasPath? = some path) (there : schema.find? path = some target)
    (plain : target.isAlias = false) : schema.resolve name = .ok path := by
  refine resolve_eq_ok_iff.mpr ⟨property, found, ?_⟩
  rw [if_pos aliased]
  exact ⟨led, target, there, plain⟩

/-- The field that a name stands for is in the schema and is no alias. -/
theorem find?_of_resolve {schema : Schema} {name field : String}
    (resolved : schema.resolve name = .ok field) :
    ∃ property, schema.find? field = some property ∧ property.isAlias = false := by
  obtain ⟨property, found, leads⟩ := resolve_eq_ok_iff.mp resolved
  split at leads
  · exact leads.2
  · next plain => exact ⟨property, leads ▸ found, by simpa using plain⟩

/-- The name as the schema spells it: itself, or else the first that differs by case alone. -/
def displayName (schema : Schema) (name : String) : String :=
  if schema.contains name then name
  else (schema.names.find? fun known => Text.lower known = Text.lower name).getD name

/-- The fields that another schema lacks, in order. -/
def difference (schema other : Schema) : Schema where
  fields := schema.fields.filter fun field => !other.contains field.1
  distinct := schema.distinct.sublist (List.Sublist.map _ List.filter_sublist)

/-- The number of fields that an index counts for fields. -/
def budgetOf : Members Property → Nat
  | [] => 0
  | (_, property) :: rest => property.budget + budgetOf rest

/-- The number of fields that an index counts for the schema. -/
def budget (schema : Schema) : Nat := budgetOf schema.fields

end Schema
end CatalogSearch
