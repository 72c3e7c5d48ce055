/-
**Schemas as index mappings.**

* `Schema.toProperties`, `Schema.toMapping` — the definitions by name, alone and under `properties`;
* `Schema.written` — the mapping as it is written, one entry after another;
* `Schema.ofProperties` — the schema of definitions by name, where what is no object is passed over
  with a warning;
* `Schema.ofMapping?` — the schema of a whole mapping, which must be sound throughout;
* `Schema.ofText?` — the schema of a mapping's text, where a later field of the same name replaces
  an earlier one and later `properties` replace earlier ones.
-/

import CatalogSearch.Json.Skip
import CatalogSearch.Logged
import CatalogSearch.Schema.Basic

namespace CatalogSearch.Schema

/-- The definitions by name. -/
def toProperties (schema : Schema) : Members Json :=
  schema.fields.map fun field => (field.1, field.2.toJson)

/-- The definitions under `properties`. -/
def toMapping (schema : Schema) : Json := .object [("properties", .object schema.toProperties)]

/-- The mapping as it is written, one entry after another. -/
def written (schema : Schema) : Json :=
  .object [("properties", .object (schema.fields.map fun field => (field.1, .object field.2.entries)))]

/-- Adds the field of a definition, or warns of one that is no object. -/
def addDefinition (schema : Schema) (name : String) (definition : Json) : Logged Error Schema :=
  match definition with
  | .object members =>
    match Property.ofMembers members with
    | .ok property => .done (schema.insert name property)
    | .error given => .fail (.schema (.kindNotText name given))
  | _ => ⟨[.skippedField name], .ok schema⟩

/-- Adds the fields of definitions by name. -/
def addDefinitions (schema : Schema) : Members Json → Logged Error Schema
  | [] => .done schema
  | (name, definition) :: rest =>
    (addDefinition schema name definition).andThen fun schema => addDefinitions schema rest

/-- The schema of definitions by name. -/
def ofProperties (properties : Members Json) : Logged Error Schema := addDefinitions empty properties

/-- The schema of definitions by name, all of which must be sound. -/
def ofDefinitions? (read? : Json → Option Property) (definitions : Json) : Option Schema := do
  let members ← definitions.members?
  members.foldlM (fun schema field => (read? field.2).map (schema.insert field.1)) empty

/-- The schema of a mapping, of whose members only `properties` counts. -/
def ofMapping? (mapping : Json) : Option Schema :=
  mapping.members?.bind fun members =>
    match members.get? "properties" with
    | some definitions => ofDefinitions? Property.ofJson? definitions
    | none => some empty

/-- The property of a definition as it is written, which must not give its type twice. -/
def writtenProperty? (definition : Json) : Option Property :=
  definition.members?.bind fun members =>
    if 1 < (members.filter fun member => member.1 = "type").length then none
    else Property.ofJson? definition.merged

/-- The schema of a mapping's text, in which all but `properties` is passed over. -/
def ofText? (precision : Json.Reader.Precision) (text : String) : Option Schema := do
  let given ← Json.Skip.written? precision "properties" text.toList
  let schemas ← given.mapM (ofDefinitions? writtenProperty?)
  return schemas.getLast?.getD empty

end CatalogSearch.Schema
