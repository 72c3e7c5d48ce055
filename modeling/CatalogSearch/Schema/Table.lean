/-
**Schemas with an index of their names.**

Fields stand in rows, and beside the rows it is written in which of them each name stands, so that a field is found
without going through the others. Rows are read and changed at the places written there, without another look; what
would lie behind the last row is kept apart as no answer.

* `FieldTable` — rows and places; `FieldTable.insert?`, `find?`, `contains` — the operations;
* `FieldTable.insertAll?`, `ofFields?` — many insertions; `FieldTable.difference?` — the rows that another table
  lacks;
* `Schema.fieldsOfProperties`, `fieldsOfMapping?`, `fieldsOfText?` — the fields that a reader inserts, in order;
* `FieldTable.ofProperties`, `ofMapping?`, `ofText?` — the tables that are read.
-/

import CatalogSearch.Schema.Mapping

namespace CatalogSearch

/-- Fields in rows, and the place of each name among them. -/
structure FieldTable where
  rows : Members Property := []
  places : Members Nat := []
deriving DecidableEq

namespace FieldTable

/-- The table without fields. -/
def empty : FieldTable := {}

/-- Puts a property into the row of its name, or into a new row behind all others. There is no table if the place of
the name lies behind the rows. -/
def insert? (table : FieldTable) (name : String) (property : Property) : Option FieldTable :=
  match table.places.get? name with
  | some place =>
    (table.rows[place]?).map fun row => { table with rows := table.rows.set place (row.1, property) }
  | none => some ⟨table.rows ++ [(name, property)], table.places.insert name table.rows.length⟩

/-- The property of a name, if the table has one. There is no answer if the place of the name lies behind the rows. -/
def find? (table : FieldTable) (name : String) : Option (Option Property) :=
  match table.places.get? name with
  | some place => (table.rows[place]?).map fun row => some row.2
  | none => some none

/-- Whether the table has a field of this name. -/
def contains (table : FieldTable) (name : String) : Bool := (table.places.get? name).isSome

/-- The names in order. -/
def names (table : FieldTable) : List String := Members.names table.rows

/-- The number of fields. -/
def size (table : FieldTable) : Nat := table.rows.length

/-- The number of fields that an index counts for the table. -/
def budget (table : FieldTable) : Nat := Schema.budgetOf table.rows

/-- Puts fields into a table, one after another. -/
def insertAll? (table : FieldTable) (fields : List (String × Property)) : Option FieldTable :=
  fields.foldlM (fun table field => table.insert? field.1 field.2) table

/-- The table of fields that are put into it one after another. -/
def ofFields? (fields : List (String × Property)) : Option FieldTable := empty.insertAll? fields

/-- The table of the fields that another one lacks, in order. -/
def difference? (table other : FieldTable) : Option FieldTable :=
  ofFields? (table.rows.filter fun row => !other.contains row.1)

end FieldTable

/-! ### What readers insert -/

namespace Schema

/-- The field of a definition; one that is no object gives a warning and none. -/
def fieldOfDefinition (name : String) (definition : Json) : Logged Error (Option (String × Property)) :=
  match definition with
  | .object members =>
    match Property.ofMembers members with
    | .ok property => .done (some (name, property))
    | .error given => .fail (.schema (.kindNotText name given))
  | _ => ⟨[.skippedField name], .ok none⟩

/-- The fields of definitions by name. -/
def fieldsOfProperties (properties : Members Json) : Logged Error (List (String × Property)) :=
  Logged.filterMap (fun entry => fieldOfDefinition entry.1 entry.2) properties

/-- The fields of definitions by name, all of which must be sound. -/
def fieldsOfDefinitions? (read? : Json → Option Property) (definitions : Json) : Option (List (String × Property)) :=
  definitions.members?.bind fun members => members.mapM fun entry => (read? entry.2).map (entry.1, ·)

/-- The fields of a mapping, of whose members only `properties` counts. -/
def fieldsOfMapping? (mapping : Json) : Option (List (String × Property)) :=
  mapping.members?.bind fun members =>
    match members.get? "properties" with
    | some definitions => fieldsOfDefinitions? Property.ofJson? definitions
    | none => some []

/-- The fields of a mapping's text, of which only the last `properties` counts. -/
def fieldsOfText? (precision : Json.Reader.Precision) (text : String) : Option (List (String × Property)) := do
  let given ← Json.Skip.written? precision "properties" text.toList
  let read ← given.mapM (fieldsOfDefinitions? writtenProperty?)
  return read.getLast?.getD []

end Schema

namespace FieldTable

/-- The table of definitions by name. -/
def ofProperties (properties : Members Json) : Logged Error (Option FieldTable) :=
  (Schema.fieldsOfProperties properties).andThen fun fields => .done (ofFields? fields)

/-- The table of a mapping, if that can be read. -/
def ofMapping? (mapping : Json) : Option (Option FieldTable) := (Schema.fieldsOfMapping? mapping).map ofFields?

/-- The table of a mapping's text, if that can be read. -/
def ofText? (precision : Json.Reader.Precision) (text : String) : Option (Option FieldTable) :=
  (Schema.fieldsOfText? precision text).map ofFields?

end FieldTable
end CatalogSearch
