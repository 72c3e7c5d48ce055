/-
**What an index has published.**

* `Published.schema` — the schema in a mapping answer of the service;
* `Published.fieldLimit?` — the limit on fields in a settings answer;
* `Published.describe` — the program that asks the service for the schema of an index;
* `Published.field` — the property of a single field definition.
-/

import CatalogSearch.Index.Program
import CatalogSearch.Json.Record
import CatalogSearch.Number.Numeral
import CatalogSearch.Schema.Mapping

namespace CatalogSearch.Published

/-- The part of a record with that one field, whose absence means no definitions. -/
def part? (name : String) (read? : Json → Option (Members Json)) (value : Json) :
    Option (Members Json) :=
  match value.fields? [name] with
  | some [field] => Json.orElse? read? [] field
  | _ => none

/-- The definitions in what a mapping answer says of one index. -/
def definitions? : Json → Option (Members Json) :=
  part? "mappings" (part? "properties" Json.members?)

/-- The definitions of every index in a mapping answer, all of which must be sound. -/
def indices? (answer : Json) : Option (Members (Members Json)) := answer.membersOf? definitions?

/-- The warnings of fields whose type has no rules of its own. -/
def unrecognized (index : String) (schema : Schema) : List Warning :=
  schema.fields.filterMap fun (field, property) =>
    match property.kind with
    | .other kind => some (.unrecognizedKind index field kind)
    | _ => none

/-- The schema of an index in a mapping answer; an index that the answer does not name has no fields. -/
def schema (index : String) (answer : Json) : Logged ServiceError Schema :=
  match indices? answer with
  | none => .fail .malformedMapping
  | some indices =>
    match indices.get? index with
    | none => .done .empty
    | some definitions =>
      ((Schema.ofProperties definitions).mapError .refused).andThen fun schema =>
        ⟨unrecognized index schema, .ok schema⟩

/-- A limit as the service writes it: a natural, or the text of one. -/
def limitOf? : Json → Option Nat
  | .string text => Numeral.natural? text
  | value => value.nat?

/-- The limit in one section of a settings answer. -/
def sectionLimit? (index : String) (answer : Json) (part : String) : Option Nat :=
  (answer.at? [index, part, "index", "mapping", "total_fields", "limit"]).bind limitOf?

/-- The limit on fields in a settings answer: the index's own, or else the default one. -/
def fieldLimit? (index : String) (answer : Json) : Option Nat :=
  (sectionLimit? index answer "settings").or (sectionLimit? index answer "defaults")

/-- Asks for the schema of an index that exists. -/
def read (index : String) : Program Schema := do
  let answer : Option Json ← Program.call (.getMapping index)
  match answer with
  | some answer => .ofLogged (schema index answer)
  | none => .pure .empty

/-- Asks for the schema of an index; without the index or a mapping there are no fields. -/
def describe (index : String) : Program Schema := do
  let present : Bool ← Program.call (.indexExists index)
  if present then read index else .pure .empty

/-- The property of a field definition. -/
def field (definition : Json) : Except ServiceError Property :=
  match Property.ofJson? definition with
  | some property => .ok property
  | none => .error .unreadableField

end CatalogSearch.Published
