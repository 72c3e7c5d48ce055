/-
**Records in JSON.**

A record is written as an object with its field names, or as an array of its fields in order. Names
that the record does not have are ignored, and fields that are missing at the end are absent.

* `Json.fields?` — the fields of a record, each present or absent;
* `Json.optional?` — a field that may be absent or null.
-/

import CatalogSearch.Json.Basic

namespace CatalogSearch.Json

/-- The fields of a record with the given names, in their order. -/
def fields? (names : List String) : Json → Option (List (Option Json))
  | .object members => some (names.map fun name => Members.get? members name)
  | .array items =>
    if items.length ≤ names.length then
      some (items.map some ++ List.replicate (names.length - items.length) none)
    else none
  | _ => none

/-- A field that may be absent or null, else must be readable. -/
def optional? {α : Type} (read? : Json → Option α) : Option Json → Option (Option α)
  | none | some .null => some none
  | some value => (read? value).map some

/-- A field that has a default when absent, else must be readable. -/
def orElse? {α : Type} (read? : Json → Option α) (default : α) : Option Json → Option α
  | none => some default
  | some value => read? value

/-- An array whose items are all readable. -/
def listOf? {α : Type} (read? : Json → Option α) (value : Json) : Option (List α) :=
  value.items?.bind (·.mapM read?)

/-- An object whose members are all readable. -/
def membersOf? {α : Type} (read? : Json → Option α) (value : Json) : Option (Members α) :=
  value.members?.bind (·.mapM fun (name, value) => (read? value).map (name, ·))

end CatalogSearch.Json
