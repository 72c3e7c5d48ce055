/-
**Sections of a hierarchy in filters.**

A section, named by number or by code, stands for its own members, or, when the filter's flag is set,
for the members of the sections below it too. Either way it is a field of its own.

* `Hierarchy` — the names that play a part;
* `Hierarchy.isTransitive` — whether a filter's flag is set;
* `Hierarchy.resolve` — the filter with its flag removed and its sections put as fields;
* `Hierarchy.ofJson?` — the reading of the names.
-/

import CatalogSearch.Filter.Key
import CatalogSearch.Json.Record

namespace CatalogSearch

/-- The names that play a part in sections: the flag that asks for the sections below, the keys that name a section
by number and by code, and for each of them the field of a record's own sections and that of all above it. -/
structure Hierarchy where
  flag : String := "INCLUDE_SUBSECTIONS"
  idScopes : List String := ["IBLOCK_SECTION_ID", "SECTION_ID"]
  codeScopes : List String := ["SECTION_CODE"]
  directIds : String := "GROUP_IDS"
  transitiveIds : String := "NAV_CHAIN_IDS"
  directCodes : String := "GROUP_CODES"
  transitiveCodes : String := "NAV_CHAIN_CODES"
deriving DecidableEq, Repr

namespace Hierarchy

/-- The field name in a key. -/
def fieldOf? (key : String) : Option String := (FilterKey.split? key).map (·.2)

/-- Whether a key names the flag, behind whatever marker. -/
def isFlag (names : Hierarchy) (key : String) : Bool := fieldOf? key = some names.flag

/-- Whether a value sets the flag. -/
def isTransitive (names : Hierarchy) (filter : Members Json) : Bool :=
  match filter.find? fun entry => names.isFlag entry.1 with
  | some (_, value) => value.isTruthy
  | none => false

/-- The field that stands for a section's key. -/
def target? (names : Hierarchy) (transitive : Bool) (field : String) : Option String :=
  if field ∈ names.idScopes then some (if transitive then names.transitiveIds else names.directIds)
  else if field ∈ names.codeScopes then
    some (if transitive then names.transitiveCodes else names.directCodes)
  else none

/-- The key that stands for a key, its marker kept. -/
def image (names : Hierarchy) (transitive : Bool) (key : String) : String :=
  match FilterKey.split? key with
  | some (marker, field) =>
    match names.target? transitive field with
    | some target => marker ++ target
    | none => key
  | none => key

/-- The filter with its flag removed and its sections put as fields, each in its place. Of two
entries that get one key the later value is kept, in the earlier place. -/
def resolve (names : Hierarchy) (filter : Members Json) : Members Json :=
  let transitive := names.isTransitive filter
  Members.ofList <|
    (filter.filter fun entry => !names.isFlag entry.1).map fun entry =>
      (names.image transitive entry.1, entry.2)

/-- The reading of the names, each of which has a default. -/
def ofJson? (value : Json) : Option Hierarchy :=
  let standard : Hierarchy := {}
  let names := Json.orElse? (Json.listOf? Json.text?)
  let name := Json.orElse? Json.text?
  match value.fields? ["flag", "id_scopes", "code_scopes", "direct_ids", "transitive_ids",
    "direct_codes", "transitive_codes"] with
  | some [flag, idScopes, codeScopes, directIds, transitiveIds, directCodes, transitiveCodes] => do
    return { flag := ← name standard.flag flag
             idScopes := ← names standard.idScopes idScopes
             codeScopes := ← names standard.codeScopes codeScopes
             directIds := ← name standard.directIds directIds
             transitiveIds := ← name standard.transitiveIds transitiveIds
             directCodes := ← name standard.directCodes directCodes
             transitiveCodes := ← name standard.transitiveCodes transitiveCodes }
  | _ => none

end Hierarchy
end CatalogSearch
