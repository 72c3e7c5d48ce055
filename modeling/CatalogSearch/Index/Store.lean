/-
**An index service in memory.**

It keeps the field definitions of each index, merges new ones by name, and remembers limits. It holds no
documents, so that a search of an index finds nothing.

* `Store` — the state; `Store.serve` — its answer to each call;
* `Store.definitions` — what an index has published.
-/

import CatalogSearch.Index.Program
import CatalogSearch.Schema.Mapping

namespace CatalogSearch

/-- The state of a service in memory. -/
structure Store where
  indices : Members (Members Json) := []
  /-- The limits that were put. A limit outlives its index. -/
  limits : Members Nat := []
  /-- The limit of an index without one of its own, as it is written. -/
  defaultLimit : Json := .string "1000"
  /-- Whether new definitions are taken; if not, they are not acknowledged either. -/
  acknowledges : Bool := true

namespace Store

/-- The field definitions of an index. -/
def definitions (store : Store) (index : String) : Members Json := (store.indices.get? index).getD []

/-- Whether there is an index. -/
def contains (store : Store) (index : String) : Bool := (store.indices.get? index).isSome

/-- Sets the field definitions of an index. -/
def publish (store : Store) (index : String) (definitions : Members Json) : Store :=
  { store with indices := store.indices.insert index definitions }

/-- Deletes an index. -/
def delete (store : Store) (index : String) : Store :=
  { store with indices := store.indices.erase index }

/-- What the service writes of the definitions of an index. -/
def mappingAnswer (index : String) (definitions : Members Json) : Json :=
  .object [(index, .object [("mappings", .object [("properties", .object definitions)])])]

/-- A limit in a section of settings. -/
def limitSection (limit : Json) : Json :=
  .object [("mapping", .object [("total_fields", .object [("limit", limit)])])]

/-- What the service writes of the settings of an index. -/
def settingsAnswer (store : Store) (index : String) : Json :=
  let own := match store.limits.get? index with
    | some limit => limitSection (.string (toString limit))
    | none => .object []
  .object
    [(index, .object
      [ ("settings", .object [("index", own)]),
        ("defaults", .object [("index", limitSection store.defaultLimit)]) ])]

/-- The definitions in a mapping. -/
def definitionsOf (mapping : Json) : Members Json :=
  ((mapping.member? "properties").bind Json.members?).getD []

/-- What the service writes of a search that finds nothing. -/
def noHits : Json :=
  .object
    [("hits", .object [("total", .object [("value", .ofNat 0)]), ("hits", .array [])])]

/-- The answer to a call, and the state behind it. -/
def serve (call : ServiceCall) (store : Store) : Except ServiceError call.Answer × Store :=
  match call with
  | .indexExists index => (.ok (store.contains index), store)
  | .getMapping index => (.ok ((store.indices.get? index).map (mappingAnswer index)), store)
  | .getSettings index => (.ok (store.settingsAnswer index), store)
  | .createIndex index => (.ok (), store.publish index [])
  | .putLimit index limit => (.ok (), { store with limits := store.limits.insert index limit })
  | .putMapping index mapping =>
    if store.acknowledges then
      (.ok true,
        store.publish index (Members.overlay (store.definitions index) (definitionsOf mapping)))
    else (.ok false, store)
  | .search request =>
    if store.contains request.index then (.ok noHits, store)
    else (.error (.indexNotFound request.index), store)

/-- The store as a handler of calls. -/
def handler : Handler Store := Handler.ofService serve

end Store
end CatalogSearch
