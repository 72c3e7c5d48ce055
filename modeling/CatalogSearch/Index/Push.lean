/-
**Pushing a schema to an index.**

Only fields that the index lacks are sent, and its limit on fields is raised first if it is too low.
The cached schema of the index is dropped before the first call and after the last one.

* `Pusher.push` — the program that pushes a schema; `Pusher.pushSource` — the same for a described
  catalog;
* `PushReport` — what came of it.
-/

import CatalogSearch.Index.Published
import CatalogSearch.Schema.Catalog
import CatalogSearch.Settings

namespace CatalogSearch

/-- What came of a push. -/
structure PushReport where
  createdIndex : Bool
  /-- The fields that the index lacked, in the order of the schema. -/
  added : List String
  limitRaisedTo : Option Nat
  /-- Whether the index has, or has acknowledged, all fields. -/
  acknowledged : Bool
deriving DecidableEq, Repr

/-- How schemas are pushed. -/
structure Pusher where
  dropsCached : Bool := true
  /-- The least limit that an index is given. -/
  minLimit : Nat := 0

namespace Pusher

/-- Asks for the fields an index has, and creates it if it is not there; tells whether it did. -/
def remote (index : String) : Program (Schema × Bool) := do
  let present : Bool ← Program.call (.indexExists index)
  if present then
    return (← Published.read index, false)
  else
    Program.call (.createIndex index)
    return (.empty, true)

/-- The limit that an index needs for a schema. -/
def need (pusher : Pusher) (schema : Schema) : Nat := max schema.budget pusher.minLimit

/-- Raises the limit on fields to what is needed, unless it is known to suffice. -/
def raiseLimit (index : String) (need : Nat) : Program (Option Nat) := do
  let settings ← Program.call (.getSettings index)
  match Published.fieldLimit? index settings with
  | some limit =>
    if limit < need then
      Program.call (.putLimit index need)
      return some need
    else return none
  | none =>
    Program.call (.putLimit index need)
    return some need

/-- Sends the fields that an index lacks, if there are any. -/
def sendMapping (index : String) (lacking : Schema) : Program Bool :=
  if lacking.isEmpty then .pure true else .call (.putMapping index lacking.toMapping)

/-- The calls of a push. -/
def exchange (pusher : Pusher) (index : String) (schema : Schema) : Program PushReport := do
  let (published, createdIndex) ← remote index
  let lacking := schema.difference published
  let limitRaisedTo ← raiseLimit index (pusher.need schema)
  let acknowledged ← sendMapping index lacking
  return { createdIndex, added := lacking.names, limitRaisedTo, acknowledged }

/-- Pushes a schema to an index. -/
def push (pusher : Pusher) (index : String) (schema : Schema) : Program PushReport :=
  if pusher.dropsCached then .invalidate index ((pusher.exchange index schema).andFinally index)
  else pusher.exchange index schema

/-- Pushes the schema of a described catalog to an index. -/
def pushSource (pusher : Pusher) (registry : Catalog.Registry) (source index : String) :
    Program PushReport :=
  match registry.schema source with
  | .ok schema => pusher.push index schema
  | .error error => .fail (.refused error)

end Pusher

/-- How schemas are pushed under given settings. -/
def Settings.pusher (settings : Settings) (dropsCached : Bool) : Pusher :=
  ⟨dropsCached, settings.push.minFieldLimit⟩

end CatalogSearch
