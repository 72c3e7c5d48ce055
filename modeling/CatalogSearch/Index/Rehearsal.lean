/-
**A service with rehearsed answers.**

A store in memory, some of whose answers are laid down beforehand, with calls that fail, and with a reader
beside it that caches the schema of an index whenever its settings are read.

* `Rehearsal` — the store and what is laid down; `Rehearsal.handler` — the handler of calls.
-/

import CatalogSearch.Index.Store

namespace CatalogSearch

/-- A store in memory, and what is laid down for it. -/
structure Rehearsal where
  store : Store := {}
  /-- The mapping answers laid down for indices, where null is no mapping. -/
  mappings : Members Json := []
  settings : Members Json := []
  /-- The status and text with which calls of a name fail. -/
  failures : Members (Nat × String) := []
  /-- Whether a reader caches the schema of an index whose settings are read. -/
  hasReader : Bool := false

namespace Rehearsal

/-- The failure laid down for a call. -/
def failure? (rehearsal : Rehearsal) (call : ServiceCall) : Option ServiceError :=
  (rehearsal.failures.get? call.name).map fun (code, body) => .status code body

/-- The mapping answer of an index. -/
def mapping (rehearsal : Rehearsal) (index : String) (published : Option Json) : Option Json :=
  match rehearsal.mappings.get? index with
  | some .null => none
  | some answer => some answer
  | none => published

/-- Puts the schema that an index has in the store into the cache, as the reader does. -/
def refill (index : String) (world : World Rehearsal) : Except ServiceError Unit × World Rehearsal :=
  let published := Schema.ofProperties (world.service.store.definitions index)
  let world := { world with warnings := world.warnings ++ published.warnings }
  match published.result with
  | .ok schema => (.ok (), { world with cache := world.cache.insert index schema })
  | .error error => (.error (.refused error), world)

/-- The answer of the store itself. -/
def fromStore (call : ServiceCall) (world : World Rehearsal) :
    Except ServiceError call.Answer × World Rehearsal :=
  let (answer, store) := world.service.store.serve call
  (answer, { world with service := { world.service with store } })

/-- The answer to a settings call. -/
def settingsOf (index : String) (world : World Rehearsal) :
    Except ServiceError Json × World Rehearsal :=
  match world.service.settings.get? index with
  | some answer => (.ok answer, world)
  | none => fromStore (.getSettings index) world

/-- The answer to a call that is laid down, or else the store's. -/
def handler : Handler Rehearsal := fun call world =>
  match world.service.failure? call with
  | some error => (.error error, world)
  | none =>
    match call with
    | .getMapping index =>
      let (answer, world) := fromStore (.getMapping index) world
      (answer.map (world.service.mapping index), world)
    | .getSettings index =>
      if world.service.hasReader then
        match refill index world with
        | (.ok (), world) => settingsOf index world
        | (.error error, world) => (.error error, world)
      else settingsOf index world
    | call => fromStore call world

end Rehearsal
end CatalogSearch
