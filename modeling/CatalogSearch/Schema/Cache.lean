/-
**A cache of schemas by index.**

* `SchemaCache.lookup`, `insert`, `invalidate`, `clear` — the operations; look-ups and effective
  invalidations are counted;
* `SchemaCache.peek?` — the schema kept for an index, and what each operation does to it.
-/

import CatalogSearch.Schema.Basic

namespace CatalogSearch

/-- Schemas by index, and how often they were asked for and dropped. -/
structure SchemaCache where
  entries : Members Schema := []
  hits : Nat := 0
  misses : Nat := 0
  /-- Invalidations that dropped a schema. -/
  invalidations : Nat := 0

namespace SchemaCache

/-- The schema kept for an index. -/
def peek? (cache : SchemaCache) (index : String) : Option Schema := cache.entries.get? index

/-- Looks a schema up, and counts whether there was one. -/
def lookup (cache : SchemaCache) (index : String) : Option Schema × SchemaCache :=
  match cache.peek? index with
  | some schema => (some schema, { cache with hits := cache.hits + 1 })
  | none => (none, { cache with misses := cache.misses + 1 })

/-- Keeps a schema in place of any other of the index. -/
def insert (cache : SchemaCache) (index : String) (schema : Schema) : SchemaCache :=
  { cache with entries := cache.entries.insert index schema }

/-- Drops the schema of an index, and tells whether there was one. -/
def invalidate (cache : SchemaCache) (index : String) : Bool × SchemaCache :=
  match cache.peek? index with
  | some _ =>
    (true, { cache with
      entries := cache.entries.erase index, invalidations := cache.invalidations + 1 })
  | none => (false, cache)

/-- Drops all schemas. -/
def clear (cache : SchemaCache) : SchemaCache := { cache with entries := [] }

/-- The number of schemas kept. -/
def size (cache : SchemaCache) : Nat := cache.entries.length

variable (cache : SchemaCache) (index other : String)

/-- A look-up finds what is kept. -/
@[simp] theorem lookup_fst : (cache.lookup index).1 = cache.peek? index := by
  unfold lookup
  cases cache.peek? index <;> rfl

/-- A look-up changes nothing that is kept. -/
@[simp] theorem peek?_lookup : (cache.lookup index).2.peek? other = cache.peek? other := by
  unfold lookup
  cases cache.peek? index <;> rfl

@[simp] theorem peek?_insert (schema : Schema) :
    (cache.insert index schema).peek? other =
      if index = other then some schema else cache.peek? other :=
  Members.get?_insert cache.entries index other schema

@[simp] theorem peek?_invalidate :
    (cache.invalidate index).2.peek? other = if index = other then none else cache.peek? other := by
  unfold invalidate
  cases kept : cache.peek? index with
  | none =>
    by_cases same : index = other
    · rw [if_pos same, ← same, kept]
    · rw [if_neg same]
  | some schema => exact Members.get?_erase cache.entries index other

end SchemaCache
end CatalogSearch
