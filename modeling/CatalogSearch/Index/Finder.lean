/-
**Searching an index.**

Filters and sorts are compiled against the schema that the index has published, which is asked for once
and then kept in the cache.

* `Finder.schema` — the schema of an index, from the cache if it is there;
* `Finder.prepare` — the request of a filter, a sort and options; `Finder.search` — its answer.
-/

import CatalogSearch.Index.Published
import CatalogSearch.Settings

namespace CatalogSearch

/-- How searches are compiled. -/
structure Finder where
  filters : FilterCompiler := {}
  sorts : SortCompiler := {}
  /-- The sort of a search that gives none. -/
  defaultSort : List (String × String) := []

namespace Finder

/-- How searches are compiled under given settings. -/
def ofSettings (settings : Settings) : Finder :=
  ⟨settings.filterCompiler, settings.sortCompiler, settings.compiler.defaultSort⟩

/-- The clauses of a sort, or of the default sort where none is given. -/
def compileSort (finder : Finder) (schema : Schema) : Option (Members Json) →
    Logged Error (List SortClause)
  | some sort => finder.sorts.compileMembers schema sort
  | none => finder.sorts.compile schema finder.defaultSort

/-- The request of a filter, a sort and options against a schema. -/
def compile (finder : Finder) (schema : Schema) (index : String) (filter : Members Json)
    (sort : Option (Members Json)) (options : Members Json) : Logged Error SearchRequest :=
  (finder.filters.compile schema filter).andThen fun query =>
    (finder.compileSort schema sort).andThen fun clauses =>
      .done (.assemble index query clauses options)

/-- The schema of an index: the cached one, or else the published one, which is cached. -/
def schema (index : String) : Program Schema :=
  .lookup index fun
    | some schema => .pure schema
    | none => (Published.describe index).bind fun schema => .insert index schema (.pure schema)

/-- The request of a filter, a sort and options. -/
def prepare (finder : Finder) (index : String) (filter : Members Json)
    (sort : Option (Members Json)) (options : Members Json) : Program SearchRequest := do
  let published ← schema index
  .ofCompilation (finder.compile published index filter sort options)

/-- Runs the search of a filter, a sort and options. -/
def search (finder : Finder) (index : String) (filter : Members Json)
    (sort : Option (Members Json)) (options : Members Json) : Program Json := do
  let request ← finder.prepare index filter sort options
  Program.call (.search request)

end Finder
end CatalogSearch
