/-
**Search requests.**

* `SearchRequest` — the index and the body of a search;
* `SearchRequest.assemble` — the request of a query and a sort, under a caller's options;
* `SearchRequest.toJson` — its written form.
-/

import CatalogSearch.Query.Wire
import CatalogSearch.Sort.Clause

namespace CatalogSearch

/-- A search: the index it asks, and what it asks. -/
structure SearchRequest where
  index : String
  body : Members Json
deriving DecidableEq, Repr

namespace SearchRequest

/-- The query of a request, if it has one. -/
def query? (request : SearchRequest) : Option Json := request.body.get? "query"

/-- The sort of a request, if it has one. -/
def sort? (request : SearchRequest) : Option Json := request.body.get? "sort"

/-- The request of a query and a sort alone; no clauses are no sort. -/
def ofParts (index : String) (query : Query) (sort : List SortClause) : SearchRequest :=
  ⟨index, ("query", query.toJson) ::
    if sort.isEmpty then [] else [("sort", .array (sort.map SortClause.toJson))]⟩

/-- Lays an option over a request: a text `index` replaces the index, an object `body` the body, and
anything else is set in the body. -/
def set (request : SearchRequest) (name : String) (value : Json) : SearchRequest :=
  match name, value with
  | "index", .string index => { request with index }
  | "body", .object body => { request with body }
  | name, value => { request with body := request.body.insert name value }

/-- The request of a query and a sort, with options laid over it in order. -/
def assemble (index : String) (query : Query) (sort : List SortClause) (options : Members Json) :
    SearchRequest :=
  options.foldl (fun request option => request.set option.1 option.2) (ofParts index query sort)

/-- The written form. -/
def toJson (request : SearchRequest) : Json :=
  .object [("index", .string request.index), ("body", .object request.body)]

end SearchRequest
end CatalogSearch
