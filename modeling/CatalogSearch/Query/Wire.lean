/-
**Queries in JSON.**

* `Query.toJson` — the written form: one member, named for the sort of the query; limits, weights and
  clause lists that are absent or empty are left out;
* `Query.ofJson?` — its reading, which ignores names it does not know.
-/

import CatalogSearch.Json.Record
import CatalogSearch.Query.Basic

namespace CatalogSearch

namespace Bounds

/-- The written form. -/
def toJson (bounds : Bounds) : Json :=
  .object <|
    bounds.above.toList.map (("gt", ·)) ++ bounds.atLeast.toList.map (("gte", ·)) ++
      bounds.below.toList.map (("lt", ·)) ++ bounds.atMost.toList.map (("lte", ·))

/-- A limit, where null is none. -/
def limit : Option Json → Option Json
  | some .null => none
  | limit => limit

/-- The reading of limits. -/
def ofJson? (value : Json) : Option Bounds :=
  match value.fields? ["gt", "gte", "lt", "lte"] with
  | some [above, atLeast, below, atMost] =>
    some ⟨limit above, limit atLeast, limit below, limit atMost⟩
  | _ => none

end Bounds

namespace Boost

/-- The written form; a weight that has overflowed has none. -/
def toJson : Boost → Json
  | finite value => .number (.float value)
  | overflow => .null

/-- The weight nearest to a number. -/
def ofNumber : Number → Boost
  | .int n =>
    match Binary64.ofRatioSingle? (n.val < 0) n.val.natAbs 1 with
    | some value => finite value
    | none => overflow
  | .float x =>
    match x.roundSingle? with
    | some value => finite value
    | none => overflow

/-- The reading of a weight. -/
def ofJson? : Json → Option Boost
  | .number n => some (ofNumber n)
  | _ => none

end Boost

namespace Query

/-- A clause list as a member, unless it is empty. -/
def clauseMember (name : String) (clauses : List Json) : Members Json :=
  if clauses.isEmpty then [] else [(name, .array clauses)]

mutual

/-- The written form. -/
def toJson : Query → Json
  | .matchAll boost =>
    .object [("match_all", .object (boost.toList.map fun boost => ("boost", boost.toJson)))]
  | .term conditions => .object [("term", .object conditions)]
  | .terms conditions =>
    .object [("terms", .object (conditions.map fun (field, values) => (field, .array values)))]
  | .range conditions =>
    .object [("range", .object (conditions.map fun (field, bounds) => (field, bounds.toJson)))]
  | .wildcard conditions => .object [("wildcard", .object conditions)]
  | .present field => .object [("exists", .object [("field", .string field)])]
  | .bool must should mustNot =>
    .object [("bool", .object (clauseMember "must" (toJsonList must) ++
      clauseMember "should" (toJsonList should) ++ clauseMember "must_not" (toJsonList mustNot)))]

/-- The written forms of a list. -/
def toJsonList : List Query → List Json
  | [] => []
  | query :: rest => query.toJson :: toJsonList rest

end

/-- The reading of a query that matches everything. -/
def matchAll? (value : Json) : Option Query :=
  match value.fields? ["boost"] with
  | some [boost] => (Json.optional? Boost.ofJson? boost).map .matchAll
  | _ => none

/-- The reading of the field that must have a value. -/
def present? (value : Json) : Option Query :=
  match value.fields? ["field"] with
  | some [field] => (field.bind Json.text?).map .present
  | _ => none

mutual

/-- The reading of a query: an object with one member. -/
def ofJson? : Json → Option Query
  | .object [(name, value)] =>
    if name = "match_all" then matchAll? value
    else if name = "term" then value.members?.map .term
    else if name = "terms" then (Json.membersOf? Json.items? value).map .terms
    else if name = "range" then (Json.membersOf? Bounds.ofJson? value).map .range
    else if name = "wildcard" then value.members?.map .wildcard
    else if name = "exists" then present? value
    else if name = "bool" then bool? value
    else none
  | _ => none

/-- The reading of clause lists, by name or in order. -/
def bool? : Json → Option Query
  | .object members => do
    let must ← namedClauses? "must" members
    let should ← namedClauses? "should" members
    let mustNot ← namedClauses? "must_not" members
    return .bool must should mustNot
  | .array [] => some (.bool [] [] [])
  | .array [must] => do return .bool (← clauses? must) [] []
  | .array [must, should] => do return .bool (← clauses? must) (← clauses? should) []
  | .array [must, should, mustNot] => do
    return .bool (← clauses? must) (← clauses? should) (← clauses? mustNot)
  | _ => none

/-- The clause list under a name, which is empty when absent. -/
def namedClauses? (name : String) : List (String × Json) → Option (List Query)
  | [] => some []
  | (key, value) :: rest => if key = name then clauses? value else namedClauses? name rest

/-- The reading of a clause list. -/
def clauses? : Json → Option (List Query)
  | .array items => ofJsonList? items
  | _ => none

/-- The readings of a list, all of which must succeed. -/
def ofJsonList? : List Json → Option (List Query)
  | [] => some []
  | value :: rest => do
    let query ← ofJson? value
    let queries ← ofJsonList? rest
    return query :: queries

end

end Query
end CatalogSearch
