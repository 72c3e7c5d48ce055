/-
**Queries.**

* `Bounds` — the limits of a range;
* `Query` — the queries that filters are compiled to: atomic clauses and their boolean combination;
* `Query.onTerm`, `onTerms`, … — the clauses on one field; `Query.negation` — the negation of a query;
* `BoolQuery` — clause lists that grow at their ends, and the query they make.
-/

import CatalogSearch.Json.Basic

namespace CatalogSearch

/-- The limits of a range, each of which may be absent. -/
structure Bounds where
  above : Option Json := none
  atLeast : Option Json := none
  below : Option Json := none
  atMost : Option Json := none
deriving DecidableEq, Repr

/-- A weight in single precision, which may have overflowed. -/
inductive Boost where
  | finite (value : Binary64)
  /-- A weight past the largest finite one. -/
  | overflow
deriving DecidableEq, Repr

/-- A query. -/
inductive Query where
  | matchAll (boost : Option Boost)
  | term (conditions : List (String × Json))
  | terms (conditions : List (String × List Json))
  | range (conditions : List (String × Bounds))
  | wildcard (conditions : List (String × Json))
  | present (field : String)
  | bool (must should mustNot : List Query)
deriving Repr, Inhabited

namespace Query

/-- The query that everything matches. -/
def everything : Query := .matchAll none

/-- The field holds the value. -/
def onTerm (field : String) (value : Json) : Query := .term [(field, value)]

/-- The field holds one of the values. -/
def onTerms (field : String) (values : List Json) : Query := .terms [(field, values)]

/-- The field keeps the limits. -/
def onRange (field : String) (bounds : Bounds) : Query := .range [(field, bounds)]

/-- The field matches the pattern. -/
def onPattern (field : String) (pattern : String) : Query := .wildcard [(field, .string pattern)]

/-- The negation of a query. -/
def negation (query : Query) : Query := .bool [] [] [query]

/-- Whether this is the query that everything matches. -/
def isMatchAll : Query → Bool
  | .matchAll _ => true
  | _ => false

mutual

/-- Equality of queries is decidable. -/
def decEq : (a b : Query) → Decidable (a = b)
  | .matchAll a, .matchAll b => decidable_of_iff (a = b) (by simp)
  | .term a, .term b => decidable_of_iff (a = b) (by simp)
  | .terms a, .terms b => decidable_of_iff (a = b) (by simp)
  | .range a, .range b => decidable_of_iff (a = b) (by simp)
  | .wildcard a, .wildcard b => decidable_of_iff (a = b) (by simp)
  | .present a, .present b => decidable_of_iff (a = b) (by simp)
  | .bool a b c, .bool d e f =>
    haveI := decEqList a d
    haveI := decEqList b e
    haveI := decEqList c f
    decidable_of_iff (a = d ∧ b = e ∧ c = f) (by simp)
  | .matchAll _, .term _ | .matchAll _, .terms _ | .matchAll _, .range _ | .matchAll _, .wildcard _
  | .matchAll _, .present _ | .matchAll _, .bool .. | .term _, .matchAll _ | .term _, .terms _
  | .term _, .range _ | .term _, .wildcard _ | .term _, .present _ | .term _, .bool ..
  | .terms _, .matchAll _ | .terms _, .term _ | .terms _, .range _ | .terms _, .wildcard _
  | .terms _, .present _ | .terms _, .bool .. | .range _, .matchAll _ | .range _, .term _
  | .range _, .terms _ | .range _, .wildcard _ | .range _, .present _ | .range _, .bool ..
  | .wildcard _, .matchAll _ | .wildcard _, .term _ | .wildcard _, .terms _ | .wildcard _, .range _
  | .wildcard _, .present _ | .wildcard _, .bool .. | .present _, .matchAll _ | .present _, .term _
  | .present _, .terms _ | .present _, .range _ | .present _, .wildcard _ | .present _, .bool ..
  | .bool .., .matchAll _ | .bool .., .term _ | .bool .., .terms _ | .bool .., .range _
  | .bool .., .wildcard _ | .bool .., .present _ => isFalse (by simp)

/-- Equality of lists of queries is decidable. -/
def decEqList : (a b : List Query) → Decidable (a = b)
  | [], [] => isTrue rfl
  | x :: xs, y :: ys =>
    haveI := decEq x y
    haveI := decEqList xs ys
    decidable_of_iff (x = y ∧ xs = ys) (by simp)
  | [], _ :: _ | _ :: _, [] => isFalse (by simp)

end

instance : DecidableEq Query := decEq

end Query

/-- The clause list that a condition joins. -/
inductive Occur where
  | must
  | should
  | mustNot
deriving DecidableEq, Repr

/-- Clauses by the list they have joined. -/
structure BoolQuery where
  must : List Query := []
  should : List Query := []
  mustNot : List Query := []
deriving DecidableEq, Repr

namespace BoolQuery

/-- Whether no clause has joined. -/
def isEmpty (clauses : BoolQuery) : Bool :=
  clauses.must.isEmpty && clauses.should.isEmpty && clauses.mustNot.isEmpty

/-- Adds a clause at the end of its list. -/
def push (clauses : BoolQuery) (occur : Occur) (clause : Query) : BoolQuery :=
  match occur with
  | .must => { clauses with must := clauses.must ++ [clause] }
  | .should => { clauses with should := clauses.should ++ [clause] }
  | .mustNot => { clauses with mustNot := clauses.mustNot ++ [clause] }

/-- The clauses of a list of pairs, in order. -/
def ofList (clauses : List (Occur × Query)) : BoolQuery :=
  clauses.foldl (fun query clause => query.push clause.1 clause.2) {}

/-- The query of the clauses, which matches everything if there are none. -/
def build (clauses : BoolQuery) : Query :=
  if clauses.isEmpty then .everything else .bool clauses.must clauses.should clauses.mustNot

end BoolQuery
end CatalogSearch
