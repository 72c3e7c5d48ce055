/-
**From trees to queries.**

* `Condition.clause` — the clause of a condition and the clause list it joins in its group;
* `FilterTree.clauses` — the clauses of a group's children, in order;
* `FilterTree.compile` — the query of a tree;
* `FilterCompiler.compile` — the query of a written filter.
-/

import CatalogSearch.Filter.Normalize
import CatalogSearch.Query.Basic

namespace CatalogSearch

/-- The clause list that a condition joins in a group. -/
def Logic.occur : Logic → Occur
  | and => .must
  | or => .should

/-- Whether the first of two values comes after the second: numbers by their size, texts by their
characters; other values have no order. -/
def Json.isAfter? : Json → Json → Option Bool
  | .number a, .number b => some (b.order < a.order)
  | .string a, .string b => some (b < a)
  | _, _ => none

namespace Condition

/-- The one value of a condition, which must be neither null nor several values. -/
def single (condition : Condition) : Except Error Json :=
  match condition.value with
  | .null | .array _ | .object _ =>
    .error (.invalidOperation (.notSingle condition.operator condition.field))
  | value => .ok value

/-- The field holds the value, or one of several. -/
def holds (condition : Condition) : Query :=
  match condition.value with
  | .array values => .onTerms condition.field values
  | value => .onTerm condition.field value

/-- The field keeps one limit. -/
def limit (condition : Condition) (bounds : Json → Bounds) : Except Error Query :=
  condition.single.map fun value => .onRange condition.field (bounds value)

/-- The field holds the value's text as a part. -/
def holdsPart (condition : Condition) : Except Error Query :=
  condition.single.map fun value =>
    let needle := match value with
      | .string s => s
      | other => other.compact
    .onPattern condition.field ("*" ++ needle ++ "*")

/-- The limits that two values set, the lesser of them below. -/
def between (condition : Condition) : Except Error Query :=
  match condition.value with
  | .array [a, b] =>
    match Json.isAfter? a b with
    | none => .error (.invalidOperation (.unordered condition.field a b))
    | some true => .ok (.onRange condition.field { atLeast := b, atMost := a })
    | some false => .ok (.onRange condition.field { atLeast := a, atMost := b })
  | _ => .error (.invalidOperation .notPair)

/-- A clause that must hold. -/
def affirmed (logic : Logic) (query : Query) : Occur × Query := (logic.occur, query)

/-- A clause that must not hold. In an OR group it stays one of the alternatives. -/
def denied (logic : Logic) (query : Query) : Occur × Query :=
  match logic with
  | .and => (.mustNot, query)
  | .or => (.should, query.negation)

/-- The clause of a condition and the clause list it joins. -/
def clause (condition : Condition) (logic : Logic) : Except Error (Occur × Query) :=
  match condition.operator with
  | .equals =>
    if condition.asksForAbsence then .ok (denied logic (.present condition.field))
    else .ok (affirmed logic condition.holds)
  | .notEquals =>
    if condition.asksForAbsence then .ok (affirmed logic (.present condition.field))
    else .ok (denied logic condition.holds)
  | .contains => condition.holdsPart.map (affirmed logic)
  | .above => (condition.limit fun value => { above := value }).map (affirmed logic)
  | .atLeast => (condition.limit fun value => { atLeast := value }).map (affirmed logic)
  | .below => (condition.limit fun value => { below := value }).map (affirmed logic)
  | .atMost => (condition.limit fun value => { atMost := value }).map (affirmed logic)
  | .between => condition.between.map (affirmed logic)

end Condition

namespace FilterTree

mutual

/-- The clause of a child, or nothing if it is dropped; a group is always one clause. -/
def clauseOf (mode : Mode) (logic : Logic) : FilterTree → Logged Error (Option (Occur × Query))
  | .leaf condition => mode.keep (.droppedEntry condition.key.text) (condition.clause logic)
  | .group inner children =>
    (clauses mode inner children).andThen fun parts =>
      .done (some (logic.occur, (BoolQuery.ofList parts).build))

/-- The clauses of a group's children, in order. -/
def clauses (mode : Mode) (logic : Logic) :
    List FilterTree → Logged Error (List (Occur × Query))
  | [] => .done []
  | child :: rest =>
    (clauseOf mode logic child).andThen fun part =>
      (clauses mode logic rest).andThen fun parts => .done (part.toList ++ parts)

end

/-- The query of a group. -/
def compileGroup (mode : Mode) (logic : Logic) (children : List FilterTree) : Logged Error Query :=
  (clauses mode logic children).andThen fun parts => .done (BoolQuery.ofList parts).build

/-- The query of a tree, where a condition alone is a group of one. -/
def compile (mode : Mode) : FilterTree → Logged Error Query
  | .leaf condition => compileGroup mode .and [.leaf condition]
  | .group logic children => compileGroup mode logic children

end FilterTree

/-- How filters are compiled. -/
structure FilterCompiler where
  mode : Mode := .strict
  /-- The names of sections, unless they are left alone. -/
  hierarchy : Option Hierarchy := some {}
deriving DecidableEq, Repr

namespace FilterCompiler

/-- The tree of a written filter. -/
def normalize (compiler : FilterCompiler) (schema : Schema) (filter : Members Json) :
    Logged Error FilterTree :=
  FilterTree.ofEntries compiler.mode compiler.hierarchy schema filter

/-- The query of a written filter: first the whole tree is made, then its clauses. -/
def compile (compiler : FilterCompiler) (schema : Schema) (filter : Members Json) :
    Logged Error Query :=
  (compiler.normalize schema filter).andThen fun tree => tree.compile compiler.mode

end FilterCompiler
end CatalogSearch
