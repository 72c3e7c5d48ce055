/-
**Sort clauses.**

* `SortClause` — a clause by fields, or by the result of a script;
* `SortClause.toJson` — the written form; `SortClause.ofJson?` — its reading, which takes what can be
  a script for one.
-/

import CatalogSearch.Json.Record
import CatalogSearch.Sort.Directive

namespace CatalogSearch

/-- Where documents without a value go. -/
inductive Missing where
  | first
  | last
deriving DecidableEq, Repr

/-- The sort of one field. -/
structure FieldSort where
  order : SortOrder
  /-- The place of documents without a value. -/
  missing : Option Missing := none
deriving DecidableEq, Repr

/-- The sort by a script. -/
structure ScriptSort where
  type : String
  lang : String
  source : String
  params : Members Json
  order : SortOrder
deriving DecidableEq, Repr

/-- A sort clause. -/
inductive SortClause where
  | script (sort : ScriptSort)
  | fields (sorts : List (String × FieldSort))
deriving DecidableEq, Repr

namespace Missing

/-- The name of a placement. -/
def text : Missing → String
  | first => "_first"
  | last => "_last"

end Missing

/-- The reading of a name out of a few: the name itself, or an object with null under it. -/
def Json.choice? {α : Type} (names : List (String × α)) : Json → Option α
  | .string name => names.lookup name
  | .object [(name, .null)] => names.lookup name
  | _ => none

/-- The reading of a direction. -/
def SortOrder.ofJson? : Json → Option SortOrder :=
  Json.choice? [("asc", .asc), ("desc", .desc)]

/-- The reading of a placement. -/
def Missing.ofJson? : Json → Option Missing :=
  Json.choice? [("_first", .first), ("_last", .last)]

namespace FieldSort

/-- The written form. -/
def toJson (sort : FieldSort) : Json :=
  .object (("order", .string sort.order.text) ::
    sort.missing.toList.map fun missing => ("missing", .string missing.text))

/-- The reading of a field's sort. -/
def ofJson? (value : Json) : Option FieldSort :=
  match value.fields? ["order", "missing"] with
  | some [order, missing] => do
    return { order := ← order.bind SortOrder.ofJson?
             missing := ← Json.optional? Missing.ofJson? missing }
  | _ => none

end FieldSort

namespace ScriptSort

/-- The written form; no parameters are left out. -/
def toJson (sort : ScriptSort) : Json :=
  let params : Members Json :=
    if sort.params.isEmpty then [] else [("params", .object sort.params)]
  .object
    [ ("type", .string sort.type),
      ("script", .object
        ([("lang", .string sort.lang), ("source", .string sort.source)] ++ params)),
      ("order", .string sort.order.text) ]

/-- The reading of a script's sort. -/
def ofJson? (value : Json) : Option ScriptSort :=
  match value.fields? ["type", "script", "order"] with
  | some [type, some script, order] =>
    match script.fields? ["lang", "source", "params"] with
    | some [lang, source, params] => do
      return { type := ← type.bind Json.text?
               lang := ← lang.bind Json.text?
               source := ← source.bind Json.text?
               params := ← Json.orElse? Json.members? [] params
               order := ← order.bind SortOrder.ofJson? }
    | _ => none
  | _ => none

end ScriptSort

namespace SortClause

/-- The clause of one field. -/
def onField (field : String) (order : SortOrder) (missing : Option Missing) : SortClause :=
  .fields [(field, ⟨order, missing⟩)]

/-- The written form. -/
def toJson : SortClause → Json
  | .script sort => .object [("_script", sort.toJson)]
  | .fields sorts => .object (sorts.map fun (field, sort) => (field, sort.toJson))

/-- The reading of a clause. -/
def ofJson? (value : Json) : Option SortClause :=
  match (value.member? "_script").bind ScriptSort.ofJson? with
  | some sort => some (.script sort)
  | none => (Json.membersOf? FieldSort.ofJson? value).map .fields

end SortClause
end CatalogSearch
