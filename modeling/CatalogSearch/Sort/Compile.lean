/-
**From sort directives to clauses.**

* `sortTarget` — the field by which a field's documents are ordered, and its kind;
* `nullRank` — the script clause that sets empty documents apart;
* `SortDirective.clauses` — the clauses of a directive;
* `SortCompiler.compile`, `compileMembers` — the clauses of a list of directives, and of an object.
-/

import CatalogSearch.Logged
import CatalogSearch.Schema.Basic
import CatalogSearch.Sort.Clause

namespace CatalogSearch

/-- The ending of the companion field that holds decoded values. -/
def valueEnding : String := "_VALUE"

/-- The field by which documents are ordered, and its kind. A field of codes is ordered by its decoded
values; where the schema does not have their field, its kind is taken for theirs. -/
def sortTarget (schema : Schema) (field : String) (property : Property) : String × Kind :=
  if property.hasEnumField then
    let companion := field ++ valueEnding
    (companion, ((schema.find? companion).map (·.kind)).getD property.kind)
  else (field, property.kind)

/-- The script by which a document ranks first if the field is absent or holds the empty value. -/
def emptyRankSource : String :=
  "doc[params.field].size() == 0 || doc[params.field].value == params.empty ? 0 : 1"

/-- The script by which a document ranks first if the field is absent. -/
def absentRankSource : String := "doc[params.field].size() == 0 ? 0 : 1"

/-- The clause that puts documents without a value, or with the empty one, before or behind others. -/
def nullRank (field : String) (kind : Kind) (missing : Missing) : SortClause :=
  let order : SortOrder := match missing with
    | .first => .asc
    | .last => .desc
  match kind.emptyValue? with
  | some empty =>
    .script
      { type := "number", lang := "painless", source := emptyRankSource
        params := [("field", .string field), ("empty", empty)], order }
  | none =>
    .script
      { type := "number", lang := "painless", source := absentRankSource
        params := [("field", .string field)], order }

namespace NullOrder

/-- Where documents without a value go, if that is said. -/
def missing? : NullOrder → Option Missing
  | unspecified => none
  | first => some .first
  | last => some .last

end NullOrder

namespace SortDirective

/-- The clauses of a directive: the rank of empty documents if their place is given, then the field. -/
def clauses (schema : Schema) (directive : SortDirective) : Except Error (List SortClause) := do
  let field ← schema.resolve directive.field
  let property ← schema.get field
  let (target, kind) := sortTarget schema field property
  let missing := directive.nulls.missing?
  return (missing.toList.map (nullRank target kind)) ++ [.onField target directive.order missing]

end SortDirective

/-- How sorts are compiled. -/
structure SortCompiler where
  mode : Mode := .strict
deriving DecidableEq, Repr

namespace SortCompiler

/-- The clauses of one field and the text of its directive. -/
def compileOne (schema : Schema) (field text : String) : Except Error (List SortClause) := do
  let directive ← SortDirective.read field text
  directive.clauses schema

/-- The clauses of fields and texts of directives, in order. -/
def compile (compiler : SortCompiler) (schema : Schema) (pairs : List (String × String)) :
    Logged Error (List SortClause) :=
  (Logged.filterMap (fun (field, text) =>
    compiler.mode.keep (.droppedSort field) (compileOne schema field text)) pairs).andThen
    fun clauses => .done clauses.flatten

/-- The text of a directive that a value gives. -/
def directiveText (field : String) (value : Json) : Except Error (String × String) :=
  match value with
  | .string text => .ok (field, text)
  | other => .error (.invalidSortFormat other.compact)

/-- The clauses of an object of directives: first all values must be texts, then they are compiled. -/
def compileMembers (compiler : SortCompiler) (schema : Schema) (sort : Members Json) :
    Logged Error (List SortClause) :=
  (Logged.filterMap (fun (field, value) =>
    compiler.mode.keep (.droppedSort field) (directiveText field value)) sort).andThen
    fun pairs => compiler.compile schema pairs

end SortCompiler
end CatalogSearch
