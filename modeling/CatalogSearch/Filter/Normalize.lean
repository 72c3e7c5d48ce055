/-
**From written filters to trees.**

A written filter is a list of entries. A value that is an object with a `LOGIC` member is a group:
the member names the connective, the other members are the group's entries, and the entry's own key
says nothing. Every other entry is a condition: its key is read, its field resolved in the schema and
its value brought into the form the field stores.

* `conditionOf` — the condition of an entry, and `leafOf` the leaf it makes;
* `nodeOf` — the tree of an entry;
* `FilterTree.ofEntries` — the tree of a whole filter, which is an AND group.
-/

import CatalogSearch.Filter.Hierarchy
import CatalogSearch.Filter.Tree
import CatalogSearch.Logged
import CatalogSearch.Schema.Basic
import CatalogSearch.Schema.Value

namespace CatalogSearch.FilterTree

/-- The name of the member that makes an object a group. -/
def logicName : String := "LOGIC"

/-- The condition of an entry. -/
def conditionOf (schema : Schema) (key : String) (value : Json) : Except Error Condition := do
  let key ← FilterKey.read key
  let field ← schema.resolve key.field
  let property ← schema.get field
  match property.normalize value with
  | .ok value => return ⟨key.operator, field, property.kind, value⟩
  | .error fault => throw (.invalidOperation fault)

/-- The condition of an entry that is no group, or nothing if it is dropped. -/
def leafOf (mode : Mode) (schema : Schema) (key : String) (value : Json) :
    Logged Error (Option FilterTree) :=
  (mode.keep (.droppedEntry key) (conditionOf schema key value)).andThen fun condition =>
    .done (condition.map .leaf)

mutual

/-- The tree of an entry, or nothing if it is dropped. A group with a faulty connective is dropped as
a whole, and its entries are not looked at. -/
def nodeOf (mode : Mode) (schema : Schema) (key : String) : Json → Logged Error (Option FilterTree)
  | .object members =>
    match Members.get? members logicName with
    | none => leafOf mode schema key (.object members)
    | some marker =>
      (mode.keep (.droppedGroup key) (Logic.read marker)).andThen fun logic =>
        match logic with
        | none => .done none
        | some logic =>
          (groupEntries mode schema members).andThen fun children =>
            .done (some (.group logic children))
  | value => leafOf mode schema key value

/-- The trees of a group's entries, which are its members but for the one that names its
connective. -/
def groupEntries (mode : Mode) (schema : Schema) :
    List (String × Json) → Logged Error (List FilterTree)
  | [] => .done []
  | (key, value) :: rest =>
    if key = logicName then groupEntries mode schema rest
    else
      (nodeOf mode schema key value).andThen fun node =>
        (groupEntries mode schema rest).andThen fun others => .done (node.toList ++ others)

end

/-- The tree of a filter's entries, after its sections are put as fields if a hierarchy is given. -/
def ofEntries (mode : Mode) (hierarchy : Option Hierarchy) (schema : Schema)
    (entries : Members Json) : Logged Error FilterTree :=
  let entries := match hierarchy with
    | some names => names.resolve entries
    | none => entries
  (Logged.filterMap (fun (key, value) => nodeOf mode schema key value) entries).andThen
    fun children => .done (.group .and children)

end CatalogSearch.FilterTree
