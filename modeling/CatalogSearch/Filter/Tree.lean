/-
**Filters as trees.**

* `Logic` — the connectives of groups; `Logic.read` — the one that a value names, in capitals or small
  letters;
* `Condition` — an operator on a field of the schema, with a value as the field stores it;
* `FilterTree` — conditions and groups of them;
* `FilterTree.leafCount` — how many conditions a tree holds.
-/

import CatalogSearch.Filter.Key
import CatalogSearch.Schema.Kind

namespace CatalogSearch

/-! ### Connectives -/

/-- How the parts of a group join. -/
inductive Logic where
  | and
  | or
deriving DecidableEq, Repr

namespace Logic

/-- The name of a connective. -/
def text : Logic → String
  | and => "AND"
  | or => "OR"

/-- The connective that a text names; only the case of ASCII letters is ignored. -/
def ofText? (s : String) : Option Logic :=
  match s.toList.map Char.toUpper with
  | ['A', 'N', 'D'] => some and
  | ['O', 'R'] => some or
  | _ => none

/-- The connective that a value names. -/
def read (value : Json) : Except Error Logic :=
  match value with
  | .string s => match ofText? s with
    | some logic => .ok logic
    | none => .error (.invalidLogic s)
  | other => .error (.invalidLogic other.compact)

end Logic

/-! ### Trees -/

/-- A comparison of a field with a value. -/
structure Condition where
  operator : Operator
  /-- The field, which is no alias. -/
  field : String
  kind : Kind
  /-- The value as the field stores it. -/
  value : Json
deriving DecidableEq, Repr

namespace Condition

/-- Whether the value asks for a field without value: null and false do, in a field of any kind. -/
def asksForAbsence (condition : Condition) : Bool :=
  match condition.value with
  | .null | .bool false => true
  | _ => false

/-- The key of the condition. -/
def key (condition : Condition) : FilterKey := ⟨condition.operator, condition.field⟩

end Condition

/-- A filter: a condition, or a group of filters. -/
inductive FilterTree where
  | leaf (condition : Condition)
  | group (logic : Logic) (children : List FilterTree)
deriving Repr

instance : Inhabited FilterTree := ⟨.group .and []⟩

namespace FilterTree

mutual

/-- The number of conditions. -/
def leafCount : FilterTree → Nat
  | .leaf _ => 1
  | .group _ children => leafCountList children

/-- The number of conditions of several filters. -/
def leafCountList : List FilterTree → Nat
  | [] => 0
  | child :: rest => leafCount child + leafCountList rest

end

/-- The filters that a group joins. -/
def children : FilterTree → List FilterTree
  | .leaf _ => []
  | .group _ children => children

/-- Whether this is a group. -/
def isGroup : FilterTree → Bool
  | .leaf _ => false
  | .group _ _ => true

end FilterTree
end CatalogSearch
