/-
**Comparison operators of filter keys.**

* `Operator.symbol` — how an operator is written;
* `Operator.ofMarker?` — the operator that stands before a field name, where no marker means equality.
-/

namespace CatalogSearch

/-- How a field compares with a value. -/
inductive Operator where
  /-- The field holds the value, or one of several. -/
  | equals
  | notEquals
  /-- The text holds the value as a part. -/
  | contains
  | above
  | atLeast
  | below
  | atMost
  /-- Within two values, both included. -/
  | between
deriving DecidableEq, Repr

namespace Operator

/-- The sign of an operator. -/
def symbol : Operator → String
  | equals => "="
  | notEquals => "!"
  | contains => "%"
  | above => ">"
  | atLeast => ">="
  | below => "<"
  | atMost => "<="
  | between => "><"

/-- The operator that a marker before a field name denotes. -/
def ofMarker? : String → Option Operator
  | "" => some equals
  | "=" => some equals
  | "!" => some notEquals
  | "%" => some contains
  | ">" => some above
  | ">=" => some atLeast
  | "<" => some below
  | "<=" => some atMost
  | "><" => some between
  | _ => none

end Operator
end CatalogSearch
