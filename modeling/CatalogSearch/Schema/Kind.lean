/-
**Kinds of fields.**

* `Kind.name`, `Kind.ofName` — the type name of a kind in an index, and the kind of a name;
* `Kind.emptyValue?` — the value that counts as empty when documents are ordered.
-/

import CatalogSearch.Json.Basic

namespace CatalogSearch

/-- How an index stores the values of a field. -/
inductive Kind where
  | keyword
  | text
  | integer
  | long
  | float
  | double
  | boolean
  | date
  | aliased
  /-- Any other type of an index, by its name. -/
  | other (name : String)
deriving DecidableEq, Repr

namespace Kind

/-- The type name in an index. -/
def name : Kind → String
  | keyword => "keyword"
  | text => "text"
  | integer => "integer"
  | long => "long"
  | float => "float"
  | double => "double"
  | boolean => "boolean"
  | date => "date"
  | aliased => "alias"
  | other name => name

/-- The kind of a type name. -/
def ofName : String → Kind
  | "keyword" => keyword
  | "text" => text
  | "integer" => integer
  | "long" => long
  | "float" => float
  | "double" => double
  | "boolean" => boolean
  | "date" => date
  | "alias" => aliased
  | name => other name

/-- A kind that is given by its name has this name. -/
@[simp] theorem name_ofName (name : String) : (ofName name).name = name := by
  unfold ofName
  split <;> rfl

/-- The value that counts as empty; of dates and unknown kinds only absence does. -/
def emptyValue? : Kind → Option Json
  | integer | long => some (.number .zero)
  | float | double => some (.number (.float (.zero false)))
  | boolean => some (.bool false)
  | keyword | text => some (.string "")
  | date | aliased | other _ => none

end Kind
end CatalogSearch
