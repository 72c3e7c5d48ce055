/-
**TOML values.**

* `Toml` — the values of a document;
* `Toml.fields?` — the fields of a record, which is written as a table or as an array in order.
-/

import CatalogSearch.Json.Members
import CatalogSearch.Number.Basic

namespace CatalogSearch

/-- A value of a document. -/
inductive Toml where
  | string (value : String)
  | integer (value : Int)
  /-- A number with a fraction or exponent, or a special one, as it is written. -/
  | float (text : String)
  | boolean (value : Bool)
  /-- A date, a time, or both, as they are written. -/
  | dateTime (text : String)
  | array (items : List Toml)
  | table (members : List (String × Toml))
deriving Repr, Inhabited

namespace Toml

/-- The members of a table. -/
def members? : Toml → Option (Members Toml)
  | .table members => some members
  | _ => none

/-- The items of an array. -/
def items? : Toml → Option (List Toml)
  | .array items => some items
  | _ => none

/-- The text of a string. -/
def text? : Toml → Option String
  | .string s => some s
  | _ => none

/-- The truth value of a boolean. -/
def truth? : Toml → Option Bool
  | .boolean b => some b
  | _ => none

/-- The natural of an integer that an unsigned 64-bit word holds. -/
def nat? : Toml → Option Nat
  | .integer n => (WordInt.ofInt? n).bind WordInt.toNat?
  | _ => none

/-- The fields of a record with the given names, in their order. What an array has more is ignored;
a date counts as a record without any of them. -/
def fields? (names : List String) : Toml → Option (List (Option Toml))
  | .table members => some (names.map fun name => Members.get? members name)
  | .array items =>
    some ((items.take names.length).map some ++
      List.replicate (names.length - items.length) none)
  | .dateTime _ => some (names.map fun _ => none)
  | _ => none

/-- A field that has a default when absent, else must be readable. -/
def orElse? {α : Type} (read? : Toml → Option α) (default : α) : Option Toml → Option α
  | none => some default
  | some value => read? value

/-- An array whose items are all readable. -/
def listOf? {α : Type} (read? : Toml → Option α) (value : Toml) : Option (List α) :=
  value.items?.bind (·.mapM read?)

end Toml
end CatalogSearch
