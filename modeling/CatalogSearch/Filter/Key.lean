/-
**Filter keys.**

A key is a marker of characters that are not word characters, followed by a field name of word
characters.

* `split?` — the two parts of a key;
* `FilterKey.read` — the operator and field a key denotes;
* `FilterKey.text` — the key of an operator and a field, where equality is not written.
-/

import CatalogSearch.Error
import CatalogSearch.Text.Word

namespace CatalogSearch

/-- An operator and the field it compares. -/
structure FilterKey where
  operator : Operator
  field : String
deriving DecidableEq, Repr

namespace FilterKey

/-- The marker and the field name of a key. -/
def split? (key : String) : Option (String × String) :=
  let marker := key.toList.takeWhile fun c => !Text.isWord c
  let field := key.toList.dropWhile fun c => !Text.isWord c
  if !field.isEmpty && field.all Text.isWord then
    some (String.ofList marker, String.ofList field)
  else none

/-- The operator and field that a key denotes. -/
def read (key : String) : Except Error FilterKey :=
  match split? key with
  | none => .error (.invalidFilterKey key)
  | some (marker, field) =>
    match Operator.ofMarker? marker with
    | none => .error (.invalidOperator field marker)
    | some operator => .ok ⟨operator, field⟩

/-- The key as it is written; equality needs no marker. -/
def text (key : FilterKey) : String :=
  match key.operator with
  | .equals => key.field
  | operator => operator.symbol ++ key.field

end FilterKey
end CatalogSearch
