/-
**Sort directives.**

A directive is `asc` or `desc`; `nulls,` before it puts empty values first, and `,nulls` behind it puts
them last. Blanks may stand around every word and comma.

* `SortDirective.read` — the directive that a text gives for a field.
-/

import CatalogSearch.Error
import CatalogSearch.Text.Basic

namespace CatalogSearch

/-- The direction of a sort. -/
inductive SortOrder where
  | asc
  | desc
deriving DecidableEq, Repr

/-- Where empty values go. -/
inductive NullOrder where
  /-- Where the index puts them. -/
  | unspecified
  | first
  | last
deriving DecidableEq, Repr

/-- The name of a direction. -/
def SortOrder.text : SortOrder → String
  | asc => "asc"
  | desc => "desc"

/-- The name of a placement. -/
def NullOrder.text : NullOrder → String
  | unspecified => "none"
  | first => "first"
  | last => "last"

/-- How a field is sorted. -/
structure SortDirective where
  field : String
  order : SortOrder
  nulls : NullOrder
deriving DecidableEq, Repr

namespace SortDirective

/-- The small letter of a letter; the long s is an s. -/
def fold (c : Char) : Char := if c.toNat = 0x17F then 's' else c.toLower

/-- The characters behind the word `nulls`, in letters of any case. -/
def afterNulls? (cs : List Char) : Option (List Char) :=
  if (cs.take 5).map fold = "nulls".toList then some (cs.drop 5) else none

/-- The characters behind a comma that blanks may surround. -/
def afterComma? (cs : List Char) : Option (List Char) :=
  match Text.trimLeft cs with
  | ',' :: rest => some (Text.trimLeft rest)
  | _ => none

/-- The direction at the start, in ASCII letters of any case, and what follows. -/
def order? (cs : List Char) : Option (SortOrder × List Char) :=
  if (cs.take 3).map Char.toLower = "asc".toList then some (.asc, cs.drop 3)
  else if (cs.take 4).map Char.toLower = "desc".toList then some (.desc, cs.drop 4)
  else none

/-- Whether nulls are named at the start, and what follows their comma. -/
def leading (cs : List Char) : Bool × List Char :=
  match (afterNulls? cs).bind afterComma? with
  | some rest => (true, rest)
  | none => (false, cs)

/-- Whether nulls are named behind a comma, and what follows them. -/
def trailing (cs : List Char) : Bool × List Char :=
  match (afterComma? cs).bind afterNulls? with
  | some rest => (true, rest)
  | none => (false, cs)

/-- The direction and the place of empty values that a text gives; they cannot go both ways. -/
def parts? (text : String) : Option (SortOrder × NullOrder) := do
  let (first, cs) := leading (Text.trimLeft text.toList)
  let (order, cs) ← order? cs
  let (last, cs) := trailing cs
  if !(Text.trimLeft cs).isEmpty then none
  else match first, last with
    | false, false => some (order, .unspecified)
    | true, false => some (order, .first)
    | false, true => some (order, .last)
    | true, true => none

/-- The directive that a text gives for a field. -/
def read (field text : String) : Except Error SortDirective :=
  match parts? text with
  | some (order, nulls) => .ok ⟨field, order, nulls⟩
  | none => .error (.invalidSortFormat text)

end SortDirective
end CatalogSearch
