/-
**Values as a field stores them.**

* `Json.unwrapped` — the text of rich text, any other value itself;
* `Json.asKeyword`, `asInteger`, `asFloat`, `asTruth`, `asDate` — a value in one of the known kinds;
* `Property.normalize` — a value as the field of a property stores it, item by item in an array;
* `Schema.document` — a record as the index stores it: every field but the aliases, in order, where a
  field that the record lacks is null.
-/

import CatalogSearch.Calendar.Moment
import CatalogSearch.Number.Numeral
import CatalogSearch.Schema.Basic

namespace CatalogSearch

namespace Json

/-- Whether a name is `text` but for the case of its letters. -/
def isTextName (name : String) : Bool := name.toList.map Char.toLower = "text".toList

/-- The text of rich text: the first member whose name is `text` but for case. -/
def unwrapped : Json → Json
  | .object members => ((members.find? (isTextName ·.1)).map (·.2)).getD (.object members)
  | value => value

/-- The text that a number gives to a keyword: a whole double below `10 ^ 15` loses its point. -/
def keywordText : Number → String
  | .float x => if x.isWhole && x.wholePart < tenTo 15 then toString x.truncate else x.text
  | n => n.text

/-- A value as a keyword: null and false are no value. -/
def asKeyword : Json → Except OperationFault Json
  | .null | .bool false => .ok .null
  | .bool true => .ok (.string "1")
  | .string s => .ok (.string s)
  | .number n => .ok (.string (keywordText n))
  | value => .error (.notText value)

/-- The nearest signed word to a double's integer part. -/
def wholeNumber (x : Binary64) : Json := .number (.int (.clampSigned x.truncate))

/-- A text as an integer: exact if it is the integer of a signed word, else by way of a double. -/
def integerOfText (s : String) : Json :=
  match Numeral.signed? s with
  | some n => .number (.int n)
  | none =>
    match Numeral.read? s with
    | none => .null
    | some numeral =>
      match numeral.toBinary64? with
      | some x => wholeNumber x
      | none => .number (.int (if numeral.negative then .leastSigned else .greatestSigned))

/-- A value as an integer: what is no number is null. -/
def asInteger : Json → Json
  | .number (.int n) => .number (.int n)
  | .number (.float x) => wholeNumber x
  | .string s => integerOfText s
  | _ => .null

/-- A value as a double: what is no finite number is null. -/
def asFloat : Json → Json
  | .number n => .number (.float n.toBinary64)
  | .string s =>
    match (Numeral.read? s).bind Decimal.toBinary64? with
    | some x => .number (.float x)
    | none => .null
  | _ => .null

/-- A value as a truth value; null stays null. -/
def asTruth : Json → Json
  | .null => .null
  | value => .bool value.isTruthy

/-- A value as a date. -/
def asDate (value : Json) : Except OperationFault Json := (Moment.read value).map Moment.toJson

end Json

namespace Kind

/-- A single value as a field of this kind stores it; kinds without rules store it as it is. -/
def normalizeScalar (kind : Kind) (value : Json) : Except OperationFault Json :=
  match kind with
  | .keyword | .text => value.asKeyword
  | .integer | .long => .ok value.asInteger
  | .float | .double => .ok value.asFloat
  | .boolean => .ok value.asTruth
  | .date => value.asDate
  | .aliased => .error .aliasValue
  | .other _ => .ok value

end Kind

namespace Property

/-- A value as the field stores it. Rich text is unwrapped first, and so is each item of an array. -/
def normalize (property : Property) (value : Json) : Except OperationFault Json :=
  if property.isAlias then .error .aliasValue
  else match value.unwrapped with
    | .array items =>
      (items.mapM fun item => property.kind.normalizeScalar item.unwrapped).map .array
    | scalar => property.kind.normalizeScalar scalar

end Property

/-! ### Documents -/

namespace Schema

/-- A field of a document: its name and its stored value. -/
def documentField (record : Members Json) (field : String × Property) :
    Except Error (String × Json) :=
  match field.2.normalize ((record.get? field.1).getD .null) with
  | .ok value => .ok (field.1, value)
  | .error fault => .error (.invalidOperation fault)

/-- The document of a record. -/
def document (schema : Schema) (record : Members Json) : Except Error (Members Json) :=
  (schema.fields.filter fun field => !field.2.isAlias).mapM (documentField record)

end Schema
end CatalogSearch
