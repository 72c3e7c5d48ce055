/-
**What can go wrong, and how it is said.**

* `Error` — the causes for which an entry, a value or a schema is refused;
* `Error.kind` — the short name of a cause; `Error.message` — its text.
-/

import CatalogSearch.Filter.Operator
import CatalogSearch.Json.Printer
import CatalogSearch.Text.Quoted

namespace CatalogSearch

/-- Why a value cannot be used as asked. -/
inductive OperationFault where
  | aliasValue
  | notText (value : Json)
  | notSingle (operator : Operator) (field : String)
  | notPair
  | unordered (field : String) (first second : Json)
  | truthNotDate
  | numberNotTimestamp (number : Number)
  | textNotTimestamp (text : String)
  | unreadableDate (text : String)
  | valueNotDate (value : Json)
  /-- A count of seconds past the years that have dates. -/
  | timestampRange (seconds : Int)
deriving DecidableEq, Repr

/-- Why a schema cannot be built. -/
inductive SchemaFault where
  | noStandardField (name : String)
  | noPropertyType (code : String)
  | unknownSource (name : String)
  | kindNotText (field : String) (given : Json)
deriving DecidableEq, Repr

/-- A cause of failure. -/
inductive Error where
  | invalidFilterKey (key : String)
  | unknownProperty (name : String)
  | invalidAliasPath (name : String) (path : Option String)
  | invalidOperator (field marker : String)
  | invalidOperation (fault : OperationFault)
  | invalidSortFormat (directive : String)
  | invalidLogic (value : String)
  | schema (fault : SchemaFault)
deriving DecidableEq, Repr

namespace OperationFault

/-- The text of a fault. -/
def message : OperationFault → String
  | aliasValue => "alias properties carry no values"
  | notText value => "cannot convert " ++ value.compact ++ " to a string"
  | notSingle operator field => operator.symbol ++ field ++ " requires a single non-null value"
  | notPair => "between filter requires a two-element array"
  | unordered field first second =>
    "between filter on " ++ field ++ " cannot order " ++ first.compact ++ " and " ++ second.compact
  | truthNotDate => "boolean is not a date"
  | numberNotTimestamp number => number.text ++ " is not a valid timestamp"
  | textNotTimestamp text => Text.quote text ++ " is not a valid timestamp"
  | unreadableDate text => "cannot parse date " ++ Text.quote text
  | valueNotDate value => "cannot interpret " ++ value.compact ++ " as a date"
  | timestampRange seconds => "timestamp " ++ toString seconds ++ " is out of range"

end OperationFault

/-- The sort of a value, as messages name it; numbers and truth values are shown. -/
def Json.shape : Json → String
  | .null => "null"
  | .bool b => "boolean `" ++ (Json.bool b).compact ++ "`"
  | .number (.int n) => "integer `" ++ (Number.int n).text ++ "`"
  | .number (.float x) => "floating point `" ++ x.text ++ "`"
  | .string s => "string " ++ Text.quote s
  | .array _ => "sequence"
  | .object _ => "map"

namespace SchemaFault

/-- The text of a fault. -/
def message : SchemaFault → String
  | noStandardField name => "no predefined type for field " ++ name
  | noPropertyType code => "property " ++ code ++ " has no property type"
  | unknownSource name => "unknown content type " ++ name
  | kindNotText field given =>
    "field " ++ field ++ ": invalid type: " ++ given.shape ++ ", expected a string"

end SchemaFault

namespace Error

/-- The short name of a cause. -/
def kind : Error → String
  | invalidFilterKey _ => "invalid_filter_key"
  | unknownProperty _ => "unknown_property"
  | invalidAliasPath _ _ => "invalid_alias_path"
  | invalidOperator _ _ => "invalid_operator"
  | invalidOperation _ => "invalid_operation"
  | invalidSortFormat _ => "invalid_sort_format"
  | invalidLogic _ => "invalid_logic"
  | schema _ => "schema"

/-- The text of a cause. -/
def message : Error → String
  | invalidFilterKey key => "Invalid filter key: " ++ Text.quote key
  | unknownProperty name => "Property not found in schema: " ++ name
  | invalidAliasPath name path =>
    "Alias " ++ name ++ " has an invalid path: " ++ path.getD "<missing>"
  | invalidOperator field marker =>
    "Cannot filter " ++ field ++ " by operator " ++ Text.quote marker
  | invalidOperation fault => "Invalid operation: " ++ fault.message
  | invalidSortFormat directive => "Invalid sort format: " ++ Text.quote directive
  | invalidLogic value => "Invalid logic operator: " ++ Text.quote value
  | schema fault => "Schema error: " ++ fault.message

end Error
end CatalogSearch
