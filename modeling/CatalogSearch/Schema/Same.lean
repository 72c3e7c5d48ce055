/-
**Values and schemas that mean the same.**

* `Json.same` — equality of values in which the order of members does not count, and the two zeros of
  doubles are one;
* `Property.same` — equality of definitions in which the order of parameters does not count;
* `Schema.same` — equality of schemas, in which the order of fields does.
-/

import CatalogSearch.Schema.Basic

namespace CatalogSearch

/-- Whether two numbers of one type are equal; the two zeros of doubles are. -/
def Number.same : Number → Number → Bool
  | .int a, .int b => a = b
  | .float a, .float b => a = b || (Number.float a).isZero && (Number.float b).isZero
  | _, _ => false

namespace Json

mutual

/-- Whether two values mean the same. -/
def same : Json → Json → Bool
  | .null, .null => true
  | .bool a, .bool b => a = b
  | .number a, .number b => a.same b
  | .string a, .string b => a = b
  | .array a, .array b => sameItems a b
  | .object a, .object b => a.length = b.length && sameMembers a b
  | _, _ => false

/-- Whether two sequences mean the same, item by item. -/
def sameItems : List Json → List Json → Bool
  | [], [] => true
  | a :: rest, b :: others => same a b && sameItems rest others
  | _, _ => false

/-- Whether every member has one of its name that means the same. -/
def sameMembers : List (String × Json) → List (String × Json) → Bool
  | [], _ => true
  | (name, a) :: rest, others =>
    (match Members.get? others name with
      | some b => same a b
      | none => false) && sameMembers rest others

end

end Json

/-- Whether two definitions mean the same. -/
def Property.same (property other : Property) : Bool :=
  property.kind = other.kind && Json.same (.object property.parameters) (.object other.parameters)

/-- Whether two schemas have fields that mean the same, in the same order. -/
def Schema.same (schema other : Schema) : Bool :=
  schema.names = other.names &&
    (schema.fields.zip other.fields).all fun (field, known) => field.2.same known.2

end CatalogSearch
