/-
**Field definitions.**

A property is a kind with parameters, whose written form is one object with the kind under `type`.

* `Property.ofAlias` — another name for a field;
* `Property.set` — sets a parameter, or the kind by its name;
* `Property.toJson`, `Property.ofMembers` — the written form, and its reading, which fails only on a
  type that is no text;
* `Property.entries` — what is written of a property, one entry after another;
* `Property.budget` — how much a field weighs against an index's limit.
-/

import CatalogSearch.Schema.Kind

namespace CatalogSearch

/-- The definition of a field. -/
structure Property where
  kind : Kind
  /-- Everything else an index knows of it, in order. -/
  parameters : Members Json
deriving DecidableEq, Repr

namespace Property

/-- A property without parameters. -/
def ofKind (kind : Kind) : Property := ⟨kind, []⟩

/-- The parameter under a name. -/
def get? (property : Property) (name : String) : Option Json := property.parameters.get? name

/-- Sets a parameter; under `type` a text sets the kind, and nothing else does. -/
def set (property : Property) (name : String) (value : Json) : Property :=
  if name = "type" then
    match value with
    | .string kind => { property with kind := .ofName kind }
    | _ => property
  else { property with parameters := property.parameters.insert name value }

/-- Another name for the field at a path. -/
def ofAlias (path : String) : Property := ⟨.aliased, [("path", .string path)]⟩

/-- Whether this is another name for a field. -/
def isAlias (property : Property) : Bool := property.kind = .aliased

/-- The field that an alias names, if it names one. -/
def aliasPath? (property : Property) : Option String :=
  ((property.get? "path").bind Json.text?).filter (· ≠ "")

theorem aliasPath?_ofAlias {path : String} (given : path ≠ "") :
    (ofAlias path).aliasPath? = some path := by
  simp [aliasPath?, ofAlias, get?, Members.get?, Json.text?, given]

/-- Whether the field holds codes whose decoded values stand in a companion field. -/
def hasEnumField (property : Property) : Bool :=
  ((property.get? "fields").bind (·.member? "enum")).isSome

/-- The number of fields that an index counts for this one. -/
def budget (property : Property) : Nat := if property.isAlias then 2 else 1

/-- The members of the written form. -/
def toMembers (property : Property) : Members Json :=
  Members.overlay [("type", .string property.kind.name)] property.parameters

/-- The written form. -/
def toJson (property : Property) : Json := .object property.toMembers

/-- What is written of the property, one entry after another: its kind, and all its parameters. -/
def entries (property : Property) : Members Json :=
  ("type", .string property.kind.name) :: property.parameters

/-- The property that members define; without a type it is a keyword. A type that is no text is the
error. -/
def ofMembers (members : Members Json) : Except Json Property :=
  match members.get? "type" with
  | none => .ok ⟨.keyword, members.erase "type"⟩
  | some (.string kind) => .ok ⟨.ofName kind, members.erase "type"⟩
  | some given => .error given

/-- The property that a value defines. -/
def ofJson? (value : Json) : Option Property :=
  value.members?.bind fun members => (ofMembers members).toOption

end Property
end CatalogSearch
