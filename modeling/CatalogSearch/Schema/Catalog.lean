/-
**Schemas of catalogs.**

A catalog has a fixed set of standard fields, custom properties, stores and price groups.

* `Catalog.standardFields` — the standard fields and their definitions, in order;
* `Catalog.Custom.valueProperty` — the definition of a custom property's values;
* `Catalog.Description.schema` — the schema of a described catalog;
* `Catalog.Description.ofJson?` — the reading of a description.
-/

import CatalogSearch.Json.Record
import CatalogSearch.Schema.Basic

namespace CatalogSearch.Catalog

/-- Dates with the formats an index reads them in. -/
def dateProperty : Property :=
  ⟨.date, [("format", .string "yyyy-MM-dd HH:mm:ss||yyyy-MM-dd")]⟩

/-- The standard fields of a record, in order. -/
def standardFields : Members Property :=
  [ ("LID", .ofKind .keyword),
    ("IBLOCK_TYPE_ID", .ofKind .keyword),
    ("IBLOCK_ID", .ofKind .integer),
    ("IBLOCK_CODE", .ofKind .keyword),
    ("IBLOCK_NAME", .ofKind .keyword),
    ("ID", .ofKind .integer),
    ("XML_ID", .ofKind .keyword),
    ("EXTERNAL_ID", .ofAlias "XML_ID"),
    ("CODE", .ofKind .keyword),
    ("NAME", .ofKind .keyword),
    ("ACTIVE", .ofKind .boolean),
    ("DETAIL_PAGE_URL", .ofKind .keyword),
    ("LIST_PAGE_URL", .ofKind .keyword),
    ("TIMESTAMP_X", dateProperty),
    ("DATE_CREATE", dateProperty),
    ("IBLOCK_SECTION_ID", .ofKind .integer),
    ("SECTION_ID", .ofAlias "IBLOCK_SECTION_ID"),
    ("SECTION_CODE", .ofKind .keyword),
    ("ACTIVE_FROM", dateProperty),
    ("ACTIVE_TO", dateProperty),
    ("SORT", .ofKind .integer),
    ("PREVIEW_PICTURE", .ofKind .integer),
    ("PREVIEW_TEXT", .ofKind .keyword),
    ("PREVIEW_TEXT_TYPE", .ofKind .keyword),
    ("DETAIL_PICTURE", .ofKind .integer),
    ("DETAIL_TEXT", .ofKind .keyword),
    ("DETAIL_TEXT_TYPE", .ofKind .keyword),
    ("SEARCHABLE_CONTENT", .ofKind .keyword),
    ("TAGS", .ofKind .keyword) ]

/-- The definition of a standard field. -/
def standardField (name : String) : Except Error Property :=
  match standardFields.get? name with
  | some property => .ok property
  | none => .error (.schema (.noStandardField name))

/-- A custom property of a catalog. -/
structure Custom where
  id : Nat
  code : String
  /-- The letter of its type. -/
  type? : Option String := none
  /-- The name of a finer type. -/
  userType? : Option String := none
deriving DecidableEq, Repr

namespace Custom

/-- Whether the values are taken from a list. -/
def isList (custom : Custom) : Bool := custom.type? = some "L"

/-- The definition of the property's values, for which it must have a type. -/
def valueProperty (custom : Custom) : Except Error Property :=
  match custom.type?.filter (· ≠ "") with
  | none => .error (.schema (.noPropertyType custom.code))
  | some type =>
    if type = "S" ∧ custom.userType? = some "DateTime" then .ok dateProperty
    else if type = "N" then .ok (.ofKind .float)
    else if type = "E" ∨ type = "F" then .ok (.ofKind .integer)
    else .ok (.ofKind .keyword)

/-- The field name by code. -/
def codeName (custom : Custom) : String := "PROPERTY_" ++ custom.code

/-- The field name by number. -/
def idName (custom : Custom) : String := "PROPERTY_" ++ toString custom.id

/-- An integer with the mark of a field of list codes. -/
def listProperty : Property :=
  ⟨.integer, [("fields", .object [("enum", .object [("type", .string "integer")])])]⟩

/-- The fields of a property: the one by code and its alias by number; a list has both once more for
its decoded values. -/
def fields (custom : Custom) : Except Error (List (String × Property)) :=
  custom.valueProperty.map fun values =>
    if custom.isList then
      [ (custom.codeName, listProperty),
        (custom.idName, .ofAlias custom.codeName),
        (custom.codeName ++ "_VALUE", values),
        (custom.idName ++ "_VALUE", .ofAlias (custom.codeName ++ "_VALUE")) ]
    else [(custom.codeName, values), (custom.idName, .ofAlias custom.codeName)]

/-- The reading of a custom property. -/
def ofJson? (value : Json) : Option Custom :=
  match value.fields? ["ID", "CODE", "PROPERTY_TYPE", "USER_TYPE"] with
  | some [id, code, type, userType] => do
    return { id := ← id.bind Json.nat?, code := ← code.bind Json.text?
             type? := ← Json.optional? Json.text? type
             userType? := ← Json.optional? Json.text? userType }
  | _ => none

end Custom

/-- The fields that say in which sections a record stands. -/
def membershipFields : List (String × Property) :=
  [ ("GROUP_IDS", .ofKind .integer),
    ("GROUP_CODES", .ofKind .keyword),
    ("NAV_CHAIN_IDS", .ofKind .integer),
    ("NAV_CHAIN_CODES", .ofKind .keyword) ]

/-- The field of a store's stock. -/
def storeFields (store : Nat) : List (String × Property) :=
  [("CATALOG_STORE_AMOUNT_" ++ toString store, .ofKind .integer)]

/-- The fields of a price group. -/
def priceFields (group : Nat) : List (String × Property) :=
  [ ("CATALOG_PRICE_" ++ toString group, .ofKind .float),
    ("CATALOG_CURRENCY_" ++ toString group, .ofKind .keyword) ]

/-- What is known of a catalog. -/
structure Description where
  properties : List Custom := []
  stores : List Nat := []
  priceGroups : List Nat := []
deriving DecidableEq, Repr

namespace Description

/-- The fields of the custom properties, in order; the first one without a type is the error. -/
def customFields (description : Description) : Except Error (List (String × Property)) :=
  (description.properties.mapM Custom.fields).map List.flatten

/-- The schema of a catalog: standard fields, custom properties, sections, stores and prices. -/
def schema (description : Description) : Except Error Schema :=
  description.customFields.map fun custom =>
    .ofList (standardFields ++ custom ++ membershipFields ++
      description.stores.flatMap storeFields ++ description.priceGroups.flatMap priceFields)

/-- The reading of a description, whose parts have defaults. -/
def ofJson? (value : Json) : Option Description :=
  match value.fields? ["properties", "stores", "price_groups"] with
  | some [properties, stores, priceGroups] => do
    return { properties := ← Json.orElse? (Json.listOf? Custom.ofJson?) [] properties
             stores := ← Json.orElse? (Json.listOf? Json.nat?) [] stores
             priceGroups := ← Json.orElse? (Json.listOf? Json.nat?) [] priceGroups }
  | _ => none

end Description

/-- Descriptions by name. -/
abbrev Registry := Members Description

/-- The schema of the catalog of a name. -/
def Registry.schema (registry : Registry) (name : String) : Except Error Schema :=
  match Members.get? registry name with
  | some description => description.schema
  | none => .error (.schema (.unknownSource name))

end CatalogSearch.Catalog
