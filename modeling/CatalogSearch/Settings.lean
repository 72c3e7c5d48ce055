/-
**Settings.**

* `Settings` — the settings in their four sections, each with a default;
* `Settings.ofToml?`, `Settings.sections` — the settings of a document, and their sections in one;
* `Settings.ofJson?`, `Settings.toJson` — the settings of a JSON value, and the value of settings;
* `Settings.fault?` — why settings cannot be used, if they cannot;
* `Settings.ofText`, `Settings.load`, `Settings.text?` — the settings of a file, and the file of settings.
-/

import CatalogSearch.Filter.Compile
import CatalogSearch.Sort.Compile
import CatalogSearch.Toml.Printer
import CatalogSearch.Toml.Reader

namespace CatalogSearch

/-- How filters and sorts are compiled. -/
structure CompilerSettings where
  strict : Bool := true
  /-- The sort of a search that gives none, as fields and directives. -/
  defaultSort : List (String × String) := [("SORT", "asc"), ("ID", "desc")]
deriving DecidableEq, Repr

/-- Where the index is. -/
structure ServiceSettings where
  url : String := "http://localhost:9200"
  /-- How many milliseconds an answer may take. -/
  timeout : Nat := 30000
  username : Option String := none
  password : Option String := none
deriving DecidableEq, Repr

/-- How schemas are pushed. -/
structure PushSettings where
  minFieldLimit : Nat := 0
deriving DecidableEq, Repr

/-- All settings. -/
structure Settings where
  compiler : CompilerSettings := {}
  hierarchy : Hierarchy := {}
  service : ServiceSettings := {}
  push : PushSettings := {}
deriving DecidableEq, Repr

/-- Why settings cannot be used. -/
inductive SettingsFault where
  /-- The text is no document, or a value has the wrong type. -/
  | unreadable
  | defaultSort (error : Error)
  | emptyFlag
  | emptyUrl
deriving DecidableEq, Repr

/-- The text of a fault. -/
def SettingsFault.message : SettingsFault → String
  | unreadable => "invalid configuration"
  | defaultSort error => "compiler.default_sort: " ++ error.message
  | emptyFlag => "hierarchy.flag must not be empty"
  | emptyUrl => "elastic.url must not be empty"

namespace CompilerSettings

/-- A field and the text of its directive. -/
def pair? (value : Toml) : Option (String × String) :=
  match value.items? with
  | some (field :: directive :: _) => do return (← field.text?, ← directive.text?)
  | _ => none

/-- The reading of the section. -/
def ofToml? (value : Toml) : Option CompilerSettings :=
  let standard : CompilerSettings := {}
  match value.fields? ["strict", "default_sort"] with
  | some [strict, defaultSort] => do
    return { strict := ← Toml.orElse? Toml.truth? standard.strict strict
             defaultSort := ← Toml.orElse? (Toml.listOf? pair?) standard.defaultSort defaultSort }
  | _ => none

/-- The field and the directive of an array of two texts. -/
def pairOfJson? : Json → Option (String × String)
  | .array [.string field, .string directive] => some (field, directive)
  | _ => none

/-- The reading of the section as JSON. -/
def ofJson? (value : Json) : Option CompilerSettings :=
  let standard : CompilerSettings := {}
  match value.fields? ["strict", "default_sort"] with
  | some [strict, defaultSort] => do
    return { strict := ← Json.orElse? Json.truth? standard.strict strict
             defaultSort := ← Json.orElse? (Json.listOf? pairOfJson?) standard.defaultSort defaultSort }
  | _ => none

/-- The values of the section. -/
def values (settings : CompilerSettings) : Members Toml :=
  [ ("strict", .boolean settings.strict),
    ("default_sort", .array (settings.defaultSort.map fun (field, directive) =>
      .array [.string field, .string directive])) ]

end CompilerSettings

namespace Hierarchy

/-- The reading of the section. -/
def ofToml? (value : Toml) : Option Hierarchy :=
  let standard : Hierarchy := {}
  let names := Toml.orElse? (Toml.listOf? Toml.text?)
  let name := Toml.orElse? Toml.text?
  match value.fields? ["flag", "id_scopes", "code_scopes", "direct_ids", "transitive_ids",
    "direct_codes", "transitive_codes"] with
  | some [flag, idScopes, codeScopes, directIds, transitiveIds, directCodes, transitiveCodes] => do
    return { flag := ← name standard.flag flag
             idScopes := ← names standard.idScopes idScopes
             codeScopes := ← names standard.codeScopes codeScopes
             directIds := ← name standard.directIds directIds
             transitiveIds := ← name standard.transitiveIds transitiveIds
             directCodes := ← name standard.directCodes directCodes
             transitiveCodes := ← name standard.transitiveCodes transitiveCodes }
  | _ => none

/-- The values of the section. -/
def values (names : Hierarchy) : Members Toml :=
  [ ("flag", .string names.flag),
    ("id_scopes", .array (names.idScopes.map .string)),
    ("code_scopes", .array (names.codeScopes.map .string)),
    ("direct_ids", .string names.directIds),
    ("transitive_ids", .string names.transitiveIds),
    ("direct_codes", .string names.directCodes),
    ("transitive_codes", .string names.transitiveCodes) ]

end Hierarchy

namespace ServiceSettings

/-- The reading of the section. -/
def ofToml? (value : Toml) : Option ServiceSettings :=
  let standard : ServiceSettings := {}
  let name := Toml.orElse? fun value => value.text?.map some
  match value.fields? ["url", "timeout_ms", "username", "password"] with
  | some [url, timeout, username, password] => do
    return { url := ← Toml.orElse? Toml.text? standard.url url
             timeout := ← Toml.orElse? Toml.nat? standard.timeout timeout
             username := ← name none username
             password := ← name none password }
  | _ => none

/-- The reading of the section as JSON. -/
def ofJson? (value : Json) : Option ServiceSettings :=
  let standard : ServiceSettings := {}
  match value.fields? ["url", "timeout_ms", "username", "password"] with
  | some [url, timeout, username, password] => do
    return { url := ← Json.orElse? Json.text? standard.url url
             timeout := ← Json.orElse? Json.nat? standard.timeout timeout
             username := ← Json.optional? Json.text? username
             password := ← Json.optional? Json.text? password }
  | _ => none

/-- The values of the section; who asks is left out when nobody is named. -/
def values (settings : ServiceSettings) : Members Toml :=
  [("url", .string settings.url), ("timeout_ms", .integer settings.timeout)] ++
    settings.username.toList.map (("username", .string ·)) ++
    settings.password.toList.map (("password", .string ·))

end ServiceSettings

namespace PushSettings

/-- The reading of the section. -/
def ofToml? (value : Toml) : Option PushSettings :=
  match value.fields? ["min_total_fields_limit"] with
  | some [limit] => do return { minFieldLimit := ← Toml.orElse? Toml.nat? 0 limit }
  | _ => none

/-- The reading of the section as JSON. -/
def ofJson? (value : Json) : Option PushSettings :=
  match value.fields? ["min_total_fields_limit"] with
  | some [limit] => do return { minFieldLimit := ← Json.orElse? Json.nat? 0 limit }
  | _ => none

/-- The values of the section. -/
def values (settings : PushSettings) : Members Toml :=
  [("min_total_fields_limit", .integer settings.minFieldLimit)]

end PushSettings

namespace Settings

/-- The settings of a document; a section that is not there has its default. -/
def ofToml? (document : Toml) : Option Settings :=
  match document.fields? ["compiler", "hierarchy", "elastic", "sync"] with
  | some [compiler, hierarchy, service, push] => do
    return { compiler := ← Toml.orElse? CompilerSettings.ofToml? {} compiler
             hierarchy := ← Toml.orElse? Hierarchy.ofToml? {} hierarchy
             service := ← Toml.orElse? ServiceSettings.ofToml? {} service
             push := ← Toml.orElse? PushSettings.ofToml? {} push }
  | _ => none

/-- The sections of a document, in order. -/
def sections (settings : Settings) : Members (Members Toml) :=
  [ ("compiler", settings.compiler.values),
    ("hierarchy", settings.hierarchy.values),
    ("elastic", settings.service.values),
    ("sync", settings.push.values) ]

/-- The fault of the first faulty directive. -/
def sortFault? (pairs : List (String × String)) : Option Error :=
  pairs.findSome? fun (field, directive) =>
    match SortDirective.read field directive with
    | .ok _ => none
    | .error error => some error

/-- Settings can be used if the default sort is sound and neither flag nor address is empty. -/
def fault? (settings : Settings) : Option SettingsFault :=
  match sortFault? settings.compiler.defaultSort with
  | some error => some (.defaultSort error)
  | none =>
    if settings.hierarchy.flag = "" then some .emptyFlag
    else if settings.service.url = "" then some .emptyUrl
    else none

/-- The settings of a text, which must be usable. -/
def ofText (text : String) : Except SettingsFault Settings :=
  match (Toml.ofText? text).bind ofToml? with
  | none => .error .unreadable
  | some settings =>
    match settings.fault? with
    | some fault => .error fault
    | none => .ok settings

/-- The settings of a file's text, or the defaults if there is no file. -/
def load : Option String → Except SettingsFault Settings
  | none => .ok {}
  | some text => ofText text

/-- Whether a file can hold the settings: its integers are signed words. -/
def isWritable (settings : Settings) : Bool :=
  [settings.service.timeout, settings.push.minFieldLimit].all fun n => (WordInt.ofSigned? n).isSome

/-- The text of a file of the settings, if a file can hold them. -/
def text? (settings : Settings) : Option String :=
  if settings.isWritable then some (Toml.document settings.sections) else none

/-- The compiler of filters. -/
def filterCompiler (settings : Settings) : FilterCompiler :=
  ⟨.ofStrict settings.compiler.strict, some settings.hierarchy⟩

/-- The compiler of sorts. -/
def sortCompiler (settings : Settings) : SortCompiler := ⟨.ofStrict settings.compiler.strict⟩

/-- The sections as JSON, in order. -/
def sectionsJson (settings : Settings) : Members (Members Json) :=
  let text? (value : Option String) : Json := (value.map Json.string).getD .null
  let names (values : List String) : Json := .array (values.map .string)
  [ ("compiler",
      [ ("strict", .bool settings.compiler.strict),
        ("default_sort", .array (settings.compiler.defaultSort.map fun (field, directive) =>
          .array [.string field, .string directive])) ]),
    ("hierarchy",
      [ ("flag", .string settings.hierarchy.flag),
        ("id_scopes", names settings.hierarchy.idScopes),
        ("code_scopes", names settings.hierarchy.codeScopes),
        ("direct_ids", .string settings.hierarchy.directIds),
        ("transitive_ids", .string settings.hierarchy.transitiveIds),
        ("direct_codes", .string settings.hierarchy.directCodes),
        ("transitive_codes", .string settings.hierarchy.transitiveCodes) ]),
    ("elastic",
      [ ("url", .string settings.service.url),
        ("timeout_ms", .ofNat settings.service.timeout),
        ("username", text? settings.service.username),
        ("password", text? settings.service.password) ]),
    ("sync", [("min_total_fields_limit", .ofNat settings.push.minFieldLimit)]) ]

/-- All settings as one value. -/
def toJson (settings : Settings) : Json :=
  .object (settings.sectionsJson.map fun (name, values) => (name, .object values))

/-- The settings of a value; a section that is not there has its default. -/
def ofJson? (value : Json) : Option Settings :=
  match value.fields? ["compiler", "hierarchy", "elastic", "sync"] with
  | some [compiler, hierarchy, service, push] => do
    return { compiler := ← Json.orElse? CompilerSettings.ofJson? {} compiler
             hierarchy := ← Json.orElse? Hierarchy.ofJson? {} hierarchy
             service := ← Json.orElse? ServiceSettings.ofJson? {} service
             push := ← Json.orElse? PushSettings.ofJson? {} push }
  | _ => none

/-- The settings with values of sections laid over them, which must be readable but need not be usable.
What stands for a section and is no object changes nothing. -/
def overlay? (settings : Settings) (changes : Members Json) : Option Settings :=
  ofJson? <| .object <| settings.sectionsJson.map fun (name, values) =>
    (name, .object (values.overlay (((changes.get? name).bind Json.members?).getD [])))

end Settings
end CatalogSearch
