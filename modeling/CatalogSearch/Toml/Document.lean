/-
**Building a TOML document.**

A document is a sequence of statements: a key with a value, the header of a table, or the header of a
further table of an array. Each table is defined once: by a header, by the keys of another table, or,
so far only implied, by a header of a table below it.

* `Statement` — the statements of a document;
* `Node.setAt?` — puts a value under a dotted key;
* `Node.open?` — the tables after a header;
* `Document.ofStatements?` — the document of a sequence of statements, unless it breaks the rules.
-/

import CatalogSearch.Toml.Basic

namespace CatalogSearch.Toml

/-- A statement of a document. Keys are given as their parts. -/
inductive Statement where
  | assign (key : List String) (value : Toml)
  | table (key : List String)
  /-- The header of a further table of an array. -/
  | further (key : List String)

/-- How a table came to be. -/
inductive Origin where
  | header
  /-- By the header of a table below it. -/
  | implied
  | dotted
deriving DecidableEq

/-- A part of a document that is being built. -/
inductive Node where
  | value (value : Toml)
  /-- A table that may grow. -/
  | table (origin : Origin) (members : List (String × Node))
  /-- Tables under one name, the last of which may grow. -/
  | tables (items : List (List (String × Node)))

/-- The members of a table that is being built. -/
abbrev Growing := Members Node

namespace Node

/-- Puts a value under a name that is still free. -/
def put? (value : Toml) (name : String) (members : Growing) : Option Growing :=
  match members.get? name with
  | none => some (members.insert name (.value value))
  | some _ => none

/-- Puts a value under a name of a table, behind a path of dotted keys. The path leads through no table
with a header of its own, and to a table that is made by dotted keys. -/
def setAt? (value : Toml) (name : String) : List String → Growing → Option Growing
  | [], members => put? value name members
  | [step], members =>
    match members.get? step with
    | none => some (members.insert step (.table .dotted [(name, .value value)]))
    | some (.table .dotted inner) => do
      let inner ← put? value name inner
      return members.insert step (.table .dotted inner)
    | some _ => none
  | step :: next :: path, members =>
    match members.get? step with
    | none => do
      let inner ← setAt? value name (next :: path) []
      return members.insert step (.table .dotted inner)
    | some (.table .header _) | some (.value _) => none
    | some (.table origin inner) => do
      let inner ← setAt? value name (next :: path) inner
      return members.insert step (.table origin inner)
    | some (.tables items) => do
      let inner ← setAt? value name (next :: path) (items.getLast?.getD [])
      return members.insert step (.tables (items.dropLast ++ [inner]))

/-- Changes the table that a path of headers leads to; tables that are not there are implied. -/
def within? (change : Growing → Option Growing) : List String → Growing → Option Growing
  | [], members => change members
  | step :: path, members =>
    match members.get? step with
    | none => do
      let inner ← within? change path []
      return members.insert step (.table .implied inner)
    | some (.table origin inner) => do
      let inner ← within? change path inner
      return members.insert step (.table origin inner)
    | some (.tables items) => do
      let inner ← within? change path (items.getLast?.getD [])
      return members.insert step (.tables (items.dropLast ++ [inner]))
    | some (.value _) => none

/-- Defines a table by its header; one that is only implied so far is defined by it. -/
def define? (name : String) (members : Growing) : Option Growing :=
  match members.get? name with
  | none => some (members.insert name (.table .header []))
  | some (.table .implied inner) => some (members.insert name (.table .header inner))
  | some _ => none

/-- Begins a further table of an array. -/
def extend? (name : String) (members : Growing) : Option Growing :=
  match members.get? name with
  | none => some (members.insert name (.tables [[]]))
  | some (.tables items) => some (members.insert name (.tables (items ++ [[]])))
  | some _ => none

/-- The document after a header. -/
def open? (at? : String → Growing → Option Growing) (key : List String) (root : Growing) :
    Option Growing :=
  key.getLast?.bind fun name => within? (at? name) key.dropLast root

mutual

/-- The value of a part. -/
def toToml : Node → Toml
  | .value finished => finished
  | .table _ members => .table (toMembers members)
  | .tables items => .array (toTables items)

/-- The values of members. -/
def toMembers : List (String × Node) → List (String × Toml)
  | [] => []
  | (name, node) :: rest => (name, node.toToml) :: toMembers rest

/-- The values of tables. -/
def toTables : List (List (String × Node)) → List Toml
  | [] => []
  | members :: rest => .table (toMembers members) :: toTables rest

end

/-- The members that a sequence of keys with values makes. -/
def ofAssignments? (pairs : List (List String × Toml)) : Option Growing :=
  pairs.foldlM (fun members pair =>
    pair.1.getLast?.bind fun name => setAt? pair.2 name pair.1.dropLast members) []

end Node

/-- A document under construction: all tables, and the path of the one that assignments go to. -/
structure Document where
  root : Growing := []
  /-- The key of the latest header. -/
  current : List String := []

namespace Document

/-- The document after a statement. -/
def step? (document : Document) : Statement → Option Document
  | .assign key value => do
    let name ← key.getLast?
    let root ← Node.within? (Node.setAt? value name key.dropLast) document.current document.root
    return { document with root }
  | .table key => do return ⟨← Node.open? Node.define? key document.root, key⟩
  | .further key => do return ⟨← Node.open? Node.extend? key document.root, key⟩

/-- The table that a sequence of statements makes. -/
def ofStatements? (statements : List Statement) : Option Toml := do
  let document ← statements.foldlM step? {}
  return .table (Node.toMembers document.root)

end Document
end CatalogSearch.Toml
