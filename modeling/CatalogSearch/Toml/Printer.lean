/-
**Writing TOML text.**

A document is written as sections of single values. An array of more than one item has a line for each
item. A text takes the first of these forms that can hold it: double quotes without escapes, single
quotes, three double quotes without escapes, three single quotes, and double quotes with escapes, three
of them if it has several lines.

* `Toml.writtenText` — the form of a text;
* `Toml.written` — the form of a value;
* `Toml.document` — the text of a document of sections.
-/

import CatalogSearch.Json.Printer
import CatalogSearch.Toml.Basic
import CatalogSearch.Toml.Scan

namespace CatalogSearch.Toml

/-- The length of the longest run of a character, given the length of the run before. -/
def longestRun (c : Char) (current : Nat) : List Char → Nat
  | [] => current
  | d :: rest => max current (longestRun c (if d = c then current + 1 else 0) rest)

/-- Whether a text cannot be written without escapes: it holds a control other than a tabulator or a
line end. -/
def needsCodes (cs : List Char) : Bool :=
  cs.any fun c => (c.toNat < 0x20 && c ≠ '\t' && c ≠ '\n') || c.toNat = 0x7F

/-- The characters of a text between double quotes. Up to `quotes` double quotes in a row, and in a
text of several `lines` the line ends, stand as they are; `run` quotes have just been written. -/
def escaped (lines : Bool) (quotes run : Nat) : List Char → List Char
  | [] => []
  | c :: rest =>
    if c = '"' then
      if run < quotes then '"' :: escaped lines quotes (run + 1) rest
      else '\\' :: '"' :: escaped lines quotes 0 rest
    else
      let text :=
        if c = '\\' then ['\\', '\\']
        else if c = '\t' then ['\\', 't']
        else if c = '\n' then (if lines then ['\n'] else ['\\', 'n'])
        else if c = '\r' then ['\\', 'r']
        else if c.toNat = 8 then ['\\', 'b']
        else if c.toNat = 12 then ['\\', 'f']
        else if c.toNat < 0x20 ∨ c.toNat = 0x7F then
          '\\' :: 'u' :: (Json.hex4 c.toNat).map Char.toUpper
        else [c]
      text ++ escaped lines quotes 0 rest

/-- A text between quotes; one of several lines begins on a line of its own. -/
def between (quotes : String) (several : Bool) (cs : List Char) : String :=
  quotes ++ (if several then "\n" else "") ++ String.ofList cs ++ quotes

/-- The written form of a text. -/
def writtenText (s : String) : String :=
  let cs := s.toList
  let several := cs.any (· = '\n')
  let codes := needsCodes cs
  let backslash := cs.any (· = '\\')
  let single := longestRun '\'' 0 cs
  let double := longestRun '"' 0 cs
  if !codes && !backslash && double = 0 && !several then
    between "\"" false (escaped false 0 0 cs)
  else if !codes && single = 0 && !several then between "'" false cs
  else if !codes && !backslash && double ≤ 2 then
    between "\"\"\"" several (escaped true 2 0 cs)
  else if !codes && single ≤ 2 then between "'''" several cs
  else if several then between "\"\"\"" true (escaped true 2 0 cs)
  else between "\"" false (escaped false 0 0 cs)

/-- A key: as it is where its characters allow that, else as a text. -/
def writtenKey (key : String) : String :=
  if key ≠ "" ∧ key.toList.all Scan.isBare then key else writtenText key

mutual

/-- The written form of a value. -/
def written : Toml → String
  | .string s => writtenText s
  | .integer n => toString n
  | .float text => text
  | .boolean b => if b then "true" else "false"
  | .dateTime text => text
  | .array [] => "[]"
  | .array [item] => "[" ++ written item ++ "]"
  | .array items => "[" ++ writtenItems items ++ "\n]"
  | .table [] => "\x7b\x7d"
  | .table members => "\x7b " ++ writtenMembers members ++ " \x7d"

/-- Items with a line for each and a comma behind it. -/
def writtenItems : List Toml → String
  | [] => ""
  | item :: rest => "\n    " ++ written item ++ "," ++ writtenItems rest

/-- Members with commas between them. -/
def writtenMembers : List (String × Toml) → String
  | [] => ""
  | [(key, value)] => writtenKey key ++ " = " ++ written value
  | (key, value) :: rest => writtenKey key ++ " = " ++ written value ++ ", " ++ writtenMembers rest

end

/-- A section: its name in brackets, and a line for each value. -/
def sectionText (name : String) (values : Members Toml) : String :=
  "[" ++ writtenKey name ++ "]\n" ++
    String.join (values.map fun value => writtenKey value.1 ++ " = " ++ written value.2 ++ "\n")

/-- The text of a document: its sections with an empty line between them. -/
def document (sections : Members (Members Toml)) : String :=
  String.intercalate "\n" (sections.map fun part => sectionText part.1 part.2)

end CatalogSearch.Toml
