/-
**Reading TOML text.**

* `Toml.Reader.value?` — a value and what is left of the characters;
* `Toml.Reader.statements?` — the statements of a document, one a line;
* `Toml.ofText?` — the table that a text denotes.
-/

import CatalogSearch.Toml.Document
import CatalogSearch.Toml.Scan

namespace CatalogSearch.Toml

namespace Reader

/-- The text that has been read when `rest` is left. -/
def textBefore (rest cs : List Char) : String := String.ofList (cs.take (cs.length - rest.length))

/-- A number or a date. -/
def number? (cs : List Char) : Option (Toml × List Char) :=
  ((Scan.afterDateTime? cs).map fun rest => (.dateTime (textBefore rest cs), rest)).or <|
    ((Scan.afterFloat? cs).map fun rest => (.float (textBefore rest cs), rest)).or <|
      (Scan.integer? cs).map fun (n, rest) => (.integer n, rest)

mutual

/-- A value, at most `depth` arrays and tables deep. -/
def value? (fuel depth : Nat) (cs : List Char) : Option (Toml × List Char) :=
  match fuel with
  | 0 => none
  | fuel + 1 =>
    match cs with
    | '"' :: _ | '\'' :: _ => (Scan.string? cs).map fun (s, rest) => (.string s, rest)
    | 't' :: rest => (Json.Reader.after? "rue".toList rest).map (.boolean true, ·)
    | 'f' :: rest => (Json.Reader.after? "alse".toList rest).map (.boolean false, ·)
    | '[' :: rest =>
      match depth with
      | 0 => none
      | depth + 1 => (items? fuel depth rest).map fun (items, rest) => (.array items, rest)
    | '{' :: rest =>
      match depth with
      | 0 => none
      | depth + 1 => do
        let (pairs, rest) ← inline? fuel depth rest
        let members ← Node.ofAssignments? pairs
        return (.table (Node.toMembers members), rest)
    | _ => number? cs

/-- The items of an array whose opening, or latest comma, is read. -/
def items? (fuel depth : Nat) (cs : List Char) : Option (List Toml × List Char) :=
  match fuel with
  | 0 => none
  | fuel + 1 =>
    match Scan.gap cs.length cs with
    | ']' :: rest => some ([], rest)
    | cs => do
      let (item, rest) ← value? fuel depth cs
      match Scan.gap rest.length rest with
      | ',' :: rest => do
        let (items, rest) ← items? fuel depth rest
        return (item :: items, rest)
      | ']' :: rest => return ([item], rest)
      | _ => none

/-- The keys and values of a table on one line whose opening is read. -/
def inline? (fuel depth : Nat) (cs : List Char) :
    Option (List (List String × Toml) × List Char) :=
  match fuel with
  | 0 => none
  | fuel + 1 =>
    match Scan.blanks cs with
    | '}' :: rest => some ([], rest)
    | cs => pairs? fuel depth cs

/-- The keys and values up to the closing brace, of which there is at least one. -/
def pairs? (fuel depth : Nat) (cs : List Char) :
    Option (List (List String × Toml) × List Char) :=
  match fuel with
  | 0 => none
  | fuel + 1 => do
    let (key, rest) ← Scan.key? cs
    let rest ← Json.Reader.after? ['='] rest
    let (value, rest) ← value? fuel depth (Scan.blanks rest)
    match Scan.blanks rest with
    | ',' :: rest => do
      let (pairs, rest) ← pairs? fuel depth rest
      return ((key, value) :: pairs, rest)
    | '}' :: rest => return ([(key, value)], rest)
    | _ => none

end

/-- How many arrays and tables of one line may stand inside each other. -/
def depthLimit : Nat := 79

/-- A statement, whose blanks before it are read. -/
def statement? (cs : List Char) : Option (Statement × List Char) :=
  match cs with
  | '[' :: '[' :: rest => do
    let (key, rest) ← Scan.key? rest
    let rest ← Json.Reader.after? [']', ']'] rest
    return (.further key, rest)
  | '[' :: rest => do
    let (key, rest) ← Scan.key? rest
    let rest ← Json.Reader.after? [']'] rest
    return (.table key, rest)
  | cs => do
    let (key, rest) ← Scan.key? cs
    let rest ← Json.Reader.after? ['='] rest
    let (value, rest) ← value? (3 * cs.length + 1) depthLimit (Scan.blanks rest)
    return (.assign key value, rest)

/-- The statements of the lines, each of which has at most one, given at most `fuel` lines. -/
def statements? (fuel : Nat) (cs : List Char) : Option (List Statement) :=
  match fuel with
  | 0 => none
  | fuel + 1 => do
    let cs := Scan.blanks cs
    let (statement, cs) ← match cs with
      | [] | '#' :: _ | '\n' :: _ | '\r' :: _ => some (none, cs)
      | cs => (statement? cs).map fun (statement, rest) => (some statement, rest)
    let rest := Scan.afterComment (Scan.blanks cs)
    if rest.isEmpty then return statement.toList
    else
      let rest ← Scan.newline? rest
      let statements ← statements? fuel rest
      return statement.toList ++ statements

end Reader

/-- The table that a text denotes; a byte order mark before it is passed over. -/
def ofText? (text : String) : Option Toml :=
  let cs := match text.toList with
    | c :: rest => if c.toNat = 0xFEFF then rest else c :: rest
    | [] => []
  (Reader.statements? (cs.length + 1) cs).bind Document.ofStatements?

end CatalogSearch.Toml
