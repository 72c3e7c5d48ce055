/-
**The compact text of a JSON value.**

* `Json.compact` — members in order, no blanks; in texts only the quote, the backslash and control
  characters are escaped.
-/

import CatalogSearch.Json.Basic

namespace CatalogSearch.Json

/-- The four hexadecimal digits of a code unit. -/
def hex4 (n : Nat) : List Char :=
  [4096, 256, 16, 1].map fun unit => Nat.digitChar (n / unit % 16)

/-- A character inside a JSON text. -/
def escapedChar (c : Char) : List Char :=
  if c = '"' then ['\\', '"']
  else if c = '\\' then ['\\', '\\']
  else if c = '\n' then ['\\', 'n']
  else if c = '\r' then ['\\', 'r']
  else if c = '\t' then ['\\', 't']
  else if c.toNat = 8 then ['\\', 'b']
  else if c.toNat = 12 then ['\\', 'f']
  else if c.toNat < 0x20 then '\\' :: 'u' :: hex4 c.toNat
  else [c]

/-- A text between quotes. -/
def compactText (s : String) : String := String.ofList ('"' :: s.toList.flatMap escapedChar ++ ['"'])

mutual

/-- The text of a value. -/
def compact : Json → String
  | .null => "null"
  | .bool true => "true"
  | .bool false => "false"
  | .number n => n.text
  | .string s => compactText s
  | .array items => "[" ++ compactItems items ++ "]"
  | .object members => "\x7b" ++ compactMembers members ++ "\x7d"

/-- Values with commas between them. -/
def compactItems : List Json → String
  | [] => ""
  | [value] => compact value
  | value :: rest => compact value ++ "," ++ compactItems rest

/-- Members with commas between them. -/
def compactMembers : List (String × Json) → String
  | [] => ""
  | [(name, value)] => compactText name ++ ":" ++ compact value
  | (name, value) :: rest => compactText name ++ ":" ++ compact value ++ "," ++ compactMembers rest

end

end CatalogSearch.Json
