/-
**Reading JSON text.**

The text is read strictly: no blanks but space, tabulator and line ends, no control character in a
string, surrogates only in pairs, no number past the largest double, and fewer than 128 arrays and
objects inside each other.

* `Reader.Literal`, `Reader.Precision` — a number as it is written, and the double that is taken for it;
* `Json.written?` — the value a whole text denotes, with every member as it is written;
* `Json.ofText?` — the same where a repeated name keeps its first place and takes its last value.

A reader takes the characters and answers with what is left of them. Each step of a value consumes
a character, so the number of characters bounds the steps. How close a double comes to the numeral that
it is read from is the reader's choice: `Reader.nearest` takes the nearest one, a faster reader may be
off by the last place.
-/

import CatalogSearch.Json.Basic
import CatalogSearch.Text.Basic

namespace CatalogSearch.Json

namespace Reader

/-- The characters behind the blanks at the start. -/
def afterBlanks (cs : List Char) : List Char :=
  cs.dropWhile fun c => c = ' ' || c = '\t' || c = '\n' || c = '\r'

/-- The characters behind a given start. -/
def after? (start cs : List Char) : Option (List Char) :=
  match start, cs with
  | [], rest => some rest
  | _ :: _, [] => none
  | s :: start, c :: rest => if s = c then after? start rest else none

/-- The value of a hexadecimal digit. -/
def hexValue? (c : Char) : Option Nat :=
  if '0' ≤ c ∧ c ≤ '9' then some (c.toNat - '0'.toNat)
  else if 'a' ≤ c ∧ c ≤ 'f' then some (c.toNat - 'a'.toNat + 10)
  else if 'A' ≤ c ∧ c ≤ 'F' then some (c.toNat - 'A'.toNat + 10)
  else none

/-- Four hexadecimal digits. -/
def codeUnit? : List Char → Option (Nat × List Char)
  | a :: b :: c :: d :: rest => do
    let a ← hexValue? a
    let b ← hexValue? b
    let c ← hexValue? c
    let d ← hexValue? d
    return (((a * 16 + b) * 16 + c) * 16 + d, rest)
  | _ => none

/-- The character of a one-letter escape. -/
def shortEscape? : Char → Option Char
  | '"' => some '"'
  | '\\' => some '\\'
  | '/' => some '/'
  | 'b' => some (Char.ofNat 8)
  | 'f' => some (Char.ofNat 12)
  | 'n' => some '\n'
  | 'r' => some '\r'
  | 't' => some '\t'
  | _ => none

/-- The character of an escape by code unit, whose `u` is read: a high surrogate must be followed by
an escaped low one. -/
def unicodeEscape? (cs : List Char) : Option (Char × List Char) := do
  let (high, rest) ← codeUnit? cs
  if 0xDC00 ≤ high ∧ high ≤ 0xDFFF then none
  else if 0xD800 ≤ high ∧ high ≤ 0xDBFF then
    let rest ← after? ['\\', 'u'] rest
    let (low, rest) ← codeUnit? rest
    if 0xDC00 ≤ low ∧ low ≤ 0xDFFF then
      return (Char.ofNat (0x10000 + (high - 0xD800) * 0x400 + (low - 0xDC00)), rest)
    else none
  else return (Char.ofNat high, rest)

/-- The rest of a string whose opening quote is read, behind the characters `done` in reverse. -/
def stringRest? (fuel : Nat) (done : List Char) (cs : List Char) : Option (String × List Char) :=
  match fuel, cs with
  | 0, _ | _, [] => none
  | _, '"' :: rest => some (String.ofList done.reverse, rest)
  | fuel + 1, '\\' :: 'u' :: rest => do
    let (c, rest) ← unicodeEscape? rest
    stringRest? fuel (c :: done) rest
  | fuel + 1, '\\' :: e :: rest => do
    let c ← shortEscape? e
    stringRest? fuel (c :: done) rest
  | _, ['\\'] => none
  | fuel + 1, c :: rest => if c.toNat < 0x20 then none else stringRest? fuel (c :: done) rest

/-- A string whose opening quote is read. -/
def string? (cs : List Char) : Option (String × List Char) := stringRest? (cs.length + 1) [] cs

/-- The digits at the start. -/
def digits (cs : List Char) : List Char × List Char := cs.span Char.isDigit

/-- The whole part of a number: a zero alone, or digits that start with another one. -/
def wholeDigits? : List Char → Option (List Char × List Char)
  | '0' :: rest => if (digits rest).1.isEmpty then some (['0'], rest) else none
  | cs => if (digits cs).1.isEmpty then none else some (digits cs)

/-- The digits behind a point, if there is one. -/
def fractionDigits? : List Char → Option (List Char × List Char)
  | '.' :: rest => if (digits rest).1.isEmpty then none else some (digits rest)
  | cs => some ([], cs)

/-- An exponent, if there is one, and whether there is. -/
def exponentPart? : List Char → Option (Int × Bool × List Char)
  | e :: rest =>
    if e = 'e' ∨ e = 'E' then
      let (negative, rest) := match rest with
        | '-' :: rest => (true, rest)
        | '+' :: rest => (false, rest)
        | rest => (false, rest)
      let (ds, rest) := digits rest
      (Text.natOfDigits? ds).map fun n => (if negative then -(n : Int) else n, true, rest)
    else some (0, false, e :: rest)
  | [] => some (0, false, [])

/-- A number as it is written. -/
structure Literal where
  negative : Bool
  whole : List Char
  fraction : List Char
  /-- The exponent; without one it is zero. -/
  power : Int
deriving DecidableEq, Repr

/-- The double that a reader takes for a number, if there is one within its range. -/
abbrev Precision := Literal → Option Binary64

/-- The nearest double. -/
def nearest : Precision := fun literal =>
  (Text.natOfDigits? (literal.whole ++ literal.fraction)).bind fun coefficient =>
    Decimal.toBinary64? ⟨literal.negative, coefficient, literal.power - literal.fraction.length⟩

/-- The integer that is written, if it is one and a word holds it. Minus zero is none. -/
def Literal.integer? (literal : Literal) : Option WordInt :=
  if literal.fraction.isEmpty then
    match literal.negative, Text.natOfDigits? literal.whole with
    | _, none | true, some 0 => none
    | true, some n => WordInt.ofInt? (-(n : Int))
    | false, some n => WordInt.ofInt? n
  else none

section Values

variable (precision : Precision)

/-- A number: the integer that is written, if there is one and it has no exponent, else a double. -/
def number? (cs : List Char) : Option (Number × List Char) := do
  let (negative, cs) := match cs with
    | '-' :: rest => (true, rest)
    | cs => (false, cs)
  let (whole, cs) ← wholeDigits? cs
  let (fraction, rest) ← fractionDigits? cs
  let (power, scaled, rest) ← exponentPart? rest
  let literal : Literal := ⟨negative, whole, fraction, power⟩
  match if scaled then none else literal.integer? with
  | some n => return (.int n, rest)
  | none => (precision literal).map fun x => (.float x, rest)

mutual

/-- A value, at most `depth` arrays and objects deep. -/
def value? (fuel depth : Nat) (cs : List Char) : Option (Json × List Char) :=
  match fuel with
  | 0 => none
  | fuel + 1 =>
    match afterBlanks cs with
    | 'n' :: rest => (after? "ull".toList rest).map (.null, ·)
    | 't' :: rest => (after? "rue".toList rest).map (.bool true, ·)
    | 'f' :: rest => (after? "alse".toList rest).map (.bool false, ·)
    | '"' :: rest => (string? rest).map fun (s, rest) => (.string s, rest)
    | '[' :: rest =>
      match depth with
      | 0 => none
      | depth + 1 =>
        match afterBlanks rest with
        | ']' :: rest => some (.array [], rest)
        | rest => do
          let (first, rest) ← value? fuel depth rest
          let (items, rest) ← items? fuel depth rest
          return (.array (first :: items), rest)
    | '{' :: rest =>
      match depth with
      | 0 => none
      | depth + 1 =>
        match afterBlanks rest with
        | '}' :: rest => some (.object [], rest)
        | rest => do
          let (first, rest) ← member? fuel depth rest
          let (members, rest) ← members? fuel depth rest
          return (.object (first :: members), rest)
    | cs => (number? precision cs).map fun (n, rest) => (.number n, rest)

/-- The items behind the first one, and the closing bracket. -/
def items? (fuel depth : Nat) (cs : List Char) : Option (List Json × List Char) :=
  match fuel with
  | 0 => none
  | fuel + 1 =>
    match afterBlanks cs with
    | ']' :: rest => some ([], rest)
    | ',' :: rest => do
      let (item, rest) ← value? fuel depth rest
      let (items, rest) ← items? fuel depth rest
      return (item :: items, rest)
    | _ => none

/-- A name, a colon and a value. -/
def member? (fuel depth : Nat) (cs : List Char) : Option ((String × Json) × List Char) :=
  match fuel with
  | 0 => none
  | fuel + 1 => do
    let rest ← after? ['"'] (afterBlanks cs)
    let (name, rest) ← string? rest
    let rest ← after? [':'] (afterBlanks rest)
    let (value, rest) ← value? fuel depth rest
    return ((name, value), rest)

/-- The members behind the first one, and the closing brace. -/
def members? (fuel depth : Nat) (cs : List Char) : Option (List (String × Json) × List Char) :=
  match fuel with
  | 0 => none
  | fuel + 1 =>
    match afterBlanks cs with
    | '}' :: rest => some ([], rest)
    | ',' :: rest => do
      let (member, rest) ← member? fuel depth rest
      let (members, rest) ← members? fuel depth rest
      return (member :: members, rest)
    | _ => none

end

end Values

end Reader

mutual

/-- The value in which a repeated name keeps its first place and takes its last value. -/
def merged : Json → Json
  | .array items => .array (mergedItems items)
  | .object members => .object (Members.ofList (mergedMembers members))
  | value => value

/-- Each value merged. -/
def mergedItems : List Json → List Json
  | [] => []
  | value :: rest => merged value :: mergedItems rest

/-- Each member's value merged. -/
def mergedMembers : List (String × Json) → List (String × Json)
  | [] => []
  | (name, value) :: rest => (name, merged value) :: mergedMembers rest

end

/-- How many arrays and objects may stand inside each other. -/
def depthLimit : Nat := 127

/-- The value that characters denote, with members as they are written. -/
def written? (precision : Reader.Precision) (cs : List Char) : Option Json := do
  let (value, rest) ← Reader.value? precision (2 * cs.length + 1) depthLimit cs
  if (Reader.afterBlanks rest).isEmpty then some value else none

/-- The value that a text denotes. -/
def ofText? (precision : Reader.Precision) (text : String) : Option Json :=
  (written? precision text.toList).map merged

end CatalogSearch.Json
