/-
**The words of TOML text.**

Each reader takes the characters and answers with what it has read and what is left of them.

* `blanks`, `newline?`, `afterComment`, `gap` — what separates words;
* `line?`, `string?` — texts of one line, and of any kind;
* `key?` — dotted keys;
* `integer?`, `afterFloat?`, `afterDateTime?` — integers, and the ends of other numbers and of dates.
-/

import CatalogSearch.Calendar.Rfc3339
import CatalogSearch.Json.Reader

namespace CatalogSearch.Toml.Scan

/-- The characters behind spaces and tabulators. -/
def blanks (cs : List Char) : List Char := cs.dropWhile fun c => c = ' ' || c = '\t'

/-- The characters behind a line end. -/
def newline? : List Char → Option (List Char)
  | '\n' :: rest => some rest
  | '\r' :: '\n' :: rest => some rest
  | _ => none

/-- Whether a character may stand as it is in texts and comments; a tabulator is the only control
allowed. -/
def isPlain (c : Char) : Bool := c = '\t' || (0x20 ≤ c.toNat && c.toNat ≠ 0x7F)

/-- The characters behind a comment, if there is one. -/
def afterComment : List Char → List Char
  | '#' :: rest => rest.dropWhile isPlain
  | cs => cs

/-- The characters behind blanks, comments and line ends; a comment must end with its line. -/
def gap (fuel : Nat) (cs : List Char) : List Char :=
  match fuel with
  | 0 => cs
  | fuel + 1 =>
    let cs := blanks cs
    match newline? (afterComment cs) with
    | some rest => gap fuel rest
    | none => cs

/-- A character given by hexadecimal digits. -/
def codePoint? (width : Nat) (cs : List Char) : Option (Char × List Char) := do
  let digits := cs.take width
  if digits.length < width then none
  else
    let values ← digits.mapM Json.Reader.hexValue?
    let n := values.foldl (fun n d => 16 * n + d) 0
    if n.isValidChar then some (Char.ofNat n, cs.drop width) else none

/-- A character behind a backslash. -/
def escape? : List Char → Option (Char × List Char)
  | 'b' :: rest => some (Char.ofNat 8, rest)
  | 't' :: rest => some ('\t', rest)
  | 'n' :: rest => some ('\n', rest)
  | 'f' :: rest => some (Char.ofNat 12, rest)
  | 'r' :: rest => some ('\r', rest)
  | '"' :: rest => some ('"', rest)
  | '\\' :: rest => some ('\\', rest)
  | 'u' :: rest => codePoint? 4 rest
  | 'U' :: rest => codePoint? 8 rest
  | _ => none

/-- The rest of a text of one line between double quotes, behind the characters `done` in reverse. -/
def basicRest? (fuel : Nat) (done : List Char) (cs : List Char) : Option (String × List Char) :=
  match fuel, cs with
  | 0, _ | _, [] => none
  | _, '"' :: rest => some (String.ofList done.reverse, rest)
  | fuel + 1, '\\' :: rest => do
    let (c, rest) ← escape? rest
    basicRest? fuel (c :: done) rest
  | fuel + 1, c :: rest => if isPlain c then basicRest? fuel (c :: done) rest else none

/-- The rest of a text of one line between single quotes, in which nothing is escaped. -/
def literalRest? (cs : List Char) : Option (String × List Char) :=
  let text := cs.takeWhile fun c => isPlain c && c ≠ '\''
  match cs.drop text.length with
  | '\'' :: rest => some (String.ofList text, rest)
  | _ => none

/-- A text of one line. -/
def line? : List Char → Option (String × List Char)
  | '"' :: rest => basicRest? (rest.length + 1) [] rest
  | '\'' :: rest => literalRest? rest
  | _ => none

/-- The quotes that a run of them at the start of `cs` gives to the text, and what is left, if the run
is long enough to close a text of several lines. Up to two quotes may stand before the closing ones. -/
def closing? (quote : Char) (cs : List Char) : Option (List Char × List Char) :=
  let count := (cs.takeWhile (· = quote)).length
  if count < 3 then none
  else
    let kept := min (count - 3) 2
    some (List.replicate kept quote, cs.drop (kept + 3))

/-- The characters behind blanks and line ends. -/
def afterLines : List Char → List Char
  | ' ' :: rest | '\t' :: rest | '\n' :: rest | '\r' :: '\n' :: rest => afterLines rest
  | cs => cs

/-- The characters behind a backslash at the end of a line: blanks and line ends are passed over. -/
def continued? (cs : List Char) : Option (List Char) := (newline? (blanks cs)).map afterLines

/-- The rest of a text of several lines; only between double quotes is a backslash an escape. -/
def linesRest? (quote : Char) (fuel : Nat) (done : List Char) (cs : List Char) :
    Option (String × List Char) :=
  match fuel with
  | 0 => none
  | fuel + 1 =>
    match closing? quote cs with
    | some (quotes, rest) => some (String.ofList (done.reverse ++ quotes), rest)
    | none =>
      match newline? cs with
      | some rest => linesRest? quote fuel ('\n' :: done) rest
      | none =>
        match cs with
        | [] => none
        | c :: rest =>
          if c = '\\' ∧ quote = '"' then
            match continued? rest with
            | some rest => linesRest? quote fuel done rest
            | none => do
              let (c, rest) ← escape? rest
              linesRest? quote fuel (c :: done) rest
          else if isPlain c then linesRest? quote fuel (c :: done) rest
          else none

/-- A text of several lines whose opening is read; a line end right behind it is left out. -/
def lines? (quote : Char) (cs : List Char) : Option (String × List Char) :=
  let cs := (newline? cs).getD cs
  linesRest? quote (cs.length + 1) [] cs

/-- A text of any kind. -/
def string? (cs : List Char) : Option (String × List Char) :=
  match cs with
  | '"' :: '"' :: '"' :: rest => lines? '"' rest
  | '\'' :: '\'' :: '\'' :: rest => lines? '\'' rest
  | cs => line? cs

/-- Whether a key may hold a character without quotes. -/
def isBare (c : Char) : Bool := c.isAlphanum || c = '-' || c = '_'

/-- One part of a key. -/
def keyPart? (cs : List Char) : Option (String × List Char) :=
  match line? cs with
  | some part => some part
  | none =>
    let name := cs.takeWhile isBare
    if name.isEmpty then none else some (String.ofList name, cs.dropWhile isBare)

/-- The parts of a key, with points and blanks between them, given at most `fuel` of them. -/
def keyParts? (fuel : Nat) (cs : List Char) : Option (List String × List Char) :=
  match fuel with
  | 0 => none
  | fuel + 1 => do
    let (part, rest) ← keyPart? (blanks cs)
    match blanks rest with
    | '.' :: rest => do
      let (parts, rest) ← keyParts? fuel rest
      return (part :: parts, rest)
    | rest => return ([part], rest)

/-- A key of fewer than eighty parts, and the characters behind the blanks that follow it. -/
def key? (cs : List Char) : Option (List String × List Char) := keyParts? 79 cs

/-- Digits with single underscores between them. -/
def underscored (isDigit : Char → Bool) : List Char → List Char × List Char
  | c :: '_' :: d :: rest =>
    if isDigit c && isDigit d then
      let (digits, rest) := underscored isDigit (d :: rest)
      (c :: digits, rest)
    else if isDigit c then ([c], '_' :: d :: rest)
    else ([], c :: '_' :: d :: rest)
  | c :: rest =>
    if isDigit c then
      let (digits, rest) := underscored isDigit rest
      (c :: digits, rest)
    else ([], c :: rest)
  | [] => ([], [])

/-- A sign, if there is one, and whether it is a minus. -/
def sign : List Char → Bool × List Char
  | '-' :: rest => (true, rest)
  | '+' :: rest => (false, rest)
  | cs => (false, cs)

/-- The digits of a whole number, which has no zero before other digits. -/
def whole? (cs : List Char) : Option (List Char × List Char) :=
  match cs with
  | '0' :: rest => some (['0'], rest)
  | cs =>
    let (digits, rest) := underscored Char.isDigit cs
    if digits.isEmpty then none else some (digits, rest)

/-- An integer of a base given by its sign, within a signed word. -/
def based? (base : Nat) (cs : List Char) : Option (Int × List Char) := do
  let isDigit (c : Char) : Bool := (Json.Reader.hexValue? c).any (· < base)
  let (digits, rest) := underscored isDigit cs
  if digits.isEmpty then none
  else
    let values ← digits.mapM Json.Reader.hexValue?
    let n := values.foldl (fun n d => base * n + d) 0
    (WordInt.ofSigned? n).map fun word => (word.val, rest)

/-- An integer within a signed word. -/
def integer? (cs : List Char) : Option (Int × List Char) :=
  match cs with
  | '0' :: 'x' :: rest => based? 16 rest
  | '0' :: 'o' :: rest => based? 8 rest
  | '0' :: 'b' :: rest => based? 2 rest
  | cs => do
    let (negative, cs) := sign cs
    let (digits, rest) ← whole? cs
    let n ← Text.natOfDigits? digits
    let value := if negative then -(n : Int) else n
    (WordInt.ofSigned? value).map fun word => (word.val, rest)

/-- The digits behind a point, if there is one. -/
def fraction? : List Char → Option (Option (List Char) × List Char)
  | '.' :: rest =>
    let (digits, rest) := underscored Char.isDigit rest
    if digits.isEmpty then none else some (some digits, rest)
  | cs => some (none, cs)

/-- The power of ten behind the letter E, if there is one. -/
def power? : List Char → Option (Option Int × List Char)
  | e :: rest =>
    if e = 'e' ∨ e = 'E' then
      let (negative, rest) := sign rest
      let (digits, rest) := underscored Char.isDigit rest
      (Text.natOfDigits? digits).map fun n => (some (if negative then -(n : Int) else n), rest)
    else some (none, e :: rest)
  | [] => some (none, [])

/-- The characters behind a number with a fraction or an exponent, or behind a special number. No
number may exceed the largest double; one below the least may. -/
def afterFloat? (cs : List Char) : Option (List Char) :=
  let (negative, unsigned) := sign cs
  match Json.Reader.after? "inf".toList unsigned, Json.Reader.after? "nan".toList unsigned with
  | some rest, _ | _, some rest => some rest
  | none, none => do
    let (whole, rest) ← whole? unsigned
    let (fraction, rest) ← fraction? rest
    let (power, rest) ← power? rest
    if fraction.isNone && power.isNone then none
    else
      let digits := fraction.getD []
      let coefficient ← Text.natOfDigits? (whole ++ digits)
      let value := Decimal.toBinary64? ⟨negative, coefficient, power.getD 0 - digits.length⟩
      if value.isSome || negative then some rest else none

/-- The characters behind a time of day. -/
def afterTime? (cs : List Char) : Option (List Char) := do
  let (hour, cs) ← Rfc3339.ofWidth? 2 cs
  let cs ← Rfc3339.after? ':' cs
  let (minute, cs) ← Rfc3339.ofWidth? 2 cs
  let cs ← Rfc3339.after? ':' cs
  let (second, cs) ← Rfc3339.ofWidth? 2 cs
  let _ ← Clock.ofParts? hour minute second
  return (Layout.afterFraction? cs).getD cs

/-- The characters behind an offset from universal time, if there is one. -/
def afterOffset (cs : List Char) : List Char :=
  match cs with
  | c :: rest =>
    if c = 'Z' ∨ c = 'z' then rest
    else if c = '+' ∨ c = '-' then (Rfc3339.afterHours? rest).getD cs
    else cs
  | [] => []

/-- The characters behind a date, and behind a time and an offset that follow it. -/
def afterDate? (cs : List Char) : Option (List Char) := do
  let (year, cs) ← Rfc3339.ofWidth? 4 cs
  let cs ← Rfc3339.after? '-' cs
  let (month, cs) ← Rfc3339.ofWidth? 2 cs
  let cs ← Rfc3339.after? '-' cs
  let (day, cs) ← Rfc3339.ofWidth? 2 cs
  let _ ← Date.ofParts? year month day
  match cs with
  | c :: rest =>
    if c = 'T' ∨ c = 't' ∨ c = ' ' then return ((afterTime? rest).map afterOffset).getD cs
    else return cs
  | [] => return []

/-- The characters behind a date, a time, or both. -/
def afterDateTime? (cs : List Char) : Option (List Char) := (afterDate? cs).or (afterTime? cs)

end CatalogSearch.Toml.Scan
