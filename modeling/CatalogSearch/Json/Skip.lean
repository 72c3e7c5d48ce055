/-
**Passing over JSON text.**

What nobody asks for is not read but passed over. It must have the form of a value, yet its numbers may
have any size, its escapes need not make characters, and it may be nested without a limit.

* `Json.Skip.value?` — the characters behind a value.
-/

import CatalogSearch.Json.Reader

namespace CatalogSearch.Json.Skip

/-- The characters behind the rest of a string whose opening quote is read. -/
def string? : List Char → Option (List Char)
  | [] => none
  | '"' :: rest => some rest
  | '\\' :: 'u' :: a :: b :: c :: d :: rest =>
    if [a, b, c, d].all fun digit => (Reader.hexValue? digit).isSome then string? rest else none
  | '\\' :: e :: rest => if (Reader.shortEscape? e).isSome then string? rest else none
  | c :: rest => if c = '\\' ∨ c.toNat < 0x20 then none else string? rest

/-- The characters behind a number. -/
def number? (cs : List Char) : Option (List Char) := do
  let (_, rest) ← Reader.wholeDigits? <| match cs with
    | '-' :: rest => rest
    | cs => cs
  let (_, rest) ← Reader.fractionDigits? rest
  let (_, _, rest) ← Reader.exponentPart? rest
  return rest

/-- The characters behind a name and its colon. -/
def name? (cs : List Char) : Option (List Char) := do
  let rest ← Reader.after? ['"'] (Reader.afterBlanks cs)
  let rest ← string? rest
  Reader.after? [':'] (Reader.afterBlanks rest)

mutual

/-- The characters behind a value. -/
def value? (fuel : Nat) (cs : List Char) : Option (List Char) :=
  match fuel with
  | 0 => none
  | fuel + 1 =>
    match Reader.afterBlanks cs with
    | 'n' :: rest => Reader.after? "ull".toList rest
    | 't' :: rest => Reader.after? "rue".toList rest
    | 'f' :: rest => Reader.after? "alse".toList rest
    | '"' :: rest => string? rest
    | '[' :: rest =>
      match Reader.afterBlanks rest with
      | ']' :: rest => some rest
      | rest => (value? fuel rest).bind (items? fuel)
    | '{' :: rest =>
      match Reader.afterBlanks rest with
      | '}' :: rest => some rest
      | rest => ((name? rest).bind (value? fuel)).bind (members? fuel)
    | cs => number? cs

/-- The characters behind the items that follow a first one, and behind the closing bracket. -/
def items? (fuel : Nat) (cs : List Char) : Option (List Char) :=
  match fuel with
  | 0 => none
  | fuel + 1 =>
    match Reader.afterBlanks cs with
    | ']' :: rest => some rest
    | ',' :: rest => (value? fuel rest).bind (items? fuel)
    | _ => none

/-- The characters behind the members that follow a first one, and behind the closing brace. -/
def members? (fuel : Nat) (cs : List Char) : Option (List Char) :=
  match fuel with
  | 0 => none
  | fuel + 1 =>
    match Reader.afterBlanks cs with
    | '}' :: rest => some rest
    | ',' :: rest => ((name? rest).bind (value? fuel)).bind (members? fuel)
    | _ => none

end

/-- The values under one name among the members behind an opening brace, and what is left; all others
are passed over. -/
def valuesUnder? (precision : Reader.Precision) (name : String) (fuel : Nat) (cs : List Char) :
    Option (List Json × List Char) :=
  match fuel with
  | 0 => none
  | fuel + 1 => do
    let rest ← Reader.after? ['"'] (Reader.afterBlanks cs)
    let (key, rest) ← Reader.string? rest
    let rest ← Reader.after? [':'] (Reader.afterBlanks rest)
    let (found, rest) ←
      if key = name then
        (Reader.value? precision (2 * rest.length + 1) (depthLimit - 1) rest).map fun (value, rest) =>
          ([value], rest)
      else (value? (2 * rest.length + 1) rest).map fun rest => ([], rest)
    match Reader.afterBlanks rest with
    | '}' :: rest => return (found, rest)
    | ',' :: rest => do
      let (values, rest) ← valuesUnder? precision name fuel rest
      return (found ++ values, rest)
    | _ => none

/-- The values as they are written under one name of an object's text. -/
def written? (precision : Reader.Precision) (name : String) (cs : List Char) : Option (List Json) := do
  let rest ← Reader.after? ['{'] (Reader.afterBlanks cs)
  let (values, rest) ← match Reader.afterBlanks rest with
    | '}' :: rest => some ([], rest)
    | rest => valuesUnder? precision name (rest.length + 1) rest
  if (Reader.afterBlanks rest).isEmpty then some values else none

end CatalogSearch.Json.Skip
