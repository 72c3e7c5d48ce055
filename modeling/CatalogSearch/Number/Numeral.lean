/-
**Numbers written in text.**

* `Numeral.read?` — the decimal numeral of a text: a sign, digits with or without a point, and an
  exponent, between blanks;
* `Numeral.signed?` — the integer of a signed word that a text gives;
* `Numeral.natural?` — the natural of an unsigned word that a text gives.
-/

import CatalogSearch.Number.Basic
import CatalogSearch.Text.Basic

namespace CatalogSearch.Numeral

/-- A sign, if there is one, and whether it is a minus. -/
def sign : List Char → Bool × List Char
  | '-' :: rest => (true, rest)
  | '+' :: rest => (false, rest)
  | cs => (false, cs)

/-- The digits at the start, and what follows. -/
def digits (cs : List Char) : List Char × List Char :=
  (cs.takeWhile Char.isDigit, cs.dropWhile Char.isDigit)

/-- The power of ten behind the letter E, to the end of the text. -/
def exponent? : List Char → Option Int
  | [] => some 0
  | e :: rest =>
    if e = 'e' ∨ e = 'E' then
      let (negative, ds) := sign rest
      if ds.all Char.isDigit then
        (Text.natOfDigits? ds).map fun n => if negative then -(n : Int) else n
      else none
    else none

/-- The digits before and behind a point, of which there is at least one, and what follows. -/
def mantissa? (cs : List Char) : Option (List Char × List Char × List Char) :=
  match digits cs with
  | (whole, '.' :: rest) =>
    let (fraction, rest) := digits rest
    if whole.isEmpty && fraction.isEmpty then none else some (whole, fraction, rest)
  | (whole, rest) => if whole.isEmpty then none else some (whole, [], rest)

/-- The numeral that trimmed characters write. -/
def ofTrimmed? (cs : List Char) : Option Decimal := do
  let (negative, cs) := sign cs
  let (whole, fraction, rest) ← mantissa? cs
  let power ← exponent? rest
  let coefficient ← Text.natOfDigits? (whole ++ fraction)
  return ⟨negative, coefficient, power - fraction.length⟩

/-- The numeral that a text writes. -/
def read? (s : String) : Option Decimal := ofTrimmed? (Text.trim s.toList)

/-- The integer that a text writes: digits behind at most one sign, within a signed word. -/
def signed? (s : String) : Option WordInt :=
  let (negative, ds) := sign (Text.trim s.toList)
  (Text.natOfDigits? ds).bind fun n => WordInt.ofSigned? (if negative then -(n : Int) else n)

/-- The natural that a text writes: digits behind at most a plus, within an unsigned word. -/
def natural? (s : String) : Option Nat :=
  let cs := Text.trim s.toList
  let ds := match cs with
    | '+' :: rest => rest
    | cs => cs
  (Text.natOfDigits? ds).bind fun n => (WordInt.ofInt? n).bind WordInt.toNat?

end CatalogSearch.Numeral
