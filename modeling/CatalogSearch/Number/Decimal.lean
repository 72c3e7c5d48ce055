/-
**Decimal numerals and the text of a double.**

* `Decimal` — a sign, a coefficient and a power of ten;
* `Decimal.toBinary64?` — the nearest double, `none` when it overflows;
* `shortest` — the fewest decimal digits that read back as the same double, and of those the
  nearest to it, a tie going to the even digit;
* `DecimalLayout` — where positional notation begins and ends; `Binary64.text` writes a double in
  the layout `standard`.
-/

import CatalogSearch.Number.Binary64

namespace CatalogSearch

/-- How many decimal digits a natural has; zero has one. -/
def decimalLength (n : Nat) : Nat := (Nat.toDigits 10 n).length

/-- The numeral `± coefficient * 10 ^ exponent`. -/
structure Decimal where
  /-- The sign, which zero keeps. -/
  negative : Bool
  coefficient : Nat
  exponent : Int
deriving DecidableEq, Repr

namespace Decimal

/-- The nearest double to a numeral, if that is finite.

A numeral that is at least `10 ^ 310` overflows and one below `10 ^ -330` is nearest to zero, so
that no larger power of ten is computed. -/
def toBinary64? (d : Decimal) : Option Binary64 :=
  if d.coefficient = 0 then some (.zero d.negative) else
    let top := d.exponent + decimalLength d.coefficient
    if 310 < top then none
    else if top < -330 then some (.zero d.negative)
    else Binary64.ofRatio? d.negative (d.coefficient * tenTo d.exponent.toNat)
      (tenTo (-d.exponent).toNat)

/-- The same value with no zero at the end of the coefficient, given at most `fuel` such zeros. -/
def strip : Nat → Decimal → Decimal
  | 0, d => d
  | fuel + 1, d =>
    if d.coefficient ≠ 0 ∧ d.coefficient % 10 = 0 then
      strip fuel { d with coefficient := d.coefficient / 10, exponent := d.exponent + 1 }
    else d

end Decimal

namespace Binary64

/-- The `e` with `10 ^ e ≤ num / den < 10 ^ (e + 1)`, for positive `num` and `den`. -/
def leadingPower (num den : Nat) : Int :=
  if den ≤ num then decimalLength (num / den) - 1
  else
    let count := decimalLength (den / num)
    if den ≤ num * tenTo (count - 1) then -((count : Int) - 1) else -(count : Int)

/-- The doubles that round to `x` lie between `low` and `high`, in quarters of a unit of its last
place; the ends belong to them when the significand is even. -/
structure Neighbourhood where
  low : Nat
  middle : Nat
  high : Nat
  /-- Whether the ends round to the number. -/
  closed : Bool
  /-- The power of two of a quarter unit. -/
  scale : Int

/-- The neighbourhood of a number; below a power of two the next number is only half as far. -/
def neighbourhood (x : Binary64) : Neighbourhood :=
  let m := x.significand
  { low := if m = twoTo 52 ∧ 1 < x.storedExponent then 4 * m - 1 else 4 * m - 2
    middle := 4 * m
    high := 4 * m + 2
    closed := m % 2 = 0
    scale := x.exponent - 2 }

/-- Whether `c * 10 ^ p` rounds to the number of this neighbourhood. -/
def Neighbourhood.covers (n : Neighbourhood) (c : Nat) (p : Int) : Bool :=
  let point := c * tenTo p.toNat * twoTo (-n.scale).toNat
  let unit := tenTo (-p).toNat * twoTo n.scale.toNat
  if n.closed then n.low * unit ≤ point ∧ point ≤ n.high * unit
  else n.low * unit < point ∧ point < n.high * unit

/-- The coefficient nearest to the number among multiples of `10 ^ p` that round to it. -/
def Neighbourhood.onGrid? (n : Neighbourhood) (p : Int) : Option Nat :=
  let num := n.middle * twoTo n.scale.toNat * tenTo (-p).toNat
  let den := twoTo (-n.scale).toNat * tenTo p.toNat
  let below := num / den
  match n.covers below p, n.covers (below + 1) p with
  | false, false => none
  | true, false => some below
  | false, true => some (below + 1)
  | true, true => some (Rounding.roundQuotient num den)

/-- The numeral with the fewest digits that reads back as `x`, nearest to `x` among those. -/
def shortest (x : Binary64) : Decimal :=
  if x.magnitude = 0 then ⟨x.negative, 0, 0⟩ else
    let n := x.neighbourhood
    let top := leadingPower (n.middle * twoTo n.scale.toNat) (twoTo (-n.scale).toNat)
    let found := (List.range 17).findSome? fun (digits : Nat) =>
      let p := top - (digits : Int)
      (n.onGrid? p).map fun c => (c, p)
    match found with
    | some (c, p) => Decimal.strip 18 ⟨x.negative, c, p⟩
    | none => ⟨x.negative, 0, 0⟩

end Binary64

/-- Where positional notation is used, by the power of ten of the leading digit. -/
structure DecimalLayout where
  positionalFrom : Int
  positionalBelow : Int

namespace DecimalLayout

/-- Positional from `0.00001` up to sixteen digits before the point. -/
def standard : DecimalLayout := ⟨-5, 16⟩

/-- The digits with a point after the first `whole` of them, padded with zeros on either side. -/
def positional (digits : List Char) (whole : Int) : List Char :=
  if whole ≤ 0 then
    '0' :: '.' :: List.replicate (-whole).toNat '0' ++ digits
  else
    let places := whole.toNat
    let padded := digits ++ List.replicate (places - digits.length) '0'
    let fraction := padded.drop places
    padded.take places ++ '.' :: (if fraction.isEmpty then ['0'] else fraction)

/-- One digit, the other digits after a point, and the power of ten with its sign. -/
def scientific (digits : List Char) (power : Int) : List Char :=
  let rest := digits.drop 1
  digits.take 1 ++ (if rest.isEmpty then [] else '.' :: rest) ++
    'e' :: (if power < 0 then '-' else '+') :: Nat.toDigits 10 power.natAbs

/-- The text of a numeral: always with a point or an exponent. -/
def write (layout : DecimalLayout) (d : Decimal) : String :=
  let digits := Nat.toDigits 10 d.coefficient
  let power := d.exponent + digits.length - 1
  let unsigned :=
    if d.coefficient = 0 ∨ (layout.positionalFrom ≤ power ∧ power < layout.positionalBelow) then
      positional digits (power + 1)
    else scientific digits power
  String.ofList (if d.negative then '-' :: unsigned else unsigned)

end DecimalLayout

/-- The text of a double: its shortest numeral in the standard layout. -/
def Binary64.text (x : Binary64) : String := DecimalLayout.standard.write x.shortest

end CatalogSearch
