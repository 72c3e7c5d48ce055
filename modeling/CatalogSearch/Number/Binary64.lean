/-
**Finite double-precision numbers.**

A number is its sign and the 63 bits of its magnitude, so equal numbers are equal values and every
operation computes on naturals.

* `significand`, `exponent` — the magnitude as `significand * 2 ^ exponent`;
* `ofRatio?` — the nearest number to a ratio, `none` past the largest finite one;
* `order` — the signed magnitude, by which numbers compare (both zeros are 0);
* `truncate` — the integer part;
* `roundSingle` — the nearest number of single precision.
-/

import CatalogSearch.Number.Rounding

namespace CatalogSearch

/-- A finite double: the sign and the exponent and fraction bits of its magnitude. -/
structure Binary64 where
  negative : Bool
  /-- Exponent and fraction, the exponent in the higher bits. -/
  magnitude : Nat
  /-- The exponent is not the one kept for infinities. -/
  finite : magnitude < 0x7FF0000000000000
deriving DecidableEq, Repr

namespace Binary64

/-- Zero of the given sign. -/
def zero (negative : Bool) : Binary64 := ⟨negative, 0, by decide⟩

/-- The stored exponent. -/
def storedExponent (x : Binary64) : Nat := x.magnitude / twoTo 52

/-- The whole-number factor of the magnitude; a subnormal has no hidden digit. -/
def significand (x : Binary64) : Nat :=
  if x.storedExponent = 0 then x.magnitude else twoTo 52 + x.magnitude % twoTo 52

/-- The power of two that scales the significand. -/
def exponent (x : Binary64) : Int := (max x.storedExponent 1 : Nat) - 1075

/-- The nearest number to `num / den` with the given sign, if that is finite. -/
def ofRatio? (negative : Bool) (num den : Nat) : Option Binary64 :=
  let (n, q) := Rounding.roundTo 53 (-1074) num den
  let magnitude := (q + 1074).toNat * twoTo 52 + n
  if finite : magnitude < 0x7FF0000000000000 then some ⟨negative, magnitude, finite⟩ else none

/-- The nearest number to an integer; integers of at most 64 bits never overflow. -/
def ofInt (n : Int) : Binary64 := (ofRatio? (n < 0) n.natAbs 1).getD (zero (n < 0))

/-- The signed magnitude: numbers compare as these integers do, and both zeros are 0. -/
def order (x : Binary64) : Int := if x.negative then -(x.magnitude : Int) else x.magnitude

/-- Whether the number is one of the two zeros. -/
def isZero (x : Binary64) : Bool := x.magnitude = 0

/-- The magnitude without its fraction. -/
def wholePart (x : Binary64) : Nat :=
  x.significand * twoTo x.exponent.toNat / twoTo (-x.exponent).toNat

/-- Whether the number has no fraction. -/
def isWhole (x : Binary64) : Bool :=
  x.significand * twoTo x.exponent.toNat % twoTo (-x.exponent).toNat = 0

/-- The number with its fraction dropped. -/
def truncate (x : Binary64) : Int := if x.negative then -(x.wholePart : Int) else x.wholePart

/-- The number with the sign changed. -/
def negate (x : Binary64) : Binary64 := { x with negative := !x.negative }

/-- The nearest single-precision number to `num / den` with the given sign, if that is finite. -/
def ofRatioSingle? (negative : Bool) (num den : Nat) : Option Binary64 :=
  let (n, q) := Rounding.roundTo 24 (-149) num den
  if n * twoTo q.toNat < twoTo 128 * twoTo (-q).toNat then
    ofRatio? negative (n * twoTo q.toNat) (twoTo (-q).toNat)
  else none

/-- The nearest single-precision number to a double, if that is finite. -/
def roundSingle? (x : Binary64) : Option Binary64 :=
  ofRatioSingle? x.negative (x.significand * twoTo x.exponent.toNat) (twoTo (-x.exponent).toNat)

end Binary64
end CatalogSearch
