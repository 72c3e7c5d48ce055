/-
**Rounding a quotient to a fixed number of binary digits.**

* `twoTo`, `tenTo` — powers of two and of ten;
* `roundQuotient` — the nearest natural to `num / den`, a half going to the even neighbour;
* `leadingExponent` — the exponent of the leading binary digit of `num / den`;
* `roundTo` — the nearest multiple of a power of two that keeps a given number of binary digits,
  where no power below `lowest` is used (gradual underflow).
-/

namespace CatalogSearch

/-- A power of two. -/
abbrev twoTo (n : Nat) : Nat := Nat.pow 2 n

/-- A power of ten. -/
abbrev tenTo (n : Nat) : Nat := Nat.pow 10 n

namespace Rounding

/-- The natural nearest to `num / den`; a half goes to the even neighbour. -/
def roundQuotient (num den : Nat) : Nat :=
  let quotient := num / den
  let rest := num % den
  if 2 * rest < den then quotient
  else if den < 2 * rest then quotient + 1
  else quotient + quotient % 2

/-- The `e` with `2 ^ e ≤ num / den < 2 ^ (e + 1)`, for positive `num` and `den`. -/
def leadingExponent (num den : Nat) : Int :=
  let guess : Int := (num.log2 : Int) - (den.log2 : Int)
  if den * twoTo guess.toNat ≤ num * twoTo (-guess).toNat then guess else guess - 1

/-- The value `num / den` as `n * 2 ^ q`, rounded to `digits` binary digits, with `lowest ≤ q`. -/
def roundTo (digits : Nat) (lowest : Int) (num den : Nat) : Nat × Int :=
  if num = 0 then (0, lowest) else
    let q := max lowest (leadingExponent num den - ((digits : Int) - 1))
    (roundQuotient (num * twoTo (-q).toNat) (den * twoTo q.toNat), q)

end Rounding
end CatalogSearch
