/-
**Numbers of a document.**

An integer and a double are different numbers even where their values agree: `1` is not `1.0`.

* `WordInt` — the integers that a signed or an unsigned 64-bit word holds;
* `Number` — an integer or a finite double;
* `Number.order` — the double by which a number is compared;
* `Number.text` — its decimal text.
-/

import CatalogSearch.Number.Decimal

namespace CatalogSearch

/-- An integer that a signed or an unsigned 64-bit word holds. -/
structure WordInt where
  val : Int
  lower : -9223372036854775808 ≤ val := by decide
  upper : val < 18446744073709551616 := by decide
deriving DecidableEq, Repr

namespace WordInt

/-- The integer, if a word holds it. -/
def ofInt? (n : Int) : Option WordInt :=
  if fits : -9223372036854775808 ≤ n ∧ n < 18446744073709551616 then some ⟨n, fits.1, fits.2⟩ else none

/-- The integer, if a signed word holds it. -/
def ofSigned? (n : Int) : Option WordInt :=
  if n < 9223372036854775808 then ofInt? n else none

/-- The signed word nearest to an integer. -/
def clampSigned (n : Int) : WordInt :=
  ⟨max (-9223372036854775808) (min n 9223372036854775807), Int.le_max_left .., by omega⟩

/-- The least signed word. -/
def leastSigned : WordInt := ⟨-9223372036854775808, by decide, by decide⟩

/-- The greatest signed word. -/
def greatestSigned : WordInt := ⟨9223372036854775807, by decide, by decide⟩

/-- The natural, if an unsigned word holds it. -/
def toNat? (n : WordInt) : Option Nat := n.val.toNat?

end WordInt

/-- A number of a document. -/
inductive Number where
  | int (value : WordInt)
  | float (value : Binary64)
deriving DecidableEq, Repr

namespace Number

/-- The number zero as an integer. -/
def zero : Number := .int ⟨0, by decide, by decide⟩

/-- The double nearest to a number. -/
def toBinary64 : Number → Binary64
  | .int n => .ofInt n.val
  | .float x => x

/-- The natural, if the number is one of an unsigned word. -/
def toNat? : Number → Option Nat
  | .int n => n.toNat?
  | .float _ => none

/-- The place of a number among doubles, by which two numbers compare. -/
def order (n : Number) : Int := n.toBinary64.order

/-- Whether the number counts as zero. -/
def isZero (n : Number) : Bool := n.toBinary64.isZero

/-- The decimal text. -/
def text : Number → String
  | .int n => toString n.val
  | .float x => x.text

end Number
end CatalogSearch
