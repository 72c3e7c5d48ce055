/-
**JSON values.**

Objects keep the order of their members, and integers stay apart from doubles.

* `Json` — the values; `Json.decEq` decides their equality;
* `member?`, `text?`, `members?`, … — the parts of a value, where it has them;
* `isTruthy` — whether a value counts as set.
-/

import CatalogSearch.Json.Members
import CatalogSearch.Number.Basic

namespace CatalogSearch

/-- A JSON value. -/
inductive Json where
  | null
  | bool (value : Bool)
  | number (value : Number)
  | string (value : String)
  | array (items : List Json)
  | object (members : List (String × Json))
deriving Repr, Inhabited

namespace Json

mutual

/-- Equality of values is decidable. -/
def decEq : (a b : Json) → Decidable (a = b)
  | .null, .null => isTrue rfl
  | .bool a, .bool b => decidable_of_iff (a = b) (by simp)
  | .number a, .number b => decidable_of_iff (a = b) (by simp)
  | .string a, .string b => decidable_of_iff (a = b) (by simp)
  | .array a, .array b =>
    haveI := decEqItems a b
    decidable_of_iff (a = b) (by simp)
  | .object a, .object b =>
    haveI := decEqMembers a b
    decidable_of_iff (a = b) (by simp)
  | .null, .bool _ | .null, .number _ | .null, .string _ | .null, .array _ | .null, .object _
  | .bool _, .null | .bool _, .number _ | .bool _, .string _ | .bool _, .array _
  | .bool _, .object _ | .number _, .null | .number _, .bool _ | .number _, .string _
  | .number _, .array _ | .number _, .object _ | .string _, .null | .string _, .bool _
  | .string _, .number _ | .string _, .array _ | .string _, .object _ | .array _, .null
  | .array _, .bool _ | .array _, .number _ | .array _, .string _ | .array _, .object _
  | .object _, .null | .object _, .bool _ | .object _, .number _ | .object _, .string _
  | .object _, .array _ => isFalse (by simp)

/-- Equality of sequences is decidable. -/
def decEqItems : (a b : List Json) → Decidable (a = b)
  | [], [] => isTrue rfl
  | x :: xs, y :: ys =>
    haveI := decEq x y
    haveI := decEqItems xs ys
    decidable_of_iff (x = y ∧ xs = ys) (by simp)
  | [], _ :: _ | _ :: _, [] => isFalse (by simp)

/-- Equality of members is decidable. -/
def decEqMembers : (a b : List (String × Json)) → Decidable (a = b)
  | [], [] => isTrue rfl
  | (k, x) :: xs, (l, y) :: ys =>
    haveI := decEq x y
    haveI := decEqMembers xs ys
    decidable_of_iff (k = l ∧ x = y ∧ xs = ys) (by simp [and_assoc])
  | [], _ :: _ | _ :: _, [] => isFalse (by simp)

end

instance : DecidableEq Json := decEq

/-- A natural of an unsigned word as a value; a larger one is written as its nearest double. -/
def ofNat (n : Nat) : Json :=
  match WordInt.ofInt? n with
  | some word => .number (.int word)
  | none => .number (.float (.ofInt n))

/-- The members of an object. -/
def members? : Json → Option (Members Json)
  | .object members => some members
  | _ => none

/-- The items of an array. -/
def items? : Json → Option (List Json)
  | .array items => some items
  | _ => none

/-- The text of a string. -/
def text? : Json → Option String
  | .string s => some s
  | _ => none

/-- The truth value of a boolean. -/
def truth? : Json → Option Bool
  | .bool b => some b
  | _ => none

/-- The natural that a number of an unsigned word denotes. -/
def nat? : Json → Option Nat
  | .number n => n.toNat?
  | _ => none

/-- The value under a name, if this is an object that has it. -/
def member? (value : Json) (name : String) : Option Json :=
  value.members?.bind (·.get? name)

/-- The value that a path of names leads to. -/
def at? (value : Json) : List String → Option Json
  | [] => some value
  | name :: path => (value.member? name).bind (at? · path)

/-- Whether a value counts as set: not null, false, zero, empty, and neither `0` nor `N`. -/
def isTruthy : Json → Bool
  | .null => false
  | .bool b => b
  | .number n => !n.isZero
  | .string s => !(s = "" || s = "0" || s = "N")
  | .array items => !items.isEmpty
  | .object members => !members.isEmpty

end Json
end CatalogSearch
