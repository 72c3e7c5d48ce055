/-
**What a ranking script says.**

A script that ranks documents is a text: equations between the size or the value of a field, parameters
and numbers, of which one must hold, and two ranks. It is read as a formula, and the formula is evaluated
from left to right. The value of a field without a value is an error, and so is what follows it.

* `SortReading` — what an engine has of documents and knows of values;
* `RankFormula.read?` — the formula of a text; `RankFormula.rank?` — the rank of a document;
* `ScriptSort.rank?` — the rank that a script gives;
* `rank?_nullRank` — the script that sets empty documents apart gives them zero and all others one, and
  meets no error.
-/

import CatalogSearch.Json.Reader
import CatalogSearch.Sort.Compile

namespace CatalogSearch

/-- What an engine has of documents, each with at most one value in a field, and knows of values. -/
structure SortReading (Document : Type) where
  /-- The value of a document in a field, if it has one. -/
  value? (field : String) (document : Document) : Option Json
  compare (field : String) (a b : Json) : Ordering
  /-- Whether a value of a document equals a parameter. -/
  equals (value parameter : Json) : Bool

/-- What stands on one side of an equation. -/
inductive Operand where
  /-- The number of values in the field that a parameter names. -/
  | size (parameter : String)
  /-- The value in the field that a parameter names. -/
  | value (parameter : String)
  | parameter (name : String)
  | number (n : Nat)
deriving DecidableEq, Repr

/-- A rank by cases: one if an equation holds, another one if none does. -/
structure RankFormula where
  /-- The equations, in the order in which they are tried. -/
  equations : List (Operand × Operand)
  met : Nat
  otherwise : Nat
deriving DecidableEq, Repr

/-! ### Reading a formula -/

/-- The operand that a word denotes. -/
def Operand.ofWord? (word : List Char) : Option Operand :=
  match Json.Reader.after? "doc[params.".toList word with
  | some rest =>
    let name := String.ofList (rest.takeWhile (· ≠ ']'))
    let asked := rest.dropWhile (· ≠ ']')
    if asked = "].size()".toList then some (.size name)
    else if asked = "].value".toList then some (.value name)
    else none
  | none =>
    match Json.Reader.after? "params.".toList word with
    | some name => some (.parameter (String.ofList name))
    | none => (Text.natOfDigits? word).map .number

namespace RankFormula

/-- The formula that a sequence of words denotes: `a == b || … ? met : otherwise`. -/
def ofWords? : List (List Char) → Option RankFormula
  | left :: equal :: right :: sign :: rest => do
    let left ← Operand.ofWord? left
    let right ← Operand.ofWord? right
    if equal ≠ "==".toList then none
    else if sign = "||".toList then
      let formula ← ofWords? rest
      return { formula with equations := (left, right) :: formula.equations }
    else if sign = "?".toList then
      match rest with
      | [met, colon, otherwise] =>
        if colon = ":".toList then
          return ⟨[(left, right)], ← Text.natOfDigits? met, ← Text.natOfDigits? otherwise⟩
        else none
      | _ => none
    else none
  | _ => none

/-- The formula of a text, whose words stand apart. -/
def read? (source : String) : Option RankFormula := ofWords? (source.toList.splitOn ' ')

/-- The text of the empty rank: first the field is asked for, then for its value. -/
theorem read?_emptyRankSource : read? emptyRankSource =
    some ⟨[(.size "field", .number 0), (.value "field", .parameter "empty")], 0, 1⟩ := by
  decide

theorem read?_absentRankSource : read? absentRankSource = some ⟨[(.size "field", .number 0)], 0, 1⟩ := by
  decide

end RankFormula

/-! ### Ranks -/

/-- What an operand amounts to. -/
inductive Amount where
  | count (n : Nat)
  | value (value : Json)

section Ranks

variable {Document : Type} (reading : SortReading Document) (params : Members Json)
  (document : Document)

namespace Operand

/-- What an operand amounts to for a document; the value of a field must be there. -/
def amount? : Operand → Option Amount
  | size name => do
    let field ← (params.get? name).bind Json.text?
    return .count (reading.value? field document).toList.length
  | value name => do
    let field ← (params.get? name).bind Json.text?
    return .value (← reading.value? field document)
  | parameter name => (params.get? name).map .value
  | number n => some (.count n)

end Operand

namespace RankFormula

/-- Whether an equation holds of a document. -/
def holds? (equation : Operand × Operand) : Option Bool := do
  match ← equation.1.amount? reading params document, ← equation.2.amount? reading params document with
  | .count m, .count n => return m = n
  | .value a, .value b => return reading.equals a b
  | _, _ => none

/-- Whether one of several equations holds; none is looked at behind one that does. -/
def anyHolds? : List (Operand × Operand) → Option Bool
  | [] => some false
  | equation :: rest => do
    if ← holds? reading params document equation then return true
    else anyHolds? rest

/-- The rank of a document. -/
def rank? (formula : RankFormula) : Option Nat :=
  (anyHolds? reading params document formula.equations).map fun met =>
    if met then formula.met else formula.otherwise

end RankFormula

/-- The rank that a script gives a document. -/
def ScriptSort.rank? (sort : ScriptSort) : Option Nat :=
  if sort.type = "number" ∧ sort.lang = "painless" then
    (RankFormula.read? sort.source).bind fun formula => formula.rank? reading sort.params document
  else none

end Ranks

/-! ### The rank of empty documents -/

namespace SortReading

variable {Document : Type}

/-- Whether a document lacks a field, or holds what counts as empty there. -/
def isEmpty (reading : SortReading Document) (kind : Kind) (field : String) (document : Document) :
    Bool :=
  match reading.value? field document, kind.emptyValue? with
  | none, _ => true
  | some value, some empty => reading.equals value empty
  | some _, none => false

end SortReading

/-- **The script that sets empty documents apart** gives them zero and all others one. -/
theorem rank?_nullRank {Document : Type} (reading : SortReading Document) (field : String) (kind : Kind)
    (missing : Missing) :
    ∃ sort, nullRank field kind missing = .script sort ∧
      sort.order = (match missing with | .first => .asc | .last => .desc) ∧
      ∀ document, sort.rank? reading document =
        some (if reading.isEmpty kind field document then 0 else 1) := by
  unfold nullRank
  cases canonical : kind.emptyValue? with
  | none =>
    refine ⟨_, rfl, rfl, fun document => ?_⟩
    rw [ScriptSort.rank?, if_pos ⟨rfl, rfl⟩, RankFormula.read?_absentRankSource]
    cases held : reading.value? field document <;>
      simp [RankFormula.rank?, RankFormula.anyHolds?, RankFormula.holds?, Operand.amount?,
        Members.get?, Json.text?, SortReading.isEmpty, held, canonical]
  | some empty =>
    refine ⟨_, rfl, rfl, fun document => ?_⟩
    rw [ScriptSort.rank?, if_pos ⟨rfl, rfl⟩, RankFormula.read?_emptyRankSource]
    cases held : reading.value? field document <;>
      simp [RankFormula.rank?, RankFormula.anyHolds?, RankFormula.holds?, Operand.amount?,
        Members.get?, Json.text?, SortReading.isEmpty, held, canonical]

end CatalogSearch
