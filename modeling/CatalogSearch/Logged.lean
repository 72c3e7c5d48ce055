/-
**Computations that warn.**

* `Warning` — what was left out, and why;
* `Logged` — a result or an error, with the warnings that came before it, which a failure keeps;
* `Mode.keep` — the one step in which the two modes differ: on a fault the strict mode fails, and the
  lenient mode warns and goes on without the entry.
-/

import CatalogSearch.Error

namespace CatalogSearch

/-- Something that was left out or noticed on the way. -/
inductive Warning where
  | droppedEntry (entry : String) (error : Error)
  | droppedGroup (entry : String) (error : Error)
  | droppedSort (entry : String) (error : Error)
  | skippedField (field : String)
  /-- A field of an index has a type without rules of its own. -/
  | unrecognizedKind (index field kind : String)
deriving DecidableEq, Repr

namespace Warning

/-- The text of a warning. -/
def message : Warning → String
  | droppedEntry _ _ => "dropping filter entry"
  | droppedGroup _ _ => "dropping filter group"
  | droppedSort _ _ => "dropping sort entry"
  | skippedField _ => "skipping non-object field definition"
  | unrecognizedKind _ _ _ => "unrecognized field type, values pass through"

/-- The particulars of a warning, by name. -/
def details : Warning → List (String × String)
  | droppedEntry entry error | droppedGroup entry error | droppedSort entry error =>
    [("entry", entry), ("kind", error.kind), ("error", error.message)]
  | skippedField field => [("field", field)]
  | unrecognizedKind index field kind => [("index", index), ("field", field), ("kind", kind)]

end Warning

/-- A result is the image of one if the step that is mapped has one. -/
theorem map_eq_ok {ε α β : Type} {f : α → β} {step : Except ε α} {b : β} :
    step.map f = .ok b ↔ ∃ a, step = .ok a ∧ f a = b := by
  cases step <;> simp [Except.map]

/-- Two steps have a result if the first one does, and the second one at its result. -/
theorem bind_eq_ok {ε α β : Type} {step : Except ε α} {next : α → Except ε β} {b : β} :
    (step >>= next) = .ok b ↔ ∃ a, step = .ok a ∧ next a = .ok b := by
  cases step <;> simp [bind, Except.bind]

/-- A result or an error `ε`, with the warnings met on the way. -/
structure Logged (ε α : Type) where
  warnings : List Warning
  result : Except ε α

namespace Logged

variable {ε ε' α β : Type}

/-- A result without warnings. -/
def done (a : α) : Logged ε α := ⟨[], .ok a⟩

/-- A failure without warnings. -/
def fail (error : ε) : Logged ε α := ⟨[], .error error⟩

/-- A step that can only fail. -/
def ofExcept (result : Except ε α) : Logged ε α := ⟨[], result⟩

/-- A step that only warns. -/
def warn (warning : Warning) : Logged ε Unit := ⟨[warning], .ok ()⟩

/-- One computation after another; the warnings of the first stand first. -/
def andThen (first : Logged ε α) (next : α → Logged ε β) : Logged ε β :=
  match first.result with
  | .error error => ⟨first.warnings, .error error⟩
  | .ok a =>
    let second := next a
    ⟨first.warnings ++ second.warnings, second.result⟩

instance : Monad (Logged ε) where
  pure := done
  bind := andThen

/-- The computation with its errors seen as errors of another type. -/
def mapError (wrap : ε → ε') (step : Logged ε α) : Logged ε' α :=
  ⟨step.warnings, step.result.mapError wrap⟩

/-- The results of a step over a list that yield something, in order. -/
def filterMap (step : α → Logged ε (Option β)) : List α → Logged ε (List β)
  | [] => done []
  | a :: rest =>
    (step a).andThen fun kept => (filterMap step rest).andThen fun others =>
      done (kept.toList ++ others)

@[simp] theorem result_done (a : α) : (done a : Logged ε α).result = .ok a := rfl

@[simp] theorem result_fail (error : ε) : (fail error : Logged ε α).result = .error error := rfl

@[simp] theorem done_andThen (a : α) (next : α → Logged ε β) : (done a).andThen next = next a := by
  simp [andThen, done]

theorem andThen_assoc {γ : Type} (first : Logged ε α) (next : α → Logged ε β)
    (last : β → Logged ε γ) :
    (first.andThen next).andThen last = first.andThen fun a => (next a).andThen last := by
  obtain ⟨warnings, result⟩ := first
  cases result with
  | error error => rfl
  | ok a =>
    simp only [andThen]
    cases (next a).result <;> simp

/-- The result of two computations is that of the second one at the result of the first. -/
@[simp] theorem result_andThen (first : Logged ε α) (next : α → Logged ε β) :
    (first.andThen next).result = first.result.bind fun a => (next a).result := by
  obtain ⟨warnings, result⟩ := first
  cases result <;> rfl

/-- Two computations succeed when the first one does, and the second one at its result. -/
theorem result_andThen_eq_ok {first : Logged ε α} {next : α → Logged ε β} {b : β} :
    (first.andThen next).result = .ok b ↔ ∃ a, first.result = .ok a ∧ (next a).result = .ok b := by
  rw [result_andThen]
  cases first.result <;> simp [Except.bind]

end Logged

/-- What becomes of a faulty entry. -/
inductive Mode where
  /-- The first fault ends the compilation. -/
  | strict
  /-- A faulty entry is left out with a warning. -/
  | lenient
deriving DecidableEq, Repr

namespace Mode

/-- The mode that fails on faults, or else the one that warns. -/
def ofStrict (strict : Bool) : Mode := if strict then .strict else .lenient

/-- Takes a step's result, or does with its fault as the mode says. -/
def keep {α : Type} (mode : Mode) (warning : Error → Warning) :
    Except Error α → Logged Error (Option α)
  | .ok a => .done (some a)
  | .error error =>
    match mode with
    | .strict => .fail error
    | .lenient => ⟨[warning error], .ok none⟩

variable {α : Type}

/-- The strict mode gives a step's result as it is. -/
@[simp] theorem result_keep_strict (warning : Error → Warning) (step : Except Error α) :
    (strict.keep warning step).result = step.map some := by
  cases step <;> rfl

/-- The lenient mode never fails. -/
@[simp] theorem result_keep_lenient (warning : Error → Warning) (step : Except Error α) :
    (lenient.keep warning step).result = .ok step.toOption := by
  cases step <;> rfl

end Mode
end CatalogSearch
