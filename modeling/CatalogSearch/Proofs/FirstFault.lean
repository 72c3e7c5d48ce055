/-
**The two modes meet the same first fault.**

The strict mode ends at the first fault, the lenient mode warns of it and goes on. So a strict run
fails if and only if the lenient run warns, and then with the error of its first warning; without
warnings both runs have one result.

* `Logged.SameFault` — this relation between two runs;
* `Logged.Agrees` — the same as two cases, which is what composition keeps (`Agrees.andThen`): after a
  fault nothing is known of the lenient run but its first warning, and nothing needs to be;
* `FilterTree.agrees_nodeOf`, `agrees_clauseOf` — the two passes over a filter agree;
* `sameFault_compile` — filters, sorts and objects of sorts.
-/

import CatalogSearch.Proofs.Filter.Traversal
import CatalogSearch.Sort.Compile

namespace CatalogSearch

/-- A warning tells the kind and the text of an error. -/
def Warning.Carries (warning : Warning) (error : Error) : Prop :=
  ∃ entry, warning.details = [("entry", entry), ("kind", error.kind), ("error", error.message)]

namespace Logged

variable {α β : Type}

/-- **A strict run and a lenient one meet the same first fault**, or none. -/
structure SameFault (strict lenient : Logged Error α) : Prop where
  fails_iff : (∃ error, strict.result = .error error) ↔ lenient.warnings ≠ []
  carried : ∀ error, strict.result = .error error →
    ∃ first rest, lenient.warnings = first :: rest ∧ first.Carries error
  same : lenient.warnings = [] → ∃ a, strict.result = .ok a ∧ lenient.result = .ok a

/-- A strict and a lenient run that have met no fault, or the same first one. -/
inductive Agrees : Logged Error α → Logged Error α → Prop
  | silent (a : α) : Agrees (.done a) (.done a)
  | faulty {error : Error} {first : Warning} (carried : first.Carries error)
      (rest : List Warning) (result : Except Error α) :
      Agrees (.fail error) ⟨first :: rest, result⟩

namespace Agrees

theorem sameFault {strict lenient : Logged Error α} (agrees : Agrees strict lenient) :
    SameFault strict lenient := by
  cases agrees with
  | silent a =>
    refine ⟨⟨?_, fun warned => absurd rfl warned⟩, ?_, fun _ => ⟨a, rfl, rfl⟩⟩
    · rintro ⟨error, failed⟩
      cases failed
    · intro error failed
      cases failed
  | faulty carried rest result =>
    refine ⟨⟨fun _ => List.cons_ne_nil _ _, fun _ => ⟨_, rfl⟩⟩, ?_,
      fun silent => absurd silent (List.cons_ne_nil _ _)⟩
    intro error failed
    cases failed
    exact ⟨_, rest, rfl, carried⟩

/-- **Runs that agree go on to agree.** -/
theorem andThen {strict lenient : Logged Error α} {next other : α → Logged Error β}
    (agrees : Agrees strict lenient) (continued : ∀ a, Agrees (next a) (other a)) :
    Agrees (strict.andThen next) (lenient.andThen other) := by
  cases agrees with
  | silent a =>
    rw [done_andThen, done_andThen]
    exact continued a
  | faulty carried rest result =>
    cases result with
    | error error => exact .faulty carried rest (.error error)
    | ok a => exact .faulty carried _ _

/-- Runs over a list agree if their steps do. -/
theorem filterMap {next other : α → Logged Error (Option β)} {items : List α}
    (each : ∀ a ∈ items, Agrees (next a) (other a)) :
    Agrees (Logged.filterMap next items) (Logged.filterMap other items) := by
  induction items with
  | nil => exact .silent []
  | cons a rest ih =>
    refine (each a List.mem_cons_self).andThen fun kept => ?_
    refine (ih fun b member => each b (List.mem_cons_of_mem _ member)).andThen fun others => ?_
    exact .silent _

/-- The one step in which the modes differ. -/
theorem keep {warning : Error → Warning} (carried : ∀ error, (warning error).Carries error)
    (step : Except Error α) : Agrees (Mode.strict.keep warning step)
      (Mode.lenient.keep warning step) := by
  cases step with
  | error error => exact .faulty (carried error) [] (.ok none)
  | ok a => exact .silent (some a)

end Agrees
end Logged

open Logged

theorem carries_droppedEntry (entry : String) (error : Error) :
    (Warning.droppedEntry entry error).Carries error := ⟨entry, rfl⟩

theorem carries_droppedGroup (entry : String) (error : Error) :
    (Warning.droppedGroup entry error).Carries error := ⟨entry, rfl⟩

theorem carries_droppedSort (entry : String) (error : Error) :
    (Warning.droppedSort entry error).Carries error := ⟨entry, rfl⟩

/-! ### Filters -/

namespace FilterTree

theorem agrees_leafOf (schema : Schema) (key : String) (value : Json) :
    Agrees (leafOf .strict schema key value) (leafOf .lenient schema key value) :=
  (Agrees.keep (carries_droppedEntry key) _).andThen fun _ => .silent _

/-- **The first pass agrees on every entry**: a group with a faulty connective is not looked into in
either mode, and all that comes before it has been walked in both. -/
theorem agrees_nodeOf (schema : Schema) (value : Json) :
    ∀ key, Agrees (nodeOf .strict schema key value) (nodeOf .lenient schema key value) := by
  induction value using Json.members_induction with
  | step value ih =>
    intro key
    cases plain : value.member? logicName with
    | none =>
      rw [nodeOf_of_noLogic _ plain, nodeOf_of_noLogic _ plain]
      exact agrees_leafOf schema key value
    | some marker =>
      cases value with
      | object members =>
        have named : Members.get? members logicName = some marker := plain
        rw [nodeOf_of_logic _ named, nodeOf_of_logic _ named]
        refine (Agrees.keep (carries_droppedGroup key) _).andThen fun logic => ?_
        cases logic with
        | none => exact .silent none
        | some logic =>
          rw [groupEntries_eq, groupEntries_eq]
          refine (Agrees.filterMap fun entry member => ?_).andThen fun _ => .silent _
          exact ih members rfl entry (List.mem_filter.mp member).1 entry.1
      | _ => cases plain

/-- **The second pass agrees on every tree.** -/
theorem agrees_clauseOf (tree : FilterTree) :
    ∀ logic, Agrees (clauseOf .strict logic tree) (clauseOf .lenient logic tree) := by
  induction tree using children_induction with
  | leaf condition =>
    intro logic
    rw [clauseOf, clauseOf]
    exact Agrees.keep (carries_droppedEntry _) _
  | group inner children ih =>
    intro logic
    rw [clauseOf, clauseOf, clauses_eq, clauses_eq]
    exact (Agrees.filterMap fun child member => ih child member inner).andThen fun _ => .silent _

theorem agrees_compileGroup (logic : Logic) (children : List FilterTree) :
    Agrees (compileGroup .strict logic children) (compileGroup .lenient logic children) := by
  rw [compileGroup, compileGroup, clauses_eq, clauses_eq]
  exact (Agrees.filterMap fun child _ => agrees_clauseOf child logic).andThen fun _ => .silent _

end FilterTree

theorem FilterCompiler.agrees_compile (schema : Schema) (hierarchy : Option Hierarchy)
    (filter : Members Json) :
    Agrees (compile ⟨.strict, hierarchy⟩ schema filter)
      (compile ⟨.lenient, hierarchy⟩ schema filter) := by
  rw [compile_eq, compile_eq]
  refine (Agrees.filterMap fun entry _ => ?_).andThen fun children => ?_
  · exact FilterTree.agrees_nodeOf schema entry.2 entry.1
  · exact FilterTree.agrees_compileGroup .and children

/-! ### Sorts -/

namespace SortCompiler

theorem agrees_compile (schema : Schema) (pairs : List (String × String)) :
    Agrees (compile ⟨.strict⟩ schema pairs) (compile ⟨.lenient⟩ schema pairs) :=
  (Agrees.filterMap fun pair _ => Agrees.keep (carries_droppedSort pair.1) _).andThen
    fun _ => .silent _

/-- All values are read before any directive is compiled, in both modes. -/
theorem agrees_compileMembers (schema : Schema) (sort : Members Json) :
    Agrees (compileMembers ⟨.strict⟩ schema sort) (compileMembers ⟨.lenient⟩ schema sort) :=
  (Agrees.filterMap fun entry _ => Agrees.keep (carries_droppedSort entry.1) _).andThen
    fun pairs => agrees_compile schema pairs

end SortCompiler

/-- **The strict mode fails where the lenient mode warns**, with the error of the first warning; and
where nothing is warned of, both modes give one result. -/
theorem sameFault_compile (schema : Schema) :
    (∀ hierarchy filter,
      SameFault (FilterCompiler.compile ⟨.strict, hierarchy⟩ schema filter)
        (FilterCompiler.compile ⟨.lenient, hierarchy⟩ schema filter)) ∧
    (∀ pairs,
      SameFault (SortCompiler.compile ⟨.strict⟩ schema pairs)
        (SortCompiler.compile ⟨.lenient⟩ schema pairs)) ∧
    (∀ sort,
      SameFault (SortCompiler.compileMembers ⟨.strict⟩ schema sort)
        (SortCompiler.compileMembers ⟨.lenient⟩ schema sort)) :=
  ⟨fun hierarchy filter => (FilterCompiler.agrees_compile schema hierarchy filter).sameFault,
    fun pairs => (SortCompiler.agrees_compile schema pairs).sameFault,
    fun sort => (SortCompiler.agrees_compileMembers schema sort).sameFault⟩

end CatalogSearch
