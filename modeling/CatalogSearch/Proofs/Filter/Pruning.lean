/-
**The lenient mode is the strict one on what is sound.**

Faulty entries can be deleted from a written filter before it is compiled: a group whose connective is
none goes with all it holds, an entry that makes no clause goes alone, and a group that loses every
entry stays, empty.

* `FilterTree.pruned` — a filter without its faulty entries, at every depth;
* `FilterTree.kept?` — a tree without the conditions that have no clause: what the pruned filter
  becomes, where the lenient mode still has the whole tree after its first pass;
* `Logged.Mirrors` — a lenient step against the strict step on what is kept; steps that mirror each
  other one by one do so over a list (`Logged.result_filterMap_of_mirrors`);
* `FilterTree.mirrors_nodeOf`, `mirrors_clauseOf` — both passes mirror;
* `FilterCompiler.compile_lenient_eq_strict_pruned` — the lenient query of a filter is the strict query
  of the pruned filter, and both exist.
-/

import CatalogSearch.Proofs.Filter.Traversal

namespace CatalogSearch

namespace FilterTree

/-- The clause of an entry that is no group, if its key can be read, its field resolved, its value
stored and its condition compiled. -/
def soundClause? (schema : Schema) (key : String) (value : Json) : Option (Occur × Query) := do
  let key ← (FilterKey.read key).toOption
  let field ← (schema.resolve key.field).toOption
  let property ← schema.find? field
  let stored ← (property.normalize value).toOption
  (Condition.clause ⟨key.operator, field, property.kind, stored⟩ .and).toOption

mutual

/-- What is left of an entry's value, or nothing if the entry is deleted. -/
def pruned? (schema : Schema) (key : String) : Json → Option Json
  | .object members =>
    match Members.get? members logicName with
    | none =>
      if (soundClause? schema key (.object members)).isSome then some (.object members) else none
    | some marker =>
      match Logic.read marker with
      | .ok _ => some (.object (prunedMembers schema members))
      | .error _ => none
  | value => if (soundClause? schema key value).isSome then some value else none

/-- What is left of a group's members; the one that names its connective always stays. -/
def prunedMembers (schema : Schema) : List (String × Json) → List (String × Json)
  | [] => []
  | (key, value) :: rest =>
    if key = logicName then (key, value) :: prunedMembers schema rest
    else ((pruned? schema key value).map (key, ·)).toList ++ prunedMembers schema rest

end

/-- What is left of an entry. -/
def prunedMember? (schema : Schema) (entry : String × Json) : Option (String × Json) :=
  (pruned? schema entry.1 entry.2).map (entry.1, ·)

/-- What is left of a filter. -/
def pruned (schema : Schema) (filter : Members Json) : Members Json :=
  filter.filterMap (prunedMember? schema)

mutual

/-- A tree without the conditions that have no clause; a group stays. -/
def kept? : FilterTree → Option FilterTree
  | .leaf condition =>
    if (condition.clause .and).toOption.isSome then some (.leaf condition) else none
  | .group logic children => some (.group logic (keptChildren children))

/-- The children of a group without the conditions that have no clause. -/
def keptChildren : List FilterTree → List FilterTree
  | [] => []
  | child :: rest => (kept? child).toList ++ keptChildren rest

end

theorem keptChildren_eq (children : List FilterTree) :
    keptChildren children = children.filterMap kept? := by
  induction children with
  | nil => rfl
  | cons child rest ih =>
    rw [keptChildren, ih, List.filterMap_cons]
    cases kept? child <;> rfl

/-- The entries of a pruned group are the pruned entries of the group. -/
theorem filter_prunedMembers (schema : Schema) (members : Members Json) :
    (prunedMembers schema members).filter (fun entry => entry.1 ≠ logicName) =
      (members.filter fun entry => entry.1 ≠ logicName).filterMap (prunedMember? schema) := by
  induction members with
  | nil => rfl
  | cons entry rest ih =>
    obtain ⟨name, value⟩ := entry
    rw [prunedMembers]
    by_cases marker : name = logicName
    · rw [if_pos marker, List.filter_cons_of_neg (by simp [marker]), ih,
        List.filter_cons_of_neg (by simp [marker])]
    · rw [if_neg marker, List.filter_append, ih, List.filter_cons_of_pos (by simp [marker]),
        List.filterMap_cons, prunedMember?]
      cases pruned? schema name value <;> simp [marker]

/-- Pruning keeps the connective of a group. -/
theorem get?_prunedMembers (schema : Schema) (members : Members Json) :
    Members.get? (prunedMembers schema members) logicName = Members.get? members logicName := by
  induction members with
  | nil => rfl
  | cons entry rest ih =>
    obtain ⟨name, value⟩ := entry
    rw [prunedMembers]
    by_cases marker : name = logicName
    · rw [if_pos marker, Members.get?, Members.get?, if_pos marker, if_pos marker]
    · rw [if_neg marker, Members.get?, if_neg marker, ← ih]
      cases pruned? schema name value with
      | none => rfl
      | some left => exact if_neg marker

end FilterTree

/-! ### Steps over lists -/

namespace Logged

variable {ε α α' β β' : Type}

/-- A lenient step yields what the strict step on the kept part does, once what is to be left out is
left out; where nothing is kept there is nothing left. -/
def Mirrors (lenient : Logged ε (Option β)) (strict : Option (Logged ε (Option β')))
    (left : β → Option β') : Prop :=
  ∃ b, lenient.result = .ok b ∧
    match strict with
    | none => b.bind left = none
    | some run => run.result = .ok (b.bind left)

/-- **Steps that mirror each other one by one do so over a list.** -/
theorem result_filterMap_of_mirrors {lenient : α → Logged ε (Option β)}
    {strict : α' → Logged ε (Option β')} {kept : α → Option α'} {left : β → Option β'}
    {items : List α}
    (each : ∀ a ∈ items, Mirrors (lenient a) ((kept a).map strict) left) :
    ∃ found, (filterMap lenient items).result = .ok found ∧
      (filterMap strict (items.filterMap kept)).result = .ok (found.filterMap left) := by
  induction items with
  | nil => exact ⟨[], rfl, rfl⟩
  | cons a rest ih =>
    obtain ⟨others, lenientRest, strictRest⟩ := ih fun b member => each b (List.mem_cons_of_mem _ member)
    obtain ⟨b, lenientHead, strictHead⟩ := each a List.mem_cons_self
    refine ⟨b.toList ++ others, ?_, ?_⟩
    · rw [filterMap, result_andThen, lenientHead, Except.bind, result_andThen, lenientRest]
      rfl
    · rw [List.filterMap_cons, List.filterMap_append]
      cases stays : kept a with
      | none =>
        rw [stays] at strictHead
        cases b with
        | none => exact strictRest
        | some b =>
          have gone : left b = none := strictHead
          simp only [Option.toList, List.filterMap_cons, gone]
          exact strictRest
      | some a' =>
        rw [stays] at strictHead
        simp only [Option.map_some] at strictHead
        simp only [filterMap, result_andThen, strictHead, strictRest, Except.bind]
        cases b with
        | none => rfl
        | some b => cases h : left b <;> simp [h]

end Logged

/-! ### The second pass -/

/-- Whether a condition has a clause does not depend on its group. -/
theorem Condition.isSome_clause (condition : Condition) (logic other : Logic) :
    (condition.clause logic).toOption.isSome = (condition.clause other).toOption.isSome := by
  have mapped : ∀ step : Except Error Query,
      (step.map (affirmed logic)).toOption.isSome = (step.map (affirmed other)).toOption.isSome :=
    fun step => by cases step <;> rfl
  unfold Condition.clause
  cases condition.operator
  case equals => cases condition.asksForAbsence <;> rfl
  case notEquals => cases condition.asksForAbsence <;> rfl
  all_goals exact mapped _

namespace FilterTree

/-- **Every tree compiles in the lenient mode**, to the strict clause of what is kept of it. -/
theorem mirrors_clauseOf (tree : FilterTree) :
    ∀ logic, Logged.Mirrors (clauseOf .lenient logic tree)
      ((kept? tree).map (clauseOf .strict logic)) some := by
  induction tree using children_induction with
  | leaf condition =>
    intro logic
    refine ⟨(condition.clause logic).toOption, ?_, ?_⟩
    · rw [clauseOf, Mode.result_keep_lenient]
    · have same := condition.isSome_clause logic .and
      rw [kept?, ← same]
      cases compiled : condition.clause logic with
      | error fault => rfl
      | ok clause =>
        show (clauseOf .strict logic (.leaf condition)).result = .ok (some clause)
        rw [clauseOf, Mode.result_keep_strict, compiled]
        rfl
  | group inner children ih =>
    intro logic
    obtain ⟨parts, lenient, strict⟩ :=
      Logged.result_filterMap_of_mirrors fun child member => ih child member inner
    rw [← keptChildren_eq, List.filterMap_some] at strict
    rw [← clauses_eq] at lenient strict
    refine ⟨some (logic.occur, (BoolQuery.ofList parts).build), ?_, ?_⟩
    · rw [clauseOf, Logged.result_andThen, lenient]
      rfl
    · show (clauseOf .strict logic (.group inner (keptChildren children))).result = _
      rw [clauseOf, Logged.result_andThen, strict]
      rfl

/-- **Every tree has a lenient query**, which is the strict one of what is kept of it. -/
theorem compileGroup_lenient (logic : Logic) (children : List FilterTree) :
    ∃ query, (compileGroup .lenient logic children).result = .ok query ∧
      (compileGroup .strict logic (keptChildren children)).result = .ok query := by
  obtain ⟨parts, lenient, strict⟩ :=
    Logged.result_filterMap_of_mirrors fun child (_ : child ∈ children) =>
      mirrors_clauseOf child logic
  rw [← keptChildren_eq, List.filterMap_some] at strict
  rw [← clauses_eq] at lenient strict
  refine ⟨(BoolQuery.ofList parts).build, ?_, ?_⟩
  · rw [compileGroup, Logged.result_andThen, lenient]
    rfl
  · rw [compileGroup, Logged.result_andThen, strict]
    rfl

/-! ### The first pass -/

variable {schema : Schema} {key : String}

/-- An entry that is no group makes a clause if it is a condition that has one. -/
theorem isSome_soundClause? (schema : Schema) (key : String) (value : Json) :
    (soundClause? schema key value).isSome =
      ((conditionOf schema key value).toOption.bind fun condition =>
        (condition.clause .and).toOption).isSome := by
  unfold soundClause? conditionOf
  cases FilterKey.read key with
  | error fault => rfl
  | ok key =>
    cases resolved : schema.resolve key.field with
    | error fault => simp [resolved, bind, Except.bind, Except.toOption]
    | ok field =>
      cases found : schema.find? field with
      | none => simp [resolved, found, Schema.get, bind, Except.bind, Except.toOption]
      | some property =>
        cases stored : property.normalize value with
        | error fault =>
          simp [resolved, found, stored, Schema.get, bind, Except.bind, Except.toOption, throw,
            throwThe, MonadExceptOf.throw]
        | ok value =>
          simp [resolved, found, stored, Schema.get, bind, Except.bind, Except.toOption, pure,
            Except.pure]

/-- An entry that is no group is kept if it makes a clause. -/
theorem pruned?_of_noLogic {value : Json} (plain : value.member? logicName = none) :
    pruned? schema key value =
      if (soundClause? schema key value).isSome then some value else none := by
  cases value with
  | object members =>
    have absent : Members.get? members logicName = none := plain
    rw [pruned?, absent]
  | _ => rfl

/-- A group is kept if its connective can be read. -/
theorem pruned?_of_logic {members : Members Json} {marker : Json}
    (named : members.get? logicName = some marker) :
    pruned? schema key (.object members) =
      (Logic.read marker).toOption.map fun _ => .object (prunedMembers schema members) := by
  rw [pruned?, named]
  cases read : Logic.read marker <;> simp [read, Except.toOption]

/-- A condition is dropped in the first pass or the second, or kept in both. -/
theorem mirrors_leafOf (value : Json) (plain : value.member? logicName = none) :
    Logged.Mirrors (nodeOf .lenient schema key value)
      ((pruned? schema key value).map (nodeOf .strict schema key)) kept? := by
  rw [nodeOf_of_noLogic _ plain, pruned?_of_noLogic plain, isSome_soundClause?]
  refine ⟨(conditionOf schema key value).toOption.map .leaf, ?_, ?_⟩
  · rw [leafOf, Logged.result_andThen, Mode.result_keep_lenient]
    rfl
  · cases read : conditionOf schema key value with
    | error fault => rfl
    | ok condition =>
      cases compiled : condition.clause .and with
      | error fault => simp [Except.toOption, kept?, compiled]
      | ok clause =>
        simp only [Except.toOption, Option.bind_some, compiled, Option.isSome_some, if_true,
          Option.map_some, nodeOf_of_noLogic _ plain, leafOf, Logged.result_andThen,
          Mode.result_keep_strict, read, Except.map, Except.bind, kept?]
        rfl

/-- Entries that mirror their pruned forms do so as a list. -/
theorem result_entries_of_mirrors {entries : Members Json}
    (each : ∀ entry ∈ entries, Logged.Mirrors (nodeOf .lenient schema entry.1 entry.2)
      ((pruned? schema entry.1 entry.2).map (nodeOf .strict schema entry.1)) kept?) :
    ∃ children,
      (Logged.filterMap (fun entry => nodeOf .lenient schema entry.1 entry.2) entries).result =
        .ok children ∧
      (Logged.filterMap (fun entry => nodeOf .strict schema entry.1 entry.2)
        (entries.filterMap (prunedMember? schema))).result = .ok (keptChildren children) := by
  simp only [keptChildren_eq]
  refine Logged.result_filterMap_of_mirrors fun entry member => ?_
  rw [prunedMember?, Option.map_map]
  exact each entry member

/-- **Every entry has a lenient tree**; what is kept of it is the strict tree of the pruned entry. -/
theorem mirrors_nodeOf (value : Json) :
    ∀ key, Logged.Mirrors (nodeOf .lenient schema key value)
      ((pruned? schema key value).map (nodeOf .strict schema key)) kept? := by
  induction value using Json.members_induction with
  | step value ih =>
    intro key
    cases plain : value.member? logicName with
    | none => exact mirrors_leafOf value plain
    | some marker =>
      cases value with
      | object members =>
        have named : Members.get? members logicName = some marker := plain
        rw [nodeOf_of_logic _ named, pruned?_of_logic named]
        cases read : Logic.read marker with
        | error fault => exact ⟨none, rfl, rfl⟩
        | ok logic =>
          obtain ⟨children, lenient, strict⟩ := result_entries_of_mirrors
            fun entry (member : entry ∈ members.filter fun entry => entry.1 ≠ logicName) =>
              ih members rfl entry (List.mem_filter.mp member).1 entry.1
          rw [← filter_prunedMembers] at strict
          rw [← groupEntries_eq] at lenient strict
          refine ⟨some (.group logic children), ?_, ?_⟩
          · simp [Except.toOption, Except.bind, lenient]
          · have kept := (get?_prunedMembers schema members).trans named
            simp only [Except.toOption, Option.map_some]
            rw [nodeOf_of_logic _ kept]
            simp [read, Except.map, Except.bind, strict, kept?]
      | _ => cases plain

end FilterTree

/-! ### Whole filters -/

namespace FilterCompiler

open FilterTree

/-- **The lenient query of a filter is the strict query of its sound part.** Both exist, whatever the
filter, the schema and the sections. -/
theorem compile_lenient_eq_strict_pruned (schema : Schema) (hierarchy : Option Hierarchy)
    (filter : Members Json) :
    ∃ query,
      (compile ⟨.lenient, hierarchy⟩ schema filter).result = .ok query ∧
      (compile ⟨.strict, none⟩ schema (pruned schema (rewritten hierarchy filter))).result =
        .ok query := by
  obtain ⟨children, lenientTree, strictTree⟩ := result_entries_of_mirrors
    fun entry (_ : entry ∈ rewritten hierarchy filter) =>
      @mirrors_nodeOf schema entry.2 entry.1
  obtain ⟨query, lenientQuery, strictQuery⟩ := compileGroup_lenient .and children
  refine ⟨query, ?_, ?_⟩
  · rw [compile_eq, Logged.result_andThen, lenientTree]
    exact lenientQuery
  · rw [compile_eq, Logged.result_andThen, rewritten, pruned, strictTree]
    exact strictQuery

end FilterCompiler
end CatalogSearch
