/-
**How filters and trees are walked.**

Both passes of the compiler go through a list from left to right and into nested groups. A statement
about either is proved for a value, or a tree, from the same statement about what it holds.

* `Json.members_induction` — induction over values through the members of objects;
* `FilterTree.children_induction` — induction over trees through the children of groups;
* `FilterTree.nodeOf_of_logic`, `nodeOf_of_noLogic` — an entry is a group or a condition;
* `FilterTree.groupEntries_eq`, `clauses_eq` — the entries of a group and the clauses of its children
  are taken one by one;
* `FilterCompiler.normalize_eq`, `compile_eq` — the two passes over a whole filter.
-/

import CatalogSearch.Filter.Compile

namespace CatalogSearch

namespace Json

mutual

/-- What holds of a value if it holds of all members of an object holds of every value. -/
theorem members_induction {P : Json → Prop}
    (step : ∀ value, (∀ members, value = .object members → ∀ entry ∈ members, P entry.2) → P value) :
    ∀ value, P value
  | .null => step _ fun _ impossible => nomatch impossible
  | .bool _ => step _ fun _ impossible => nomatch impossible
  | .number _ => step _ fun _ impossible => nomatch impossible
  | .string _ => step _ fun _ impossible => nomatch impossible
  | .array _ => step _ fun _ impossible => nomatch impossible
  | .object members => step _ fun _ same => by
    cases same
    exact forall_members_of_step step members

theorem forall_members_of_step {P : Json → Prop}
    (step : ∀ value, (∀ members, value = .object members → ∀ entry ∈ members, P entry.2) → P value) :
    ∀ members : List (String × Json), ∀ entry ∈ members, P entry.2
  | [] => fun _ impossible => nomatch impossible
  | (_, value) :: rest =>
    List.forall_mem_cons.mpr ⟨members_induction step value, forall_members_of_step step rest⟩

end

end Json

namespace FilterTree

mutual

/-- What holds of conditions, and of a group if it holds of its children, holds of every tree. -/
theorem children_induction {P : FilterTree → Prop} (leaf : ∀ condition, P (.leaf condition))
    (group : ∀ logic children, (∀ child ∈ children, P child) → P (.group logic children)) :
    ∀ tree, P tree
  | .leaf condition => leaf condition
  | .group logic children => group logic children (forall_children_of_step leaf group children)

theorem forall_children_of_step {P : FilterTree → Prop} (leaf : ∀ condition, P (.leaf condition))
    (group : ∀ logic children, (∀ child ∈ children, P child) → P (.group logic children)) :
    ∀ children : List FilterTree, ∀ child ∈ children, P child
  | [] => fun _ impossible => nomatch impossible
  | child :: rest =>
    List.forall_mem_cons.mpr
      ⟨children_induction leaf group child, forall_children_of_step leaf group rest⟩

end

/-! ### Entries -/

variable {schema : Schema} {key : String} {value : Json}

/-- A value without a connective is that of a condition. -/
theorem nodeOf_of_noLogic (mode : Mode) (plain : value.member? logicName = none) :
    nodeOf mode schema key value = leafOf mode schema key value := by
  cases value with
  | object members =>
    have absent : Members.get? members logicName = none := plain
    rw [nodeOf, absent]
  | _ => rfl

/-- A value with a connective is that of a group. -/
theorem nodeOf_of_logic (mode : Mode) {members : Members Json} {marker : Json}
    (named : members.get? logicName = some marker) :
    nodeOf mode schema key (.object members) =
      (mode.keep (.droppedGroup key) (Logic.read marker)).andThen fun logic =>
        match logic with
        | none => .done none
        | some logic =>
          (groupEntries mode schema members).andThen fun children =>
            .done (some (.group logic children)) := by
  rw [nodeOf]
  generalize members.get? logicName = found at named ⊢
  subst named
  rfl

/-- The entries of a group are its members but for the connective. -/
theorem groupEntries_eq (mode : Mode) (members : Members Json) :
    groupEntries mode schema members =
      Logged.filterMap (fun entry => nodeOf mode schema entry.1 entry.2)
        (members.filter fun entry => entry.1 ≠ logicName) := by
  induction members with
  | nil => rfl
  | cons entry rest ih =>
    obtain ⟨name, value⟩ := entry
    rw [groupEntries]
    by_cases marker : name = logicName
    · rw [if_pos marker, ih, List.filter_cons_of_neg (by simp [marker])]
    · rw [if_neg marker, ih, List.filter_cons_of_pos (by simp [marker])]
      rfl

/-- The clauses of a group are those of its children. -/
theorem clauses_eq (mode : Mode) (logic : Logic) (children : List FilterTree) :
    clauses mode logic children = Logged.filterMap (clauseOf mode logic) children := by
  induction children with
  | nil => rfl
  | cons child rest ih =>
    rw [clauses, ih]
    rfl

end FilterTree

/-! ### Whole filters -/

namespace FilterCompiler

/-- The filter whose entries are compiled: its sections are put as fields if a hierarchy is given. -/
def rewritten (hierarchy : Option Hierarchy) (filter : Members Json) : Members Json :=
  match hierarchy with
  | some names => names.resolve filter
  | none => filter

/-- The tree of a filter has the trees of its entries. -/
theorem normalize_eq (compiler : FilterCompiler) (schema : Schema) (filter : Members Json) :
    compiler.normalize schema filter =
      (Logged.filterMap (fun entry => FilterTree.nodeOf compiler.mode schema entry.1 entry.2)
        (rewritten compiler.hierarchy filter)).andThen fun children => .done (.group .and children) := by
  obtain ⟨mode, hierarchy⟩ := compiler
  cases hierarchy <;> rfl

/-- A filter's entries are walked to the end before its tree is. -/
theorem compile_eq (compiler : FilterCompiler) (schema : Schema) (filter : Members Json) :
    compiler.compile schema filter =
      (Logged.filterMap (fun entry => FilterTree.nodeOf compiler.mode schema entry.1 entry.2)
        (rewritten compiler.hierarchy filter)).andThen
          fun children => FilterTree.compileGroup compiler.mode .and children := by
  rw [compile, normalize_eq, Logged.andThen_assoc]
  simp only [Logged.done_andThen]
  rfl

end FilterCompiler
end CatalogSearch
