/-
**Compilation keeps the meaning of a filter.**

A tree has a meaning of its own, read off its conditions and connectives; its query has the meaning of
`Query.Matches`. Both are taken over the same reading of the atomic clauses.

* `Condition.Holds`, `FilterTree.Holds` — the documents of which a condition or a tree holds;
* `Condition.fulfilled_clause` — the clause of a condition joins a list in which it is fulfilled
  exactly when the condition holds. An OR group's clauses all join `should`, an AND group's none:
  were the two ever mixed, a `must` would make the alternatives optional;
* `FilterTree.renders_clauses` — the same for the children of a group, by recursion over the tree;
* `FilterTree.matches_iff_holds` — the query of a tree matches where the tree holds.
-/

import CatalogSearch.Filter.Compile
import CatalogSearch.Proofs.Query.Meaning
import Mathlib.Data.List.Forall2

namespace CatalogSearch

variable {Document : Type}

section Meaning

variable (reading : Reading Document) (document : Document)

namespace Condition

/-- The text of the value, as a pattern holds it. -/
def part (condition : Condition) : String :=
  match condition.value with
  | .string s => s
  | other => other.compact

/-- The field has the value, or one of several; null and false want it to have none. -/
def HoldsValue (condition : Condition) : Prop :=
  match condition.value with
  | .null | .bool false => ¬ reading.present condition.field document
  | .array values => reading.terms condition.field values document
  | value => reading.term condition.field value document

/-- The field lies within two values, whichever of them is the lesser. -/
def HoldsBetween (condition : Condition) : Prop :=
  match condition.value with
  | .array [a, b] =>
    reading.range condition.field
      (if Json.isAfter? a b = some true then { atLeast := b, atMost := a }
        else { atLeast := a, atMost := b }) document
  | _ => False

/-- Whether a condition holds of a document. -/
def Holds (condition : Condition) : Prop :=
  match condition.operator with
  | .equals => condition.HoldsValue reading document
  | .notEquals => ¬ condition.HoldsValue reading document
  | .contains =>
    reading.wildcard condition.field (.string ("*" ++ condition.part ++ "*")) document
  | .above => reading.range condition.field { above := condition.value } document
  | .atLeast => reading.range condition.field { atLeast := condition.value } document
  | .below => reading.range condition.field { below := condition.value } document
  | .atMost => reading.range condition.field { atMost := condition.value } document
  | .between => condition.HoldsBetween reading document

end Condition

namespace FilterTree

mutual

/-- Whether a tree holds of a document; a group of nothing always does. -/
def Holds : FilterTree → Prop
  | .leaf condition => condition.Holds reading document
  | .group .and children => AllHold children
  | .group .or children => children = [] ∨ AnyHolds children

/-- Whether all of several trees hold. -/
def AllHold : List FilterTree → Prop
  | [] => True
  | child :: rest => Holds child ∧ AllHold rest

/-- Whether one of several trees holds. -/
def AnyHolds : List FilterTree → Prop
  | [] => False
  | child :: rest => Holds child ∨ AnyHolds rest

end

end FilterTree

/-- The clause lists that the children of a group join. -/
def Logic.Admits (logic : Logic) (occur : Occur) : Prop :=
  match logic with
  | .and => occur ≠ .should
  | .or => occur = .should

end Meaning

variable {reading : Reading Document} {document : Document}

theorem Logic.admits_occur (logic : Logic) : logic.Admits logic.occur := by
  cases logic <;> simp [Logic.Admits, Logic.occur]

/-! ### Clauses of conditions -/

namespace Condition

theorem fulfilled_affirmed (logic : Logic) (query : Query) :
    logic.Admits (affirmed logic query).1 ∧
      (Query.Fulfilled reading document (affirmed logic query) ↔
        query.Matches reading document) := by
  refine ⟨logic.admits_occur, ?_⟩
  cases logic <;> rfl

/-- A denied query is hoisted to `mustNot`, or negated in its place. -/
theorem fulfilled_denied (logic : Logic) (query : Query) :
    logic.Admits (denied logic query).1 ∧
      (Query.Fulfilled reading document (denied logic query) ↔
        ¬ query.Matches reading document) := by
  cases logic with
  | and => simp [Logic.Admits, denied, Query.Fulfilled]
  | or => simp [Logic.Admits, denied, Query.Fulfilled]

theorem holdsValue_of_absence {condition : Condition} (absent : condition.asksForAbsence = true) :
    condition.HoldsValue reading document ↔ ¬ reading.present condition.field document := by
  unfold asksForAbsence at absent
  unfold HoldsValue
  split at absent <;> simp_all

theorem holdsValue_of_value {condition : Condition} (valued : condition.asksForAbsence = false) :
    condition.HoldsValue reading document ↔ condition.holds.Matches reading document := by
  unfold asksForAbsence at valued
  unfold HoldsValue holds
  split <;> simp_all

/-- The one value of a condition is its value. -/
theorem single_eq_ok {condition : Condition} {value : Json}
    (single : condition.single = .ok value) : value = condition.value := by
  unfold Condition.single at single
  split at single <;> cases single
  rfl

theorem matches_limit {condition : Condition} {bounds : Json → Bounds} {query : Query}
    (limited : condition.limit bounds = .ok query) :
    query.Matches reading document ↔
      reading.range condition.field (bounds condition.value) document := by
  unfold limit at limited
  obtain ⟨value, single, rfl⟩ := map_eq_ok.mp limited
  rw [single_eq_ok single, Query.matches_onRange]

theorem matches_holdsPart {condition : Condition} {query : Query}
    (compiled : condition.holdsPart = .ok query) :
    query.Matches reading document ↔
      reading.wildcard condition.field (.string ("*" ++ condition.part ++ "*")) document := by
  unfold holdsPart at compiled
  obtain ⟨value, single, rfl⟩ := map_eq_ok.mp compiled
  rw [single_eq_ok single]
  exact Query.matches_onPattern _ _

theorem matches_between {condition : Condition} {query : Query}
    (compiled : condition.between = .ok query) :
    query.Matches reading document ↔ condition.HoldsBetween reading document := by
  unfold Condition.between at compiled
  unfold HoldsBetween
  split at compiled
  next a b pair =>
    split at compiled <;> cases compiled <;> simp_all
  next => cases compiled

/-- A clause that affirms a compiled query, whichever query that is. -/
theorem fulfilled_of_map_affirmed {step : Except Error Query} {logic : Logic}
    {clause : Occur × Query} {meaning : Prop}
    (matched : ∀ query, step = .ok query → (query.Matches reading document ↔ meaning))
    (compiled : step.map (affirmed logic) = .ok clause) :
    logic.Admits clause.1 ∧ (Query.Fulfilled reading document clause ↔ meaning) := by
  obtain ⟨query, succeeded, rfl⟩ := map_eq_ok.mp compiled
  obtain ⟨admitted, fulfilled⟩ := fulfilled_affirmed logic query
  exact ⟨admitted, fulfilled.trans (matched query succeeded)⟩

/-- **The clause of a condition is fulfilled where the condition holds**, and joins a list that its
group admits. -/
theorem fulfilled_clause {condition : Condition} {logic : Logic} {clause : Occur × Query}
    (compiled : condition.clause logic = .ok clause) :
    logic.Admits clause.1 ∧
      (Query.Fulfilled reading document clause ↔ condition.Holds reading document) := by
  unfold Condition.clause at compiled
  unfold Holds
  cases operator : condition.operator <;> simp only [operator] at compiled ⊢
  case equals =>
    cases absent : condition.asksForAbsence <;> simp only [absent] at compiled <;> cases compiled
    · rw [holdsValue_of_value absent]
      exact fulfilled_affirmed logic condition.holds
    · rw [holdsValue_of_absence absent, ← Query.matches_present]
      exact fulfilled_denied logic (.present condition.field)
  case notEquals =>
    cases absent : condition.asksForAbsence <;> simp only [absent] at compiled <;> cases compiled
    · rw [holdsValue_of_value absent]
      exact fulfilled_denied logic condition.holds
    · rw [holdsValue_of_absence absent, Classical.not_not, ← Query.matches_present]
      exact fulfilled_affirmed logic (.present condition.field)
  case contains => exact fulfilled_of_map_affirmed (fun _ => matches_holdsPart) compiled
  case between => exact fulfilled_of_map_affirmed (fun _ => matches_between) compiled
  all_goals exact fulfilled_of_map_affirmed (fun _ => matches_limit) compiled

end Condition

/-! ### Clauses of trees -/

namespace FilterTree

/-- A clause renders a tree in a group: the group admits it, and it is fulfilled where the tree
holds. -/
def Renders (reading : Reading Document) (document : Document) (logic : Logic)
    (clause : Occur × Query) (tree : FilterTree) : Prop :=
  logic.Admits clause.1 ∧
    (Query.Fulfilled reading document clause ↔ tree.Holds reading document)

theorem forall_fulfilled_iff {logic : Logic} {clauses : List (Occur × Query)}
    {children : List FilterTree}
    (rendered : List.Forall₂ (Renders reading document logic) clauses children) :
    (∀ clause ∈ clauses, Query.Fulfilled reading document clause) ↔
      AllHold reading document children := by
  induction rendered with
  | nil => simp [AllHold]
  | cons head _ ih => rw [List.forall_mem_cons, head.2, ih, AllHold]

theorem exists_fulfilled_iff {logic : Logic} {clauses : List (Occur × Query)}
    {children : List FilterTree}
    (rendered : List.Forall₂ (Renders reading document logic) clauses children) :
    (∃ clause ∈ clauses, Query.Fulfilled reading document clause) ↔
      AnyHolds reading document children := by
  induction rendered with
  | nil => simp [AnyHolds]
  | cons head _ ih => rw [List.exists_mem_cons_iff, head.2, ih, AnyHolds]

theorem admits_of_renders {logic : Logic} {clauses : List (Occur × Query)}
    {children : List FilterTree}
    (rendered : List.Forall₂ (Renders reading document logic) clauses children) :
    ∀ clause ∈ clauses, logic.Admits clause.1 := by
  induction rendered with
  | nil => simp
  | cons head _ ih => exact List.forall_mem_cons.mpr ⟨head.1, ih⟩

/-- **A group whose clauses render its children is rendered by their boolean query.** -/
theorem matches_build {logic : Logic} {clauses : List (Occur × Query)}
    {children : List FilterTree}
    (rendered : List.Forall₂ (Renders reading document logic) clauses children) :
    (BoolQuery.ofList clauses).build.Matches reading document ↔
      (FilterTree.group logic children).Holds reading document := by
  have admitted := admits_of_renders rendered
  cases logic with
  | and => rw [BoolQuery.matches_build_of_and admitted, forall_fulfilled_iff rendered, Holds]
  | or =>
    have both : clauses = [] ↔ children = [] := by
      rw [← List.length_eq_zero_iff, rendered.length_eq, List.length_eq_zero_iff]
    rw [BoolQuery.matches_build_of_or admitted, exists_fulfilled_iff rendered, both, Holds]

mutual

/-- The strict compilation of a tree in a group yields a clause that renders it. -/
theorem renders_clauseOf {logic : Logic} :
    ∀ {tree : FilterTree} {clause : Option (Occur × Query)},
      (clauseOf .strict logic tree).result = .ok clause →
        ∃ part, clause = some part ∧ Renders reading document logic part tree
  | .leaf condition, clause, compiled => by
    rw [clauseOf, Mode.result_keep_strict] at compiled
    obtain ⟨part, accepted, rfl⟩ := map_eq_ok.mp compiled
    obtain ⟨admitted, fulfilled⟩ := Condition.fulfilled_clause accepted
    exact ⟨part, rfl, admitted, by rw [fulfilled, Holds]⟩
  | .group inner children, clause, compiled => by
    rw [clauseOf] at compiled
    obtain ⟨parts, accepted, done⟩ := Logged.result_andThen_eq_ok.mp compiled
    cases done
    have inside : List.Forall₂ (Renders reading document inner) parts children :=
      renders_clauses accepted
    refine ⟨_, rfl, logic.admits_occur, ?_⟩
    rw [← matches_build inside]
    cases logic <;> rfl

/-- **The strict compilation of a group's children yields a clause for each of them**, in order. -/
theorem renders_clauses {logic : Logic} :
    ∀ {children : List FilterTree} {parts : List (Occur × Query)},
      (clauses .strict logic children).result = .ok parts →
        List.Forall₂ (Renders reading document logic) parts children
  | [], parts, compiled => by
    rw [clauses] at compiled
    cases compiled
    exact .nil
  | child :: rest, parts, compiled => by
    rw [clauses] at compiled
    obtain ⟨first, accepted, next⟩ := Logged.result_andThen_eq_ok.mp compiled
    obtain ⟨others, acceptedRest, done⟩ := Logged.result_andThen_eq_ok.mp next
    cases done
    obtain ⟨part, rfl, head⟩ := renders_clauseOf accepted
    exact .cons head (renders_clauses acceptedRest)

end

/-- **The query of a tree matches the documents of which the tree holds.** -/
theorem matches_iff_holds (reading : Reading Document) (document : Document) (tree : FilterTree)
    (query : Query) (accepted : (tree.compile .strict).result = .ok query) :
    query.Matches reading document ↔ tree.Holds reading document := by
  cases tree with
  | leaf condition =>
    rw [compile, compileGroup] at accepted
    obtain ⟨parts, compiled, done⟩ := Logged.result_andThen_eq_ok.mp accepted
    cases done
    rw [matches_build (renders_clauses compiled)]
    simp [Holds, AllHold]
  | group logic children =>
    rw [compile, compileGroup] at accepted
    obtain ⟨parts, compiled, done⟩ := Logged.result_andThen_eq_ok.mp accepted
    cases done
    exact matches_build (renders_clauses compiled)

/-- A hoisted negation beside an OR group of an absence, a negation in its place and an empty group,
over documents that have every field and no value. -/
theorem matches_iff_holds_mixed :
    (compile .strict
      (.group .and
        [ .leaf ⟨.notEquals, "COLOR", .keyword, .array [.string "red", .string "blue"]⟩,
          .group .or
            [ .leaf ⟨.equals, "NAME", .text, .null⟩,
              .leaf ⟨.notEquals, "ACTIVE", .boolean, .bool true⟩,
              .group .and [] ] ])).result =
      .ok (.bool
        [.bool []
          [ .bool [] [] [.present "NAME"],
            .bool [] [] [.term [("ACTIVE", .bool true)]],
            .matchAll none ] []]
        [] [.terms [("COLOR", [.string "red", .string "blue"])]]) ∧
    (Query.Matches
      (⟨fun _ _ => True, fun _ _ _ => False, fun _ _ _ => False, fun _ _ _ => False,
        fun _ _ _ => False⟩ : Reading Unit) ()
      (.bool
        [.bool []
          [ .bool [] [] [.present "NAME"],
            .bool [] [] [.term [("ACTIVE", .bool true)]],
            .matchAll none ] []]
        [] [.terms [("COLOR", [.string "red", .string "blue"])]]) ↔
      Holds
        (⟨fun _ _ => True, fun _ _ _ => False, fun _ _ _ => False, fun _ _ _ => False,
          fun _ _ _ => False⟩ : Reading Unit) ()
        (.group .and
          [ .leaf ⟨.notEquals, "COLOR", .keyword, .array [.string "red", .string "blue"]⟩,
            .group .or
              [ .leaf ⟨.equals, "NAME", .text, .null⟩,
                .leaf ⟨.notEquals, "ACTIVE", .boolean, .bool true⟩,
                .group .and [] ] ])) :=
  ⟨rfl, matches_iff_holds _ _ _ _ rfl⟩

end FilterTree
end CatalogSearch
