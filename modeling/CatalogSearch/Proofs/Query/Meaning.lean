/-
**What a query matches.**

The atomic clauses are read by an arbitrary `Reading`; only the boolean combination has a meaning of
its own. A `bool` wants all of `must`, none of `mustNot` and, when there is no `must`, one of
`should`: beside a `must` the `should` list is optional.

* `Query.Matches` — the documents that a query matches under a reading;
* `Query.Fulfilled` — what a clause list asks of each clause that joins it;
* `BoolQuery.ofList_eq` — clauses that join one by one are sorted into their lists, in order;
* `BoolQuery.matches_build_of_and`, `matches_build_of_or` — clauses without `should` want all of them
  fulfilled, clauses of `should` alone want one, and no clauses at all match everything.
-/

import CatalogSearch.Query.Basic

namespace CatalogSearch

/-- The documents that each atomic clause selects. -/
structure Reading (Document : Type) where
  present (field : String) (document : Document) : Prop
  term (field : String) (value : Json) (document : Document) : Prop
  terms (field : String) (values : List Json) (document : Document) : Prop
  range (field : String) (bounds : Bounds) (document : Document) : Prop
  wildcard (field : String) (pattern : Json) (document : Document) : Prop

namespace Query

variable {Document : Type}

section Meaning

variable (reading : Reading Document) (document : Document)

mutual

/-- Whether a document matches a query. -/
def Matches : Query → Prop
  | .matchAll _ => True
  | .term conditions => ∀ one ∈ conditions, reading.term one.1 one.2 document
  | .terms conditions => ∀ one ∈ conditions, reading.terms one.1 one.2 document
  | .range conditions => ∀ one ∈ conditions, reading.range one.1 one.2 document
  | .wildcard conditions => ∀ one ∈ conditions, reading.wildcard one.1 one.2 document
  | .present field => reading.present field document
  | .bool must should mustNot =>
    AllMatch must ∧ ¬ AnyMatches mustNot ∧ (must = [] → should ≠ [] → AnyMatches should)

/-- Whether a document matches all of several queries. -/
def AllMatch : List Query → Prop
  | [] => True
  | query :: rest => Matches query ∧ AllMatch rest

/-- Whether a document matches one of several queries. -/
def AnyMatches : List Query → Prop
  | [] => False
  | query :: rest => Matches query ∨ AnyMatches rest

end

/-- What a clause list asks of a clause that has joined it. -/
def Fulfilled (part : Occur × Query) : Prop :=
  match part.1 with
  | .must | .should => part.2.Matches reading document
  | .mustNot => ¬ part.2.Matches reading document

end Meaning

variable {reading : Reading Document} {document : Document}

theorem allMatch_iff (queries : List Query) :
    AllMatch reading document queries ↔ ∀ query ∈ queries, query.Matches reading document := by
  induction queries with
  | nil => simp [AllMatch]
  | cons query rest ih => simp [AllMatch, ih]

theorem anyMatches_iff (queries : List Query) :
    AnyMatches reading document queries ↔ ∃ query ∈ queries, query.Matches reading document := by
  induction queries with
  | nil => simp [AnyMatches]
  | cons query rest ih => simp [AnyMatches, ih]

theorem matches_bool (must should mustNot : List Query) :
    (Query.bool must should mustNot).Matches reading document ↔
      (∀ query ∈ must, query.Matches reading document) ∧
        (∀ query ∈ mustNot, ¬ query.Matches reading document) ∧
          (must = [] → should ≠ [] → ∃ query ∈ should, query.Matches reading document) := by
  simp [Matches, allMatch_iff, anyMatches_iff]

@[simp] theorem matches_everything : everything.Matches reading document := by
  simp [everything, Matches]

@[simp] theorem matches_onTerm (field : String) (value : Json) :
    (onTerm field value).Matches reading document ↔ reading.term field value document := by
  simp [onTerm, Matches]

@[simp] theorem matches_onTerms (field : String) (values : List Json) :
    (onTerms field values).Matches reading document ↔ reading.terms field values document := by
  simp [onTerms, Matches]

@[simp] theorem matches_onRange (field : String) (bounds : Bounds) :
    (onRange field bounds).Matches reading document ↔ reading.range field bounds document := by
  simp [onRange, Matches]

@[simp] theorem matches_onPattern (field : String) (pattern : String) :
    (onPattern field pattern).Matches reading document ↔
      reading.wildcard field (.string pattern) document := by
  simp [onPattern, Matches]

@[simp] theorem matches_present (field : String) :
    (Query.present field).Matches reading document ↔ reading.present field document := by
  simp [Matches]

/-- The negation of a query matches what the query does not. -/
@[simp] theorem matches_negation (query : Query) :
    query.negation.Matches reading document ↔ ¬ query.Matches reading document := by
  simp [negation, matches_bool]

end Query

/-! ### Clauses in their lists -/

namespace Occur

/-- The clauses of a list of pairs that join one of the clause lists, in order. -/
def select (occur : Occur) (clauses : List (Occur × Query)) : List Query :=
  (clauses.filter fun part => part.1 = occur).map (·.2)

theorem mem_select {occur : Occur} {clauses : List (Occur × Query)} {query : Query} :
    query ∈ occur.select clauses ↔ (occur, query) ∈ clauses := by
  simp [select]

end Occur

namespace BoolQuery

theorem foldl_push (clauses : List (Occur × Query)) (start : BoolQuery) :
    clauses.foldl (fun query clause => query.push clause.1 clause.2) start =
      ⟨start.must ++ Occur.must.select clauses, start.should ++ Occur.should.select clauses,
        start.mustNot ++ Occur.mustNot.select clauses⟩ := by
  induction clauses generalizing start with
  | nil => simp [Occur.select]
  | cons clause rest ih =>
    obtain ⟨occur, query⟩ := clause
    rw [List.foldl_cons, ih]
    cases occur <;> simp [push, Occur.select]

/-- Clauses that join one by one are sorted into their lists, in order. -/
theorem ofList_eq (clauses : List (Occur × Query)) :
    ofList clauses = ⟨Occur.must.select clauses, Occur.should.select clauses,
      Occur.mustNot.select clauses⟩ := by
  simp [ofList, foldl_push]

/-- The lists stay empty only if nothing joins. -/
theorem isEmpty_ofList (clauses : List (Occur × Query)) :
    (ofList clauses).isEmpty = true ↔ clauses = [] := by
  constructor
  · intro empty
    rw [ofList_eq] at empty
    simp only [isEmpty, Bool.and_eq_true, List.isEmpty_iff] at empty
    refine List.eq_nil_iff_forall_not_mem.mpr fun part member => ?_
    obtain ⟨occur, query⟩ := part
    have selected := Occur.mem_select.mpr member
    cases occur <;> simp [empty] at selected
  · rintro rfl
    rfl

variable {Document : Type} {reading : Reading Document} {document : Document}

/-- **Clauses of which none joins `should` want all of them fulfilled.** -/
theorem matches_build_of_and {clauses : List (Occur × Query)}
    (joined : ∀ part ∈ clauses, part.1 ≠ .should) :
    (ofList clauses).build.Matches reading document ↔
      ∀ part ∈ clauses, Query.Fulfilled reading document part := by
  have noShould : Occur.should.select clauses = [] :=
    List.eq_nil_iff_forall_not_mem.mpr fun query member =>
      joined _ (Occur.mem_select.mp member) rfl
  unfold build
  split
  next empty =>
    rw [(isEmpty_ofList clauses).mp empty]
    simp
  next =>
    rw [ofList_eq, Query.matches_bool, noShould]
    simp only [Occur.mem_select]
    constructor
    · rintro ⟨must, mustNot, -⟩ ⟨occur, query⟩ member
      cases occur with
      | must => exact must query member
      | should => exact absurd rfl (joined _ member)
      | mustNot => exact mustNot query member
    · intro all
      exact ⟨fun query member => all _ member, fun query member => all _ member,
        fun _ absent => absurd rfl absent⟩

/-- **Clauses that all join `should` want one of them fulfilled**, if there are any. -/
theorem matches_build_of_or {clauses : List (Occur × Query)}
    (joined : ∀ part ∈ clauses, part.1 = .should) :
    (ofList clauses).build.Matches reading document ↔
      clauses = [] ∨ ∃ part ∈ clauses, Query.Fulfilled reading document part := by
  have noMust : Occur.must.select clauses = [] :=
    List.eq_nil_iff_forall_not_mem.mpr fun query member =>
      nomatch joined _ (Occur.mem_select.mp member)
  have noMustNot : Occur.mustNot.select clauses = [] :=
    List.eq_nil_iff_forall_not_mem.mpr fun query member =>
      nomatch joined _ (Occur.mem_select.mp member)
  unfold build
  split
  next empty =>
    rw [(isEmpty_ofList clauses).mp empty]
    simp
  next nonempty =>
    have occupied : clauses ≠ [] := fun none => nonempty ((isEmpty_ofList clauses).mpr none)
    have someShould : Occur.should.select clauses ≠ [] := by
      obtain ⟨⟨occur, query⟩, member⟩ := List.exists_mem_of_ne_nil clauses occupied
      have same : occur = .should := joined _ member
      subst same
      exact List.ne_nil_of_mem (Occur.mem_select.mpr member)
    rw [ofList_eq, Query.matches_bool, noMust, noMustNot]
    simp only [Occur.mem_select, List.not_mem_nil, false_implies, implies_true, true_and,
      forall_const, occupied, false_or]
    constructor
    · intro one
      obtain ⟨query, member, matched⟩ := one someShould
      exact ⟨_, member, matched⟩
    · rintro ⟨⟨occur, query⟩, member, fulfilled⟩ -
      have same : occur = .should := joined _ member
      subst same
      exact ⟨query, member, fulfilled⟩

end BoolQuery
end CatalogSearch
