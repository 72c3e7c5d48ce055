/-
**Queries have the shape of their filters.**

A filter that the strict mode accepts is rendered entry by entry: a condition by one atomic clause, a group
by one query of its own. Nothing is lost, doubled, put elsewhere or drawn out of its group.

* `FilterPart` — what an entry becomes: a query, and whether it is denied;
* `Query.ofParts` — the query of a group by its parts;
* `Condition.Atom` — the clauses of a condition; `Rendered` — the parts of an entry;
* `FilterTree.rendered_of_clauseOf` — both passes together render an entry, by induction on its value;
* `Query.uses`, `Rendered.isGrounded` — the fields of a query stand in the schema, and its values are stored
  values of entries;
* `FilterCompiler.rendered_of_compile` — whole filters.
-/

import CatalogSearch.Proofs.Filter.Meaning
import CatalogSearch.Proofs.Filter.Traversal
import CatalogSearch.Proofs.Strict

namespace CatalogSearch

open FilterTree (logicName)

/-- What an entry of a filter becomes in its group. -/
structure FilterPart where
  /-- Whether the query must not match. -/
  denied : Bool
  query : Query

/-- **The query of a group.** Of nothing it is the query that everything matches. Under AND what must match
and what must not stand apart, each in order. Under OR all stand as alternatives, and what must not match
is negated in its place. -/
def Query.ofParts (logic : Logic) (parts : List FilterPart) : Query :=
  if parts.isEmpty then .everything
  else match logic with
    | .and =>
      .bool ((parts.filter fun part => !part.denied).map (·.query)) []
        ((parts.filter (·.denied)).map (·.query))
    | .or =>
      .bool [] (parts.map fun part => if part.denied then part.query.negation else part.query) []

/-- **The atomic clauses of a condition.** -/
inductive Condition.Atom (condition : Condition) : FilterPart → Prop
  | absent (asked : condition.operator = .equals) (nothing : condition.asksForAbsence = true) :
      Atom condition ⟨true, .present condition.field⟩
  | present (asked : condition.operator = .notEquals) (nothing : condition.asksForAbsence = true) :
      Atom condition ⟨false, .present condition.field⟩
  | one (asked : condition.operator = .equals ∨ condition.operator = .notEquals)
      (something : condition.asksForAbsence = false) (single : ∀ items, condition.value ≠ .array items) :
      Atom condition ⟨condition.operator = .notEquals, .onTerm condition.field condition.value⟩
  | several {items : List Json} (asked : condition.operator = .equals ∨ condition.operator = .notEquals)
      (listed : condition.value = .array items) :
      Atom condition ⟨condition.operator = .notEquals, .onTerms condition.field items⟩
  | part (asked : condition.operator = .contains) :
      Atom condition ⟨false, .onPattern condition.field ("*" ++ condition.part ++ "*")⟩
  | above (asked : condition.operator = .above) :
      Atom condition ⟨false, .onRange condition.field { above := condition.value }⟩
  | atLeast (asked : condition.operator = .atLeast) :
      Atom condition ⟨false, .onRange condition.field { atLeast := condition.value }⟩
  | below (asked : condition.operator = .below) :
      Atom condition ⟨false, .onRange condition.field { below := condition.value }⟩
  | atMost (asked : condition.operator = .atMost) :
      Atom condition ⟨false, .onRange condition.field { atMost := condition.value }⟩
  | between {a b low high : Json} (asked : condition.operator = .between)
      (pair : condition.value = .array [a, b]) (ends : (low, high) = (a, b) ∨ (low, high) = (b, a)) :
      Atom condition ⟨false, .onRange condition.field { atLeast := low, atMost := high }⟩

/-- **What an entry of a filter becomes**: a condition, read by its key and stored as its field stores it,
one atomic clause; a group the query of the parts of its entries, whose own key says nothing. -/
inductive Rendered (schema : Schema) : String × Json → FilterPart → Prop
  | leaf {key : String} {raw stored : Json} {asked : FilterKey} {field : String} {property : Property}
      {part : FilterPart} (plain : raw.member? logicName = none)
      (named : FilterKey.read key = .ok asked) (stands : schema.resolve asked.field = .ok field)
      (found : schema.find? field = some property) (normal : property.normalize raw = .ok stored)
      (atom : Condition.Atom ⟨asked.operator, field, property.kind, stored⟩ part) :
      Rendered schema (key, raw) part
  | group {key : String} {members : Members Json} {marker : Json} {logic : Logic}
      {parts : List FilterPart} (named : members.get? logicName = some marker)
      (joined : Logic.read marker = .ok logic)
      (each : List.Forall₂ (Rendered schema) (members.filter fun entry => entry.1 ≠ logicName) parts) :
      Rendered schema (key, .object members) ⟨false, .ofParts logic parts⟩

/-! ### Clauses of a group -/

/-- The clause list that a part joins in a group, and the clause that joins it. -/
def Logic.place (logic : Logic) (part : FilterPart) : Occur × Query :=
  if part.denied then Condition.denied logic part.query else Condition.affirmed logic part.query

/-- Under AND what is denied is hoisted, and nothing is optional. -/
theorem Logic.select_place_and (parts : List FilterPart) :
    Occur.must.select (parts.map Logic.and.place) =
        (parts.filter fun part => !part.denied).map (·.query) ∧
      Occur.should.select (parts.map Logic.and.place) = [] ∧
      Occur.mustNot.select (parts.map Logic.and.place) = (parts.filter (·.denied)).map (·.query) := by
  induction parts with
  | nil => exact ⟨rfl, rfl, rfl⟩
  | cons part rest ih =>
    obtain ⟨must, should, mustNot⟩ := ih
    obtain ⟨denied, query⟩ := part
    unfold Occur.select at must should mustNot ⊢
    cases denied
    · simp [Logic.place, Condition.affirmed, Logic.occur, must, should, mustNot]
    · simp [Logic.place, Condition.denied, must, should, mustNot]

/-- Under OR all are alternatives. -/
theorem Logic.select_place_or (parts : List FilterPart) :
    Occur.must.select (parts.map Logic.or.place) = [] ∧
      Occur.should.select (parts.map Logic.or.place) =
        (parts.map fun part => if part.denied then part.query.negation else part.query) ∧
      Occur.mustNot.select (parts.map Logic.or.place) = [] := by
  induction parts with
  | nil => exact ⟨rfl, rfl, rfl⟩
  | cons part rest ih =>
    obtain ⟨must, should, mustNot⟩ := ih
    obtain ⟨denied, query⟩ := part
    unfold Occur.select at must should mustNot ⊢
    cases denied
    · simp [Logic.place, Condition.affirmed, Logic.occur, must, should, mustNot]
    · simp [Logic.place, Condition.denied, must, should, mustNot]

/-- **The clauses of a group's parts make the query of the group.** -/
theorem BoolQuery.build_place (logic : Logic) (parts : List FilterPart) :
    (ofList (parts.map logic.place)).build = .ofParts logic parts := by
  unfold build Query.ofParts
  by_cases none : parts = []
  · subst none
    rfl
  · -- A part always joins some list, so the whole is empty only if there is no part.
    have some : ¬ (ofList (parts.map logic.place)).isEmpty = true := by
      rw [isEmpty_ofList, List.map_eq_nil_iff]
      exact none
    rw [if_neg some, if_neg (by rwa [List.isEmpty_iff]), ofList_eq]
    cases logic with
    | and =>
      obtain ⟨must, should, mustNot⟩ := Logic.select_place_and parts
      rw [must, should, mustNot]
    | or =>
      obtain ⟨must, should, mustNot⟩ := Logic.select_place_or parts
      rw [must, should, mustNot]

/-! ### Conditions -/

namespace Condition

/-- A clause that affirms a query which is an atom of the condition. -/
theorem exists_atom_of_map_affirmed {condition : Condition} {logic : Logic} {step : Except Error Query}
    {clause : Occur × Query} (atomic : ∀ query, step = .ok query → condition.Atom ⟨false, query⟩)
    (compiled : step.map (affirmed logic) = .ok clause) :
    ∃ part, condition.Atom part ∧ logic.place part = clause := by
  obtain ⟨query, made, rfl⟩ := map_eq_ok.mp compiled
  exact ⟨⟨false, query⟩, atomic query made, rfl⟩

theorem limit_eq_ok {condition : Condition} {bounds : Json → Bounds} {query : Query}
    (made : condition.limit bounds = .ok query) :
    query = .onRange condition.field (bounds condition.value) := by
  obtain ⟨value, single, rfl⟩ := map_eq_ok.mp made
  rw [single_eq_ok single]

theorem holdsPart_eq_ok {condition : Condition} {query : Query}
    (made : condition.holdsPart = .ok query) :
    query = .onPattern condition.field ("*" ++ condition.part ++ "*") := by
  obtain ⟨value, single, rfl⟩ := map_eq_ok.mp made
  rw [single_eq_ok single]
  rfl

theorem atom_holds {condition : Condition}
    (asked : condition.operator = .equals ∨ condition.operator = .notEquals)
    (something : condition.asksForAbsence = false) :
    condition.Atom ⟨condition.operator = .notEquals, condition.holds⟩ := by
  unfold holds
  split
  · next items listed => exact .several asked listed
  · next single => exact .one asked something single

theorem atom_of_between {condition : Condition} {query : Query} (asked : condition.operator = .between)
    (made : condition.between = .ok query) : condition.Atom ⟨false, query⟩ := by
  unfold Condition.between at made
  split at made
  · next a b pair =>
    -- The ends are swapped if they come in the wrong order.
    split at made <;> cases made
    · exact .between asked pair (.inr rfl)
    · exact .between asked pair (.inl rfl)
  · cases made

/-- **A condition is rendered by one of its atomic clauses**, put where its group wants it. -/
theorem exists_atom_of_clause {condition : Condition} {logic : Logic} {clause : Occur × Query}
    (compiled : condition.clause logic = .ok clause) :
    ∃ part, condition.Atom part ∧ logic.place part = clause := by
  unfold Condition.clause at compiled
  -- Only `equals` and `notEquals` ask for absence; all others affirm one query.
  cases asked : condition.operator <;> simp only [asked] at compiled
  case equals =>
    cases nothing : condition.asksForAbsence <;> simp only [nothing] at compiled <;> cases compiled
    · have atom := atom_holds (.inl asked) nothing
      rw [asked] at atom
      exact ⟨_, atom, rfl⟩
    · exact ⟨_, .absent asked nothing, rfl⟩
  case notEquals =>
    cases nothing : condition.asksForAbsence <;> simp only [nothing] at compiled <;> cases compiled
    · have atom := atom_holds (.inr asked) nothing
      rw [asked] at atom
      exact ⟨_, atom, rfl⟩
    · exact ⟨_, .present asked nothing, rfl⟩
  case contains =>
    exact exists_atom_of_map_affirmed (fun _ made => holdsPart_eq_ok made ▸ .part asked) compiled
  case above =>
    exact exists_atom_of_map_affirmed (fun _ made => limit_eq_ok made ▸ .above asked) compiled
  case atLeast =>
    exact exists_atom_of_map_affirmed (fun _ made => limit_eq_ok made ▸ .atLeast asked) compiled
  case below =>
    exact exists_atom_of_map_affirmed (fun _ made => limit_eq_ok made ▸ .below asked) compiled
  case atMost =>
    exact exists_atom_of_map_affirmed (fun _ made => limit_eq_ok made ▸ .atMost asked) compiled
  case between => exact exists_atom_of_map_affirmed (fun _ => atom_of_between asked) compiled

end Condition

/-! ### Entries -/

/-- Two steps in a row over a list, put together item by item. -/
theorem exists_forall₂_map_eq {α β γ δ : Type} {first : α → β → Prop} {second : β → γ → Prop}
    {whole : α → δ → Prop} {make : δ → γ} {as : List α} {bs : List β} {cs : List γ}
    (each : ∀ a ∈ as, ∀ b c, first a b → second b c → ∃ d, whole a d ∧ make d = c)
    (firsts : List.Forall₂ first as bs) (seconds : List.Forall₂ second bs cs) :
    ∃ ds, List.Forall₂ whole as ds ∧ ds.map make = cs := by
  induction firsts generalizing cs with
  | nil =>
    cases seconds
    exact ⟨[], .nil, rfl⟩
  | cons one _ ih =>
    cases seconds with
    | cons two seconds =>
      obtain ⟨d, held, made⟩ := each _ List.mem_cons_self _ _ one two
      obtain ⟨ds, helds, mades⟩ := ih (fun a inside => each a (List.mem_cons_of_mem _ inside)) seconds
      exact ⟨d :: ds, .cons held helds, by rw [List.map_cons, made, mades]⟩

namespace FilterTree

variable {schema : Schema}

/-- The strict mode leaves out no entry. -/
theorem nodeOf_strict_ne_none (key : String) (value : Json) :
    (nodeOf .strict schema key value).result ≠ .ok none := by
  intro dropped
  cases plain : value.member? logicName with
  | none =>
    rw [nodeOf_of_noLogic _ plain, leafOf] at dropped
    obtain ⟨condition, kept, dropped⟩ := Logged.result_andThen_eq_ok.mp dropped
    obtain ⟨condition, _, rfl⟩ := Mode.keep_strict_eq_ok.mp kept
    cases dropped
  | some marker =>
    -- Only an object has a member that joins, so nothing else is a group.
    cases value with
    | object members =>
      rw [nodeOf_of_logic _ plain] at dropped
      obtain ⟨logic, kept, dropped⟩ := Logged.result_andThen_eq_ok.mp dropped
      obtain ⟨logic, _, rfl⟩ := Mode.keep_strict_eq_ok.mp kept
      obtain ⟨children, _, dropped⟩ := Logged.result_andThen_eq_ok.mp dropped
      cases dropped
    | _ => cases plain

theorem clauseOf_strict_ne_none (logic : Logic) (tree : FilterTree) :
    (clauseOf .strict logic tree).result ≠ .ok none := by
  intro dropped
  cases tree with
  | leaf condition =>
    rw [clauseOf] at dropped
    obtain ⟨part, _, impossible⟩ := Mode.keep_strict_eq_ok.mp dropped
    cases impossible
  | group inner children =>
    rw [clauseOf] at dropped
    obtain ⟨parts, _, impossible⟩ := Logged.result_andThen_eq_ok.mp dropped
    cases impossible

theorem conditionOf_eq_ok {key : String} {raw : Json} {condition : Condition}
    (read : conditionOf schema key raw = .ok condition) :
    ∃ asked field property stored, FilterKey.read key = .ok asked ∧
      schema.resolve asked.field = .ok field ∧ schema.find? field = some property ∧
      property.normalize raw = .ok stored ∧
      condition = ⟨asked.operator, field, property.kind, stored⟩ := by
  obtain ⟨asked, named, read⟩ := bind_eq_ok.mp read
  obtain ⟨field, stands, read⟩ := bind_eq_ok.mp read
  obtain ⟨property, got, read⟩ := bind_eq_ok.mp read
  have found := Schema.find?_of_get got
  cases normal : property.normalize raw with
  | error fault =>
    rw [normal] at read
    cases read
  | ok stored =>
    rw [normal] at read
    cases read
    exact ⟨asked, field, property, stored, named, stands, found, normal, rfl⟩

theorem rendered_of_leaf {key : String} {raw : Json} (plain : raw.member? logicName = none)
    {tree : FilterTree} {logic : Logic} {clause : Occur × Query}
    (read : (leafOf .strict schema key raw).result = .ok (some tree))
    (compiled : (clauseOf .strict logic tree).result = .ok (some clause)) :
    ∃ part, Rendered schema (key, raw) part ∧ logic.place part = clause := by
  obtain ⟨kept, ran, done⟩ := Logged.result_andThen_eq_ok.mp read
  obtain ⟨condition, made, rfl⟩ := Mode.keep_strict_eq_ok.mp ran
  cases done
  rw [clauseOf] at compiled
  obtain ⟨clause', accepted, same⟩ := Mode.keep_strict_eq_ok.mp compiled
  cases same
  obtain ⟨part, atom, placed⟩ := Condition.exists_atom_of_clause accepted
  obtain ⟨asked, field, property, stored, named, stands, found, normal, rfl⟩ := conditionOf_eq_ok made
  exact ⟨part, .leaf plain named stands found normal atom, placed⟩

/-- **The entries of a group are rendered by its parts**, if each entry is by one. -/
theorem exists_parts_of_clauses {entries : Members Json} {children : List FilterTree} {logic : Logic}
    {clauses : List (Occur × Query)}
    (each : ∀ entry ∈ entries, ∀ tree clause,
      (nodeOf .strict schema entry.1 entry.2).result = .ok (some tree) →
      (clauseOf .strict logic tree).result = .ok (some clause) →
      ∃ part, Rendered schema entry part ∧ logic.place part = clause)
    (walked : (Logged.filterMap (fun entry => nodeOf .strict schema entry.1 entry.2) entries).result =
      .ok children)
    (compiled : (FilterTree.clauses .strict logic children).result = .ok clauses) :
    ∃ parts, List.Forall₂ (Rendered schema) entries parts ∧
      (BoolQuery.ofList clauses).build = .ofParts logic parts := by
  have nodes := Logged.forall₂_of_filterMap
    (fun entry _ => nodeOf_strict_ne_none entry.1 entry.2) walked
  rw [clauses_eq] at compiled
  have joins := Logged.forall₂_of_filterMap
    (fun child _ => clauseOf_strict_ne_none logic child) compiled
  obtain ⟨parts, rendered, placed⟩ := exists_forall₂_map_eq each nodes joins
  refine ⟨parts, rendered, ?_⟩
  rw [← placed, BoolQuery.build_place]

/-- **Both passes together render an entry**: the clause of its tree is that of its part. The induction is
on the entry's value, and goes into the entries of a group. -/
theorem rendered_of_clauseOf (raw : Json) :
    ∀ (key : String) (logic : Logic) (tree : FilterTree) (clause : Occur × Query),
      (nodeOf .strict schema key raw).result = .ok (some tree) →
      (clauseOf .strict logic tree).result = .ok (some clause) →
      ∃ part, Rendered schema (key, raw) part ∧ logic.place part = clause := by
  induction raw using Json.members_induction with
  | step raw ih =>
    intro key logic tree clause read compiled
    cases plain : raw.member? logicName with
    | none =>
      rw [nodeOf_of_noLogic _ plain] at read
      exact rendered_of_leaf plain read compiled
    | some marker =>
      cases raw with
      | object members =>
        have named : Members.get? members logicName = some marker := plain
        rw [nodeOf_of_logic _ named] at read
        obtain ⟨kept, ran, read⟩ := Logged.result_andThen_eq_ok.mp read
        obtain ⟨inner, joined, rfl⟩ := Mode.keep_strict_eq_ok.mp ran
        obtain ⟨children, walked, done⟩ := Logged.result_andThen_eq_ok.mp read
        cases done
        rw [groupEntries_eq] at walked
        rw [clauseOf] at compiled
        obtain ⟨clauses, accepted, done⟩ := Logged.result_andThen_eq_ok.mp compiled
        cases done
        -- The parts are placed by the group's own connective, the group itself by that around it.
        have each := fun entry (within : entry ∈ members.filter fun entry => entry.1 ≠ logicName) =>
          ih members rfl entry (List.mem_filter.mp within).1 entry.1 inner
        obtain ⟨parts, rendered, built⟩ := exists_parts_of_clauses each walked accepted
        refine ⟨_, .group named joined rendered, ?_⟩
        rw [built]
        rfl
      | _ => cases plain

end FilterTree

/-! ### What a query mentions -/

namespace Query

/-- The limits that are set. -/
def boundValues (bounds : Bounds) : List Json :=
  bounds.above.toList ++ bounds.atLeast.toList ++ bounds.below.toList ++ bounds.atMost.toList

mutual

/-- The fields that a query names, each time with the values that it is compared with. -/
def uses : Query → List (String × List Json)
  | .matchAll _ => []
  | .term conditions => conditions.map fun one => (one.1, [one.2])
  | .terms conditions => conditions
  | .range conditions => conditions.map fun one => (one.1, boundValues one.2)
  | .wildcard conditions => conditions.map fun one => (one.1, [])
  | .present field => [(field, [])]
  | .bool must should mustNot => usesOfAll must ++ usesOfAll should ++ usesOfAll mustNot

def usesOfAll : List Query → List (String × List Json)
  | [] => []
  | query :: rest => uses query ++ usesOfAll rest

end

theorem mem_usesOfAll {queries : List Query} {use : String × List Json} :
    use ∈ usesOfAll queries ↔ ∃ query ∈ queries, use ∈ query.uses := by
  induction queries with
  | nil => simp [usesOfAll]
  | cons query rest ih => simp [usesOfAll, ih]

/-- A group mentions what its parts do, and nothing else. -/
theorem exists_part_of_mem_uses {logic : Logic} {parts : List FilterPart} {use : String × List Json}
    (mentioned : use ∈ (ofParts logic parts).uses) : ∃ part ∈ parts, use ∈ part.query.uses := by
  unfold ofParts at mentioned
  by_cases none : parts.isEmpty = true
  · rw [if_pos none] at mentioned
    cases mentioned
  · rw [if_neg none] at mentioned
    cases logic with
    | and =>
      simp only [uses, List.mem_append, mem_usesOfAll] at mentioned
      rcases mentioned with (⟨query, inside, named⟩ | ⟨query, inside, _⟩) | ⟨query, inside, named⟩
      · obtain ⟨part, chosen, rfl⟩ := List.mem_map.mp inside
        exact ⟨part, (List.mem_filter.mp chosen).1, named⟩
      · cases inside
      · obtain ⟨part, chosen, rfl⟩ := List.mem_map.mp inside
        exact ⟨part, (List.mem_filter.mp chosen).1, named⟩
    | or =>
      simp only [uses, List.mem_append, mem_usesOfAll] at mentioned
      rcases mentioned with (⟨query, inside, _⟩ | ⟨query, inside, named⟩) | ⟨query, inside, _⟩
      · cases inside
      · obtain ⟨part, there, rfl⟩ := List.mem_map.mp inside
        refine ⟨part, there, ?_⟩
        -- A negation mentions what is negated.
        by_cases denied : part.denied = true
        · rw [if_pos denied] at named
          simpa [negation, uses, usesOfAll] using named
        · rwa [if_neg denied] at named
      · cases inside

end Query

/-- **The conditions of a filter**, at any depth: its entries that are no groups, and the conditions of
its groups. -/
inductive IsConditionOf : Members Json → String × Json → Prop
  | here {entries : Members Json} {entry : String × Json} (inside : entry ∈ entries)
      (plain : entry.2.member? logicName = none) : IsConditionOf entries entry
  | deeper {entries members : Members Json} {key : String} {marker : Json} {entry : String × Json}
      (inside : (key, .object members) ∈ entries) (named : members.get? logicName = some marker)
      (within : IsConditionOf (members.filter fun entry => entry.1 ≠ logicName) entry) :
      IsConditionOf entries entry

/-- **What a query mentions comes from a condition**: the field is in the schema and no alias, the
condition's key names it, and it is compared with the condition's value as the field stores it, or with
items of this. -/
def IsGrounded (schema : Schema) (entries : Members Json) (use : String × List Json) : Prop :=
  ∃ (key : String) (raw stored : Json) (asked : FilterKey) (property : Property),
    IsConditionOf entries (key, raw) ∧ FilterKey.read key = .ok asked ∧
      schema.resolve asked.field = .ok use.1 ∧ schema.find? use.1 = some property ∧
      property.isAlias = false ∧ property.normalize raw = .ok stored ∧
      ∀ value ∈ use.2, value = stored ∨ ∃ items, stored = .array items ∧ value ∈ items

/-- The values of an atomic clause are the condition's value, or items of it. -/
theorem Condition.Atom.uses_eq {condition : Condition} {part : FilterPart} (atom : condition.Atom part) :
    ∃ values, part.query.uses = [(condition.field, values)] ∧ ∀ value ∈ values,
      value = condition.value ∨ ∃ items, condition.value = .array items ∧ value ∈ items := by
  have whole : ∀ value ∈ [condition.value],
      value = condition.value ∨ ∃ items, condition.value = .array items ∧ value ∈ items :=
    List.forall_mem_singleton.mpr (.inl rfl)
  cases atom with
  | absent | present | part => exact ⟨[], rfl, List.forall_mem_nil _⟩
  | one => exact ⟨[condition.value], rfl, whole⟩
  | several asked listed => exact ⟨_, rfl, fun value inside => .inr ⟨_, listed, inside⟩⟩
  | above | atLeast | below | atMost => exact ⟨[condition.value], rfl, whole⟩
  | @between a b low high asked pair ends =>
    refine ⟨[low, high], rfl, fun value inside => .inr ⟨[a, b], pair, ?_⟩⟩
    rcases ends with same | same <;> cases same
    · exact inside
    · exact List.Perm.mem_iff (.swap ..) |>.mp inside

/-- **What a part mentions comes from a condition** of the entry that it renders. The induction is on the
entry's value. -/
theorem Rendered.isGrounded {schema : Schema} (raw : Json) :
    ∀ {key : String} {entries : Members Json} {part : FilterPart}, (key, raw) ∈ entries →
      Rendered schema (key, raw) part → ∀ use ∈ part.query.uses, IsGrounded schema entries use := by
  induction raw using Json.members_induction with
  | step raw ih =>
    intro key entries part inside rendered use mentioned
    cases rendered with
    | @leaf _ _ stored asked field property _ plain named stands found normal atom =>
      obtain ⟨values, uses, fromValue⟩ := atom.uses_eq
      rw [uses] at mentioned
      cases List.mem_singleton.mp mentioned
      obtain ⟨property', found', isField⟩ := Schema.find?_of_resolve stands
      -- A name resolves to a field that is no alias, and a schema has one property for it.
      have same : property' = property := Option.some.inj (found'.symm.trans found)
      subst same
      exact ⟨key, raw, stored, asked, property', .here inside plain, named, stands, found, isField, normal,
        fromValue⟩
    | @group _ members marker logic parts named joined each =>
      obtain ⟨part, there, mentioned⟩ := Query.exists_part_of_mem_uses mentioned
      obtain ⟨entry, within, rendered⟩ := exists_of_mem_right each there
      have grounded := ih members rfl entry (List.mem_filter.mp within).1 within rendered use mentioned
      obtain ⟨key', raw', stored, asked, property, condition, known⟩ := grounded
      exact ⟨key', raw', stored, asked, property, .deeper inside named condition, known⟩

/-! ### Whole filters -/

/-- **An accepted filter is rendered entry by entry**, and what its query mentions comes from its
conditions. -/
theorem FilterCompiler.rendered_of_compile {hierarchy : Option Hierarchy} {schema : Schema}
    {filter : Members Json} {query : Query}
    (accepted : (compile ⟨.strict, hierarchy⟩ schema filter).result = .ok query) :
    (∃ parts, List.Forall₂ (Rendered schema) (rewritten hierarchy filter) parts ∧
      query = .ofParts .and parts) ∧
    ∀ use ∈ query.uses, IsGrounded schema (rewritten hierarchy filter) use := by
  rw [compile_eq] at accepted
  obtain ⟨children, walked, accepted⟩ := Logged.result_andThen_eq_ok.mp accepted
  obtain ⟨clauses, compiled, done⟩ := Logged.result_andThen_eq_ok.mp accepted
  cases done
  obtain ⟨parts, rendered, built⟩ := FilterTree.exists_parts_of_clauses
    (fun entry _ => FilterTree.rendered_of_clauseOf entry.2 entry.1 .and) walked compiled
  rw [built]
  refine ⟨⟨parts, rendered, rfl⟩, fun use mentioned => ?_⟩
  obtain ⟨part, there, mentioned⟩ := Query.exists_part_of_mem_uses mentioned
  obtain ⟨entry, inside, held⟩ := exists_of_mem_right rendered there
  exact Rendered.isGrounded entry.2 inside held use mentioned

/-- A denied list beside an OR group of an absence, a negation and a group of nothing, and a limit. -/
theorem FilterCompiler.rendered_of_compile_nested :
    let schema : Schema :=
      ⟨[("ID", .ofKind .integer), ("NAME", .ofKind .keyword), ("TITLE", .ofAlias "NAME")], by decide⟩
    let filter : Members Json :=
      [ ("!ID", .array [.ofNat 1, .ofNat 2]),
        ("any", .object
          [ ("LOGIC", .string "or"), ("TITLE", .null), ("!NAME", .string "a"),
            ("all", .object [("LOGIC", .string "AND")]) ]),
        (">=ID", .ofNat 3) ]
    let query : Query :=
      .bool
        [ .bool [] [ .negation (.present "NAME"), .negation (.onTerm "NAME" (.string "a")), .everything ] [],
          .onRange "ID" { atLeast := Json.ofNat 3 } ]
        [] [.onTerms "ID" [.ofNat 1, .ofNat 2]]
    (compile ⟨.strict, none⟩ schema filter).result = .ok query ∧
      (∃ parts, List.Forall₂ (Rendered schema) filter parts ∧ query = .ofParts .and parts) ∧
      IsGrounded schema filter ("NAME", [.string "a"]) := by
  intro schema filter query
  have accepted : (compile ⟨.strict, none⟩ schema filter).result = .ok query := by decide
  obtain ⟨rendered, grounded⟩ := rendered_of_compile accepted
  have mentioned : ("NAME", [Json.string "a"]) ∈ query.uses := by decide
  exact ⟨accepted, rendered, grounded _ mentioned⟩

end CatalogSearch
