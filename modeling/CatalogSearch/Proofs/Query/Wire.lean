/-
**What is compiled is read back as it was written.**

In its written form a query leaves out what is absent or empty, and reading puts it back. One thing is lost
on the way: a limit that is null is read as no limit. No condition has such a limit, in either mode.

* `Bounds.HasNoNull`, `Query.Plain` — queries without a limit that is null, and without a weight;
* `Query.Plain.ofJson?_toJson` — these are read back, by induction over their clauses;
* `FilterTree.plain_of_clauseOf`, `FilterCompiler.plain_of_compile` — every compiled query is one of them;
* `SortClause.ofJson?_toJson` — every sort clause is read back: by no name of a field does a clause of fields
  become one of a script;
* `ofJson?_toJson_of_compile` — filters and sorts as a whole.
-/

import CatalogSearch.Proofs.Filter.Meaning
import CatalogSearch.Proofs.Filter.Traversal
import CatalogSearch.Proofs.Strict
import CatalogSearch.Query.Wire
import CatalogSearch.Sort.Compile

namespace CatalogSearch

/-- Members whose values are read back are read back. -/
theorem Json.membersOf?_map {α : Type} {read? : Json → Option α} {write : α → Json} {members : Members α}
    (each : ∀ entry ∈ members, read? (write entry.2) = some entry.2) :
    membersOf? read? (.object (members.map fun entry => (entry.1, write entry.2))) = some members := by
  show (members.map fun entry => (entry.1, write entry.2)).mapM
    (fun entry => (read? entry.2).map (entry.1, ·)) = some members
  induction members with
  | nil => rfl
  | cons head rest ih =>
    obtain ⟨first, others⟩ := List.forall_mem_cons.mp each
    rw [List.map_cons, List.mapM_cons, first, ih others]
    rfl

/-! ### Limits -/

namespace Bounds

/-- No limit is null. -/
def HasNoNull (bounds : Bounds) : Prop :=
  ∀ limit ∈ [bounds.above, bounds.atLeast, bounds.below, bounds.atMost], limit ≠ some .null

theorem fields?_toJson (bounds : Bounds) :
    bounds.toJson.fields? ["gt", "gte", "lt", "lte"] =
      some [bounds.above, bounds.atLeast, bounds.below, bounds.atMost] := by
  obtain ⟨above, atLeast, below, atMost⟩ := bounds
  cases above <;> cases atLeast <;> cases below <;> cases atMost <;> rfl

theorem limit_of_ne_null {limit : Option Json} (some : limit ≠ .some .null) : Bounds.limit limit = limit := by
  unfold Bounds.limit
  split
  · exact absurd rfl some
  · rfl

/-- **Limits that are not null are read back.** -/
theorem ofJson?_toJson {bounds : Bounds} (noNull : bounds.HasNoNull) :
    ofJson? bounds.toJson = some bounds := by
  simp only [HasNoNull, List.forall_mem_cons] at noNull
  obtain ⟨above, atLeast, below, atMost, _⟩ := noNull
  rw [ofJson?, fields?_toJson]
  simp only [limit_of_ne_null above, limit_of_ne_null atLeast, limit_of_ne_null below,
    limit_of_ne_null atMost]

end Bounds

/-! ### Queries -/

namespace Query

/-- **Queries without a limit that is null, and without a weight.** -/
inductive Plain : Query → Prop
  | everything : Plain .everything
  | term (conditions : List (String × Json)) : Plain (.term conditions)
  | terms (conditions : List (String × List Json)) : Plain (.terms conditions)
  | range {conditions : List (String × Bounds)} (limited : ∀ one ∈ conditions, one.2.HasNoNull) :
      Plain (.range conditions)
  | wildcard (conditions : List (String × Json)) : Plain (.wildcard conditions)
  | present (field : String) : Plain (.present field)
  | bool {must should mustNot : List Query} (musts : ∀ query ∈ must, Plain query)
      (shoulds : ∀ query ∈ should, Plain query) (mustNots : ∀ query ∈ mustNot, Plain query) :
      Plain (.bool must should mustNot)

/-- Queries that are read back one by one are read back as a list. -/
theorem ofJsonList?_toJsonList {queries : List Query}
    (each : ∀ query ∈ queries, ofJson? query.toJson = some query) :
    ofJsonList? (toJsonList queries) = some queries := by
  induction queries with
  | nil => rfl
  | cons query rest ih =>
    obtain ⟨first, others⟩ := List.forall_mem_cons.mp each
    rw [toJsonList, ofJsonList?, first, ih others]
    rfl

/-- A clause list is read from the member of its name, and is empty without one. -/
theorem namedClauses?_eq (name : String) (members : Members Json) :
    namedClauses? name members = ((members.get? name).map clauses?).getD (some []) := by
  induction members with
  | nil => rfl
  | cons head rest ih =>
    obtain ⟨key, value⟩ := head
    rw [namedClauses?, Members.get?]
    by_cases same : key = name
    · rw [if_pos same, if_pos same]
      rfl
    · rw [if_neg same, if_neg same, ih]

theorem get?_clauseMember (name other : String) (clauses : List Json) :
    (clauseMember name clauses).get? other =
      if name = other ∧ clauses ≠ [] then some (.array clauses) else none := by
  cases clauses <;> by_cases same : name = other <;> simp [clauseMember, Members.get?, same]

theorem toJsonList_ne_nil {queries : List Query} : toJsonList queries ≠ [] ↔ queries ≠ [] := by
  cases queries <;> simp [toJsonList]

/-- A clause list that is left out is empty, so it is read back like any other. -/
theorem clauses_of_get? {queries : List Query} {found : Option Json}
    (each : ∀ query ∈ queries, ofJson? query.toJson = some query)
    (stands : found = if toJsonList queries ≠ [] then some (.array (toJsonList queries)) else none) :
    (found.map clauses?).getD (some []) = some queries := by
  rw [stands]
  by_cases none : queries = []
  · subst none
    rfl
  · rw [if_pos (toJsonList_ne_nil.mpr none)]
    exact ofJsonList?_toJsonList each

/-- **Three clause lists under their names are told apart.** -/
theorem bool?_clauseMembers {must should mustNot : List Query}
    (musts : ∀ query ∈ must, ofJson? query.toJson = some query)
    (shoulds : ∀ query ∈ should, ofJson? query.toJson = some query)
    (mustNots : ∀ query ∈ mustNot, ofJson? query.toJson = some query) :
    bool? (.object (clauseMember "must" (toJsonList must) ++ clauseMember "should" (toJsonList should) ++
      clauseMember "must_not" (toJsonList mustNot))) = some (.bool must should mustNot) := by
  rw [bool?, namedClauses?_eq, namedClauses?_eq, namedClauses?_eq]
  rw [clauses_of_get? musts (by simp [Members.get?_append, get?_clauseMember]),
    clauses_of_get? shoulds (by simp [Members.get?_append, get?_clauseMember]),
    clauses_of_get? mustNots (by simp [Members.get?_append, get?_clauseMember])]
  rfl

/-- **A plain query is read back as it was written.** -/
theorem Plain.ofJson?_toJson {query : Query} (plain : query.Plain) : ofJson? query.toJson = some query := by
  induction plain with
  | everything => rfl
  | term conditions => rfl
  | terms conditions =>
    have lists : Json.membersOf? Json.items?
        (.object (conditions.map fun one => (one.1, .array one.2))) = some conditions :=
      Json.membersOf?_map fun _ _ => rfl
    exact congrArg (Option.map Query.terms) lists
  | range limited =>
    have bounds := Json.membersOf?_map fun one inside => Bounds.ofJson?_toJson (limited one inside)
    exact congrArg (Option.map Query.range) bounds
  | wildcard conditions => rfl
  | present field => rfl
  | bool _ _ _ musts shoulds mustNots => exact bool?_clauseMembers musts shoulds mustNots

end Query

/-! ### What filters are compiled to -/

/-- **The clauses of a list are plain queries if its parts are.** -/
theorem BoolQuery.plain_build {parts : List (Occur × Query)} (each : ∀ part ∈ parts, part.2.Plain) :
    (ofList parts).build.Plain := by
  have selected : ∀ occur, ∀ query ∈ Occur.select occur parts, query.Plain := fun occur query inside =>
    each _ (Occur.mem_select.mp inside)
  unfold build
  split
  · exact .everything
  · rw [ofList_eq]
    exact .bool (selected .must) (selected .should) (selected .mustNot)

namespace Condition

theorem plain_affirmed {query : Query} (plain : query.Plain) (logic : Logic) :
    (affirmed logic query).2.Plain := plain

theorem plain_denied {query : Query} (plain : query.Plain) (logic : Logic) :
    (denied logic query).2.Plain := by
  cases logic with
  | and => exact plain
  | or =>
    exact .bool (List.forall_mem_nil _) (List.forall_mem_nil _) (List.forall_mem_singleton.mpr plain)

theorem plain_holds (condition : Condition) : condition.holds.Plain := by
  unfold holds
  split
  · exact .terms _
  · exact .term _

theorem plain_of_map_affirmed {step : Except Error Query} {logic : Logic} {clause : Occur × Query}
    (each : ∀ query, step = .ok query → query.Plain)
    (compiled : step.map (affirmed logic) = .ok clause) : clause.2.Plain := by
  obtain ⟨query, made, rfl⟩ := map_eq_ok.mp compiled
  exact plain_affirmed (each query made) logic

/-- The one value of a condition is not null. -/
theorem ne_null_of_single {condition : Condition} {value : Json} (single : condition.single = .ok value) :
    value ≠ .null := by
  rintro rfl
  unfold Condition.single at single
  split at single
  · cases single
  · cases single
  · cases single
  · next other _ _ => exact other (Except.ok.inj single)

theorem plain_of_limit {condition : Condition} {bounds : Json → Bounds} {query : Query}
    (limits : ∀ value, value ≠ .null → (bounds value).HasNoNull)
    (made : condition.limit bounds = .ok query) : query.Plain := by
  obtain ⟨value, single, rfl⟩ := map_eq_ok.mp made
  exact .range (List.forall_mem_singleton.mpr (limits value (ne_null_of_single single)))

theorem plain_of_holdsPart {condition : Condition} {query : Query}
    (made : condition.holdsPart = .ok query) : query.Plain := by
  obtain ⟨value, _, rfl⟩ := map_eq_ok.mp made
  exact .wildcard _

/-- Values between which there is an order are not null. -/
theorem ne_null_of_isAfter? {a b : Json} {after : Bool} (ordered : Json.isAfter? a b = some after) :
    a ≠ .null ∧ b ≠ .null := by
  constructor
  · rintro rfl
    cases b <;> cases ordered
  · rintro rfl
    cases a <;> cases ordered

theorem plain_of_between {condition : Condition} {query : Query}
    (made : condition.between = .ok query) : query.Plain := by
  unfold Condition.between at made
  split at made
  · next a b _ =>
    cases ordered : Json.isAfter? a b with
    | none =>
      rw [ordered] at made
      cases made
    | some after =>
      obtain ⟨first, second⟩ := ne_null_of_isAfter? ordered
      rw [ordered] at made
      cases after <;> cases made <;>
        exact .range (by simp [Bounds.HasNoNull, first, second])
  · cases made

/-- **The clause of a condition is a plain query**: a value that is compared by order is not null. -/
theorem plain_of_clause {condition : Condition} {logic : Logic} {clause : Occur × Query}
    (compiled : condition.clause logic = .ok clause) : clause.2.Plain := by
  unfold Condition.clause at compiled
  cases asked : condition.operator <;> simp only [asked] at compiled
  case equals =>
    split at compiled <;> cases compiled
    · exact plain_denied (.present _) logic
    · exact plain_affirmed condition.plain_holds logic
  case notEquals =>
    split at compiled <;> cases compiled
    · exact plain_affirmed (.present _) logic
    · exact plain_denied condition.plain_holds logic
  case contains => exact plain_of_map_affirmed (fun _ => plain_of_holdsPart) compiled
  case between => exact plain_of_map_affirmed (fun _ => plain_of_between) compiled
  -- What is left sets one limit.
  all_goals
    refine plain_of_map_affirmed (fun _ => plain_of_limit fun value some => ?_) compiled
    simp [Bounds.HasNoNull, some]

end Condition

namespace FilterTree

/-- **The clause of a tree is a plain query**, in either mode. -/
theorem plain_of_clauseOf {mode : Mode} (tree : FilterTree) :
    ∀ logic clause, (clauseOf mode logic tree).result = .ok (some clause) → clause.2.Plain := by
  induction tree using children_induction with
  | leaf condition =>
    intro logic clause compiled
    rw [clauseOf] at compiled
    exact Condition.plain_of_clause (Mode.of_keep_eq_some compiled)
  | group inner children ih =>
    intro logic clause compiled
    rw [clauseOf, clauses_eq] at compiled
    obtain ⟨parts, ran, done⟩ := Logged.result_andThen_eq_ok.mp compiled
    cases done
    exact BoolQuery.plain_build
      (Logged.forall_of_filterMap (fun child inside => ih child inside inner) ran)

theorem plain_of_compileGroup {mode : Mode} {logic : Logic} {children : List FilterTree} {query : Query}
    (compiled : (compileGroup mode logic children).result = .ok query) : query.Plain := by
  rw [compileGroup, clauses_eq] at compiled
  obtain ⟨parts, ran, done⟩ := Logged.result_andThen_eq_ok.mp compiled
  cases done
  exact BoolQuery.plain_build
    (Logged.forall_of_filterMap (fun child _ => plain_of_clauseOf child logic) ran)

end FilterTree

/-- **Every compiled query is plain.** -/
theorem FilterCompiler.plain_of_compile {compiler : FilterCompiler} {schema : Schema}
    {filter : Members Json} {query : Query} (compiled : (compiler.compile schema filter).result = .ok query) :
    query.Plain := by
  rw [compile_eq] at compiled
  obtain ⟨children, _, made⟩ := Logged.result_andThen_eq_ok.mp compiled
  exact FilterTree.plain_of_compileGroup made

/-! ### Sort clauses -/

theorem FieldSort.ofJson?_toJson (sort : FieldSort) : ofJson? sort.toJson = some sort := by
  obtain ⟨order, missing⟩ := sort
  cases order <;> cases missing with
  | none => rfl
  | some missing => cases missing <;> rfl

theorem ScriptSort.ofJson?_toJson (sort : ScriptSort) : ofJson? sort.toJson = some sort := by
  obtain ⟨type, lang, source, params, order⟩ := sort
  -- No parameters are left out, and nothing is read as none.
  cases params <;> cases order <;> rfl

/-- **The sort of a field is not taken for a script.** -/
theorem FieldSort.scriptSort_ofJson? (sort : FieldSort) : ScriptSort.ofJson? sort.toJson = none := by
  obtain ⟨order, missing⟩ := sort
  cases missing <;> rfl

namespace SortClause

/-- **Every sort clause is read back as it was written**, also one of fields of which one is named as scripts
are. -/
theorem ofJson?_toJson (clause : SortClause) : ofJson? clause.toJson = some clause := by
  cases clause with
  | script sort =>
    have read : ((toJson (.script sort)).member? "_script").bind ScriptSort.ofJson? = some sort :=
      sort.ofJson?_toJson
    rw [ofJson?, read]
  | fields sorts =>
    have noScript : ((toJson (.fields sorts)).member? "_script").bind ScriptSort.ofJson? = none := by
      cases found : (toJson (.fields sorts)).member? "_script" with
      | none => rfl
      | some value =>
        obtain ⟨field, _, same⟩ := List.mem_map.mp (Members.mem_of_get? found)
        obtain ⟨_, rfl⟩ := Prod.mk.inj same
        exact field.2.scriptSort_ofJson?
    have read : Json.membersOf? FieldSort.ofJson? (toJson (.fields sorts)) = some sorts :=
      Json.membersOf?_map fun field _ => field.2.ofJson?_toJson
    rw [ofJson?, noScript]
    exact congrArg (Option.map SortClause.fields) read

end SortClause

/-! ### Filters and sorts as a whole -/

/-- **Whatever is compiled is read back as it was written**, in either mode: the query of a filter, and each
clause of a sort. -/
theorem ofJson?_toJson_of_compile (schema : Schema) :
    (∀ (compiler : FilterCompiler) filter query,
      (compiler.compile schema filter).result = .ok query → Query.ofJson? query.toJson = some query) ∧
    (∀ (compiler : SortCompiler) pairs clauses, (compiler.compile schema pairs).result = .ok clauses →
      ∀ clause ∈ clauses, SortClause.ofJson? clause.toJson = some clause) ∧
    (∀ (compiler : SortCompiler) sort clauses,
      (compiler.compileMembers schema sort).result = .ok clauses →
        ∀ clause ∈ clauses, SortClause.ofJson? clause.toJson = some clause) :=
  ⟨fun _ _ _ compiled => (FilterCompiler.plain_of_compile compiled).ofJson?_toJson,
    fun _ _ _ _ clause _ => clause.ofJson?_toJson, fun _ _ _ _ clause _ => clause.ofJson?_toJson⟩

/-- A field named as scripts are, in a group beside an entry that is dropped, and as the field of a sort that
puts empty documents last; and an object that its field stores as it is. -/
theorem ofJson?_toJson_of_compile_script :
    let schema : Schema :=
      ⟨[("_script", .ofKind .integer), ("PLACE", .ofKind (.other "geo_point"))], by decide⟩
    let filter : Members Json :=
      [ ("PLACE", .object [("lat", .null), ("lon", .array [])]), (">_script", .null),
        ("any", .object
          [("LOGIC", .string "or"), ("!_script", .string "N"), ("><_script", .array [.ofNat 2, .ofNat 1])]) ]
    let query : Query :=
      .bool
        [ .onTerm "PLACE" (.object [("lat", .null), ("lon", .array [])]),
          .bool [] [.present "_script", .onRange "_script" { atLeast := Json.ofNat 1, atMost := Json.ofNat 2 }] [] ]
        [] []
    let clauses : List SortClause :=
      [nullRank "_script" .integer .last, .onField "_script" .desc (some .last)]
    (FilterCompiler.compile ⟨.lenient, none⟩ schema filter).result = .ok query ∧
      Query.ofJson? query.toJson = some query ∧
      (SortCompiler.compile ⟨.strict⟩ schema [("_script", "desc,nulls")]).result = .ok clauses ∧
      (SortClause.onField "_script" .desc (some .last)).toJson =
        .object [("_script", .object [("order", .string "desc"), ("missing", .string "_last")])] ∧
      ∀ clause ∈ clauses, SortClause.ofJson? clause.toJson = some clause := by
  intro schema filter query clauses
  have compiled : (FilterCompiler.compile ⟨.lenient, none⟩ schema filter).result = .ok query := by decide
  have sorted : (SortCompiler.compile ⟨.strict⟩ schema [("_script", "desc,nulls")]).result = .ok clauses := by
    decide
  obtain ⟨filters, sorts, _⟩ := ofJson?_toJson_of_compile schema
  exact ⟨compiled, filters _ _ _ compiled, sorted, rfl, sorts _ _ _ sorted⟩

/-- A limit that is null is lost. -/
example :
    Query.ofJson? (Query.onRange "PRICE" { above := some .null }).toJson = some (.onRange "PRICE" {}) := rfl

end CatalogSearch
