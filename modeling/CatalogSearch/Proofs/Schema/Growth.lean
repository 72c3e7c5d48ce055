/-
**A schema that grows changes nothing that already compiles.**

A schema grows when fields are added to it, at any places. What a filter or a sort that the strict mode
accepts asks of its schema is the fields it names, and of these the larger schema knows the same.

* `Schema.find?_of_subset`, `Schema.resolve_of_subset` — a name keeps its field, whether it is an alias or
  not;
* `FilterTree.conditionOf_of_subset`, `FilterTree.result_nodeOf_of_subset` — an entry keeps its condition,
  and its tree whatever it is nested in;
* `Schema.HasDecoded` — a field of codes that a sort names has its companion;
* `SortCompiler.compileOne_of_subset` — then a directive keeps its clauses;
* `Schema.same_compilation_of_subset` — filters and sorts as a whole.
-/

import CatalogSearch.Proofs.Filter.Shape
import CatalogSearch.Sort.Compile

namespace CatalogSearch

/-! ### Fields -/

namespace Schema

variable {schema larger : Schema} (grown : schema.fields ⊆ larger.fields) {name field : String}
  {property : Property}
include grown

/-- **A field keeps its definition**, at whatever place it stands. -/
theorem find?_of_subset (found : schema.find? name = some property) :
    larger.find? name = some property :=
  Members.get?_of_mem larger.distinct (grown (Members.mem_of_get? found))

theorem get_of_subset (got : schema.get name = .ok property) : larger.get name = .ok property := by
  rw [get, find?_of_subset grown (find?_of_get got)]

/-- **A name stands for the same field.** An alias that leads to a field of the schema never looks at what
was added. -/
theorem resolve_of_subset (resolved : schema.resolve name = .ok field) :
    larger.resolve name = .ok field := by
  obtain ⟨property, found, leads⟩ := resolve_eq_ok_iff.mp resolved
  refine resolve_eq_ok_iff.mpr ⟨property, find?_of_subset grown found, ?_⟩
  split at leads
  · next aliased =>
    obtain ⟨path, target, there, plain⟩ := leads
    rw [if_pos aliased]
    exact ⟨path, target, find?_of_subset grown there, plain⟩
  · next plain =>
    rw [if_neg plain]
    exact leads

end Schema

/-! ### Filters -/

namespace FilterTree

variable {schema larger : Schema} (grown : schema.fields ⊆ larger.fields)
include grown

/-- **An entry keeps its condition.** -/
theorem conditionOf_of_subset {key : String} {value : Json} {condition : Condition}
    (read : conditionOf schema key value = .ok condition) :
    conditionOf larger key value = .ok condition := by
  obtain ⟨asked, field, property, stored, named, stands, found, normal, rfl⟩ := conditionOf_eq_ok read
  have resolved := Schema.resolve_of_subset grown stands
  have got : larger.get field = .ok property := by
    rw [Schema.get, Schema.find?_of_subset grown found]
  refine bind_eq_ok.mpr ⟨asked, named, bind_eq_ok.mpr ⟨field, resolved, bind_eq_ok.mpr ⟨property, got, ?_⟩⟩⟩
  rw [normal]
  rfl

/-- **An entry keeps its tree**, by induction over what it holds. -/
theorem result_nodeOf_of_subset (value : Json) :
    ∀ key node, (nodeOf .strict schema key value).result = .ok node →
      (nodeOf .strict larger key value).result = .ok node := by
  induction value using Json.members_induction with
  | step value ih =>
    intro key node read
    cases plain : value.member? logicName with
    | none =>
      rw [nodeOf_of_noLogic _ plain, leafOf] at read ⊢
      obtain ⟨kept, held, done⟩ := Logged.result_andThen_eq_ok.mp read
      have stays := Mode.keep_strict_eq_ok_of_forall (fun _ => conditionOf_of_subset grown) held
      exact Logged.result_andThen_eq_ok.mpr ⟨kept, stays, done⟩
    | some marker =>
      cases value with
      | object members =>
        have named : Members.get? members logicName = some marker := plain
        rw [nodeOf_of_logic _ named] at read ⊢
        -- The connective is no matter of the schema; only the entries of the group are.
        obtain ⟨kept, joined, read⟩ := Logged.result_andThen_eq_ok.mp read
        refine Logged.result_andThen_eq_ok.mpr ⟨kept, joined, ?_⟩
        cases kept with
        | none => exact read
        | some logic =>
          obtain ⟨children, walked, done⟩ := Logged.result_andThen_eq_ok.mp read
          rw [groupEntries_eq] at walked
          refine Logged.result_andThen_eq_ok.mpr ⟨children, ?_, done⟩
          rw [groupEntries_eq]
          exact Logged.filterMap_eq_ok_of_forall
            (fun entry inside => ih members rfl entry (List.mem_filter.mp inside).1 entry.1) walked
      | _ => cases plain

end FilterTree

theorem FilterCompiler.result_compile_of_subset {schema larger : Schema}
    (grown : schema.fields ⊆ larger.fields) {hierarchy : Option Hierarchy} {filter : Members Json}
    {query : Query} (accepted : (compile ⟨.strict, hierarchy⟩ schema filter).result = .ok query) :
    (compile ⟨.strict, hierarchy⟩ larger filter).result = .ok query := by
  rw [compile_eq] at accepted ⊢
  obtain ⟨children, walked, compiled⟩ := Logged.result_andThen_eq_ok.mp accepted
  refine Logged.result_andThen_eq_ok.mpr ⟨children, ?_, compiled⟩
  exact Logged.filterMap_eq_ok_of_forall
    (fun entry _ => FilterTree.result_nodeOf_of_subset grown entry.2 entry.1) walked

/-! ### Sorts -/

/-- **The decoded values that a sort by a name needs are there**: where the name stands for a field of
codes, the schema has its companion. -/
def Schema.HasDecoded (schema : Schema) (name : String) : Prop :=
  ∀ field property, schema.resolve name = .ok field → schema.find? field = some property →
    property.hasEnumField = true → schema.contains (field ++ valueEnding) = true

/-- The field by which documents are ordered stays, and so does its kind if the companion of a field of
codes is there. -/
theorem sortTarget_of_subset {schema larger : Schema} (grown : schema.fields ⊆ larger.fields)
    {field : String} {property : Property}
    (decoded : property.hasEnumField = true → schema.contains (field ++ valueEnding) = true) :
    sortTarget larger field property = sortTarget schema field property := by
  unfold sortTarget
  by_cases coded : property.hasEnumField = true
  · obtain ⟨companion, found⟩ := Option.isSome_iff_exists.mp (decoded coded)
    simp only [if_pos coded, found, Schema.find?_of_subset grown found]
  · simp only [if_neg coded]

namespace SortCompiler

variable {schema larger : Schema} (grown : schema.fields ⊆ larger.fields)
include grown

/-- **A directive keeps its clauses.** -/
theorem compileOne_of_subset {field text : String} {clauses : List SortClause}
    (decoded : schema.HasDecoded field) (compiled : compileOne schema field text = .ok clauses) :
    compileOne larger field text = .ok clauses := by
  obtain ⟨directive, read, compiled⟩ := bind_eq_ok.mp compiled
  obtain ⟨target, resolved, compiled⟩ := bind_eq_ok.mp compiled
  obtain ⟨property, got, made⟩ := bind_eq_ok.mp compiled
  have named : directive.field = field := by
    unfold SortDirective.read at read
    split at read <;> cases read
    rfl
  have there := decoded target property (named ▸ resolved) (Schema.find?_of_get got)
  refine bind_eq_ok.mpr ⟨directive, read, bind_eq_ok.mpr ⟨target, Schema.resolve_of_subset grown resolved,
    bind_eq_ok.mpr ⟨property, Schema.get_of_subset grown got, ?_⟩⟩⟩
  rw [sortTarget_of_subset grown there]
  exact made

theorem result_compile_of_subset {pairs : List (String × String)} {clauses : List SortClause}
    (decoded : ∀ pair ∈ pairs, schema.HasDecoded pair.1)
    (accepted : (compile ⟨.strict⟩ schema pairs).result = .ok clauses) :
    (compile ⟨.strict⟩ larger pairs).result = .ok clauses := by
  obtain ⟨parts, ran, done⟩ := Logged.result_andThen_eq_ok.mp accepted
  refine Logged.result_andThen_eq_ok.mpr ⟨parts, ?_, done⟩
  refine Logged.filterMap_eq_ok_of_forall (fun pair inside _ held => ?_) ran
  exact Mode.keep_strict_eq_ok_of_forall (fun _ => compileOne_of_subset grown (decoded pair inside)) held

/-- The values of an object are read as texts before any schema is asked. -/
theorem result_compileMembers_of_subset {sort : Members Json} {clauses : List SortClause}
    (decoded : ∀ entry ∈ sort, schema.HasDecoded entry.1)
    (accepted : (compileMembers ⟨.strict⟩ schema sort).result = .ok clauses) :
    (compileMembers ⟨.strict⟩ larger sort).result = .ok clauses := by
  obtain ⟨pairs, read, compiled⟩ := Logged.result_andThen_eq_ok.mp accepted
  refine Logged.result_andThen_eq_ok.mpr ⟨pairs, read, result_compile_of_subset grown ?_ compiled⟩
  intro pair inside
  obtain ⟨entry, there, made⟩ := exists_of_mem_right (Mode.forall₂_of_keep_strict read) inside
  -- A pair has the name of its entry.
  have named : pair.1 = entry.1 := by
    unfold directiveText at made
    split at made <;> cases made
    rfl
  exact named ▸ decoded entry there

end SortCompiler

/-! ### Filters and sorts as a whole -/

/-- **What a schema compiles a larger one compiles to the same**: every filter that the strict mode accepts,
whatever the names of its sections, and every sort of which each field of codes has its companion. -/
theorem Schema.same_compilation_of_subset {schema larger : Schema}
    (grown : schema.fields ⊆ larger.fields) :
    (∀ hierarchy filter query,
      (FilterCompiler.compile ⟨.strict, hierarchy⟩ schema filter).result = .ok query →
        (FilterCompiler.compile ⟨.strict, hierarchy⟩ larger filter).result = .ok query) ∧
    (∀ pairs clauses, (∀ pair ∈ pairs, schema.HasDecoded pair.1) →
      (SortCompiler.compile ⟨.strict⟩ schema pairs).result = .ok clauses →
        (SortCompiler.compile ⟨.strict⟩ larger pairs).result = .ok clauses) ∧
    (∀ sort clauses, (∀ entry ∈ sort, schema.HasDecoded entry.1) →
      (SortCompiler.compileMembers ⟨.strict⟩ schema sort).result = .ok clauses →
        (SortCompiler.compileMembers ⟨.strict⟩ larger sort).result = .ok clauses) :=
  ⟨fun _ _ _ => FilterCompiler.result_compile_of_subset grown,
    fun _ _ => SortCompiler.result_compile_of_subset grown,
    fun _ _ => SortCompiler.result_compileMembers_of_subset grown⟩

/-- Fields are added in front, between and behind: an alias in a group keeps its field, a field of codes the
companion by which it is sorted. -/
theorem Schema.same_compilation_of_subset_between :
    let coded : Property := ⟨.integer, [("fields", .object [("enum", .null)])]⟩
    let schema : Schema :=
      ⟨[("COLOR", coded), ("COLOR_VALUE", .ofKind .keyword), ("PAINT", .ofAlias "COLOR")], by decide⟩
    let larger : Schema :=
      ⟨[ ("ID", .ofKind .long), ("COLOR", coded), ("PAINT_VALUE", .ofAlias "PAINT"),
         ("COLOR_VALUE", .ofKind .keyword), ("PAINT", .ofAlias "COLOR"), ("TAGS", .ofKind .text)], by decide⟩
    let filter : Members Json :=
      [("any", .object [("LOGIC", .string "or"), ("!PAINT", .ofNat 3), (">COLOR", .string "1")])]
    let query : Query :=
      .bool [.bool [] [.negation (.onTerm "COLOR" (.ofNat 3)), .onRange "COLOR" { above := Json.ofNat 1 }] []]
        [] []
    let clauses : List SortClause :=
      [nullRank "COLOR_VALUE" .keyword .first, .onField "COLOR_VALUE" .desc (some .first)]
    schema.fields ⊆ larger.fields ∧ schema.HasDecoded "PAINT" ∧
      (FilterCompiler.compile ⟨.strict, some {}⟩ schema filter).result = .ok query ∧
      (FilterCompiler.compile ⟨.strict, some {}⟩ larger filter).result = .ok query ∧
      (SortCompiler.compile ⟨.strict⟩ schema [("PAINT", "nulls,desc")]).result = .ok clauses ∧
      (SortCompiler.compile ⟨.strict⟩ larger [("PAINT", "nulls,desc")]).result = .ok clauses ∧
      (SortCompiler.compileMembers ⟨.strict⟩ larger [("PAINT", .string "nulls,desc")]).result =
        .ok clauses := by
  intro coded schema larger filter query clauses
  have grown : schema.fields ⊆ larger.fields := by decide
  have decoded : schema.HasDecoded "PAINT" := by
    intro field property resolved found _
    have target : field = "COLOR" := Except.ok.inj (resolved.symm.trans rfl)
    rw [target]
    rfl
  obtain ⟨filters, pairs, members⟩ := same_compilation_of_subset grown
  have accepted : (FilterCompiler.compile ⟨.strict, some {}⟩ schema filter).result = .ok query := by decide
  have sorted : (SortCompiler.compile ⟨.strict⟩ schema [("PAINT", "nulls,desc")]).result = .ok clauses := by
    decide
  exact ⟨grown, decoded, accepted, filters _ _ _ accepted, sorted,
    pairs _ _ (List.forall_mem_singleton.mpr decoded) sorted,
    members _ _ (List.forall_mem_singleton.mpr decoded) sorted⟩

/-- Without its companion a field of codes is ranked as its codes are, until the companion is added. -/
example :
    let coded : Property := ⟨.integer, [("fields", .object [("enum", .null)])]⟩
    let schema : Schema := ⟨[("COLOR", coded)], by decide⟩
    let larger : Schema := ⟨[("COLOR", coded), ("COLOR_VALUE", .ofKind .keyword)], by decide⟩
    SortCompiler.compileOne schema "COLOR" "nulls,asc" ≠
      SortCompiler.compileOne larger "COLOR" "nulls,asc" := by
  decide

end CatalogSearch
