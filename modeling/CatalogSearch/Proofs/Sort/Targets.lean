/-
**The fields that a sort names.**

A name of an accepted sort stands for a field of the schema that is no alias, and documents are ordered by the
values of that field, or of its companion if it holds codes. The companion is not looked for, its kind apart, so
that it can be a field that the schema does not have, or an alias. Nothing else is named.

* `SortClause.targets` — the fields that a clause names, as its key or as a parameter of its script;
* `SortCompiler.Accepts` — the names and the clauses of a sort that the strict mode accepts, given as pairs or as
  an object; `SortCompiler.Accepts.exists_pairs`: an object is compiled as its pairs are;
* `SortKey.Orders` — the field by whose values a name orders; `SortKey.plain_of_orders`: when the schema has it;
* `SortCompiler.targets_of_accepts` — what an accepted sort names, and when the schema has all of it.
-/

import CatalogSearch.Proofs.Sort.Order

namespace CatalogSearch

/-- The field that the parameters of a script name. -/
def ScriptSort.target? (sort : ScriptSort) : Option String := (sort.params.get? "field").bind Json.text?

/-- **The fields that a clause names**: its keys, or the field that its script is told. -/
def SortClause.targets : SortClause → List String
  | script sort => sort.target?.toList
  | fields sorts => sorts.map (·.1)

/-- The schema has a field of this name, and it is no alias. -/
def Schema.HasPlain (schema : Schema) (name : String) : Prop :=
  ∃ property, schema.find? name = some property ∧ property.isAlias = false

namespace SortKey

/-- **The field by whose values a name orders**: the one that it stands for, or the companion of that. -/
def Orders (schema : Schema) (name target : String) : Prop :=
  ∃ field property, schema.resolve name = .ok field ∧ schema.find? field = some property ∧
    target = ordering field property

variable {schema : Schema} {name target field : String} {property : Property}

/-- What a name stands for is plain, so that only a companion can be missing. -/
theorem plain_of_orders (orders : Orders schema name target)
    (companion : ∀ field property, schema.resolve name = .ok field → schema.find? field = some property →
      property.hasEnumField = true → schema.HasPlain (field ++ valueEnding)) :
    schema.HasPlain target := by
  obtain ⟨field, property, resolved, found, rfl⟩ := orders
  unfold ordering
  split
  · next coded => exact companion field property resolved found coded
  · exact Schema.find?_of_resolve resolved

/-- A field of codes orders by its companion. -/
theorem orders_companion (resolved : schema.resolve name = .ok field)
    (found : schema.find? field = some property) (coded : property.hasEnumField = true) :
    Orders schema name (field ++ valueEnding) :=
  ⟨field, property, resolved, found, (if_pos coded).symm⟩

/-- A name orders by one field at most. -/
theorem eq_of_orders {other : String} (orders : Orders schema name target) (again : Orders schema name other) :
    other = target := by
  obtain ⟨field, property, resolved, found, rfl⟩ := orders
  obtain ⟨_, _, resolved', found', rfl⟩ := again
  cases resolved.symm.trans resolved'
  cases found.symm.trans found'
  rfl

/-- The key of a pair has the field by which its name orders. -/
theorem orders_of_of? {pair : String × String} {key : SortKey} (asked : of? schema pair = some key) :
    Orders schema pair.1 key.field := by
  obtain ⟨directive, -, asked⟩ := Option.bind_eq_some_iff.mp asked
  obtain ⟨field, named, asked⟩ := Option.bind_eq_some_iff.mp asked
  obtain ⟨property, found, made⟩ := Option.bind_eq_some_iff.mp asked
  have resolved : schema.resolve pair.1 = .ok field := by
    cases outcome : schema.resolve pair.1 with
    | error error =>
      rw [outcome] at named
      cases named
    | ok _ =>
      rw [outcome] at named
      cases named
      rfl
  cases made
  exact ⟨field, property, resolved, found, rfl⟩

end SortKey

namespace SortCompiler

variable {schema : Schema} {names : List String} {clauses : List SortClause}

/-- **The script that sets empty documents apart names the field of its key**, and nothing else. -/
theorem targets_nullRank (field : String) (kind : Kind) (missing : Missing) :
    (nullRank field kind missing).targets = [field] := by
  unfold nullRank
  cases kind.emptyValue? <;> rfl

/-- **The clauses of one pair all name the field by which its name orders**, and there is one at least. -/
theorem targets_of_compileOne {pair : String × String}
    (compiled : compileOne schema pair.1 pair.2 = .ok clauses) :
    ∃ target, SortKey.Orders schema pair.1 target ∧ clauses ≠ [] ∧
      ∀ clause ∈ clauses, clause.targets = [target] := by
  obtain ⟨key, asked, rfl⟩ := SortKey.of?_of_compileOne compiled
  refine ⟨key.field, SortKey.orders_of_of? asked, by simp, fun clause inside => ?_⟩
  rcases List.mem_append.mp inside with ranked | natural
  · obtain ⟨missing, -, rfl⟩ := List.mem_map.mp ranked
    exact targets_nullRank key.field key.kind missing
  · cases List.mem_singleton.mp natural
    rfl

/-- **A sort that the strict mode accepts**: the names in it, and its clauses. -/
inductive Accepts (schema : Schema) : List String → List SortClause → Prop
  | pairs {pairs : List (String × String)} {clauses : List SortClause}
      (compiled : (compile ⟨.strict⟩ schema pairs).result = .ok clauses) :
      Accepts schema (pairs.map (·.1)) clauses
  | members {sort : Members Json} {clauses : List SortClause}
      (compiled : (compileMembers ⟨.strict⟩ schema sort).result = .ok clauses) :
      Accepts schema sort.names clauses

/-- An object that is accepted has texts alone, and is compiled as the pairs of its names and texts. -/
theorem Accepts.exists_pairs (accepts : Accepts schema names clauses) :
    ∃ pairs : List (String × String), pairs.map (·.1) = names ∧
      (compile ⟨.strict⟩ schema pairs).result = .ok clauses := by
  cases accepts with
  | pairs compiled => exact ⟨_, rfl, compiled⟩
  | @members sort _ accepted =>
    obtain ⟨pairs, ran, compiled⟩ := Logged.result_andThen_eq_ok.mp accepted
    refine ⟨pairs, ?_, compiled⟩
    have each := Mode.forall₂_of_keep_strict ran
    clear ran accepted compiled
    induction each with
    | nil => rfl
    | @cons member pair sort pairs read _ ih =>
      have named : pair.1 = member.1 := by
        unfold directiveText at read
        split at read <;> cases read
        rfl
      rw [List.map_cons, ih, named]
      rfl

/-- The clauses of an accepted sort name one field each, by which one of the sort's names orders; and each name
of the sort has such a clause. -/
theorem Accepts.targets (accepts : Accepts schema names clauses) :
    (∀ clause ∈ clauses, ∃ name ∈ names, ∃ target, SortKey.Orders schema name target ∧
      clause.targets = [target]) ∧
    ∀ name ∈ names, ∃ target, SortKey.Orders schema name target ∧
      ∃ clause ∈ clauses, clause.targets = [target] := by
  obtain ⟨pairs, rfl, compiled⟩ := accepts.exists_pairs
  obtain ⟨parts, ran, done⟩ := Logged.result_andThen_eq_ok.mp compiled
  cases done
  have each := Mode.forall₂_of_keep_strict ran
  clear ran compiled accepts
  induction each with
  | nil => exact ⟨by simp, by simp⟩
  | @cons pair part pairs parts made _ ih =>
    obtain ⟨target, orders, some, named⟩ := targets_of_compileOne made
    obtain ⟨sound, complete⟩ := ih
    constructor
    · intro clause inside
      rcases List.mem_append.mp inside with here | later
      · exact ⟨pair.1, List.mem_cons_self, target, orders, named clause here⟩
      · obtain ⟨name, there, target, orders, named⟩ := sound clause later
        exact ⟨name, List.mem_cons_of_mem _ there, target, orders, named⟩
    · intro name inside
      rcases List.mem_cons.mp inside with rfl | later
      · obtain ⟨clause, here⟩ := List.exists_mem_of_ne_nil _ some
        exact ⟨target, orders, clause, List.mem_append_left _ here, named clause here⟩
      · obtain ⟨target, orders, clause, there, named⟩ := complete name later
        exact ⟨target, orders, clause, List.mem_append_right _ there, named⟩

/-- **What an accepted sort names.** Every name of it stands for a field of the schema that is no alias. Each
clause names one field; the fields so named are those by which the names order, that is, the fields that the
names stand for, with the companions of those that hold codes in their place. So all of them are fields of the
schema and no aliases just if the companions are. -/
theorem targets_of_accepts (accepts : Accepts schema names clauses) :
    (∀ name ∈ names, ∃ field, schema.resolve name = .ok field ∧ schema.HasPlain field) ∧
    (∀ clause ∈ clauses, ∃ target, clause.targets = [target]) ∧
    (∀ target, (∃ clause ∈ clauses, target ∈ clause.targets) ↔
      ∃ name ∈ names, ∃ field property, schema.resolve name = .ok field ∧
        schema.find? field = some property ∧
        target = if property.hasEnumField then field ++ valueEnding else field) ∧
    ((∀ clause ∈ clauses, ∀ target ∈ clause.targets, schema.HasPlain target) ↔
      ∀ name ∈ names, ∀ field property, schema.resolve name = .ok field →
        schema.find? field = some property → property.hasEnumField = true →
          schema.HasPlain (field ++ valueEnding)) := by
  obtain ⟨sound, complete⟩ := accepts.targets
  refine ⟨fun name inside => ?_, fun clause inside => ?_, fun target => ⟨?_, ?_⟩, ?_, ?_⟩
  · obtain ⟨_, ⟨field, _, resolved, _⟩, _⟩ := complete name inside
    exact ⟨field, resolved, Schema.find?_of_resolve resolved⟩
  · obtain ⟨_, _, target, _, named⟩ := sound clause inside
    exact ⟨target, named⟩
  · rintro ⟨clause, inside, there⟩
    obtain ⟨name, given, other, orders, named⟩ := sound clause inside
    rw [named] at there
    cases List.mem_singleton.mp there
    exact ⟨name, given, orders⟩
  · rintro ⟨name, given, orders⟩
    obtain ⟨other, orders', clause, inside, named⟩ := complete name given
    refine ⟨clause, inside, ?_⟩
    rw [named, SortKey.eq_of_orders orders orders']
    exact List.mem_singleton_self _
  · intro plain name given field property resolved found coded
    obtain ⟨target, orders, clause, inside, named⟩ := complete name given
    have same := SortKey.eq_of_orders orders (SortKey.orders_companion resolved found coded)
    rw [same]
    exact plain clause inside target (named ▸ List.mem_singleton_self _)
  · intro companions clause inside target there
    obtain ⟨name, given, other, orders, named⟩ := sound clause inside
    rw [named] at there
    cases List.mem_singleton.mp there
    exact SortKey.plain_of_orders orders (companions name given)

/-- An object that sorts by the colour an alias names and by number, in a schema that has the decoded colours. -/
theorem targets_of_accepts_coded :
    let schema : Schema :=
      ⟨[("COLOR", ⟨.integer, [("fields", .object [("enum", .null)])]⟩), ("COLOR_VALUE", .ofKind .keyword),
        ("PAINT", .ofAlias "COLOR"), ("ID", .ofKind .integer)], by decide⟩
    let clauses : List SortClause :=
      [nullRank "COLOR_VALUE" .keyword .last, .onField "COLOR_VALUE" .desc (some .last),
        .onField "ID" .asc none]
    Accepts schema ["PAINT", "ID"] clauses ∧
      clauses.map SortClause.targets = [["COLOR_VALUE"], ["COLOR_VALUE"], ["ID"]] ∧
      ∀ clause ∈ clauses, ∀ target ∈ clause.targets, schema.HasPlain target := by
  intro schema clauses
  have accepts : Accepts schema ["PAINT", "ID"] clauses :=
    @Accepts.members schema [("PAINT", .string "desc,nulls"), ("ID", .string "asc")] clauses (by decide)
  obtain ⟨-, -, -, companions⟩ := targets_of_accepts accepts
  refine ⟨accepts, by decide, companions.mpr fun name given field property resolved found coded => ?_⟩
  rcases List.mem_pair.mp given with rfl | rfl
  · cases resolved
    exact ⟨_, rfl, rfl⟩
  · cases resolved
    cases found
    cases coded

/-- **A sort can name a field that the schema does not have**: the companion of a field of codes. -/
theorem not_targets_plain :
    ¬ ∀ (schema : Schema) (names : List String) (clauses : List SortClause), Accepts schema names clauses →
      ∀ clause ∈ clauses, ∀ target ∈ clause.targets, schema.HasPlain target := by
  intro plain
  let schema : Schema := ⟨[("COLOR", ⟨.integer, [("fields", .object [("enum", .object [])])]⟩)], by decide⟩
  have accepts : Accepts schema ["COLOR"] [.onField "COLOR_VALUE" .asc none] :=
    @Accepts.pairs schema [("COLOR", "asc")] _ (by decide)
  obtain ⟨property, found, -⟩ :=
    plain schema _ _ accepts _ List.mem_cons_self "COLOR_VALUE" List.mem_cons_self
  cases found

end SortCompiler
end CatalogSearch
