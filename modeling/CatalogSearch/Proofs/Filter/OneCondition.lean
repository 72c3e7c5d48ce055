/-
**Filters of one condition.**

A filter whose only entry is a condition is compiled to a query whose only clause is that condition's, so
what a condition means can be said of whole filters.

* `FilterKey.read_append` — a marker before a name is read as the two;
* `FilterCompiler.Asks` — what a key must be to compare a field of the schema, its section resolved and its
  alias followed; `FilterCompiler.asks_of_marker`, `asks_of_name`, `asks_of_bare`: a marker, an operator's sign
  or nothing before a name that is no section's;
* `FilterCompiler.Asks.normalize_eq`, `Asks.compile_eq` — the tree and the query of the filter.
-/

import CatalogSearch.Proofs.Filter.Sections

namespace CatalogSearch

/-- The sign of an operator has no word characters, and denotes that operator. -/
theorem Operator.ofMarker?_symbol (operator : Operator) :
    ofMarker? operator.symbol = some operator ∧
      ∀ c ∈ operator.symbol.toList, Text.isWord c = false := by
  have dark : operator.symbol.toList.all (fun c => !Text.isWord c) = true := by cases operator <;> decide
  refine ⟨by cases operator <;> rfl, fun c inside => ?_⟩
  simpa using List.all_eq_true.mp dark c inside

/-- **A marker before a name is read as the two.** -/
theorem FilterKey.read_append {marker name : String} {operator : Operator}
    (known : Operator.ofMarker? marker = some operator)
    (dark : ∀ c ∈ marker.toList, Text.isWord c = false) (named : name ≠ "")
    (word : ∀ c ∈ name.toList, Text.isWord c = true) :
    read (marker ++ name) = .ok ⟨operator, name⟩ := by
  unfold read
  rw [split?_append dark named word]
  simp only [known]

namespace FilterCompiler

/-- **The key compares a field of the schema.** The entry is put under some key, whatever its value is; that
key is read as the operator and a name; and the name stands for the field. -/
structure Asks (compiler : FilterCompiler) (schema : Schema) (key : String) (operator : Operator)
    (field : String) (property : Property) : Prop where
  /-- The key that is put, and the name in it. -/
  stands : ∃ put name, (∀ value, rewritten compiler.hierarchy [(key, value)] = [(put, value)]) ∧
    FilterKey.read put = .ok ⟨operator, name⟩ ∧ schema.resolve name = .ok field
  found : schema.find? field = some property

variable {compiler : FilterCompiler} {schema : Schema} {key field : String} {operator : Operator}
  {property : Property}

/-- **A marker before a name asks for the field that the name stands for**, unless the name is one of the
hierarchy's. -/
theorem asks_of_marker {marker name : String} (known : Operator.ofMarker? marker = some operator)
    (dark : ∀ c ∈ marker.toList, Text.isWord c = false) (named : name ≠ "")
    (word : ∀ c ∈ name.toList, Text.isWord c = true)
    (other : ∀ names, compiler.hierarchy = some names →
      name ≠ names.flag ∧ name ∉ names.idScopes ∧ name ∉ names.codeScopes)
    (resolved : schema.resolve name = .ok field) (found : schema.find? field = some property) :
    compiler.Asks schema (marker ++ name) operator field property := by
  refine ⟨⟨marker ++ name, name, fun value => ?_, FilterKey.read_append known dark named word, resolved⟩,
    found⟩
  unfold rewritten
  cases given : compiler.hierarchy with
  | none => rfl
  | some names =>
    have parts := FilterKey.split?_append dark named word
    refine Hierarchy.resolve_of_settled ?_ (List.nodup_singleton (marker ++ name))
    intro put same marker field split
    rw [List.mem_singleton.mp same] at split
    cases parts.symm.trans split
    exact other names given

/-- The sign of an operator is a marker. -/
theorem asks_of_name {name : String} (written : key = operator.symbol ++ name) (named : name ≠ "")
    (word : ∀ c ∈ name.toList, Text.isWord c = true)
    (other : ∀ names, compiler.hierarchy = some names →
      name ≠ names.flag ∧ name ∉ names.idScopes ∧ name ∉ names.codeScopes)
    (resolved : schema.resolve name = .ok field) (found : schema.find? field = some property) :
    compiler.Asks schema key operator field property := by
  obtain ⟨known, dark⟩ := operator.ofMarker?_symbol
  exact written ▸ asks_of_marker known dark named word other resolved found

/-- No marker means equality. -/
theorem asks_of_bare {name : String} (named : name ≠ "") (word : ∀ c ∈ name.toList, Text.isWord c = true)
    (other : ∀ names, compiler.hierarchy = some names →
      name ≠ names.flag ∧ name ∉ names.idScopes ∧ name ∉ names.codeScopes)
    (resolved : schema.resolve name = .ok field) (found : schema.find? field = some property) :
    compiler.Asks schema name .equals field property := by
  have asks : compiler.Asks schema ("" ++ name) .equals field property :=
    asks_of_marker rfl nofun named word other resolved found
  rwa [String.empty_append] at asks

namespace Asks

variable (asks : compiler.Asks schema key operator field property)

include asks

/-- The field is no alias: an alias stands for another field. -/
theorem isAlias_eq_false : property.isAlias = false := by
  obtain ⟨put, name, -, -, resolved⟩ := asks.stands
  obtain ⟨other, found, plain⟩ := Schema.find?_of_resolve resolved
  cases found.symm.trans asks.found
  exact plain

/-- **The tree of the filter is its condition**, with the value that the field stores. -/
theorem normalize_eq {value stored : Json} (plain : value.member? FilterTree.logicName = none)
    (normalized : property.normalize value = .ok stored) :
    compiler.normalize schema [(key, value)] =
      .done (.group .and [.leaf ⟨operator, field, property.kind, stored⟩]) := by
  obtain ⟨put, name, rewritten, read, resolved⟩ := asks.stands
  have got : schema.get field = .ok property := by simp only [Schema.get, asks.found]
  have condition : FilterTree.conditionOf schema put value =
      .ok ⟨operator, field, property.kind, stored⟩ := by
    simp only [FilterTree.conditionOf, read, bind, Except.bind, resolved, got, normalized]
    rfl
  have node : FilterTree.nodeOf compiler.mode schema put value =
      .done (some (.leaf ⟨operator, field, property.kind, stored⟩)) := by
    rw [FilterTree.nodeOf_of_noLogic compiler.mode plain, FilterTree.leafOf, condition]
    rfl
  rw [FilterCompiler.normalize_eq, rewritten, Logged.filterMap, node]
  simp only [Logged.done_andThen, Logged.filterMap, Option.toList, List.append_nil]

/-- **The filter is compiled to the clause of its condition.** -/
theorem compile_eq {value stored : Json} {part : Occur × Query}
    (plain : value.member? FilterTree.logicName = none)
    (normalized : property.normalize value = .ok stored)
    (clause : (⟨operator, field, property.kind, stored⟩ : Condition).clause .and = .ok part) :
    compiler.compile schema [(key, value)] = .done (BoolQuery.ofList [part]).build := by
  rw [FilterCompiler.compile, asks.normalize_eq plain normalized]
  simp only [Logged.done_andThen, FilterTree.compile, FilterTree.compileGroup, FilterTree.clauses,
    FilterTree.clauseOf, clause, Mode.keep, Option.toList, List.append_nil]

end Asks
end FilterCompiler
end CatalogSearch
