/-
**One of several values.**

A condition with several values asks for a document that holds one of them. With one value it asks the same,
unless the value is stored as null or as false: alone, these ask for a document without a value in the field.
Among several, null is held by none and false by those that hold it.

* `Reading.OfValues` — what is assumed of an engine: documents hold values, and terms look for them;
  `Reading.ofValues_least`: there is one that matches nothing else;
* `FilterCompiler.Asks.compile_several`, `compile_denied`, `compile_single` — the queries of the conditions;
* `Reading.OfValues.matches_single_iff` — what a condition with one value asks of a document;
* `Reading.OfValues.one_of_several_iff` — when one of the values alone is matched where their list is;
* `FilterCompiler.several_iff` — so a list means the disjunction of its values just if none of these asks for
  the absence of the field; `FilterCompiler.not_several_iff_singles`: a list of null does not.
-/

import CatalogSearch.Proofs.Filter.Meaning
import CatalogSearch.Proofs.Filter.OneCondition
import CatalogSearch.Proofs.Schema.Sorts

namespace CatalogSearch

/-- **What is assumed of an engine**: a document holds values in a field, and the field is present if there are
any; a term matches if one of them equals its value, and a null term matches nothing; and of several terms one is
to match. -/
structure Reading.OfValues {Document : Type} (reading : Reading Document)
    (held : String → Document → List Json) (equals : Json → Json → Prop) : Prop where
  present (field : String) (document : Document) : reading.present field document ↔ held field document ≠ []
  term (field : String) (value : Json) (document : Document) : reading.term field value document ↔
    value ≠ .null ∧ ∃ own ∈ held field document, equals own value
  terms (field : String) (values : List Json) (document : Document) :
    reading.terms field values document ↔ ∃ value ∈ values, reading.term field value document

/-- The engine that matches what it is assumed to match, and else nothing. -/
def Reading.least {Document : Type} (held : String → Document → List Json) (equals : Json → Json → Prop) :
    Reading Document where
  present field document := held field document ≠ []
  term field value document := value ≠ .null ∧ ∃ own ∈ held field document, equals own value
  terms field values document :=
    ∃ value ∈ values, value ≠ .null ∧ ∃ own ∈ held field document, equals own value
  range _ _ _ := False
  wildcard _ _ _ := False

theorem Reading.ofValues_least {Document : Type} (held : String → Document → List Json)
    (equals : Json → Json → Prop) : (Reading.least held equals).OfValues held equals :=
  ⟨fun _ _ => Iff.rfl, fun _ _ _ => Iff.rfl, fun _ _ _ => Iff.rfl⟩

/-- The query of a condition that asks for one scalar: null and false ask for the absence of the field. -/
def Query.ofSingle (field : String) : Json → Query
  | .null | .bool false => .bool [] [] [.present field]
  | value => .bool [.onTerm field value] [] []

/-! ### The queries -/

namespace Property

variable {property : Property} {values stored : List Json} {value result : Json}

/-- A list of scalars is stored scalar by scalar. -/
theorem normalize_scalars (plain : property.isAlias = false) (scalars : ∀ value ∈ values, value.IsScalar)
    (normalized : List.Forall₂ (fun value result => property.normalize value = .ok result) values stored) :
    property.normalize (.array values) = .ok (.array stored) := by
  refine (normalize_eq_ok_iff plain).mpr (.inl ⟨values, stored, rfl, rfl, ?_⟩)
  induction normalized with
  | nil => exact .nil
  | @cons value result values stored made _ ih =>
    obtain ⟨scalar, others⟩ := List.forall_mem_cons.mp scalars
    refine .cons ?_ (ih others)
    have single : ∀ items, value.unwrapped ≠ .array items := by
      rw [Json.unwrapped_of_isScalar scalar]
      rintro items rfl
      exact scalar
    rwa [normalize_of_single plain single] at made

/-- What a known kind stores of a scalar is a scalar. -/
theorem isScalar_of_normalize (known : property.kind ∈ Kind.known) (scalar : value.IsScalar)
    (made : property.normalize value = .ok result) : result.IsScalar := by
  rcases (normalize_eq_ok_iff (isAlias_of_known known)).mp made with ⟨items, _, sequence, _⟩ | ⟨_, made⟩
  · rw [Json.unwrapped_of_isScalar scalar] at sequence
    exact (sequence ▸ scalar : (Json.array items).IsScalar).elim
  · exact (Kind.hasScalar_of_normalizeScalar known made).isScalar

end Property

namespace FilterCompiler.Asks

variable {compiler : FilterCompiler} {schema : Schema} {key field : String} {property : Property}
  {values stored : List Json} {value result : Json}

/-- **A condition with several values is the clause of its terms**, which must hold. -/
theorem compile_several (asks : compiler.Asks schema key .equals field property)
    (normalized : property.normalize (.array values) = .ok (.array stored)) :
    compiler.compile schema [(key, .array values)] = .done (.bool [.onTerms field stored] [] []) :=
  asks.compile_eq rfl normalized rfl

/-- **Its negation is the same clause**, which must not hold. -/
theorem compile_denied (asks : compiler.Asks schema key .notEquals field property)
    (normalized : property.normalize (.array values) = .ok (.array stored)) :
    compiler.compile schema [(key, .array values)] = .done (.bool [] [] [.onTerms field stored]) :=
  asks.compile_eq rfl normalized rfl

/-- **A condition with one value asks for it, or for the absence of the field.** -/
theorem compile_single (asks : compiler.Asks schema key .equals field property) (scalar : value.IsScalar)
    (normalized : property.normalize value = .ok result) (stored : result.IsScalar) :
    compiler.compile schema [(key, value)] = .done (.ofSingle field result) := by
  have plain : value.member? FilterTree.logicName = none := by
    cases value with
    | object => exact scalar.elim
    | _ => rfl
  cases result with
  | array | object => exact stored.elim
  | bool b => cases b <;> exact asks.compile_eq plain normalized rfl
  | _ => exact asks.compile_eq plain normalized rfl

end FilterCompiler.Asks

/-! ### Their meanings -/

namespace Reading.OfValues

variable {Document : Type} {reading : Reading Document} {held : String → Document → List Json}
  {equals : Json → Json → Prop} {field : String} {document : Document} {stored : List Json} {value : Json}

variable (assumed : reading.OfValues held equals)

include assumed

theorem matches_several_iff :
    (Query.bool [.onTerms field stored] [] []).Matches reading document ↔
      ∃ value ∈ stored, reading.term field value document := by
  simp [Query.matches_bool, assumed.terms]

theorem matches_denied_iff :
    (Query.bool [] [] [.onTerms field stored]).Matches reading document ↔
      ¬ ∃ value ∈ stored, reading.term field value document := by
  simp [Query.matches_bool, assumed.terms]

/-- **What one value asks of a document**: to hold it, or to hold nothing. -/
theorem matches_single_iff :
    (Query.ofSingle field value).Matches reading document ↔
      if value = .null ∨ value = .bool false then held field document = []
      else reading.term field value document := by
  have absent : (Query.bool [] [] [.present field]).Matches reading document ↔ held field document = [] := by
    simp [Query.matches_bool, assumed.present]
  unfold Query.ofSingle
  split
  · simpa using absent
  · simpa using absent
  · next null false =>
    rw [if_neg (not_or.mpr ⟨null, false⟩)]
    simp [Query.matches_bool]

/-- A document without values matches no term. -/
theorem not_term_of_nil (empty : held field document = []) : ¬ reading.term field value document := by
  simp [assumed.term, empty]

theorem not_term_null : ¬ reading.term field .null document := by
  simp [assumed.term]

/-- **The list is matched where one of its values is**, alone: by a document that holds nothing if none of them
is null or false, and by another one if it does not match false only. -/
theorem one_of_several_iff :
    ((Query.bool [.onTerms field stored] [] []).Matches reading document ↔
      ∃ single ∈ stored.map (Query.ofSingle field), single.Matches reading document) ↔
    if held field document = [] then .null ∉ stored ∧ .bool false ∉ stored
    else .bool false ∈ stored → reading.term field (.bool false) document →
      ∃ value ∈ stored, value ≠ .bool false ∧ reading.term field value document := by
  have each : (∃ single ∈ stored.map (Query.ofSingle field), single.Matches reading document) ↔
      ∃ value ∈ stored, (Query.ofSingle field value).Matches reading document := by
    simp only [List.mem_map, exists_exists_and_eq_and]
  rw [assumed.matches_several_iff, each]
  simp only [assumed.matches_single_iff]
  by_cases empty : held field document = []
  · simp only [empty, if_true]
    constructor
    · intro same
      have none : ∀ value ∈ stored, ¬ (value = .null ∨ value = .bool false) := by
        intro value inside asks
        obtain ⟨other, _, found⟩ := same.mpr ⟨value, inside, by rw [if_pos asks]; trivial⟩
        exact assumed.not_term_of_nil empty found
      exact ⟨fun inside => none _ inside (.inl rfl), fun inside => none _ inside (.inr rfl)⟩
    · rintro ⟨null, false⟩
      refine exists_congr fun value => and_congr_right fun inside => ?_
      have other : ¬ (value = .null ∨ value = .bool .false) := by
        rintro (rfl | rfl)
        · exact null inside
        · exact false inside
      rw [if_neg other]
  · simp only [empty, if_false]
    constructor
    · intro same inside found
      obtain ⟨value, there, asked⟩ := same.mp ⟨_, inside, found⟩
      split at asked
      · exact asked.elim
      · next other => exact ⟨value, there, fun same => other (.inr same), asked⟩
    · intro replaced
      have alone : ∀ value, value ≠ .bool false → reading.term field value document →
          if value = .null ∨ value = .bool false then False else reading.term field value document := by
        intro value other found
        have given : value ≠ .null := by
          rintro rfl
          exact assumed.not_term_null found
        rwa [if_neg (not_or.mpr ⟨given, other⟩)]
      constructor
      · rintro ⟨value, inside, found⟩
        by_cases same : value = .bool false
        · subst same
          obtain ⟨value, there, other, found⟩ := replaced inside found
          exact ⟨value, there, alone value other found⟩
        · exact ⟨value, inside, alone value same found⟩
      · rintro ⟨value, inside, asked⟩
        split at asked
        · exact asked.elim
        · exact ⟨value, inside, asked⟩

/-- **The list is matched by all documents that one of its values is matched by**, alone, just if none of them is
null or false, where there is a document that holds nothing. -/
theorem forall_one_of_several_iff (bare : ∃ document, held field document = []) :
    (∀ document, (Query.bool [.onTerms field stored] [] []).Matches reading document ↔
      ∃ single ∈ stored.map (Query.ofSingle field), single.Matches reading document) ↔
    .null ∉ stored ∧ .bool false ∉ stored := by
  constructor
  · intro same
    obtain ⟨document, empty⟩ := bare
    have without := assumed.one_of_several_iff.mp (same document)
    rwa [if_pos empty] at without
  · rintro ⟨null, false⟩ document
    refine assumed.one_of_several_iff.mpr ?_
    split
    · exact ⟨null, false⟩
    · exact fun inside => absurd inside false

end Reading.OfValues

namespace FilterCompiler

variable {compiler : FilterCompiler} {schema : Schema} {key negated field : String} {property : Property}
  {values stored : List Json}

/-- The queries of the values alone are those of what is stored of them. -/
theorem compile_singles (asks : compiler.Asks schema key .equals field property)
    (known : property.kind ∈ Kind.known) (scalars : ∀ value ∈ values, value.IsScalar)
    (normalized : List.Forall₂ (fun value result => property.normalize value = .ok result) values stored) :
    List.Forall₂ (fun value single => compiler.compile schema [(key, value)] = .done single) values
      (stored.map (Query.ofSingle field)) := by
  rw [List.forall₂_map_right_iff]
  induction normalized with
  | nil => exact .nil
  | @cons value result values stored made _ ih =>
    obtain ⟨scalar, others⟩ := List.forall_mem_cons.mp scalars
    have kept := Property.isScalar_of_normalize known scalar made
    exact .cons (asks.compile_single scalar made kept) (ih others)

/-- **A list of values means that one of them is held.** The condition matches the documents that hold one of
the values as they are stored, null being held by none; its negation matches all others. One by one, the values
match the same documents just if none of them is stored as null or false: alone, these match a document without
values in the field, which the list does not. A document with values is matched by both alike, unless false is
the only one of the values that it holds: then the list matches it alone. -/
theorem several_iff (asks : compiler.Asks schema key .equals field property)
    (denies : compiler.Asks schema negated .notEquals field property) (known : property.kind ∈ Kind.known)
    (scalars : ∀ value ∈ values, value.IsScalar)
    (normalized : List.Forall₂ (fun value result => property.normalize value = .ok result) values stored) :
    ∃ (query denial : Query) (singles : List Query),
      compiler.compile schema [(key, .array values)] = .done query ∧
      compiler.compile schema [(negated, .array values)] = .done denial ∧
      List.Forall₂ (fun value single => compiler.compile schema [(key, value)] = .done single) values singles ∧
      ∀ (Document : Type) (reading : Reading Document) (held : String → Document → List Json)
        (equals : Json → Json → Prop), reading.OfValues held equals →
        (∀ document, denial.Matches reading document ↔ ¬ query.Matches reading document) ∧
        (∀ document, query.Matches reading document ↔
          ∃ value ∈ stored, value ≠ .null ∧ ∃ own ∈ held field document, equals own value) ∧
        (∀ document, (query.Matches reading document ↔ ∃ single ∈ singles, single.Matches reading document) ↔
          if held field document = [] then .null ∉ stored ∧ .bool false ∉ stored
          else .bool false ∈ stored → reading.term field (.bool false) document →
            ∃ value ∈ stored, value ≠ .bool false ∧ reading.term field value document) ∧
        ((∃ document, held field document = []) →
          ((∀ document, query.Matches reading document ↔
              ∃ single ∈ singles, single.Matches reading document) ↔
            .null ∉ stored ∧ .bool false ∉ stored)) := by
  have list := Property.normalize_scalars asks.isAlias_eq_false scalars normalized
  refine ⟨_, _, _, asks.compile_several list, denies.compile_denied list,
    compile_singles asks known scalars normalized, fun Document reading held equals assumed => ?_⟩
  refine ⟨fun document => ?_, fun document => ?_, fun document => assumed.one_of_several_iff,
    assumed.forall_one_of_several_iff⟩
  · rw [assumed.matches_several_iff, assumed.matches_denied_iff]
  · rw [assumed.matches_several_iff]
    simp only [assumed.term]

/-- Sizes as a number and as a text, of documents that are lists of their sizes: the two of them ask together what
they ask one by one. -/
theorem several_iff_sizes :
    let schema : Schema := ⟨[("SIZE", .ofKind .long)], by decide⟩
    let seven : Number := .int ⟨7, by decide, by decide⟩
    let eight : Number := .int ⟨8, by decide, by decide⟩
    ∃ query denial first second : Query,
      compile {} schema [("SIZE", .array [.number seven, .string " 8"])] = .done query ∧
      compile {} schema [("!SIZE", .array [.number seven, .string " 8"])] = .done denial ∧
      compile {} schema [("SIZE", .number seven)] = .done first ∧
      compile {} schema [("SIZE", .string " 8")] = .done second ∧
      ∀ reading : Reading (List Json), reading.OfValues (fun _ sizes => sizes) Eq →
        (∀ sizes, query.Matches reading sizes ↔ .number seven ∈ sizes ∨ .number eight ∈ sizes) ∧
        (∀ sizes, query.Matches reading sizes ↔ first.Matches reading sizes ∨ second.Matches reading sizes) ∧
        ∀ sizes, denial.Matches reading sizes ↔ ¬ query.Matches reading sizes := by
  intro schema seven eight
  have unequal : "!SIZE" = Operator.notEquals.symbol ++ "SIZE" := by decide
  have asks : Asks {} schema "SIZE" .equals "SIZE" (.ofKind .long) :=
    asks_of_bare (by decide) (List.all_eq_true.mp rfl) (by rintro _ ⟨⟩; decide) rfl rfl
  have denies : Asks {} schema "!SIZE" .notEquals "SIZE" (.ofKind .long) :=
    asks_of_name unequal (by decide) (List.all_eq_true.mp rfl) (by rintro _ ⟨⟩; decide) rfl rfl
  have normalized : List.Forall₂ (fun value result => (Property.ofKind .long).normalize value = .ok result)
      [.number seven, .string " 8"] [.number seven, .number eight] :=
    .cons (by decide) (.cons (by decide) .nil)
  obtain ⟨query, denial, singles, list, denied, each, meaning⟩ :=
    several_iff asks denies (by decide) (by simp [Json.IsScalar]) normalized
  cases each with
  | cons first each =>
    cases each with
    | cons second each =>
      cases each
      refine ⟨_, _, _, _, list, denied, first, second, fun reading assumed => ?_⟩
      obtain ⟨negation, held, _, alone⟩ := meaning (List Json) reading _ Eq assumed
      refine ⟨fun sizes => ?_, fun sizes => ?_, negation⟩
      · rw [held]
        simp
      · rw [(alone ⟨[], rfl⟩).mpr (by simp)]
        simp

/-- **A list of one value need not mean what the value means**: null asks for the absence of the field, and a list
of null for nothing, which matches no document. -/
theorem not_several_iff_singles :
    ¬ ∀ (schema : Schema) (key field : String) (property : Property) (values stored : List Json) (query : Query)
        (singles : List Query),
      Asks {} schema key .equals field property → property.kind ∈ Kind.known →
      (∀ value ∈ values, value.IsScalar) →
      List.Forall₂ (fun value result => property.normalize value = .ok result) values stored →
      compile {} schema [(key, .array values)] = .done query →
      List.Forall₂ (fun value single => compile {} schema [(key, value)] = .done single) values singles →
      ∀ (Document : Type) (reading : Reading Document) (held : String → Document → List Json)
        (equals : Json → Json → Prop), reading.OfValues held equals →
        ∀ document, query.Matches reading document ↔ ∃ single ∈ singles, single.Matches reading document := by
  intro same
  let schema : Schema := ⟨[("NAME", .ofKind .keyword)], by decide⟩
  have asks : Asks {} schema "NAME" .equals "NAME" (.ofKind .keyword) :=
    asks_of_bare (by decide) (List.all_eq_true.mp rfl) (by rintro _ ⟨⟩; decide) rfl rfl
  have scalars : ∀ value ∈ [Json.null], value.IsScalar := by simp [Json.IsScalar]
  have normalized : List.Forall₂ (fun value result => (Property.ofKind .keyword).normalize value = .ok result)
      [.null] [.null] := .cons rfl .nil
  have list := asks.compile_several (Property.normalize_scalars asks.isAlias_eq_false scalars normalized)
  have singles := compile_singles asks (by decide) scalars normalized
  have assumed := Reading.ofValues_least (fun _ (names : List Json) => names) Eq
  have here := same schema "NAME" "NAME" _ _ _ _ _ asks (by decide) scalars normalized list singles
    (List Json) _ _ _ assumed []
  rw [assumed.one_of_several_iff, if_pos rfl] at here
  exact here.1 (List.mem_singleton.mpr rfl)

end FilterCompiler
end CatalogSearch
