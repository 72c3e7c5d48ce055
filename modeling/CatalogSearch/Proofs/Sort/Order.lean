/-
**Sorts order documents as their directives say.**

The order is defined twice: by the clauses that an engine is given, from the first that tells two
documents apart, and by the directives themselves.

* `SortClause.compare?`, `SortClause.compareAll?` — the order of clauses, if no script fails;
* `SortKey.of?` — what a field and its directive ask for: a field, its kind, a direction, and the place of
  empty documents; `SortKey.compare`, `compareAll` — the order of keys;
* `SortKey.compareAll?_clauses` — the clauses of one directive keep the order of its key;
* `SortCompiler.compareAll?_of_compile` — the clauses of a list keep the order of its keys.
-/

import CatalogSearch.Proofs.Sort.Ranking
import CatalogSearch.Proofs.Strict

namespace CatalogSearch

variable {Document : Type}

/-- An order taken in a direction. -/
def SortOrder.apply : SortOrder → Ordering → Ordering
  | asc, order => order
  | desc, order => order.swap

/-! ### The order of clauses -/

/-- The order by one field. Documents without a value go last if nothing else is said. -/
def FieldSort.compare (reading : SortReading Document) (field : String) (sort : FieldSort)
    (a b : Document) : Ordering :=
  match reading.value? field a, reading.value? field b, sort.missing.getD .last with
  | some x, some y, _ => sort.order.apply (reading.compare field x y)
  | none, none, _ => .eq
  | none, some _, .first | some _, none, .last => .lt
  | none, some _, .last | some _, none, .first => .gt

namespace SortClause

/-- The order by one clause. -/
def compare? (reading : SortReading Document) (a b : Document) : SortClause → Option Ordering
  | script sort => do
    let x ← sort.rank? reading a
    let y ← sort.rank? reading b
    return sort.order.apply (Ord.compare x y)
  | fields sorts =>
    some (sorts.foldr (fun sort later => (sort.2.compare reading sort.1 a b).then later) .eq)

/-- **The order by clauses**: that of the first which tells the documents apart. -/
def compareAll? (reading : SortReading Document) (a b : Document) : List SortClause → Option Ordering
  | [] => some .eq
  | clause :: rest => do
    match ← clause.compare? reading a b with
    | .eq => compareAll? reading a b rest
    | decided => return decided

end SortClause

/-! ### The order of directives -/

/-- What a directive asks for. -/
structure SortKey where
  field : String
  kind : Kind
  order : SortOrder
  nulls : NullOrder
deriving DecidableEq, Repr

namespace SortKey

/-- The field by whose values a field's documents are ordered: its companion if it holds codes. -/
def ordering (field : String) (property : Property) : String :=
  if property.hasEnumField then field ++ valueEnding else field

/-- **What a field and its directive ask for.** A name or alias stands for a field. Where that holds
codes, its companion is taken in its place, with the kind that the schema knows for it. -/
def of? (schema : Schema) (pair : String × String) : Option SortKey := do
  let directive ← (SortDirective.read pair.1 pair.2).toOption
  let name ← (schema.resolve pair.1).toOption
  let property ← schema.find? name
  let field := ordering name property
  return { field, kind := ((schema.find? field).getD property).kind
           order := directive.order, nulls := directive.nulls }

/-- Empty documents go before all others. -/
def emptyFirst (reading : SortReading Document) (key : SortKey) (a b : Document) : Ordering :=
  match reading.isEmpty key.kind key.field a, reading.isEmpty key.kind key.field b with
  | true, false => .lt
  | false, true => .gt
  | _, _ => .eq

/-- The order by emptiness, which is not that of the values: none, or empty documents first or last. -/
def byEmptiness (reading : SortReading Document) (key : SortKey) (a b : Document) : Ordering :=
  match key.nulls with
  | .unspecified => .eq
  | .first => key.emptyFirst reading a b
  | .last => (key.emptyFirst reading a b).swap

/-- The order by value in the direction; documents without a value go first if so is asked, else last. -/
def byValue (reading : SortReading Document) (key : SortKey) (a b : Document) : Ordering :=
  match reading.value? key.field a, reading.value? key.field b with
  | some x, some y => key.order.apply (reading.compare key.field x y)
  | none, none => .eq
  | none, some _ => if key.nulls = .first then .lt else .gt
  | some _, none => if key.nulls = .first then .gt else .lt

def compare (reading : SortReading Document) (key : SortKey) (a b : Document) : Ordering :=
  (key.byEmptiness reading a b).then (key.byValue reading a b)

/-- **The order of keys**: that of the first which tells the documents apart. -/
def compareAll (reading : SortReading Document) (a b : Document) : List SortKey → Ordering
  | [] => .eq
  | key :: rest => (key.compare reading a b).then (compareAll reading a b rest)

end SortKey

/-! ### Clauses in a row -/

namespace SortClause

variable (reading : SortReading Document) (a b : Document)

/-- A clause before others decides, or leaves it to them. -/
theorem compareAll?_cons {clause : SortClause} {rest : List SortClause} {first later : Ordering}
    (decides : clause.compare? reading a b = some first)
    (others : compareAll? reading a b rest = some later) :
    compareAll? reading a b (clause :: rest) = some (first.then later) := by
  rw [compareAll?, decides]
  cases first
  case eq => exact others
  case lt => rfl
  case gt => rfl

theorem compareAll?_append {front back : List SortClause} {first later : Ordering}
    (decides : compareAll? reading a b front = some first)
    (others : compareAll? reading a b back = some later) :
    compareAll? reading a b (front ++ back) = some (first.then later) := by
  induction front generalizing first with
  | nil =>
    cases decides
    exact others
  | cons clause rest ih =>
    obtain ⟨order, compared, decides⟩ := Option.bind_eq_some_iff.mp decides
    rw [List.cons_append, compareAll?, compared]
    cases order with
    | eq => exact ih decides
    | lt | gt =>
      cases decides
      rfl

theorem compare?_onField (field : String) (order : SortOrder) (missing : Option Missing) :
    (onField field order missing).compare? reading a b =
      some (FieldSort.compare reading field ⟨order, missing⟩ a b) := by
  rw [onField, compare?]
  simp

/-- The clause for empty documents puts them where it is told, whatever the direction of values. -/
theorem compare?_nullRank (key : SortKey) {missing : Missing} (placed : key.nulls.missing? = some missing) :
    (nullRank key.field key.kind missing).compare? reading a b = some (key.byEmptiness reading a b) := by
  obtain ⟨sort, same, order, ranks⟩ := rank?_nullRank reading key.field key.kind missing
  rw [same, compare?, ranks a, ranks b, order]
  unfold SortKey.byEmptiness SortKey.emptyFirst
  cases named : key.nulls <;> rw [named] at placed <;> cases placed <;>
    cases reading.isEmpty key.kind key.field a <;> cases reading.isEmpty key.kind key.field b <;> rfl

end SortClause

namespace SortKey

variable (reading : SortReading Document) (a b : Document)

/-- The clause of the field, with the place that the key gives to documents without a value. -/
theorem compare_onField (key : SortKey) :
    FieldSort.compare reading key.field ⟨key.order, key.nulls.missing?⟩ a b = key.byValue reading a b := by
  -- What is not said and `last` put such documents in the same place.
  have placed : key.nulls.missing?.getD .last = if key.nulls = .first then .first else .last := by
    cases key.nulls <;> rfl
  unfold FieldSort.compare byValue
  rw [placed]
  cases reading.value? key.field a <;> cases reading.value? key.field b <;>
    by_cases asked : key.nulls = .first <;> simp [asked]

/-- **The clauses of one key keep its order.** -/
theorem compareAll?_clauses (key : SortKey) :
    SortClause.compareAll? reading a b
      (key.nulls.missing?.toList.map (nullRank key.field key.kind) ++
        [.onField key.field key.order key.nulls.missing?]) = some (key.compare reading a b) := by
  have value : SortClause.compareAll? reading a b
      [.onField key.field key.order key.nulls.missing?] = some (key.byValue reading a b) := by
    have decides := SortClause.compare?_onField reading a b key.field key.order key.nulls.missing?
    rw [SortClause.compareAll?_cons reading a b decides rfl, key.compare_onField]
    cases key.byValue reading a b <;> rfl
  cases placed : key.nulls.missing? with
  | none =>
    -- Nothing is asked of empty documents, and no script stands in front.
    have unordered : key.byEmptiness reading a b = .eq := by
      unfold byEmptiness
      cases named : key.nulls <;> rw [named] at placed <;> cases placed
    rw [placed] at value
    rw [compare, unordered]
    exact value
  | some missing =>
    have ranked := SortClause.compare?_nullRank reading a b key placed
    rw [placed] at value
    exact SortClause.compareAll?_cons reading a b ranked value

theorem sortTarget_eq {schema : Schema} {field : String} {property : Property}
    (found : schema.find? field = some property) :
    sortTarget schema field property =
      (ordering field property, ((schema.find? (ordering field property)).getD property).kind) := by
  unfold sortTarget ordering
  by_cases coded : property.hasEnumField = true
  · simp only [if_pos coded]
    cases schema.find? (field ++ valueEnding) <;> rfl
  · simp only [if_neg coded]
    rw [found]
    rfl

/-- **A directive that is accepted has a key**, of which its clauses are made. -/
theorem of?_of_compileOne {schema : Schema} {pair : String × String} {clauses : List SortClause}
    (compiled : SortCompiler.compileOne schema pair.1 pair.2 = .ok clauses) :
    ∃ key, of? schema pair = some key ∧
      clauses = key.nulls.missing?.toList.map (nullRank key.field key.kind) ++
        [.onField key.field key.order key.nulls.missing?] := by
  obtain ⟨directive, read, compiled⟩ := bind_eq_ok.mp compiled
  obtain ⟨field, resolved, compiled⟩ := bind_eq_ok.mp compiled
  obtain ⟨property, got, made⟩ := bind_eq_ok.mp compiled
  have named : directive.field = pair.1 := by
    unfold SortDirective.read at read
    split at read <;> cases read
    rfl
  have found := Schema.find?_of_get got
  rw [named] at resolved
  rw [sortTarget_eq found] at made
  cases made
  let key : SortKey :=
    ⟨ordering field property, ((schema.find? (ordering field property)).getD property).kind,
      directive.order, directive.nulls⟩
  refine ⟨key, ?_, rfl⟩
  simp only [of?, read, resolved, found, Except.toOption, bind, Option.bind]
  rfl

end SortKey

/-! ### Whole sorts -/

/-- **An accepted sort orders documents as its directives say**: every directive has a key, and of any two
documents the clauses, none of whose scripts fails, say what the keys say in the order given. -/
theorem SortCompiler.compareAll?_of_compile {schema : Schema} {pairs : List (String × String)}
    {clauses : List SortClause} (compiled : (compile ⟨.strict⟩ schema pairs).result = .ok clauses) :
    ∃ keys, pairs.mapM (SortKey.of? schema) = some keys ∧
      ∀ (Document : Type) (reading : SortReading Document) (a b : Document),
        SortClause.compareAll? reading a b clauses = some (SortKey.compareAll reading a b keys) := by
  obtain ⟨parts, ran, done⟩ := Logged.result_andThen_eq_ok.mp compiled
  cases done
  have each := Mode.forall₂_of_keep_strict ran
  -- What is left is about the pairs and their clauses, one by one.
  clear ran compiled
  induction each with
  | nil => exact ⟨[], rfl, fun _ _ _ _ => rfl⟩
  | @cons pair part pairs parts made _ ih =>
    obtain ⟨key, asked, rfl⟩ := SortKey.of?_of_compileOne made
    obtain ⟨keys, others, keeps⟩ := ih
    refine ⟨key :: keys, ?_, fun Document reading a b => ?_⟩
    · rw [List.mapM_cons, asked, others]
      rfl
    · have first := key.compareAll?_clauses reading a b
      exact SortClause.compareAll?_append reading a b first (keeps Document reading a b)

/-- By the colour that an alias names, from the greatest with none at the end, and then by number: a
document whose colour is the empty text goes behind one of a colour, and of two without one that of the
lesser number goes first. -/
theorem SortCompiler.compareAll?_of_compile_coded :
    ∃ (schema : Schema) (clauses : List SortClause) (keys : List SortKey),
      (compile ⟨.strict⟩ schema [("PAINT", "desc,nulls"), ("ID", "asc")]).result = .ok clauses ∧
      [("PAINT", "desc,nulls"), ("ID", "asc")].mapM (SortKey.of? schema) = some keys ∧
      keys.map (·.field) = ["COLOR_VALUE", "ID"] ∧
      let reading : SortReading (Members Json) :=
        { value? := fun field document => document.get? field
          compare := fun _ x y => Ord.compare (x.nat?.getD 0) (y.nat?.getD 0)
          equals := fun value parameter => value = parameter }
      let one : Members Json := [("COLOR_VALUE", .string ""), ("ID", .ofNat 1)]
      let two : Members Json := [("COLOR_VALUE", .string "red"), ("ID", .ofNat 2)]
      let three : Members Json := [("ID", .ofNat 3)]
      SortClause.compareAll? reading two one clauses = some .lt ∧
        SortKey.compareAll reading two one keys = .lt ∧
        SortClause.compareAll? reading three [("ID", .ofNat 4)] clauses = some .lt := by
  let schema : Schema :=
    ⟨[("COLOR", ⟨.integer, [("fields", .object [("enum", .null)])]⟩), ("COLOR_VALUE", .ofKind .keyword),
      ("PAINT", .ofAlias "COLOR"), ("ID", .ofKind .integer)], by decide⟩
  let clauses : List SortClause :=
    [nullRank "COLOR_VALUE" .keyword .last, .onField "COLOR_VALUE" .desc (some .last),
      .onField "ID" .asc none]
  have compiled : (compile ⟨.strict⟩ schema [("PAINT", "desc,nulls"), ("ID", "asc")]).result =
      .ok clauses := by
    decide
  obtain ⟨keys, asked, orders⟩ := compareAll?_of_compile compiled
  have known : some keys =
      some [⟨"COLOR_VALUE", .keyword, .desc, .last⟩, ⟨"ID", .integer, .asc, .unspecified⟩] :=
    asked.symm.trans (by decide)
  cases known
  refine ⟨schema, clauses, _, compiled, asked, rfl, ?_, by decide, ?_⟩
  · rw [orders]
    decide
  · rw [orders]
    decide

end CatalogSearch
