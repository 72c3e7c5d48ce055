/-
**The index of a schema's names.**

A table keeps its fields twice: in rows, and as the places of their names. Every insertion leaves both at one, and so
does everything that is made of insertions; so no place that is read lies behind the rows, and a table can do what a
schema does, which has its fields only.

* `FieldTable.Sound` — the places and the rows say the same; `FieldTable.Sound.exists_insert`, `exists_insertAll`,
  `exists_difference` — the steps that keep it so, and what they do to the rows; `FieldTable.Sound.get?_places`,
  `find?_eq`, `contains_eq` — what is looked up;
* `Schema.ofProperties_eq`, `ofMapping?_eq`, `ofText?_eq` — what is read is what the fields build that the readers
  insert; `FieldTable.ofProperties_rows`, `ofMapping?_rows`, `ofText?_rows` — so the tables have them too;
* `FieldTable.Built` — the tables that can be built, each with the schema that the same steps build;
  `FieldTable.Built.agrees` — they are sound and have the schema's fields;
* `FieldTable.built_exact` — all of this together, with what many insertions and a difference make.
-/

import CatalogSearch.Proofs.Schema.Budget
import CatalogSearch.Schema.Table
import Mathlib.Data.Finset.Card

namespace CatalogSearch

/-! ### Places -/

namespace FieldTable

/-- **The rows and the places of a table say the same.** -/
structure Sound (table : FieldTable) : Prop where
  held : ∀ name place, table.places.get? name = some place →
    ∃ property, table.rows[place]? = some (name, property)
  placed : ∀ place name property, table.rows[place]? = some (name, property) →
    table.places.get? name = some place
  distinct : (Members.names table.rows).Nodup

variable {table other next : FieldTable}

theorem sound_empty : Sound empty where
  held := by rintro name place ⟨⟩
  placed := by rintro place name property ⟨⟩
  distinct := List.nodup_nil

namespace Sound

variable (sound : table.Sound)
include sound

/-- A name without a place has no row. -/
theorem not_mem_of_no_place {name : String} (absent : table.places.get? name = none) :
    name ∉ Members.names table.rows := by
  intro inside
  obtain ⟨row, there, rfl⟩ := List.mem_map.mp inside
  obtain ⟨place, held⟩ := List.getElem?_of_mem there
  cases absent.symm.trans (sound.placed place row.1 row.2 held)

/-- **A table takes every field**, into the row of its name or into a new one, and stays sound. -/
theorem exists_insert (name : String) (property : Property) : ∃ next, table.insert? name property = some next ∧
    next.Sound ∧ next.rows = table.rows.insert name property := by
  have distinct := Members.nodup_names_insert sound.distinct name property
  unfold insert?
  cases known : table.places.get? name with
  | none =>
    have fresh := sound.not_mem_of_no_place known
    have behind := Members.insert_of_not_mem fresh property
    refine ⟨_, rfl, ⟨fun other place there => ?_, fun place other value held => ?_, behind ▸ distinct⟩, behind.symm⟩
    · rw [Members.get?_insert] at there
      split at there
      · next same =>
        cases there
        exact ⟨property, by simp [same]⟩
      · obtain ⟨value, held⟩ := sound.held other place there
        obtain ⟨within, _⟩ := List.getElem?_eq_some_iff.mp held
        exact ⟨value, by rw [List.getElem?_append_left within, held]⟩
    · rw [Members.get?_insert]
      by_cases within : place < table.rows.length
      · rw [List.getElem?_append_left within] at held
        have early := sound.placed place other value held
        have apart : name ≠ other := by
          rintro rfl
          cases known.symm.trans early
        rw [if_neg apart, early]
      · obtain ⟨bound, -⟩ := List.getElem?_eq_some_iff.mp held
        have last : place = table.rows.length := by
          rw [List.length_append, List.length_singleton] at bound
          omega
        subst last
        simp only [List.getElem?_concat_length, Option.some.injEq, Prod.mk.injEq] at held
        rw [if_pos held.1]
  | some place =>
    obtain ⟨old, held⟩ := sound.held name place known
    have changed := Members.insert_of_getElem? sound.distinct held property
    simp only [held, Option.map_some]
    refine ⟨_, rfl, ⟨fun other spot there => ?_, fun spot other value there => ?_, changed ▸ distinct⟩, changed.symm⟩
    · obtain ⟨value, before⟩ := sound.held other spot there
      by_cases same : place = spot
      · subst same
        cases held.symm.trans before
        obtain ⟨within, _⟩ := List.getElem?_eq_some_iff.mp held
        exact ⟨property, List.getElem?_set_self within⟩
      · exact ⟨value, by rw [List.getElem?_set_ne same, before]⟩
    · by_cases same : place = spot
      · subst same
        obtain ⟨within, _⟩ := List.getElem?_eq_some_iff.mp held
        cases (List.getElem?_set_self within).symm.trans there
        exact known
      · rw [List.getElem?_set_ne same] at there
        exact sound.placed spot other value there

/-- A table takes many fields, one after another. -/
theorem exists_insertAll (fields : List (String × Property)) : ∃ next, table.insertAll? fields = some next ∧
    next.Sound ∧ next.rows = Members.overlay table.rows fields := by
  induction fields generalizing table with
  | nil => exact ⟨table, rfl, sound, rfl⟩
  | cons field rest ih =>
    obtain ⟨next, put, still, rows⟩ := sound.exists_insert field.1 field.2
    obtain ⟨last, more, sound, built⟩ := ih still
    refine ⟨last, ?_, sound, ?_⟩
    · rw [insertAll?, List.foldlM_cons, put]
      exact more
    · rw [built, rows]
      rfl

/-- A place is where the name stands among the names. -/
theorem get?_places (name : String) : table.places.get? name = table.names.idxOf? name := by
  cases known : table.places.get? name with
  | none =>
    exact (List.idxOf?_eq_none_iff.mpr (sound.not_mem_of_no_place known)).symm
  | some place =>
    obtain ⟨property, held⟩ := sound.held name place known
    obtain ⟨within, there⟩ := List.getElem?_eq_some_iff.mp held
    have bound : place < table.names.length := by rwa [names, Members.names, List.length_map]
    have named : table.names[place] = name := by simp [names, Members.names, there]
    refine (List.idxOf?_eq_some_iff.mpr ⟨bound, named, fun other less same => ?_⟩).symm
    have met := (List.Nodup.getElem_inj_iff sound.distinct).mp (same.trans named.symm)
    omega

/-- A name is looked up where its row is. -/
theorem find?_eq (name : String) : table.find? name = some (table.rows.get? name) := by
  unfold find?
  cases known : table.places.get? name with
  | none => rw [Members.get?_eq_none_iff.mpr (sound.not_mem_of_no_place known)]
  | some place =>
    obtain ⟨property, held⟩ := sound.held name place known
    rw [Members.get?_of_mem sound.distinct (List.mem_of_getElem? held)]
    exact congrArg (Option.map fun row => some row.2) held

theorem contains_eq (name : String) : table.contains name = decide (name ∈ table.names) := by
  unfold contains
  rw [sound.get?_places, Bool.eq_iff_iff, List.isSome_idxOf?, decide_eq_true_iff]

end Sound

/-- What many insertions make is sound. -/
theorem exists_ofFields (fields : List (String × Property)) : ∃ table, ofFields? fields = some table ∧
    table.Sound ∧ table.rows = Members.ofList fields := sound_empty.exists_insertAll fields

/-- **A difference** is sound and has the rows that the other table lacks. -/
theorem Sound.exists_difference (sound : table.Sound) (other : FieldTable) :
    ∃ less, table.difference? other = some less ∧ less.Sound ∧
      less.rows = table.rows.filter fun row => !other.contains row.1 := by
  obtain ⟨less, made, still, rows⟩ := exists_ofFields (table.rows.filter fun row => !other.contains row.1)
  have distinct := sound.distinct.sublist (List.Sublist.map Prod.fst
    (List.filter_sublist (p := fun row => !other.contains row.1)))
  exact ⟨less, made, still, rows.trans (Members.ofList_eq_self distinct)⟩

end FieldTable

/-! ### Readers -/

namespace Schema

/-- A definition adds the field that it has, if it has one. -/
theorem addDefinition_eq (schema : Schema) (name : String) (definition : Json) :
    addDefinition schema name definition = (fieldOfDefinition name definition).andThen fun field =>
      .done (field.toList.foldl (fun schema field => schema.insert field.1 field.2) schema) := by
  cases definition with
  | object members =>
    rw [addDefinition, fieldOfDefinition]
    cases Property.ofMembers members with
    | ok property => exact (Logged.done_andThen _ _).symm
    | error given => rfl
  | _ => rfl

/-- Definitions add the fields that they have. -/
theorem addDefinitions_eq (schema : Schema) (properties : Members Json) :
    addDefinitions schema properties = (fieldsOfProperties properties).andThen fun fields =>
      .done (fields.foldl (fun schema field => schema.insert field.1 field.2) schema) := by
  unfold fieldsOfProperties
  induction properties generalizing schema with
  | nil => exact (Logged.done_andThen _ _).symm
  | cons entry rest ih =>
    rw [addDefinitions, addDefinition_eq, Logged.filterMap]
    simp only [Logged.andThen_assoc, Logged.done_andThen, ih, List.foldl_append]

/-- **What definitions make** is what their fields build. -/
theorem ofProperties_eq (properties : Members Json) :
    ofProperties properties = (fieldsOfProperties properties).andThen fun fields => .done (ofList fields) :=
  addDefinitions_eq empty properties

theorem ofDefinitions?_eq (read? : Json → Option Property) (definitions : Json) :
    ofDefinitions? read? definitions = (fieldsOfDefinitions? read? definitions).map ofList := by
  have added : ∀ (members : Members Json) (schema : Schema),
      members.foldlM (fun schema field => (read? field.2).map (schema.insert field.1)) schema =
        (members.mapM fun entry => (read? entry.2).map (entry.1, ·)).map fun fields =>
          fields.foldl (fun schema field => schema.insert field.1 field.2) schema := by
    intro members
    induction members with
    | nil => exact fun _ => rfl
    | cons entry rest ih =>
      intro schema
      rw [List.foldlM_cons, List.mapM_cons]
      cases read? entry.2 with
      | none => rfl
      | some property =>
        refine (ih _).trans ?_
        cases rest.mapM fun entry => (read? entry.2).map (entry.1, ·) <;> rfl
  unfold ofDefinitions? fieldsOfDefinitions?
  cases definitions.members? with
  | none => rfl
  | some members => exact added members empty

/-- **What a mapping makes** is what its fields build. -/
theorem ofMapping?_eq (mapping : Json) : ofMapping? mapping = (fieldsOfMapping? mapping).map ofList := by
  unfold ofMapping? fieldsOfMapping?
  cases mapping.members? with
  | none => rfl
  | some members =>
    cases found : members.get? "properties" with
    | none => simp only [Option.bind_some, found]; rfl
    | some definitions => simpa only [Option.bind_some, found] using ofDefinitions?_eq _ definitions

/-- **What a mapping's text makes** is what its fields build. -/
theorem ofText?_eq (precision : Json.Reader.Precision) (text : String) :
    ofText? precision text = (fieldsOfText? precision text).map ofList := by
  unfold ofText? fieldsOfText?
  cases Json.Skip.written? precision "properties" text.toList with
  | none => rfl
  | some given =>
    have each : ∀ given : List Json, given.mapM (ofDefinitions? writtenProperty?) =
        (given.mapM (fieldsOfDefinitions? writtenProperty?)).map (List.map ofList) := by
      intro given
      induction given with
      | nil => rfl
      | cons definitions rest ih =>
        rw [List.mapM_cons, List.mapM_cons, ofDefinitions?_eq, ih]
        cases fieldsOfDefinitions? writtenProperty? definitions with
        | none => rfl
        | some fields => cases rest.mapM (fieldsOfDefinitions? writtenProperty?) <;> rfl
    simp only [Option.bind_eq_bind, Option.bind_some, each]
    cases given.mapM (fieldsOfDefinitions? writtenProperty?) with
    | none => rfl
    | some read =>
      simp only [Option.map_some, Option.bind_some, List.getLast?_map]
      cases read.getLast? <;> rfl

end Schema

namespace FieldTable

/-- A list of fields makes a table with the fields of the schema that it builds. -/
theorem ofFields?_rows (fields : List (String × Property)) :
    (ofFields? fields).map (·.rows) = some (Schema.ofList fields).fields := by
  obtain ⟨table, made, -, rows⟩ := exists_ofFields fields
  rw [made, Option.map_some, rows, Schema.fields_ofList]

/-- **Definitions** make a table with the schema's fields, and both give the same warnings and errors. -/
theorem ofProperties_rows (properties : Members Json) :
    (ofProperties properties).andThen (fun made => .done (made.map (·.rows))) =
      (Schema.ofProperties properties).andThen fun schema => .done (some schema.fields) := by
  rw [Schema.ofProperties_eq, ofProperties, Logged.andThen_assoc, Logged.andThen_assoc]
  simp only [Logged.done_andThen, ofFields?_rows]

/-- **A mapping** makes a table with the schema's fields, or neither. -/
theorem ofMapping?_rows (mapping : Json) :
    (ofMapping? mapping).map (Option.map (·.rows)) =
      (Schema.ofMapping? mapping).map fun schema => some schema.fields := by
  rw [Schema.ofMapping?_eq, ofMapping?, Option.map_map, Option.map_map]
  exact congrArg (Option.map · _) (funext ofFields?_rows)

/-- **A mapping's text** makes a table with the schema's fields, or neither. -/
theorem ofText?_rows (precision : Json.Reader.Precision) (text : String) :
    (ofText? precision text).map (Option.map (·.rows)) =
      (Schema.ofText? precision text).map fun schema => some schema.fields := by
  rw [Schema.ofText?_eq, ofText?, Option.map_map, Option.map_map]
  exact congrArg (Option.map · _) (funext ofFields?_rows)

/-! ### All tables that can be built -/

/-- **The tables that can be built**, each with the schema that the same steps build. -/
inductive Built : FieldTable → Schema → Prop
  | empty : Built empty .empty
  | insert {table next : FieldTable} {schema : Schema} {name : String} {property : Property}
    (built : Built table schema) (put : table.insert? name property = some next) :
    Built next (schema.insert name property)
  | collected {table : FieldTable} {fields : List (String × Property)} (made : ofFields? fields = some table) :
    Built table (Schema.ofList fields)
  | difference {table other less : FieldTable} {schema known : Schema} (built : Built table schema)
    (against : Built other known) (made : table.difference? other = some less) :
    Built less (schema.difference known)
  | properties {table : FieldTable} {schema : Schema} {properties : Members Json}
    (made : (ofProperties properties).result = .ok (some table))
    (same : (Schema.ofProperties properties).result = .ok schema) : Built table schema
  | mapping {table : FieldTable} {schema : Schema} {mapping : Json}
    (made : ofMapping? mapping = some (some table)) (same : Schema.ofMapping? mapping = some schema) :
    Built table schema
  | text {table : FieldTable} {schema : Schema} {precision : Json.Reader.Precision} {text : String}
    (made : ofText? precision text = some (some table)) (same : Schema.ofText? precision text = some schema) :
    Built table schema

namespace Built

variable {schema known : Schema}

/-- **A table that can be built** is sound and has the schema's fields. -/
theorem agrees (built : Built table schema) : table.Sound ∧ table.rows = schema.fields := by
  have sound_of_ofFields : ∀ {fields : List (String × Property)} {table : FieldTable},
      ofFields? fields = some table → table.Sound := by
    intro fields table made
    obtain ⟨_, same, sound, -⟩ := exists_ofFields fields
    cases same.symm.trans made
    exact sound
  induction built with
  | empty => exact ⟨sound_empty, rfl⟩
  | @insert table next schema name property _ put ih =>
    obtain ⟨_, same, sound, rows⟩ := ih.1.exists_insert name property
    cases same.symm.trans put
    exact ⟨sound, rows.trans (congrArg (Members.insert · name property) ih.2)⟩
  | @collected table fields made =>
    have rows := ofFields?_rows fields
    rw [made] at rows
    exact ⟨sound_of_ofFields made, Option.some.inj rows⟩
  | @difference table other less schema known _ _ made whole lacked =>
    obtain ⟨_, same, sound, rows⟩ := whole.1.exists_difference other
    cases same.symm.trans made
    have alike : ∀ name, other.contains name = known.contains name := by
      intro name
      rw [lacked.1.contains_eq, names, lacked.2, Bool.eq_iff_iff, decide_eq_true_iff]
      exact Members.isSome_get?_iff.symm
    refine ⟨sound, rows.trans ?_⟩
    rw [whole.2]
    exact List.filter_congr fun row _ => congrArg (!·) (alike row.1)
  | @properties table schema properties made same =>
    obtain ⟨fields, -, built⟩ := Logged.result_andThen_eq_ok.mp made
    have rows := congrArg Logged.result (ofProperties_rows properties)
    rw [Logged.result_andThen, Logged.result_andThen, made, same] at rows
    exact ⟨sound_of_ofFields (Except.ok.inj built), Option.some.inj (Except.ok.inj rows)⟩
  | @mapping table schema mapping made same =>
    obtain ⟨fields, -, built⟩ := Option.map_eq_some_iff.mp made
    have rows := ofMapping?_rows mapping
    rw [made, same] at rows
    exact ⟨sound_of_ofFields built, Option.some.inj (Option.some.inj rows)⟩
  | @text table schema precision text made same =>
    obtain ⟨fields, -, built⟩ := Option.map_eq_some_iff.mp made
    have rows := ofText?_rows precision text
    rw [made, same] at rows
    exact ⟨sound_of_ofFields built, Option.some.inj (Option.some.inj rows)⟩

/-- Many insertions make a table that can be built. -/
theorem insertAll (built : Built table schema) {fields : List (String × Property)}
    (made : table.insertAll? fields = some next) :
    Built next (fields.foldl (fun schema field => schema.insert field.1 field.2) schema) := by
  induction fields generalizing table schema with
  | nil =>
    cases made
    exact built
  | cons field rest ih =>
    rw [insertAll?, List.foldlM_cons] at made
    obtain ⟨between, put, made⟩ := Option.bind_eq_some_iff.mp made
    exact ih (built.insert put) made

end Built

/-- **Every table that can be built keeps its rows and its places at one.** A place is that of a row with its name,
every row stands at the place of its name, and no name occurs twice; the table does what the schema of the same steps
does. Any number of insertions succeeds: what is found is what was inserted last, and the names are the inserted ones,
each where it came first. A difference has the rows of names that the other table lacks, and weighs what remains
without the others. Readers give a table just where they give a schema, and with its fields. -/
theorem built_exact :
    (∀ table schema, Built table schema → table.Sound ∧ table.rows = schema.fields ∧
      ∀ name, table.places.get? name = schema.position? name ∧ table.find? name = some (schema.find? name) ∧
        table.contains name = schema.contains name) ∧
    (∀ table schema fields, Built table schema → ∃ next, table.insertAll? fields = some next ∧
      Built next (fields.foldl (fun schema field => schema.insert field.1 field.2) schema) ∧
      (∀ name property, next.find? name = some (some property) ↔
        (∃ front back, fields = front ++ (name, property) :: back ∧ name ∉ Members.names back) ∨
          name ∉ Members.names fields ∧ table.find? name = some (some property)) ∧
      next.names = (table.names ++ Members.names fields).eraseDups ∧
      next.size = (table.names ++ Members.names fields).toFinset.card) ∧
    (∀ table schema other known, Built table schema → Built other known →
      ∃ less, table.difference? other = some less ∧ Built less (schema.difference known) ∧
        less.rows = table.rows.filter (fun row => row.1 ∉ other.names) ∧
        table.budget = less.budget + Schema.budgetOf (table.rows.filter fun row => row.1 ∈ other.names)) ∧
    (∀ fields, (ofFields? fields).map (·.rows) = some (Schema.ofList fields).fields) ∧
    (∀ properties, (ofProperties properties).andThen (fun made => .done (made.map (·.rows))) =
      (Schema.ofProperties properties).andThen fun schema => .done (some schema.fields)) ∧
    (∀ mapping, (ofMapping? mapping).map (Option.map (·.rows)) =
      (Schema.ofMapping? mapping).map fun schema => some schema.fields) ∧
    ∀ precision text, (ofText? precision text).map (Option.map (·.rows)) =
      (Schema.ofText? precision text).map fun schema => some schema.fields := by
  refine ⟨fun table schema built => ?_, fun table schema fields built => ?_,
    fun table schema other known built against => ?_, ofFields?_rows, ofProperties_rows, ofMapping?_rows,
    ofText?_rows⟩
  · obtain ⟨sound, rows⟩ := built.agrees
    refine ⟨sound, rows, fun name => ⟨?_, ?_, ?_⟩⟩
    · rw [sound.get?_places, names, rows, Schema.position?, Schema.names]
    · rw [sound.find?_eq, rows, Schema.find?]
    · rw [sound.contains_eq, names, rows, Bool.eq_iff_iff, decide_eq_true_iff]
      exact Members.isSome_get?_iff.symm
  · obtain ⟨sound, -⟩ := built.agrees
    obtain ⟨next, made, still, rows⟩ := sound.exists_insertAll fields
    have named : next.names = (table.names ++ Members.names fields).eraseDups := by
      rw [names, rows, Members.names_overlay sound.distinct, names]
    refine ⟨next, made, built.insertAll made, fun name property => ?_, named, ?_⟩
    · rw [still.find?_eq, sound.find?_eq, rows, Members.get?_overlay, Option.some.injEq, Option.some.injEq,
        Option.or_eq_some_iff, Members.get?_reverse_eq_some_iff, Members.get?_eq_none_iff]
      simp [Members.names]
    · have same : next.names.toFinset = (table.names ++ Members.names fields).toFinset := by
        ext name
        rw [named, List.mem_toFinset, List.mem_toFinset, List.mem_eraseDups]
      rw [← same, size, ← List.length_map]
      exact (List.toFinset_card_of_nodup still.distinct).symm
  · obtain ⟨sound, -⟩ := built.agrees
    obtain ⟨known', -⟩ := against.agrees
    obtain ⟨less, made, -, rows⟩ := sound.exists_difference other
    simp only [known'.contains_eq] at rows
    refine ⟨less, made, .difference built against made, rows.trans (List.filter_congr fun row _ => by simp), ?_⟩
    rw [budget, budget, rows]
    exact (Schema.budgetOf_filter_not_add_filter _ _).symm

/-- A name that comes again keeps its place and takes the later property, and a difference leaves the rest. -/
theorem built_exact_again :
    ∃ table other less : FieldTable,
      empty.insertAll? [("ID", .ofKind .integer), ("NAME", .ofKind .text), ("ID", .ofKind .long)] = some table ∧
        table.names = ["ID", "NAME"] ∧ table.find? "ID" = some (some (.ofKind .long)) ∧
        empty.insertAll? [("NAME", .ofAlias "ID")] = some other ∧ table.difference? other = some less ∧
        less.rows = [("ID", .ofKind .long)] ∧ table.budget = less.budget + 1 := by
  obtain ⟨-, grows, parts, -⟩ := built_exact
  obtain ⟨table, made, built, found, named, -⟩ := grows empty .empty
    [("ID", .ofKind .integer), ("NAME", .ofKind .text), ("ID", .ofKind .long)] .empty
  obtain ⟨other, apart, against, -⟩ := grows empty .empty [("NAME", .ofAlias "ID")] .empty
  obtain ⟨less, differs, -, rows, weight⟩ := parts table _ other _ built against
  cases (show some (⟨[("ID", .ofKind .long), ("NAME", .ofKind .text)], [("ID", 0), ("NAME", 1)]⟩ : FieldTable) =
    some table from made)
  cases (show some (⟨[("NAME", .ofAlias "ID")], [("NAME", 0)]⟩ : FieldTable) = some other from apart)
  refine ⟨_, _, less, made, named, (found "ID" _).mpr (.inl
    ⟨[("ID", .ofKind .integer), ("NAME", .ofKind .text)], [], rfl, List.not_mem_nil⟩), apart, differs, ?_, ?_⟩
  · exact rows
  · exact weight

end FieldTable
end CatalogSearch
