/-
**An alias is another name for its field, and nothing else.**

Where a schema resolves an alias to a field, the field can be put for the alias in every key of a
filter, at every depth, and for every sorted field. The result stays: the same query, the same
clauses, or in the strict mode the same error. What is lost is only the spelling of the keys that the
lenient mode warns of.

* `FilterKey.renamed`, `FilterTree.renamed` — a key, and a filter, with a field put for an alias;
* `FilterTree.HasDistinctKeys` — no two sibling keys of a filter are equal. A renamed key could
  otherwise name the connective of its group;
* `FilterKey.read_renamed` — a renamed key has its operator, and the field for the alias;
* `FilterTree.conditionOf_renamed` — so it makes the same condition, or the same error;
* `FilterTree.result_nodeOf_renamed` — and the same tree, by induction over nested groups;
* `Schema.same_compilation_of_resolve` — filters and sorts by an alias and by its field.
-/

import CatalogSearch.Proofs.Filter.Traversal
import CatalogSearch.Sort.Compile
import Mathlib.Data.List.Nodup
import Mathlib.Data.List.TakeWhile

namespace CatalogSearch

namespace Logged

variable {ε α α' β : Type}

/-- Steps with the same results have the same results over lists. -/
theorem result_filterMap_map {step : α → Logged ε (Option β)} {other : α' → Logged ε (Option β)}
    {f : α → α'} {items : List α}
    (each : ∀ a ∈ items, (other (f a)).result = (step a).result) :
    (filterMap other (items.map f)).result = (filterMap step items).result := by
  induction items with
  | nil => rfl
  | cons a rest ih =>
    have head := each a List.mem_cons_self
    have tail := ih fun b member => each b (List.mem_cons_of_mem _ member)
    simp only [List.map_cons, filterMap, result_andThen, head, tail]

end Logged

/-- Warnings aside, a mode does the same with one step whatever it would warn of. -/
theorem Mode.result_keep_congr {α : Type} (mode : Mode) (warning other : Error → Warning)
    (step : Except Error α) : (mode.keep warning step).result = (mode.keep other step).result := by
  cases step with
  | ok a => rfl
  | error error => cases mode <;> rfl

/-! ### Resolution -/

namespace Schema

variable {schema : Schema} {name field : String}

/-- A field that a name stands for stands for itself. -/
theorem resolve_of_resolve (resolved : schema.resolve name = .ok field) :
    schema.resolve field = .ok field := by
  obtain ⟨property, found, plain⟩ := find?_of_resolve resolved
  exact resolve_of_plain found plain

/-- An alias never stands for a field without a name. -/
theorem ne_empty_of_resolve (resolved : schema.resolve name = .ok field) (named : name ≠ "") :
    field ≠ "" := by
  obtain ⟨property, found, leads⟩ := resolve_eq_ok_iff.mp resolved
  split at leads
  · have kept := (Option.filter_eq_some_iff.mp leads.1).2
    simpa using kept
  · exact leads ▸ named

end Schema

/-! ### Keys -/

namespace FilterKey

/-- **A key with a field put for an alias**, its marker kept. Other keys stay, and so do those that
are no keys of conditions. -/
def renamed (byname target key : String) : String :=
  match split? key with
  | some (marker, field) =>
    if field = byname ∧ (Operator.ofMarker? marker).isSome then marker ++ target else key
  | none => key

/-- The parts of a key: a marker without word characters, and a field name. -/
theorem split?_eq_some {key marker field : String} (parts : split? key = some (marker, field)) :
    (∀ c ∈ marker.toList, Text.isWord c = false) ∧ field ≠ "" := by
  simp only [split?] at parts
  split at parts
  · next word =>
    cases parts
    refine ⟨?_, ?_⟩
    · intro c member
      rw [String.toList_ofList] at member
      simpa using List.mem_takeWhile_imp member
    · intro none
      have empty := congrArg String.toList none
      rw [String.toList_ofList] at empty
      simp [empty] at word
  · cases parts

/-- A marker and a field name are told apart. -/
theorem split?_append {marker field : String} (dark : ∀ c ∈ marker.toList, Text.isWord c = false)
    (some : field ≠ "") (word : ∀ c ∈ field.toList, Text.isWord c = true) :
    split? (marker ++ field) = .some (marker, field) := by
  have stops : field.toList.takeWhile (fun c => !Text.isWord c) = [] := by
    cases letters : field.toList with
    | nil => rfl
    | cons c rest =>
      have first := word c (letters ▸ List.mem_cons_self)
      simp [first]
  have starts : field.toList.dropWhile (fun c => !Text.isWord c) = field.toList := by
    have whole := List.takeWhile_append_dropWhile (p := fun c => !Text.isWord c) (l := field.toList)
    rwa [stops, List.nil_append] at whole
  have passed : ∀ c ∈ marker.toList, (fun c => !Text.isWord c) c = true := fun c member => by
    simp [dark c member]
  have filled : field.toList ≠ [] := by simpa using some
  simp only [split?, String.toList_append]
  rw [List.takeWhile_append_of_pos passed, List.dropWhile_append_of_pos passed, stops, starts,
    List.append_nil, String.ofList_toList, String.ofList_toList]
  simp [filled, List.all_eq_true.mpr word]

/-- **A renamed key has its operator, and the field for the alias.** -/
theorem read_renamed {byname target : String} (key : String)
    (word : ∀ c ∈ target.toList, Text.isWord c = true) (some : byname ≠ "" → target ≠ "") :
    read (renamed byname target key) =
      (read key).map fun key => if key.field = byname then { key with field := target } else key := by
  unfold renamed
  cases parts : split? key with
  | none => simp [read, parts, Except.map]
  | some split =>
    obtain ⟨marker, field⟩ := split
    obtain ⟨dark, named⟩ := split?_eq_some parts
    cases known : Operator.ofMarker? marker with
    | none => simp [read, parts, known, Except.map]
    | some operator =>
      by_cases same : field = byname
      · have whole := split?_append dark (some (same ▸ named)) word
        simp [read, parts, known, same, whole, Except.map]
      · simp [read, parts, known, same, Except.map]

end FilterKey

/-! ### Filters -/

namespace FilterTree

/-- The key of an entry with a field put for an alias; the key of a group says nothing and stays. -/
def renamedKey (byname target key : String) (value : Json) : String :=
  if (value.member? logicName).isSome then key else FilterKey.renamed byname target key

mutual

/-- An entry's value with a field put for an alias in the keys of a group. -/
def renamedValue (byname target : String) : Json → Json
  | .object members =>
    match Members.get? members logicName with
    | none => .object members
    | some _ => .object (renamedMembers byname target members)
  | value => value

/-- The members of a group with a field put for an alias; its connective stays. -/
def renamedMembers (byname target : String) : List (String × Json) → List (String × Json)
  | [] => []
  | (key, value) :: rest =>
    (if key = logicName then (key, value)
      else (renamedKey byname target key value, renamedValue byname target value)) ::
        renamedMembers byname target rest

end

/-- An entry with a field put for an alias. -/
def renamedEntry (byname target : String) (entry : String × Json) : String × Json :=
  (renamedKey byname target entry.1 entry.2, renamedValue byname target entry.2)

/-- **A filter with a field put for an alias**, at every depth. -/
def renamed (byname target : String) (filter : Members Json) : Members Json :=
  filter.map (renamedEntry byname target)

mutual

/-- No two keys of a group are equal, nor of the groups in it. -/
def hasDistinctKeys : Json → Bool
  | .object members =>
    match Members.get? members logicName with
    | none => true
    | some _ => decide (Members.names members).Nodup && haveDistinctKeys members
  | _ => true

/-- No two keys of a group are equal in any of several values. -/
def haveDistinctKeys : List (String × Json) → Bool
  | [] => true
  | (_, value) :: rest => hasDistinctKeys value && haveDistinctKeys rest

end

/-- **No two sibling keys of a filter are equal**, at any depth. -/
def HasDistinctKeys (filter : Members Json) : Prop :=
  (Members.names filter).Nodup ∧ haveDistinctKeys filter = true

theorem haveDistinctKeys_iff {members : Members Json} :
    haveDistinctKeys members = true ↔ ∀ entry ∈ members, hasDistinctKeys entry.2 = true := by
  induction members with
  | nil => simp [haveDistinctKeys]
  | cons entry rest ih => simp [haveDistinctKeys, ih]

variable {schema : Schema} {byname target : String}

theorem renamedMembers_eq (byname target : String) (members : Members Json) :
    renamedMembers byname target members =
      members.map fun entry => if entry.1 = logicName then entry else renamedEntry byname target entry := by
  induction members with
  | nil => rfl
  | cons entry rest ih =>
    rw [renamedMembers, ih]
    rfl

/-- A group keeps its connective. -/
theorem connective_mem_renamedMembers {members : Members Json} {marker : Json}
    (named : members.get? logicName = some marker) :
    (logicName, marker) ∈ renamedMembers byname target members := by
  rw [renamedMembers_eq]
  exact List.mem_map.mpr ⟨_, Members.mem_of_get? named, if_pos rfl⟩

theorem renamedValue_of_noLogic {value : Json} (plain : value.member? logicName = none) :
    renamedValue byname target value = value := by
  cases value with
  | object members =>
    have absent : Members.get? members logicName = none := plain
    rw [renamedValue, absent]
  | _ => rfl

theorem renamedValue_of_logic {members : Members Json} {marker : Json}
    (named : members.get? logicName = some marker) :
    renamedValue byname target (.object members) = .object (renamedMembers byname target members) := by
  rw [renamedValue, named]

/-- **A renamed key makes the same condition**, or the same error. -/
theorem conditionOf_renamed (resolved : schema.resolve byname = .ok target)
    (word : ∀ c ∈ target.toList, Text.isWord c = true) (key : String) (value : Json) :
    conditionOf schema (FilterKey.renamed byname target key) value = conditionOf schema key value := by
  unfold conditionOf
  rw [FilterKey.read_renamed key word (Schema.ne_empty_of_resolve resolved)]
  cases FilterKey.read key with
  | error fault => rfl
  | ok key =>
    by_cases same : key.field = byname
    · have agree : schema.resolve target = schema.resolve key.field := by
        rw [same, resolved, Schema.resolve_of_resolve resolved]
      simp [Except.map, bind, Except.bind, same ▸ agree, same]
    · simp [Except.map, bind, Except.bind, same]

theorem result_leafOf_renamed (mode : Mode) (resolved : schema.resolve byname = .ok target)
    (word : ∀ c ∈ target.toList, Text.isWord c = true) (key : String) (value : Json) :
    (leafOf mode schema (FilterKey.renamed byname target key) value).result =
      (leafOf mode schema key value).result := by
  rw [leafOf, leafOf, Logged.result_andThen, Logged.result_andThen, conditionOf_renamed resolved word,
    mode.result_keep_congr]

/-! A group is renamed as it stands: its connective, and no other member, is named as such. -/

section Groups

variable {members : Members Json} {marker : Json}
  (distinct : (Members.names (renamedMembers byname target members)).Nodup)
  (named : members.get? logicName = some marker)
include distinct named

theorem get?_renamedMembers :
    Members.get? (renamedMembers byname target members) logicName = some marker :=
  Members.get?_of_mem distinct (connective_mem_renamedMembers named)

theorem filter_renamedMembers :
    (renamedMembers byname target members).filter (fun entry => entry.1 ≠ logicName) =
      (members.filter fun entry => entry.1 ≠ logicName).map (renamedEntry byname target) := by
  -- An entry renamed to the connective's name would stand beside the connective.
  have other : ∀ entry ∈ members, entry.1 ≠ logicName →
      (renamedEntry byname target entry).1 ≠ logicName := by
    intro entry member plain renamed
    rw [renamedMembers_eq, Members.names, List.map_map] at distinct
    have same := List.inj_on_of_nodup_map distinct member (Members.mem_of_get? named)
      (by simp [plain, renamed])
    exact plain (congrArg Prod.fst same)
  rw [renamedMembers_eq]
  clear distinct named
  induction members with
  | nil => rfl
  | cons entry rest ih =>
    have tail := ih fun entry member => other entry (List.mem_cons_of_mem _ member)
    by_cases plain : entry.1 = logicName
    · rw [List.map_cons, if_pos plain, List.filter_cons_of_neg (by simp [plain]), tail,
        List.filter_cons_of_neg (by simp [plain])]
    · have moved := other entry List.mem_cons_self plain
      rw [List.map_cons, if_neg plain, List.filter_cons_of_pos (by simp [moved]), tail,
        List.filter_cons_of_pos (by simp [plain]), List.map_cons]

end Groups

/-- Where a renamed group has distinct keys, so have its entries. -/
theorem distinctKeys_renamedMembers {members : Members Json} {marker : Json}
    (named : members.get? logicName = some marker)
    (distinct : hasDistinctKeys (.object (renamedMembers byname target members)) = true) :
    (Members.names (renamedMembers byname target members)).Nodup ∧
      ∀ entry ∈ members, entry.1 ≠ logicName →
        hasDistinctKeys (renamedValue byname target entry.2) = true := by
  have inside : logicName ∈ Members.names (renamedMembers byname target members) :=
    List.mem_map.mpr ⟨_, connective_mem_renamedMembers named, rfl⟩
  obtain ⟨first, found⟩ := Option.isSome_iff_exists.mp (Members.isSome_get?_iff.mpr inside)
  rw [hasDistinctKeys, found] at distinct
  obtain ⟨nodup, below⟩ := Bool.and_eq_true_iff.mp distinct
  refine ⟨of_decide_eq_true nodup, fun entry member other => ?_⟩
  have moved := haveDistinctKeys_iff.mp below (renamedEntry byname target entry) (by
    rw [renamedMembers_eq]
    exact List.mem_map.mpr ⟨entry, member, if_neg other⟩)
  exact moved

/-- **A renamed entry has the same tree**, or the same error, whatever it is nested in. -/
theorem result_nodeOf_renamed (mode : Mode) (resolved : schema.resolve byname = .ok target)
    (word : ∀ c ∈ target.toList, Text.isWord c = true) (value : Json) :
    ∀ key, hasDistinctKeys (renamedValue byname target value) = true →
      (nodeOf mode schema (renamedKey byname target key value)
        (renamedValue byname target value)).result = (nodeOf mode schema key value).result := by
  induction value using Json.members_induction with
  | step value ih =>
    intro key distinct
    cases plain : value.member? logicName with
    | none =>
      rw [renamedValue_of_noLogic plain, renamedKey, plain, nodeOf_of_noLogic _ plain,
        nodeOf_of_noLogic _ plain]
      exact result_leafOf_renamed mode resolved word key value
    | some marker =>
      cases value with
      | object members =>
        have named : Members.get? members logicName = some marker := plain
        rw [renamedValue_of_logic named] at distinct ⊢
        obtain ⟨nodup, below⟩ := distinctKeys_renamedMembers named distinct
        rw [nodeOf_of_logic _ (get?_renamedMembers nodup named), nodeOf_of_logic _ named,
          Logged.result_andThen, Logged.result_andThen,
          mode.result_keep_congr (.droppedGroup (renamedKey byname target key _)) (.droppedGroup key)]
        refine congrArg _ (funext fun logic => ?_)
        cases logic with
        | none => rfl
        | some logic =>
          have entries : (groupEntries mode schema (renamedMembers byname target members)).result =
              (groupEntries mode schema members).result := by
            rw [groupEntries_eq, groupEntries_eq, filter_renamedMembers nodup named]
            refine Logged.result_filterMap_map fun entry member => ?_
            obtain ⟨inside, other⟩ := List.mem_filter.mp member
            exact ih members rfl entry inside entry.1 (below entry inside (by simpa using other))
          simp only [Logged.result_andThen, entries]
      | _ => cases plain

end FilterTree

/-! ### Filters and sorts as a whole -/

namespace FilterCompiler

open FilterTree

variable {schema : Schema} {byname target : String}

theorem result_compile_renamed (mode : Mode) (resolved : schema.resolve byname = .ok target)
    (word : ∀ c ∈ target.toList, Text.isWord c = true) (filter : Members Json)
    (distinct : HasDistinctKeys (renamed byname target filter)) :
    (compile ⟨mode, none⟩ schema (renamed byname target filter)).result =
      (compile ⟨mode, none⟩ schema filter).result := by
  have entries : (Logged.filterMap (fun entry => nodeOf mode schema entry.1 entry.2)
        (renamed byname target filter)).result =
      (Logged.filterMap (fun entry => nodeOf mode schema entry.1 entry.2) filter).result := by
    refine Logged.result_filterMap_map fun entry member => ?_
    have below := haveDistinctKeys_iff.mp distinct.2 _ (List.mem_map.mpr ⟨entry, member, rfl⟩)
    exact result_nodeOf_renamed mode resolved word entry.2 entry.1 below
  rw [compile_eq, compile_eq, Logged.result_andThen, Logged.result_andThen, rewritten, rewritten,
    entries]

end FilterCompiler

namespace SortCompiler

variable {schema : Schema} {byname target : String}

/-- A sorted field with a field put for an alias. -/
def renamed (byname target field : String) : String := if field = byname then target else field

/-- **A field sorts as its alias does**, whatever the directive. -/
theorem compileOne_resolved (resolved : schema.resolve byname = .ok target) (text : String) :
    compileOne schema target text = compileOne schema byname text := by
  unfold compileOne SortDirective.read
  cases SortDirective.parts? text with
  | none => rfl
  | some parts =>
    simp only [bind, Except.bind, SortDirective.clauses, resolved, Schema.resolve_of_resolve resolved]

theorem result_compile_renamed (mode : Mode) (resolved : schema.resolve byname = .ok target)
    (pairs : List (String × String)) :
    (compile ⟨mode⟩ schema (pairs.map fun pair => (renamed byname target pair.1, pair.2))).result =
      (compile ⟨mode⟩ schema pairs).result := by
  rw [compile, compile, Logged.result_andThen, Logged.result_andThen]
  refine congrArg (Except.bind · _) (Logged.result_filterMap_map fun pair _ => ?_)
  by_cases same : pair.1 = byname
  · simp only [renamed, same, if_pos]
    rw [compileOne_resolved resolved]
    exact mode.result_keep_congr _ _ _
  · simp only [renamed, same, if_false]

end SortCompiler

/-- **Where an alias stands for a field, either can be written**: a filter by the alias has the result
of the same filter by the field, if the field can be written in a key and no two sibling keys become
equal, and so has a sort, whatever the mode. -/
theorem Schema.same_compilation_of_resolve (schema : Schema) {byname target : String}
    (resolved : schema.resolve byname = .ok target) :
    ((∀ c ∈ target.toList, Text.isWord c = true) → ∀ mode filter,
      FilterTree.HasDistinctKeys (FilterTree.renamed byname target filter) →
        (FilterCompiler.compile ⟨mode, none⟩ schema
          (FilterTree.renamed byname target filter)).result =
          (FilterCompiler.compile ⟨mode, none⟩ schema filter).result) ∧
    (∀ text, SortCompiler.compileOne schema target text =
      SortCompiler.compileOne schema byname text) ∧
    (∀ mode pairs,
      (SortCompiler.compile ⟨mode⟩ schema
        (pairs.map fun pair => (SortCompiler.renamed byname target pair.1, pair.2))).result =
        (SortCompiler.compile ⟨mode⟩ schema pairs).result) :=
  ⟨fun word mode filter distinct =>
      FilterCompiler.result_compile_renamed mode resolved word filter distinct,
    SortCompiler.compileOne_resolved resolved,
    fun mode pairs => SortCompiler.result_compile_renamed mode resolved pairs⟩

/-- An alias under two operators, beside a group that holds it under two more: a limit that takes no
array, and a marker that is no operator and stays as it is. -/
theorem Schema.same_compilation_of_resolve_nested :
    let schema : Schema :=
      ⟨[("XML_ID", .ofKind .keyword), ("EXTERNAL_ID", .ofAlias "XML_ID")], by decide⟩
    let filter : Members Json :=
      [ ("!EXTERNAL_ID", .string "a"), ("EXTERNAL_ID", .array [.string "b", .bool true]),
        ("EXTERNAL_ID ", .object
          [ ("LOGIC", .string "or"), ("%EXTERNAL_ID", .number .zero),
            (">=EXTERNAL_ID", .array []), ("?EXTERNAL_ID", .null) ]) ]
    let written : Members Json :=
      [ ("!XML_ID", .string "a"), ("XML_ID", .array [.string "b", .bool true]),
        ("EXTERNAL_ID ", .object
          [ ("LOGIC", .string "or"), ("%XML_ID", .number .zero),
            (">=XML_ID", .array []), ("?EXTERNAL_ID", .null) ]) ]
    schema.resolve "EXTERNAL_ID" = .ok "XML_ID" ∧
    (∀ c ∈ "XML_ID".toList, Text.isWord c = true) ∧
    FilterTree.renamed "EXTERNAL_ID" "XML_ID" filter = written ∧
    FilterTree.HasDistinctKeys written ∧
    (FilterCompiler.compile ⟨.lenient, none⟩ schema filter).result =
      .ok (.bool
        [ .terms [("XML_ID", [.string "b", .string "1"])],
          .bool [] [.wildcard [("XML_ID", .string "*0*")]] [] ]
        [] [.term [("XML_ID", .string "a")]]) ∧
    (∀ mode, (FilterCompiler.compile ⟨mode, none⟩ schema written).result =
      (FilterCompiler.compile ⟨mode, none⟩ schema filter).result) ∧
    SortCompiler.compileOne schema "XML_ID" "nulls, desc" =
      SortCompiler.compileOne schema "EXTERNAL_ID" "nulls, desc" := by
  intro schema filter written
  have resolved : schema.resolve "EXTERNAL_ID" = .ok "XML_ID" := rfl
  have word : ∀ c ∈ "XML_ID".toList, Text.isWord c = true := List.all_eq_true.mp rfl
  have renamed : FilterTree.renamed "EXTERNAL_ID" "XML_ID" filter = written := rfl
  have distinct : FilterTree.HasDistinctKeys written := ⟨by decide, rfl⟩
  obtain ⟨filters, sorts, _⟩ := schema.same_compilation_of_resolve resolved
  exact ⟨resolved, word, renamed, distinct, rfl,
    fun mode => renamed ▸ filters word mode filter (renamed ▸ distinct), sorts _⟩

end CatalogSearch
