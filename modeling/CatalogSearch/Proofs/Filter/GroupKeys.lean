/-
**The key of a group says nothing, if the sections of a filter leave it alone.**

An entry whose value is a group is walked by its value: its key is kept for warnings only. But the sections
of a filter are put as fields before that, by keys alone. A group under the name of the flag is taken for the
flag and lost; a group whose key comes to be that of another entry is merged with it, and one of the two is
lost. In all other cases a group can have any key.

* `FilterTree.result_nodeOf_group` — a group has the same tree under every key;
* `Members.ofList_map` — entries whose keys are exchanged for others, one for one, are merged alike;
* `Hierarchy.Spares` — the sections leave a key alone: it is not the flag, and no other entry comes to have
  the same key; `Hierarchy.Exchangeable` — they leave two keys alone, or treat them alike;
* `FilterCompiler.result_compile_of_exchangeable` — then the group has the same result under either key;
* `FilterCompiler.not_result_compile_group_key` — under keys that are not exchangeable it may not.
-/

import CatalogSearch.Proofs.Filter.Aliases
import Mathlib.Logic.Equiv.Basic

namespace CatalogSearch

/-! ### Entries under other keys -/

/-- **A group has the same tree under every key.** -/
theorem FilterTree.result_nodeOf_group (mode : Mode) (schema : Schema) {members : Members Json}
    (grouped : (members.get? logicName).isSome = true) (key other : String) :
    (nodeOf mode schema key (.object members)).result =
      (nodeOf mode schema other (.object members)).result := by
  obtain ⟨marker, named⟩ := Option.isSome_iff_exists.mp grouped
  rw [nodeOf_of_logic _ named, nodeOf_of_logic _ named, Logged.result_andThen, Logged.result_andThen,
    mode.result_keep_congr (.droppedGroup key) (.droppedGroup other)]

/-- Of two steps with one result either can be taken in a list. -/
theorem Logged.result_filterMap_append_cons {ε α β : Type} {step : α → Logged ε (Option β)} {a b : α}
    (same : (step a).result = (step b).result) (front back : List α) :
    (filterMap step (front ++ a :: back)).result = (filterMap step (front ++ b :: back)).result := by
  induction front with
  | nil => simp only [List.nil_append, filterMap, result_andThen, same]
  | cons head rest ih => simp only [List.cons_append, filterMap, result_andThen, ih]

namespace Members

variable {α : Type}

theorem insert_map {f : String → String} (injective : f.Injective) (members : Members α) (name : String)
    (value : α) :
    insert (members.map fun entry => (f entry.1, entry.2)) (f name) value =
      (insert members name value).map fun entry => (f entry.1, entry.2) := by
  induction members with
  | nil => rfl
  | cons head rest ih =>
    obtain ⟨key, old⟩ := head
    rw [List.map_cons, insert, insert]
    by_cases same : key = name
    · rw [if_pos same, if_pos (congrArg f same), List.map_cons]
    · rw [if_neg same, if_neg fun met => same (injective met), List.map_cons, ih]

/-- **Entries whose keys are exchanged one for one are merged alike.** -/
theorem ofList_map {f : String → String} (injective : f.Injective) (pairs : List (String × α)) :
    ofList (pairs.map fun entry => (f entry.1, entry.2)) =
      (ofList pairs).map fun entry => (f entry.1, entry.2) := by
  -- The fold starts anywhere, so that the induction can step.
  have general : ∀ members : Members α,
      overlay (members.map fun entry => (f entry.1, entry.2))
          (pairs.map fun entry => (f entry.1, entry.2)) =
        (overlay members pairs).map fun entry => (f entry.1, entry.2) := by
    induction pairs with
    | nil => exact fun _ => rfl
    | cons head rest ih =>
      intro members
      have next := ih (insert members head.1 head.2)
      rwa [← insert_map injective] at next
  exact general []

end Members

/-! ### Sections -/

namespace Hierarchy

/-- **The sections of a filter leave a key alone**: it is not the flag, and no other entry comes to have the
same key. -/
structure Spares (names : Hierarchy) (others : Members Json) (key : String) : Prop where
  plain : names.isFlag key = false
  /-- No other entry is put under the same key. -/
  alone : ∀ entry ∈ others, names.isFlag entry.1 = false →
    names.image (names.isTransitive others) entry.1 ≠ names.image (names.isTransitive others) key

/-- **Two keys that the sections of a filter do not tell apart**: both are left alone, both name the flag, or
both are put under one key. -/
inductive Exchangeable (names : Hierarchy) (others : Members Json) (key other : String) : Prop
  | spared (first : names.Spares others key) (second : names.Spares others other)
  | flags (first : names.isFlag key = true) (second : names.isFlag other = true)
  | merged (first : names.isFlag key = false) (second : names.isFlag other = false)
      (same : names.image (names.isTransitive others) key = names.image (names.isTransitive others) other)

variable (names : Hierarchy)

/-- What is left of entries when the flag is taken away and the sections are put as fields. -/
def images (transitive : Bool) (entries : Members Json) : List (String × Json) :=
  (entries.filter fun entry => !names.isFlag entry.1).map fun entry =>
    (names.image transitive entry.1, entry.2)

theorem resolve_eq (filter : Members Json) :
    names.resolve filter = Members.ofList (names.images (names.isTransitive filter) filter) := rfl

theorem images_append (transitive : Bool) (front back : Members Json) :
    names.images transitive (front ++ back) =
      names.images transitive front ++ names.images transitive back := by
  simp only [images, List.filter_append, List.map_append]

theorem images_append_cons (transitive : Bool) (front back : Members Json) (entry : String × Json) :
    names.images transitive (front ++ entry :: back) =
      names.images transitive front ++
        ((if names.isFlag entry.1 then [] else [(names.image transitive entry.1, entry.2)]) ++
          names.images transitive back) := by
  cases flagged : names.isFlag entry.1 <;> simp [images, flagged]

/-- Whether the flag is set is not a matter of an entry that is not the flag. -/
theorem isTransitive_append_cons {key : String} (plain : names.isFlag key = false) (value : Json)
    (front back : Members Json) :
    names.isTransitive (front ++ (key, value) :: back) = names.isTransitive (front ++ back) := by
  unfold isTransitive
  rw [List.find?_append, List.find?_cons_of_neg (by simp [plain]), List.find?_append]

/-- Which name the flag goes by is no matter either. -/
theorem isTransitive_of_flags {key other : String} (first : names.isFlag key = true)
    (second : names.isFlag other = true) (value : Json) (front back : Members Json) :
    names.isTransitive (front ++ (key, value) :: back) =
      names.isTransitive (front ++ (other, value) :: back) := by
  unfold isTransitive
  rw [List.find?_append, List.find?_append]
  cases front.find? fun entry => names.isFlag entry.1 <;> simp [first, second]

/-- An entry that is not the flag is put in its place. -/
theorem resolve_append_cons {key : String} (plain : names.isFlag key = false) (value : Json)
    (front back : Members Json) :
    names.resolve (front ++ (key, value) :: back) =
      Members.ofList (names.images (names.isTransitive (front ++ back)) front ++
        (names.image (names.isTransitive (front ++ back)) key, value) ::
          names.images (names.isTransitive (front ++ back)) back) := by
  rw [resolve_eq, isTransitive_append_cons names plain, images_append_cons, if_neg (by simp [plain])]
  rfl

/-- Names that are not told apart give one filter, unless both are left alone. -/
theorem resolve_of_flags {key other : String} (first : names.isFlag key = true)
    (second : names.isFlag other = true) (value : Json) (front back : Members Json) :
    names.resolve (front ++ (key, value) :: back) = names.resolve (front ++ (other, value) :: back) := by
  rw [resolve_eq, resolve_eq, isTransitive_of_flags names first second, images_append_cons,
    images_append_cons, if_pos first, if_pos second]

/-- An entry among others that are left alone has a key of its own. -/
theorem Spares.ne_of_mem {names : Hierarchy} {others : Members Json} {key : String}
    (spared : names.Spares others key) {entry : String × Json}
    (inside : entry ∈ names.images (names.isTransitive others) others) :
    entry.1 ≠ names.image (names.isTransitive others) key := by
  obtain ⟨written, there, rfl⟩ := List.mem_map.mp inside
  obtain ⟨within, plain⟩ := List.mem_filter.mp there
  exact spared.alone written within (by simpa using plain)

end Hierarchy

/-! ### Filters as a whole -/

namespace Hierarchy

/-- Entries none of which has one of two keys are not touched when these are exchanged. -/
theorem map_swap_of_forall {x y : String} {entries : List (String × Json)}
    (other : ∀ entry ∈ entries, entry.1 ≠ x ∧ entry.1 ≠ y) :
    entries.map (fun entry => (Equiv.swap x y entry.1, entry.2)) = entries := by
  conv_rhs => rw [← List.map_id entries]
  refine List.map_congr_left fun entry inside => ?_
  obtain ⟨first, second⟩ := other entry inside
  rw [Equiv.swap_apply_of_ne_of_ne first second, id]

/-- **Keys that are left alone can be exchanged for each other**: of two filters that differ by such a key one
becomes the other. -/
theorem resolve_of_spared {names : Hierarchy} {front back : Members Json} {key other : String}
    (first : names.Spares (front ++ back) key) (second : names.Spares (front ++ back) other) (value : Json) :
    ∃ x y, names.resolve (front ++ (other, value) :: back) =
        (names.resolve (front ++ (key, value) :: back)).map (fun entry => (Equiv.swap x y entry.1, entry.2)) ∧
      ∀ entry ∈ names.resolve (front ++ (key, value) :: back),
        Equiv.swap x y entry.1 = entry.1 ∨ entry.2 = value := by
  have apart : ∀ entry ∈ names.images (names.isTransitive (front ++ back)) front ++
      names.images (names.isTransitive (front ++ back)) back,
      entry.1 ≠ names.image (names.isTransitive (front ++ back)) key ∧
        entry.1 ≠ names.image (names.isTransitive (front ++ back)) other := by
    intro entry inside
    rw [← images_append] at inside
    exact ⟨first.ne_of_mem inside, second.ne_of_mem inside⟩
  rw [resolve_append_cons names first.plain, resolve_append_cons names second.plain]
  generalize names.images (names.isTransitive (front ++ back)) front = before at apart ⊢
  generalize names.images (names.isTransitive (front ++ back)) back = behind at apart ⊢
  generalize names.image (names.isTransitive (front ++ back)) key = x at apart ⊢
  generalize names.image (names.isTransitive (front ++ back)) other = y at apart ⊢
  obtain ⟨early, late⟩ := List.forall_mem_append.mp apart
  refine ⟨x, y, ?_, fun entry inside => ?_⟩
  · rw [← Members.ofList_map (Equiv.injective _), List.map_append, List.map_cons, map_swap_of_forall early,
      map_swap_of_forall late, Equiv.swap_apply_left]
  · rcases List.mem_append.mp (Members.mem_of_mem_ofList inside) with before | rest
    · exact .inl (Equiv.swap_apply_of_ne_of_ne (early entry before).1 (early entry before).2)
    · rcases List.mem_cons.mp rest with rfl | behind
      · exact .inr rfl
      · exact .inl (Equiv.swap_apply_of_ne_of_ne (late entry behind).1 (late entry behind).2)

end Hierarchy

namespace FilterCompiler

open FilterTree

/-- **A group has the same result under every key that the sections do not tell apart from its own.** -/
theorem result_compile_of_exchangeable (compiler : FilterCompiler) (schema : Schema)
    {front back : Members Json} {key other : String} {members : Members Json}
    (grouped : (members.get? logicName).isSome = true)
    (exchangeable : ∀ names ∈ compiler.hierarchy, names.Exchangeable (front ++ back) key other) :
    (compiler.compile schema (front ++ (key, .object members) :: back)).result =
      (compiler.compile schema (front ++ (other, .object members) :: back)).result := by
  obtain ⟨mode, hierarchy⟩ := compiler
  have same := result_nodeOf_group mode schema grouped
  rw [compile_eq, compile_eq, Logged.result_andThen, Logged.result_andThen]
  refine congrArg (Except.bind · _) ?_
  cases hierarchy with
  | none => exact Logged.result_filterMap_append_cons (same key other) front back
  | some names =>
    show (Logged.filterMap _ (names.resolve _)).result = (Logged.filterMap _ (names.resolve _)).result
    rcases exchangeable names rfl with ⟨first, second⟩ | ⟨first, second⟩ | ⟨first, second, met⟩
    · obtain ⟨x, y, renamed, each⟩ := Hierarchy.resolve_of_spared first second (.object members)
      rw [renamed]
      refine (Logged.result_filterMap_map fun entry inside => ?_).symm
      rcases each entry inside with kept | group
      · simp only [kept]
      · simp only [group]
        exact same _ _
    · rw [names.resolve_of_flags first second]
    · rw [names.resolve_append_cons first, names.resolve_append_cons second, met]

/-- Under the name of a section beside a section and the flag that is set, and under the name of the field
that the section would be put as if it were not. -/
theorem result_compile_of_exchangeable_sections :
    let schema : Schema :=
      ⟨[("ID", .ofKind .integer), ("NAV_CHAIN_IDS", .ofKind .integer)], by decide⟩
    let front : Members Json := [("SECTION_ID", .ofNat 3)]
    let back : Members Json := [("INCLUDE_SUBSECTIONS", .string "Y")]
    let members : Members Json := [("LOGIC", .string "or"), ("ID", .ofNat 1), ("!ID", .ofNat 2)]
    (members.get? logicName).isSome = true ∧
      (∀ names ∈ some ({} : Hierarchy), names.Exchangeable (front ++ back) "!SECTION_CODE" "GROUP_IDS") ∧
      (compile {} schema (front ++ ("!SECTION_CODE", .object members) :: back)).result =
        .ok (.bool
          [ .onTerm "NAV_CHAIN_IDS" (.ofNat 3),
            .bool [] [.onTerm "ID" (.ofNat 1), .negation (.onTerm "ID" (.ofNat 2))] [] ] [] []) ∧
      (compile {} schema (front ++ ("!SECTION_CODE", .object members) :: back)).result =
        (compile {} schema (front ++ ("GROUP_IDS", .object members) :: back)).result := by
  intro schema front back members
  have exchangeable : ∀ names ∈ some ({} : Hierarchy),
      names.Exchangeable (front ++ back) "!SECTION_CODE" "GROUP_IDS" := by
    rintro _ ⟨⟩
    exact .spared ⟨by decide, by decide⟩ ⟨by decide, by decide⟩
  exact ⟨rfl, exchangeable, by decide, result_compile_of_exchangeable {} schema rfl exchangeable⟩

/-- **Not every key of a group can be any other**: under the name of the flag the group is lost, and with it
all that it asks for. -/
theorem not_result_compile_group_key :
    ¬ ∀ (compiler : FilterCompiler) (schema : Schema) (front back : Members Json) (key other : String)
        (members : Members Json), (members.get? logicName).isSome = true →
      other ∉ Members.names (front ++ (key, .object members) :: back) →
        (compiler.compile schema (front ++ (key, .object members) :: back)).result =
          (compiler.compile schema (front ++ (other, .object members) :: back)).result := by
  intro ignored
  let schema : Schema := ⟨[("ID", .ofKind .integer)], by decide⟩
  let members : Members Json := [("LOGIC", .string "AND"), ("ID", .ofNat 1)]
  have kept : (compile {} schema [("any", .object members)]).result =
      .ok (.bool [.bool [.onTerm "ID" (.ofNat 1)] [] []] [] []) := by
    decide
  have lost : (compile {} schema [("INCLUDE_SUBSECTIONS", .object members)]).result = .ok .everything := by
    decide
  have same := ignored {} schema [] [] "any" "INCLUDE_SUBSECTIONS" members rfl (by decide)
  cases kept.symm.trans (same.trans lost)

end FilterCompiler
end CatalogSearch
