/-
**Sections are put as fields, and nothing else in a filter changes.**

The flag is looked for first: its first entry decides for all sections, wherever it stands and whatever marker
it has. Then each entry but the flag's is put under the key that stands for its own, and of entries that come
to one key the first gives the place and the last the value.

* `FilterKey.split?_eq_some_iff` — the two parts of a key are the ones that its characters make;
* `Hierarchy.Becomes` — the key that stands for a key; `Hierarchy.becomes_iff`: the one that is computed;
* `Hierarchy.Settled` — a key that names neither the flag nor a section: it stands for itself;
* `Hierarchy.Separate` — the derived fields are field names of their own; then every key that is put is
  settled, however two keys may have met (`Hierarchy.settled_image`);
* `Hierarchy.resolve_substitutes` — a filter as a whole, and again: the second time nothing is left to do.
-/

import CatalogSearch.Proofs.Filter.GroupKeys

namespace CatalogSearch

/-! ### The parts of a key -/

/-- **A key has the parts that its characters make**: no word characters, and then word characters only. -/
theorem FilterKey.split?_eq_some_iff {key marker field : String} :
    split? key = some (marker, field) ↔
      key = marker ++ field ∧ (∀ c ∈ marker.toList, Text.isWord c = false) ∧ field ≠ "" ∧
        ∀ c ∈ field.toList, Text.isWord c = true := by
  constructor
  · intro parts
    obtain ⟨dark, named⟩ := split?_eq_some parts
    simp only [split?] at parts
    split at parts
    · next word =>
      cases parts
      refine ⟨?_, dark, named, ?_⟩
      · rw [← String.ofList_append, List.takeWhile_append_dropWhile, String.ofList_toList]
      · rw [String.toList_ofList]
        exact List.all_eq_true.mp (Bool.and_eq_true_iff.mp word).2
    · cases parts
  · rintro ⟨rfl, dark, named, word⟩
    exact split?_append dark named word

namespace Hierarchy

/-! ### The key that stands for a key -/

/-- **The key that stands for a key.** Behind the same marker the field of a section gives way to the field
that its sort asks for; every other key stands for itself. -/
inductive Becomes (names : Hierarchy) (transitive : Bool) : String → String → Prop
  | byId {key marker field : String} (parts : FilterKey.split? key = some (marker, field))
      (scope : field ∈ names.idScopes) :
      Becomes names transitive key
        (marker ++ if transitive then names.transitiveIds else names.directIds)
  | byCode {key marker field : String} (parts : FilterKey.split? key = some (marker, field))
      (other : field ∉ names.idScopes) (scope : field ∈ names.codeScopes) :
      Becomes names transitive key
        (marker ++ if transitive then names.transitiveCodes else names.directCodes)
  | kept {key : String} (other : ∀ marker field, FilterKey.split? key = some (marker, field) →
      field ∉ names.idScopes ∧ field ∉ names.codeScopes) : Becomes names transitive key key

variable {names : Hierarchy} {transitive : Bool} {key : String}

theorem becomes_image (names : Hierarchy) (transitive : Bool) (key : String) :
    names.Becomes transitive key (names.image transitive key) := by
  unfold image
  cases parts : FilterKey.split? key with
  | none => exact .kept fun marker field some => nomatch parts.symm.trans some
  | some split =>
    obtain ⟨marker, field⟩ := split
    by_cases byId : field ∈ names.idScopes
    · simp only [target?, if_pos byId]
      exact .byId parts byId
    · by_cases byCode : field ∈ names.codeScopes
      · simp only [target?, if_neg byId, if_pos byCode]
        exact .byCode parts byId byCode
      · simp only [target?, if_neg byId, if_neg byCode]
        refine .kept fun marker' field' same => ?_
        cases parts.symm.trans same
        exact ⟨byId, byCode⟩

/-- A key is stood for by the key that is computed, and by no other. -/
theorem becomes_iff {other : String} :
    names.Becomes transitive key other ↔ names.image transitive key = other := by
  constructor
  · rintro (⟨parts, scope⟩ | ⟨parts, apart, scope⟩ | apart)
    · simp [image, parts, target?, scope]
    · simp [image, parts, target?, apart, scope]
    · unfold image
      cases parts : FilterKey.split? key with
      | none => rfl
      | some split =>
        obtain ⟨noId, noCode⟩ := apart split.1 split.2 parts
        simp [target?, noId, noCode]
  · rintro rfl
    exact becomes_image names transitive key

/-! ### Keys that are settled -/

/-- **A key that names neither the flag nor a section.** -/
def Settled (names : Hierarchy) (key : String) : Prop :=
  ∀ marker field, FilterKey.split? key = some (marker, field) →
    field ≠ names.flag ∧ field ∉ names.idScopes ∧ field ∉ names.codeScopes

theorem Settled.isFlag_eq_false (settled : names.Settled key) : names.isFlag key = false := by
  unfold isFlag fieldOf?
  cases parts : FilterKey.split? key with
  | none => simp
  | some split => simpa using (settled split.1 split.2 parts).1

theorem Settled.image_eq (settled : names.Settled key) : names.image transitive key = key :=
  becomes_iff.mp (.kept fun marker field parts => (settled marker field parts).2)

/-- Settled keys, each of which is there once, are a filter in which there is nothing to do. -/
theorem resolve_of_settled {filter : Members Json} (settled : ∀ key ∈ Members.names filter, names.Settled key)
    (distinct : (Members.names filter).Nodup) : names.resolve filter = filter := by
  have each : ∀ entry ∈ filter, names.Settled entry.1 := fun entry inside =>
    settled entry.1 (List.mem_map.mpr ⟨entry, inside, rfl⟩)
  have unchanged : names.images (names.isTransitive filter) filter = filter := by
    unfold images
    rw [List.filter_eq_self.mpr fun entry inside => by simp [(each entry inside).isFlag_eq_false]]
    conv_rhs => rw [← List.map_id filter]
    refine List.map_congr_left fun entry inside => ?_
    rw [(each entry inside).image_eq, id]
  rw [resolve_eq, unchanged, Members.ofList_eq_self distinct]

/-! ### Derived fields of their own -/

/-- The fields that sections are put as. -/
def derived (names : Hierarchy) : List String :=
  [names.directIds, names.transitiveIds, names.directCodes, names.transitiveCodes]

/-- **The derived fields are field names of their own**: word characters only, not the flag and no section. -/
structure Separate (names : Hierarchy) : Prop where
  word : ∀ field ∈ names.derived, ∀ c ∈ field.toList, Text.isWord c = true
  notFlag : ∀ field ∈ names.derived, field ≠ names.flag
  notScope : ∀ field ∈ names.derived, field ∉ names.idScopes ∧ field ∉ names.codeScopes

/-- A derived field behind a marker is settled. It has a field name, if it has one, in its own place: without a
name the marker alone is left, which is no key at all. -/
theorem Separate.settled_append (separate : names.Separate) {marker field : String}
    (dark : ∀ c ∈ marker.toList, Text.isWord c = false) (derived : field ∈ names.derived) :
    names.Settled (marker ++ field) := by
  intro marker' field' parts
  by_cases named : field = ""
  · obtain ⟨whole, -, named', word'⟩ := FilterKey.split?_eq_some_iff.mp parts
    obtain ⟨c, inside⟩ := List.exists_mem_of_ne_nil field'.toList (by simpa using named')
    have within : c ∈ marker.toList := by
      rw [named, String.append_empty] at whole
      rw [whole, String.toList_append]
      exact List.mem_append_right _ inside
    exact absurd (dark c within) (by simp [word' c inside])
  · have own := FilterKey.split?_append dark named (separate.word field derived)
    cases own.symm.trans parts
    exact ⟨separate.notFlag field derived, separate.notScope field derived⟩

/-- **What is put for a key that is not the flag is settled.** -/
theorem Separate.settled_image (separate : names.Separate) (plain : names.isFlag key = false) :
    names.Settled (names.image transitive key) := by
  have becomes := becomes_image names transitive key
  generalize names.image transitive key = put at becomes ⊢
  cases becomes with
  | byId parts scope =>
    refine separate.settled_append (FilterKey.split?_eq_some parts).1 ?_
    cases transitive <;> simp [derived]
  | byCode parts other scope =>
    refine separate.settled_append (FilterKey.split?_eq_some parts).1 ?_
    cases transitive <;> simp [derived]
  | kept other =>
    intro marker field parts
    refine ⟨fun same => ?_, other marker field parts⟩
    simp [isFlag, fieldOf?, parts, same] at plain

/-! ### Filters as a whole -/

theorem names_images (names : Hierarchy) (transitive : Bool) (entries : Members Json) :
    Members.names (names.images transitive entries) =
      (entries.filter fun entry => !names.isFlag entry.1).map fun entry => names.image transitive entry.1 := by
  simp [Members.names, images]

/-- An entry that is put was written under a key that it stands for, and what was written on either side of it
is put on the same side. -/
theorem images_eq_append_cons {entries : Members Json} {value : Json} {front back : Members Json}
    (put : names.images transitive entries = front ++ (key, value) :: back) :
    ∃ before written behind, entries = before ++ (written, value) :: behind ∧
      names.isFlag written = false ∧ names.image transitive written = key ∧
        names.images transitive behind = back := by
  unfold images at put
  -- the list is split where it was mapped, and then where it was filtered: there entries may have been skipped
  obtain ⟨early, late, kept, rfl, rest⟩ := List.map_eq_append_iff.mp put
  obtain ⟨⟨written, given⟩, later, rfl, same, rfl⟩ := List.map_eq_cons_iff.mp rest
  obtain ⟨before, middle, rfl, -, found⟩ := List.filter_eq_append_iff.mp kept
  obtain ⟨skipped, behind, rfl, -, plain, rfl⟩ := List.filter_eq_cons_iff.mp found
  cases same
  exact ⟨before ++ skipped, written, behind, by simp, by simpa using plain, rfl, rfl⟩

/-- **Under each key stands the value of the last entry whose key it stands for.** -/
theorem mem_resolve_iff {filter : Members Json} {value : Json} :
    (key, value) ∈ names.resolve filter ↔
      ∃ front written back, filter = front ++ (written, value) :: back ∧ names.isFlag written = false ∧
        names.image (names.isTransitive filter) written = key ∧
        ∀ entry ∈ back, names.isFlag entry.1 = false →
          names.image (names.isTransitive filter) entry.1 ≠ key := by
  -- the flag is read off the whole filter, so that its value must be fixed before the filter is split
  generalize flagged : names.isTransitive filter = transitive
  rw [resolve_eq, flagged, Members.mem_ofList_iff]
  constructor
  · rintro ⟨early, late, put, last⟩
    obtain ⟨front, written, back, rfl, plain, same, rfl⟩ := images_eq_append_cons put
    refine ⟨front, written, back, rfl, plain, same, fun entry inside unflagged met => last ?_⟩
    rw [names_images]
    exact List.mem_map.mpr ⟨entry, List.mem_filter.mpr ⟨inside, by simp [unflagged]⟩, met⟩
  · rintro ⟨front, written, back, rfl, plain, rfl, last⟩
    refine ⟨names.images transitive front, names.images transitive back, ?_, fun inside => ?_⟩
    · rw [images_append_cons, if_neg (by simp [plain])]
      rfl
    · rw [names_images] at inside
      obtain ⟨entry, there, met⟩ := List.mem_map.mp inside
      obtain ⟨within, unflagged⟩ := List.mem_filter.mp there
      exact last entry within (by simpa using unflagged) met

/-- The first entry of the flag decides. -/
theorem isTransitive_iff {filter : Members Json} :
    names.isTransitive filter = true ↔
      ∃ front flag value back, filter = front ++ (flag, value) :: back ∧
        (∀ entry ∈ front, names.isFlag entry.1 = false) ∧ names.isFlag flag = true ∧
          value.isTruthy = true := by
  unfold isTransitive
  constructor
  · intro set
    cases found : filter.find? fun entry => names.isFlag entry.1 with
    | none =>
      rw [found] at set
      cases set
    | some entry =>
      rw [found] at set
      obtain ⟨flagged, front, back, rfl, early⟩ := List.find?_eq_some_iff_append.mp found
      exact ⟨front, entry.1, entry.2, back, rfl, fun one inside => by simpa using early one inside,
        flagged, set⟩
  · rintro ⟨front, flag, value, back, rfl, early, flagged, set⟩
    have found : (front ++ (flag, value) :: back).find? (fun entry => names.isFlag entry.1) =
        some (flag, value) :=
      List.find?_eq_some_iff_append.mpr
        ⟨flagged, front, back, rfl, fun one inside => by simp [early one inside]⟩
    rw [found]
    exact set

theorem settled_of_mem_resolve (separate : names.Separate) {filter : Members Json}
    (inside : key ∈ Members.names (names.resolve filter)) : names.Settled key := by
  obtain ⟨⟨key, value⟩, there, rfl⟩ := List.mem_map.mp inside
  obtain ⟨front, written, back, -, plain, rfl, -⟩ := mem_resolve_iff.mp there
  exact separate.settled_image plain

/-- **Sections are put as fields, and nothing else in a filter changes.** The first entry of the flag decides
for all of them. No key of the flag or of a section is left. The keys are those that stand for the keys but the
flag's, each where it occurs first, and has the value of the last entry that comes to it. Done again, this
changes nothing. -/
theorem resolve_substitutes (names : Hierarchy) (separate : names.Separate) (filter : Members Json) :
    ∃ (transitive : Bool) (image : String → String),
      (transitive = true ↔
        ∃ front flag value back, filter = front ++ (flag, value) :: back ∧
          (∀ entry ∈ front, names.isFlag entry.1 = false) ∧ names.isFlag flag = true ∧
            value.isTruthy = true) ∧
      (∀ key other, image key = other ↔ names.Becomes transitive key other) ∧
      (∀ key ∈ Members.names (names.resolve filter), names.Settled key) ∧
      Members.names (names.resolve filter) =
        ((filter.filter fun entry => !names.isFlag entry.1).map fun entry => image entry.1).eraseDups ∧
      (∀ key value, (key, value) ∈ names.resolve filter ↔
        ∃ front written back, filter = front ++ (written, value) :: back ∧ names.isFlag written = false ∧
          image written = key ∧
          ∀ entry ∈ back, names.isFlag entry.1 = false → image entry.1 ≠ key) ∧
      names.resolve (names.resolve filter) = names.resolve filter := by
  have settled : ∀ key ∈ Members.names (names.resolve filter), names.Settled key :=
    fun key inside => settled_of_mem_resolve separate inside
  have distinct : (Members.names (names.resolve filter)).Nodup := Members.nodup_names_ofList _
  refine ⟨names.isTransitive filter, names.image (names.isTransitive filter), isTransitive_iff,
    fun key other => becomes_iff.symm, settled, ?_, fun key value => mem_resolve_iff,
    resolve_of_settled settled distinct⟩
  rw [resolve_eq, Members.names_ofList, names_images]

/-- Two sections and a field that come to one key, a flag that is set behind the first of them and then unset
again, and a marker alone. -/
theorem resolve_substitutes_colliding :
    let names : Hierarchy := {}
    let filter : Members Json :=
      [ ("!SECTION_ID", .ofNat 1), ("~INCLUDE_SUBSECTIONS", .string "Y"), ("SECTION_CODE", .string "shoes"),
        ("!IBLOCK_SECTION_ID", .ofNat 2), ("INCLUDE_SUBSECTIONS", .string "N"), (">=", .null),
        ("!NAV_CHAIN_IDS", .ofNat 3) ]
    names.Separate ∧
      names.resolve filter =
        [("!NAV_CHAIN_IDS", .ofNat 3), ("NAV_CHAIN_CODES", .string "shoes"), (">=", .null)] ∧
      (∀ key ∈ Members.names (names.resolve filter), names.Settled key) ∧
      names.resolve (names.resolve filter) = names.resolve filter := by
  intro names filter
  have word : names.derived.all (fun field => field.toList.all Text.isWord) = true := by decide
  have separate : names.Separate :=
    ⟨fun field inside => List.all_eq_true.mp (List.all_eq_true.mp word field inside), by decide, by decide⟩
  obtain ⟨-, -, -, -, settled, -, -, again⟩ := resolve_substitutes names separate filter
  exact ⟨separate, by decide, settled, again⟩

end Hierarchy
end CatalogSearch
