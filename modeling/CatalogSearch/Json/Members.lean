/-
**Members: an ordered map from names.**

The members of an object, the fields of a schema and the entries of a filter keep their order. A
name that is inserted again keeps its first place and takes its last value.

* `get?`, `insert`, `erase`, `names` — look-up, replacement in place, removal;
* `ofList` — the members that insertion from left to right builds;
* `get?_insert`, `names_insert` — what insertion does to look-up and to the names; `get?_erase` — what
  removal does; `overlay_eq_append` — new names go behind all others;
* `isSome_get?_iff`, `mem_of_get?`, `get?_of_mem` — a value is found under the names; what is found is
  there, and where no name occurs twice, what is there is found;
* `mem_of_mem_ofList`, `get?_ofList`, `mem_ofList_iff` — what insertion builds consists of what is inserted,
  and has under each name what was inserted last;
* `names_ofList` — its names are the inserted ones, each where it occurs first;
* `insert_of_getElem?` — a name that is there keeps its place; `filter_overlay` — insertion keeps the members
  of some names apart from the others; `overlay_flatMap` — members that come in blocks.
-/

namespace CatalogSearch

/-- Values under names, in order. -/
abbrev Members (α : Type) := List (String × α)

namespace Members

variable {α : Type}

/-- The value under a name. -/
def get? : Members α → String → Option α
  | [], _ => none
  | (key, value) :: rest, name => if key = name then some value else get? rest name

/-- Puts a value under a name: in place of the old value, or behind all others. -/
def insert : Members α → String → α → Members α
  | [], name, value => [(name, value)]
  | (key, old) :: rest, name, value =>
    if key = name then (key, value) :: rest else (key, old) :: insert rest name value

/-- The members without a name. -/
def erase (members : Members α) (name : String) : Members α := members.filter (·.1 ≠ name)

/-- The names in order. -/
def names (members : Members α) : List String := members.map (·.1)

/-- The members that a list of pairs builds by insertion from left to right. -/
def ofList (pairs : List (String × α)) : Members α :=
  pairs.foldl (fun members pair => members.insert pair.1 pair.2) []

/-- The members of two maps, where the second one's values win. -/
def overlay (base upper : Members α) : Members α :=
  upper.foldl (fun members pair => members.insert pair.1 pair.2) base

@[simp] theorem get?_nil (name : String) : get? ([] : Members α) name = none := rfl

theorem get?_insert (members : Members α) (name other : String) (value : α) :
    get? (insert members name value) other =
      if name = other then some value else get? members other := by
  induction members with
  | nil => simp [insert, get?]
  | cons head rest ih =>
    obtain ⟨key, old⟩ := head
    by_cases same : key = name
    · by_cases asked : key = other <;> simp_all [insert, get?]
    · by_cases asked : key = other
      · have : name ≠ other := fun eq => same (asked.trans eq.symm)
        simp_all [insert, get?]
      · simp_all [insert, get?]

theorem mem_of_get? {members : Members α} {name : String} {value : α}
    (found : get? members name = some value) : (name, value) ∈ members := by
  induction members with
  | nil => cases found
  | cons head rest ih =>
    obtain ⟨key, first⟩ := head
    by_cases same : key = name
    · simp_all [get?]
    · rw [get?, if_neg same] at found
      exact List.mem_cons_of_mem _ (ih found)

theorem get?_of_mem {members : Members α} (distinct : (names members).Nodup) {name : String}
    {value : α} (member : (name, value) ∈ members) : get? members name = some value := by
  induction members with
  | nil => cases member
  | cons head rest ih =>
    obtain ⟨key, first⟩ := head
    obtain ⟨fresh, others⟩ := List.nodup_cons.mp distinct
    rcases List.mem_cons.mp member with here | later
    · cases here
      simp [get?]
    · have other : key ≠ name := fun same =>
        fresh (List.mem_map.mpr ⟨_, later, same.symm⟩)
      rw [get?, if_neg other, ih others later]

/-- A value is found under the names, and under no others. -/
theorem isSome_get?_iff {members : Members α} {name : String} :
    (get? members name).isSome = true ↔ name ∈ names members := by
  induction members with
  | nil => simp [names]
  | cons head rest ih =>
    obtain ⟨key, first⟩ := head
    by_cases same : key = name
    · simp [get?, names, same]
    · have other : name ≠ key := fun eq => same eq.symm
      simpa [get?, names, same, other] using ih

theorem get?_eq_none_iff {members : Members α} {name : String} :
    get? members name = none ↔ name ∉ names members := by
  rw [← isSome_get?_iff, Bool.not_eq_true, Option.isSome_eq_false_iff, Option.isNone_iff_eq_none]

theorem names_insert (members : Members α) (name : String) (value : α) :
    names (insert members name value) =
      if name ∈ names members then names members else names members ++ [name] := by
  induction members with
  | nil => simp [insert, names]
  | cons head rest ih =>
    obtain ⟨key, old⟩ := head
    by_cases same : key = name
    · simp [insert, names, same]
    · have other : name ≠ key := fun eq => same eq.symm
      simp only [names] at ih
      by_cases inside : name ∈ rest.map (·.1) <;> simp_all [insert, names]

theorem get?_erase (members : Members α) (name other : String) :
    get? (erase members name) other = if name = other then none else get? members other := by
  induction members with
  | nil => simp [erase]
  | cons head rest ih =>
    obtain ⟨key, first⟩ := head
    simp only [erase] at ih
    by_cases same : key = name
    · by_cases asked : key = other <;> simp_all [erase, get?]
    · by_cases asked : key = other
      · have : name ≠ other := fun eq => same (asked.trans eq.symm)
        simp_all [erase, get?]
      · simp_all [erase, get?]

/-- A new name goes behind all others. -/
theorem insert_of_not_mem {members : Members α} {name : String} (fresh : name ∉ names members)
    (value : α) : insert members name value = members ++ [(name, value)] := by
  induction members with
  | nil => rfl
  | cons head rest ih =>
    obtain ⟨key, first⟩ := head
    obtain ⟨other, behind⟩ := not_or.mp (mt List.mem_cons.mpr fresh)
    rw [insert, if_neg fun same => other same.symm, ih behind, List.cons_append]

/-- New names go behind all others, in their order. -/
theorem overlay_eq_append {base upper : Members α} (distinct : (names upper).Nodup)
    (fresh : ∀ name ∈ names upper, name ∉ names base) : overlay base upper = base ++ upper := by
  induction upper generalizing base with
  | nil => rw [overlay, List.foldl_nil, List.append_nil]
  | cons head rest ih =>
    obtain ⟨once, others⟩ := List.nodup_cons.mp distinct
    have behind : overlay (base ++ [head]) rest = base ++ [head] ++ rest := ih others fun name member => by
      have apart : name ≠ head.1 := fun same =>
        once (show head.1 ∈ names rest from same ▸ member)
      have absent := fresh name (List.mem_cons_of_mem _ member)
      simp only [names, List.map_append, List.map_cons, List.map_nil, List.mem_append,
        List.mem_singleton]
      exact not_or.mpr ⟨absent, apart⟩
    rw [overlay, List.foldl_cons, insert_of_not_mem (fresh _ List.mem_cons_self)]
    exact behind.trans (List.append_cons base head rest).symm

theorem get?_append (front rest : Members α) (name : String) :
    get? (front ++ rest) name = (get? front name).or (get? rest name) := by
  induction front with
  | nil => rfl
  | cons head others ih =>
    obtain ⟨key, first⟩ := head
    by_cases same : key = name <;> simp [get?, same, ih]

/-- A value is found if it is there, and nothing else under its name. -/
theorem get?_of_forall {members : Members α} {name : String} {value : α}
    (member : (name, value) ∈ members) (only : ∀ other, (name, other) ∈ members → other = value) :
    get? members name = some value := by
  obtain ⟨first, found⟩ := Option.isSome_iff_exists.mp
    (isSome_get?_iff.mpr (List.mem_map.mpr ⟨_, member, rfl⟩))
  rw [found, only first (mem_of_get? found)]

/-- **What was inserted last is found.** -/
theorem get?_overlay (base upper : Members α) (name : String) :
    get? (overlay base upper) name = (get? upper.reverse name).or (get? base name) := by
  induction upper generalizing base with
  | nil => rfl
  | cons head rest ih =>
    obtain ⟨key, value⟩ := head
    have later := ih (insert base key value)
    rw [get?_insert] at later
    rw [List.reverse_cons, get?_append, Option.or_assoc]
    refine later.trans (congrArg _ ?_)
    by_cases same : key = name <;> simp [get?, same]

/-- What is laid over leaves other names as they are. -/
theorem get?_overlay_of_not_mem (base : Members α) {upper : Members α} {name : String}
    (absent : name ∉ names upper) : get? (overlay base upper) name = get? base name := by
  have above : get? upper.reverse name = none :=
    get?_eq_none_iff.mpr (by simpa [names] using absent)
  rw [get?_overlay, above, Option.none_or]

theorem get?_ofList (pairs : List (String × α)) (name : String) :
    get? (ofList pairs) name = get? (pairs : Members α).reverse name :=
  (get?_overlay [] pairs name).trans Option.or_none

theorem nodup_names_insert {members : Members α} (distinct : (names members).Nodup)
    (name : String) (value : α) : (names (insert members name value)).Nodup := by
  rw [names_insert]
  split
  · exact distinct
  · next absent =>
    rw [List.nodup_append]
    exact ⟨distinct, by simp, fun a inside b last => by
      simp only [List.mem_singleton] at last
      exact fun same => absent (last ▸ same ▸ inside)⟩

theorem nodup_names_overlay {base : Members α} (distinct : (names base).Nodup) (upper : Members α) :
    (names (overlay base upper)).Nodup := by
  induction upper generalizing base with
  | nil => exact distinct
  | cons head rest ih => exact ih (nodup_names_insert distinct head.1 head.2)

theorem nodup_names_ofList (pairs : List (String × α)) : (names (ofList pairs)).Nodup :=
  @nodup_names_overlay α [] List.nodup_nil pairs

theorem nodup_names_erase {members : Members α} (distinct : (names members).Nodup) (name : String) :
    (names (erase members name)).Nodup :=
  distinct.sublist (List.Sublist.map _ List.filter_sublist)

theorem mem_of_mem_insert {members : Members α} {name : String} {value : α} {entry : String × α}
    (inside : entry ∈ insert members name value) : entry ∈ members ∨ entry = (name, value) := by
  induction members with
  | nil => exact .inr (List.mem_singleton.mp inside)
  | cons head rest ih =>
    obtain ⟨key, old⟩ := head
    rw [insert] at inside
    split at inside
    · next same =>
      rcases List.mem_cons.mp inside with rfl | later
      · exact .inr (congrArg (·, value) same)
      · exact .inl (List.mem_cons_of_mem _ later)
    · rcases List.mem_cons.mp inside with rfl | later
      · exact .inl List.mem_cons_self
      · exact (ih later).imp (List.mem_cons_of_mem _) id

theorem mem_of_mem_overlay {base upper : Members α} {entry : String × α}
    (inside : entry ∈ overlay base upper) : entry ∈ base ∨ entry ∈ upper := by
  induction upper generalizing base with
  | nil => exact .inl inside
  | cons head rest ih =>
    rcases ih inside with early | late
    · exact (mem_of_mem_insert early).imp id fun same => List.mem_cons.mpr (.inl same)
    · exact .inr (List.mem_cons_of_mem _ late)

/-- What is merged was there. -/
theorem mem_of_mem_ofList {pairs : List (String × α)} {entry : String × α}
    (inside : entry ∈ ofList pairs) : entry ∈ pairs :=
  (mem_of_mem_overlay inside).resolve_left List.not_mem_nil

theorem get?_eq_some_iff {members : Members α} {name : String} {value : α} :
    get? members name = some value ↔
      ∃ front back, members = front ++ (name, value) :: back ∧ name ∉ names front := by
  constructor
  · intro found
    induction members with
    | nil => cases found
    | cons head rest ih =>
      obtain ⟨key, first⟩ := head
      by_cases same : key = name
      · rw [get?, if_pos same] at found
        cases found
        exact ⟨[], rest, by rw [same, List.nil_append], List.not_mem_nil⟩
      · rw [get?, if_neg same] at found
        obtain ⟨front, back, rfl, absent⟩ := ih found
        refine ⟨(key, first) :: front, back, rfl, fun inside => ?_⟩
        rcases List.mem_cons.mp inside with here | later
        · exact same here.symm
        · exact absent later
  · rintro ⟨front, back, rfl, absent⟩
    rw [get?_append, get?_eq_none_iff.mpr absent, Option.none_or, get?, if_pos rfl]

/-- What is found from the end is what stands last under its name. -/
theorem get?_reverse_eq_some_iff {pairs : List (String × α)} {name : String} {value : α} :
    get? (pairs : Members α).reverse name = some value ↔
      ∃ front back, pairs = front ++ (name, value) :: back ∧ name ∉ names back := by
  rw [get?_eq_some_iff]
  constructor
  · rintro ⟨back, front, reversed, absent⟩
    refine ⟨front.reverse, back.reverse, ?_, by simpa [names] using absent⟩
    simpa using congrArg List.reverse reversed
  · rintro ⟨front, back, rfl, absent⟩
    exact ⟨back.reverse, front.reverse, by simp, by simpa [names] using absent⟩

/-- **What insertion builds consists of what was inserted last** under each name. -/
theorem mem_ofList_iff {pairs : List (String × α)} {name : String} {value : α} :
    (name, value) ∈ ofList pairs ↔
      ∃ front back, pairs = front ++ (name, value) :: back ∧ name ∉ names back := by
  rw [← get?_reverse_eq_some_iff, ← get?_ofList]
  exact ⟨get?_of_mem (nodup_names_ofList pairs), mem_of_get?⟩

/-! ### The names of what insertion builds -/

/-- A list without repetitions has none to be erased. -/
theorem eraseDups_of_nodup {β : Type} [BEq β] [LawfulBEq β] {items : List β} (distinct : items.Nodup) :
    items.eraseDups = items := by
  induction items with
  | nil => rfl
  | cons item rest ih =>
    obtain ⟨fresh, others⟩ := List.nodup_cons.mp distinct
    have apart : rest.filter (fun other => !other == item) = rest := by
      refine List.filter_eq_self.mpr fun other inside => ?_
      have different : other ≠ item := fun same => fresh (same ▸ inside)
      simp [different]
    rw [List.eraseDups_cons, apart, ih others]

/-- **The names of what is laid over come behind those that are there**, each where it occurs first. -/
theorem names_overlay {base : Members α} (distinct : (names base).Nodup) (upper : Members α) :
    names (overlay base upper) = (names base ++ names upper).eraseDups := by
  induction upper generalizing base with
  | nil =>
    show names base = (names base ++ []).eraseDups
    rw [List.append_nil, eraseDups_of_nodup distinct]
  | cons head rest ih =>
    obtain ⟨key, value⟩ := head
    have later := ih (nodup_names_insert distinct key value)
    rw [names_insert] at later
    refine later.trans ?_
    by_cases inside : key ∈ names base
    · have skipped : (names ((key, value) :: rest)).removeAll (names base) =
          (names rest).removeAll (names base) := by
        simpa [names, List.cons_removeAll] using inside
      rw [if_pos inside, List.eraseDups_append, List.eraseDups_append, skipped]
    · rw [if_neg inside, List.append_assoc]
      rfl

theorem names_ofList (pairs : List (String × α)) : names (ofList pairs) = (names pairs).eraseDups :=
  @names_overlay α [] List.nodup_nil pairs

/-- Members with names of their own are built as they are. -/
theorem ofList_eq_self {members : Members α} (distinct : (names members).Nodup) :
    ofList members = members :=
  overlay_eq_append distinct fun _ _ => List.not_mem_nil

/-! ### What insertion leaves as it is -/

theorem overlay_append (base upper more : Members α) :
    overlay base (upper ++ more) = overlay (overlay base upper) more := List.foldl_append

/-- A name that is there takes its new value where it stands. -/
theorem insert_of_getElem? {members : Members α} (distinct : (names members).Nodup) {place : Nat} {name : String}
    {old : α} (held : members[place]? = some (name, old)) (value : α) :
    insert members name value = members.set place (name, value) := by
  induction members generalizing place with
  | nil => cases held
  | cons head rest ih =>
    obtain ⟨key, first⟩ := head
    obtain ⟨fresh, others⟩ := List.nodup_cons.mp distinct
    cases place with
    | zero =>
      cases held
      exact if_pos rfl
    | succ place =>
      have other : key ≠ name := fun same =>
        fresh (List.mem_map.mpr ⟨_, List.mem_of_getElem? held, same.symm⟩)
      rw [insert, if_neg other, ih others held]
      rfl

/-- A member that is there is put in its own place. -/
theorem insert_of_mem {members : Members α} (distinct : (names members).Nodup) {name : String} {value : α}
    (member : (name, value) ∈ members) : insert members name value = members := by
  obtain ⟨place, held⟩ := List.getElem?_of_mem member
  obtain ⟨within, there⟩ := List.getElem?_eq_some_iff.mp held
  rw [insert_of_getElem? distinct held, ← there, List.set_getElem_self]

/-- Members that are there change nothing. -/
theorem overlay_of_subset {base upper : Members α} (distinct : (names base).Nodup) (there : upper ⊆ base) :
    overlay base upper = base := by
  induction upper with
  | nil => rfl
  | cons head rest ih =>
    obtain ⟨here, later⟩ := List.cons_subset.mp there
    exact (congrArg (overlay · rest) (insert_of_mem distinct here)).trans (ih later)

/-- **Insertion leaves the members of other names as they are**, and their order. -/
theorem filter_insert (chosen : String → Bool) (members : Members α) (name : String) (value : α) :
    (insert members name value).filter (chosen ·.1) =
      if chosen name then insert (members.filter (chosen ·.1)) name value else members.filter (chosen ·.1) := by
  induction members with
  | nil => cases picked : chosen name <;> simp [insert, picked]
  | cons head rest ih =>
    obtain ⟨key, old⟩ := head
    by_cases same : key = name
    · subst same
      cases picked : chosen key <;> simp [insert, picked]
    · rw [insert, if_neg same]
      cases kept : chosen key <;> cases picked : chosen name <;> simp_all [insert]

/-- **What is built of the members of some names** is that part of what is built of all. -/
theorem filter_overlay (chosen : String → Bool) (base upper : Members α) :
    (overlay base upper).filter (chosen ·.1) =
      overlay (base.filter (chosen ·.1)) (upper.filter (chosen ·.1)) := by
  induction upper generalizing base with
  | nil => rfl
  | cons head rest ih =>
    obtain ⟨key, value⟩ := head
    refine (ih (insert base key value)).trans ?_
    rw [filter_insert]
    cases picked : chosen key with
    | false => rw [List.filter_cons_of_neg (by simp [picked]), if_neg (by simp)]
    | true =>
      rw [List.filter_cons_of_pos (by simp [picked]), if_pos rfl]
      rfl

/-- **Blocks of members with names of their own** come behind all others, each where it occurs first. -/
theorem overlay_flatMap {ι : Type} [BEq ι] [LawfulBEq ι] {base : Members α} {block : ι → Members α}
    (distinct : (names base).Nodup) (own : ∀ i, (names (block i)).Nodup)
    (fresh : ∀ i, ∀ name ∈ names (block i), name ∉ names base)
    (apart : ∀ i j, ∀ name ∈ names (block i), name ∈ names (block j) → i = j) (ids : List ι) :
    overlay base (ids.flatMap block) = base ++ ids.eraseDups.flatMap block := by
  -- the blocks that are there already, in the order in which they came
  have behind : ∀ (ids done : List ι), done.Nodup → (names (base ++ done.flatMap block)).Nodup →
      overlay (base ++ done.flatMap block) (ids.flatMap block) =
        base ++ (done ++ ids).eraseDups.flatMap block := by
    intro ids
    induction ids with
    | nil =>
      intro done once _
      rw [List.append_nil, eraseDups_of_nodup once]
      rfl
    | cons i rest ih =>
      intro done once distinct
      rw [List.flatMap_cons, overlay_append]
      by_cases inside : i ∈ done
      · have there : block i ⊆ base ++ done.flatMap block := fun member within =>
          List.mem_append_right _ (List.mem_flatMap.mpr ⟨i, inside, within⟩)
        have skipped : (i :: rest).removeAll done = rest.removeAll done := by
          simpa [List.cons_removeAll] using inside
        rw [overlay_of_subset distinct there, ih done once distinct, List.eraseDups_append,
          List.eraseDups_append, skipped]
      · have new : ∀ name ∈ names (block i), name ∉ names (base ++ done.flatMap block) := by
          intro name within known
          obtain ⟨member, held, rfl⟩ := List.mem_map.mp known
          rcases List.mem_append.mp held with early | late
          · exact fresh i _ within (List.mem_map_of_mem early)
          · obtain ⟨j, earlier, held⟩ := List.mem_flatMap.mp late
            exact inside (apart i j _ within (List.mem_map_of_mem held) ▸ earlier)
        have added : overlay (base ++ done.flatMap block) (block i) =
            base ++ (done ++ [i]).flatMap block := by
          rw [overlay_eq_append (own i) new, List.flatMap_append, List.append_assoc]
          simp
        have once' : (done ++ [i]).Nodup := by
          refine List.nodup_append.mpr ⟨once, by simp, fun j held k last same => ?_⟩
          obtain rfl := List.mem_singleton.mp last
          exact inside (same ▸ held)
        have distinct' := nodup_names_overlay distinct (block i)
        rw [added] at distinct' ⊢
        rw [ih (done ++ [i]) once' distinct', List.append_assoc]
        rfl
  have none : base ++ ([] : List ι).flatMap block = base := List.append_nil base
  have whole := behind ids [] List.nodup_nil (none.symm ▸ distinct)
  rwa [none] at whole

end Members
end CatalogSearch
