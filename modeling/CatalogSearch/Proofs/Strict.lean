/-
**What a computation makes of a list.**

In the strict mode no item is left out: each gives a result, or the whole fails. In the lenient one the
results are among those of the steps.

* `Logged.filterMap_eq_ok_of_forall` — steps that keep what others yield keep it over a list;
* `Logged.forall_of_filterMap` — what holds of all that the steps yield holds of what the list yields;
* `Logged.forall₂_of_filterMap` — the results of steps none of which leaves its item out stand in the
  order of the items, one for each;
* `Mode.forall₂_of_keep_strict` — the same for the step in which the modes differ; `Mode.exists_of_keep_strict`:
  if that fails over a list, it fails at an item;
* `mapM_eq_ok_iff`, `mapM_eq_error_iff` — a step that gives no warnings: over a list it has its results in
  order, or the fault of the first item that has one; `mapM_of_stable`: results that it leaves as they are.
-/

import CatalogSearch.Logged
import Mathlib.Data.List.Forall2

namespace CatalogSearch

/-- What stands on the right of a list related item by item has something on the left. -/
theorem exists_of_mem_right {α β : Type} {related : α → β → Prop} {as : List α} {bs : List β}
    (each : List.Forall₂ related as bs) {b : β} (inside : b ∈ bs) : ∃ a ∈ as, related a b := by
  induction each with
  | nil => cases inside
  | cons one _ ih =>
    rcases List.mem_cons.mp inside with rfl | later
    · exact ⟨_, List.mem_cons_self, one⟩
    · obtain ⟨a, there, held⟩ := ih later
      exact ⟨a, List.mem_cons_of_mem _ there, held⟩

/-- **Steps that keep what others yield keep it over a list.** -/
theorem Logged.filterMap_eq_ok_of_forall {ε α β : Type} {step other : α → Logged ε (Option β)}
    {items : List α} {results : List β}
    (each : ∀ a ∈ items, ∀ kept, (step a).result = .ok kept → (other a).result = .ok kept)
    (ran : (filterMap step items).result = .ok results) :
    (filterMap other items).result = .ok results := by
  induction items generalizing results with
  | nil => exact ran
  | cons a rest ih =>
    obtain ⟨kept, made, ran⟩ := result_andThen_eq_ok.mp ran
    obtain ⟨others, later, done⟩ := result_andThen_eq_ok.mp ran
    have first := each a List.mem_cons_self kept made
    have behind := ih (fun b inside => each b (List.mem_cons_of_mem _ inside)) later
    exact result_andThen_eq_ok.mpr ⟨kept, first, result_andThen_eq_ok.mpr ⟨others, behind, done⟩⟩

/-- What holds of all that the steps over a list yield holds of what the list yields. -/
theorem Logged.forall_of_filterMap {ε α β : Type} {P : β → Prop} {step : α → Logged ε (Option β)}
    {items : List α} {results : List β}
    (each : ∀ a ∈ items, ∀ b, (step a).result = .ok (some b) → P b)
    (ran : (filterMap step items).result = .ok results) : ∀ b ∈ results, P b := by
  induction items generalizing results with
  | nil =>
    cases ran
    exact List.forall_mem_nil _
  | cons a rest ih =>
    obtain ⟨kept, made, ran⟩ := result_andThen_eq_ok.mp ran
    obtain ⟨others, later, done⟩ := result_andThen_eq_ok.mp ran
    cases done
    have behind := ih (fun a' inside => each a' (List.mem_cons_of_mem _ inside)) later
    cases kept with
    | none => exact behind
    | some b => exact List.forall_mem_cons.mpr ⟨each a List.mem_cons_self b made, behind⟩

/-- **Steps that leave nothing out give one result for each item**, in order. -/
theorem Logged.forall₂_of_filterMap {ε α β : Type} {step : α → Logged ε (Option β)} {items : List α}
    {results : List β} (kept : ∀ a ∈ items, (step a).result ≠ .ok none)
    (ran : (filterMap step items).result = .ok results) :
    List.Forall₂ (fun a b => (step a).result = .ok (some b)) items results := by
  induction items generalizing results with
  | nil =>
    cases ran
    exact .nil
  | cons a rest ih =>
    obtain ⟨first, made, ran⟩ := result_andThen_eq_ok.mp ran
    obtain ⟨others, later, done⟩ := result_andThen_eq_ok.mp ran
    cases done
    cases first with
    | none => exact absurd made (kept a List.mem_cons_self)
    | some b => exact .cons made (ih (fun a' inside => kept a' (List.mem_cons_of_mem _ inside)) later)

/-- What a mode takes is the step's own result. -/
theorem Mode.of_keep_eq_some {α : Type} {mode : Mode} {warning : Error → Warning} {step : Except Error α}
    {a : α} (held : (mode.keep warning step).result = .ok (some a)) : step = .ok a := by
  cases step with
  | ok b =>
    cases held
    rfl
  | error error => cases mode <;> cases held

theorem Mode.keep_strict_eq_ok {α : Type} {warning : Error → Warning} {step : Except Error α}
    {kept : Option α} :
    (strict.keep warning step).result = .ok kept ↔ ∃ a, step = .ok a ∧ some a = kept := by
  rw [result_keep_strict]
  exact map_eq_ok

/-- The strict mode takes the result of a step that yields what another does. -/
theorem Mode.keep_strict_eq_ok_of_forall {α : Type} {warning : Error → Warning}
    {step other : Except Error α} (keeps : ∀ a, step = .ok a → other = .ok a) {kept : Option α}
    (held : (strict.keep warning step).result = .ok kept) :
    (strict.keep warning other).result = .ok kept := by
  obtain ⟨a, made, same⟩ := keep_strict_eq_ok.mp held
  exact keep_strict_eq_ok.mpr ⟨a, keeps a made, same⟩

/-- **The strict mode gives the result of each step**, in order. -/
theorem Mode.forall₂_of_keep_strict {α β : Type} {warning : α → Error → Warning}
    {step : α → Except Error β} {items : List α} {results : List β}
    (ran : (Logged.filterMap (fun a => strict.keep (warning a) (step a)) items).result = .ok results) :
    List.Forall₂ (fun a b => step a = .ok b) items results := by
  have kept : ∀ a ∈ items, (strict.keep (warning a) (step a)).result ≠ .ok none := by
    intro a _ none
    obtain ⟨b, _, impossible⟩ := keep_strict_eq_ok.mp none
    cases impossible
  refine (Logged.forall₂_of_filterMap kept ran).imp fun a b made => ?_
  obtain ⟨b', made, same⟩ := keep_strict_eq_ok.mp made
  cases same
  exact made

/-- **The strict mode fails over a list with the fault of an item.** -/
theorem Mode.exists_of_keep_strict {α β : Type} {warning : α → Error → Warning} {step : α → Except Error β}
    {items : List α} {error : Error}
    (failed : (Logged.filterMap (fun a => strict.keep (warning a) (step a)) items).result = .error error) :
    ∃ a ∈ items, step a = .error error := by
  induction items with
  | nil => cases failed
  | cons a rest ih =>
    rw [Logged.filterMap, Logged.result_andThen, result_keep_strict] at failed
    cases made : step a with
    | error fault =>
      rw [made] at failed
      cases failed
      exact ⟨a, List.mem_cons_self, made⟩
    | ok b =>
      rw [made] at failed
      replace failed : ((Logged.filterMap (fun a => strict.keep (warning a) (step a)) rest).andThen
        fun others => Logged.done (b :: others)).result = .error error := failed
      rw [Logged.result_andThen] at failed
      cases later : (Logged.filterMap (fun a => strict.keep (warning a) (step a)) rest).result with
      | error fault =>
        rw [later] at failed
        cases failed
        obtain ⟨a', inside, made⟩ := ih later
        exact ⟨a', List.mem_cons_of_mem _ inside, made⟩
      | ok others =>
        rw [later] at failed
        cases failed

/-! ### Steps without warnings -/

section Traversal

variable {ε α β : Type} {step : α → Except ε β} {items : List α}

theorem mapM_cons_eq_ok {a : α} {results : List β} :
    (a :: items).mapM step = .ok results ↔
      ∃ b others, step a = .ok b ∧ items.mapM step = .ok others ∧ b :: others = results := by
  rw [List.mapM_cons, bind_eq_ok]
  simp only [bind_eq_ok, pure, Except.pure, Except.ok.injEq]
  constructor
  · rintro ⟨b, first, others, rest, same⟩
    exact ⟨b, others, first, rest, same⟩
  · rintro ⟨b, others, first, rest, same⟩
    exact ⟨b, first, others, rest, same⟩

/-- **A step has results over a list if it has one at each item**, and they stand in the order of the
items. -/
theorem mapM_eq_ok_iff {results : List β} :
    items.mapM step = .ok results ↔ List.Forall₂ (fun a b => step a = .ok b) items results := by
  induction items generalizing results with
  | nil => cases results <;> simp [pure, Except.pure]
  | cons a rest ih =>
    rw [mapM_cons_eq_ok, List.forall₂_cons_left_iff]
    simp only [ih]
    constructor
    · rintro ⟨b, others, first, later, rfl⟩
      exact ⟨b, others, first, later, rfl⟩
    · rintro ⟨b, others, first, later, rfl⟩
      exact ⟨b, others, first, later, rfl⟩

theorem exists_mapM_iff :
    (∃ results, items.mapM step = .ok results) ↔ ∀ a ∈ items, ∃ b, step a = .ok b := by
  induction items with
  | nil => simp [pure, Except.pure]
  | cons a rest ih =>
    rw [List.forall_mem_cons, ← ih]
    constructor
    · rintro ⟨results, ran⟩
      obtain ⟨b, others, first, later, -⟩ := mapM_cons_eq_ok.mp ran
      exact ⟨⟨b, first⟩, others, later⟩
    · rintro ⟨⟨b, first⟩, others, later⟩
      exact ⟨b :: others, mapM_cons_eq_ok.mpr ⟨b, others, first, later, rfl⟩⟩

/-- **A step that fails over a list fails at the first item at which it has no result.** -/
theorem mapM_eq_error_iff {error : ε} :
    items.mapM step = .error error ↔
      ∃ front a back, items = front ++ a :: back ∧ (∀ b ∈ front, ∃ c, step b = .ok c) ∧
        step a = .error error := by
  induction items with
  | nil => simp [pure, Except.pure]
  | cons a rest ih =>
    rw [List.mapM_cons]
    cases first : step a with
    | error fault =>
      constructor
      · intro failed
        cases failed
        exact ⟨[], a, rest, rfl, by simp, first⟩
      · rintro ⟨front, b, back, same, early, failed⟩
        cases front with
        | nil =>
          cases same
          exact congrArg _ (Except.error.inj (first.symm.trans failed))
        | cons head others =>
          cases same
          obtain ⟨c, found⟩ := early a List.mem_cons_self
          cases first.symm.trans found
    | ok b =>
      have later : (Except.ok b >>= fun b => rest.mapM step >>= fun others => pure (b :: others)) =
          Except.error error ↔ rest.mapM step = .error error := by
        cases rest.mapM step <;> simp [bind, Except.bind, pure, Except.pure]
      rw [later, ih]
      constructor
      · rintro ⟨front, c, back, rfl, early, failed⟩
        exact ⟨a :: front, c, back, rfl, List.forall_mem_cons.mpr ⟨⟨b, first⟩, early⟩, failed⟩
      · rintro ⟨front, c, back, same, early, failed⟩
        cases front with
        | nil =>
          cases same
          cases first.symm.trans failed
        | cons head others =>
          cases same
          exact ⟨others, c, back, rfl, (List.forall_mem_cons.mp early).2, failed⟩

/-- A step that leaves its results as they are does so item by item. -/
theorem mapM_of_stable {step : α → Except ε α} {results : List α}
    (stable : ∀ a b, step a = .ok b → step b = .ok b) (mapped : items.mapM step = .ok results) :
    results.mapM step = .ok results := by
  refine mapM_eq_ok_iff.mpr (List.forall₂_same.mpr fun b inside => ?_)
  obtain ⟨a, -, made⟩ := exists_of_mem_right (mapM_eq_ok_iff.mp mapped) inside
  exact stable a b made

theorem mapM_congr {other : α → Except ε β} (same : ∀ a ∈ items, step a = other a) :
    items.mapM step = items.mapM other := by
  induction items with
  | nil => rfl
  | cons a rest ih =>
    obtain ⟨first, later⟩ := List.forall_mem_cons.mp same
    rw [List.mapM_cons, List.mapM_cons, first, ih later]

end Traversal
end CatalogSearch
