/-
**How much schemas weigh against a limit.**

An index counts its fields, aliases twice. A schema splits into what another one lacks and what both
name, and so does its weight; what an update makes of an index weighs what both parts do.

* `Schema.shared` — the fields that another schema names too; `Schema.extended` — the fields of a schema
  with those of another that it lacks behind them;
* `Schema.budget_difference_add_shared`, `budget_extended_add_shared` — what they weigh;
* `Schema.budget_le_shared` — a schema weighs no more than another's fields of the same names, if each of
  its fields is there and weighs no more.
-/

import CatalogSearch.Schema.Basic
import Mathlib.Algebra.GroupWithZero.Nat
import Mathlib.Algebra.Order.BigOperators.Group.List
import Mathlib.Algebra.Order.Group.Nat

namespace CatalogSearch.Schema

/-- The fields that another schema names too, in order. -/
def shared (schema other : Schema) : Schema where
  fields := schema.fields.filter fun field => other.contains field.1
  distinct := schema.distinct.sublist (List.Sublist.map _ List.filter_sublist)

theorem nodup_names_extended (published schema : Schema) :
    (Members.names (published.fields ++ (schema.difference published).fields)).Nodup := by
  rw [Members.names, List.map_append, List.nodup_append]
  refine ⟨published.distinct, (schema.difference published).distinct, fun name inside other added same => ?_⟩
  subst same
  obtain ⟨field, lacked, rfl⟩ := List.mem_map.mp added
  have absent := (List.mem_filter.mp lacked).2
  rw [contains, find?, Members.isSome_get?_iff.mpr inside] at absent
  exact Bool.false_ne_true absent

/-- **What an index has after an update**: the fields that it had, and behind them those of a schema that
it lacked. -/
def extended (published schema : Schema) : Schema where
  fields := published.fields ++ (schema.difference published).fields
  distinct := nodup_names_extended published schema

theorem budgetOf_append (front back : Members Property) :
    budgetOf (front ++ back) = budgetOf front + budgetOf back := by
  induction front with
  | nil => exact (Nat.zero_add _).symm
  | cons head rest ih => rw [List.cons_append, budgetOf, budgetOf, ih, Nat.add_assoc]

/-- Fields weigh what those of them that have a feature and those that do not weigh together. -/
theorem budgetOf_filter_not_add_filter (fields : Members Property)
    (has : String × Property → Bool) :
    budgetOf (fields.filter fun field => !has field) + budgetOf (fields.filter has) =
      budgetOf fields := by
  induction fields with
  | nil => rfl
  | cons head rest ih =>
    cases chosen : has head with
    | true =>
      rw [List.filter_cons_of_neg (by simp [chosen]), List.filter_cons_of_pos chosen, budgetOf,
        budgetOf]
      omega
    | false =>
      rw [List.filter_cons_of_pos (by simp [chosen]), List.filter_cons_of_neg (by simp [chosen]),
        budgetOf, budgetOf]
      omega

/-- **A schema weighs what another one lacks of it and what both name.** -/
theorem budget_difference_add_shared (schema other : Schema) :
    (schema.difference other).budget + (schema.shared other).budget = schema.budget :=
  budgetOf_filter_not_add_filter schema.fields fun field => other.contains field.1

/-- **What an update makes of an index** weighs as much as index and schema, but for the schema's fields
that the index had. -/
theorem budget_extended_add_shared (published schema : Schema) :
    (published.extended schema).budget + (schema.shared published).budget =
      schema.budget + published.budget := by
  have whole : (published.extended schema).budget =
      published.budget + (schema.difference published).budget := budgetOf_append _ _
  rw [whole, ← schema.budget_difference_add_shared published]
  omega

/-! ### Weights by name -/

/-- The weight of the field of a name. -/
def weight (schema : Schema) (name : String) : Nat := ((schema.find? name).map (·.budget)).getD 0

theorem budgetOf_eq_sum (fields : Members Property) :
    budgetOf fields = (fields.map (·.2.budget)).sum := by
  induction fields with
  | nil => rfl
  | cons head rest ih => rw [budgetOf, ih, List.map_cons, List.sum_cons]

/-- A schema weighs what the fields of its names do. -/
theorem budget_eq_sum_weight (schema : Schema) :
    schema.budget = (schema.names.map schema.weight).sum := by
  rw [budget, budgetOf_eq_sum, names, Members.names, List.map_map]
  refine congrArg List.sum (List.map_congr_left fun field inside => ?_)
  have found : schema.find? field.1 = some field.2 := Members.get?_of_mem schema.distinct inside
  rw [Function.comp_apply, weight, found]
  rfl

/-- The shared fields have the names of both schemas. -/
theorem mem_names_shared {schema other : Schema} {name : String} :
    name ∈ (schema.shared other).names ↔ name ∈ schema.names ∧ other.contains name = true := by
  constructor
  · intro inside
    obtain ⟨field, chosen, rfl⟩ := List.mem_map.mp inside
    obtain ⟨own, there⟩ := List.mem_filter.mp chosen
    exact ⟨List.mem_map_of_mem own, there⟩
  · rintro ⟨own, there⟩
    obtain ⟨field, inside, rfl⟩ := List.mem_map.mp own
    exact List.mem_map_of_mem (List.mem_filter.mpr ⟨inside, there⟩)

/-- **A schema weighs no more than another's fields of the same names** if each of its fields is there,
and weighs no more. -/
theorem budget_le_shared {published schema : Schema}
    (known : ∀ name property, published.find? name = some property →
      ∃ own, schema.find? name = some own ∧ property.budget ≤ own.budget) :
    published.budget ≤ (schema.shared published).budget := by
  have lighter : ∀ name ∈ published.names, published.weight name ≤ schema.weight name := by
    intro name inside
    obtain ⟨property, found⟩ := Option.isSome_iff_exists.mp (Members.isSome_get?_iff.mpr inside)
    obtain ⟨own, there, less⟩ := known name property found
    rw [weight, weight, show published.find? name = some property from found, there]
    exact less
  -- Both name the same fields, in an order of their own, so the sums over names can be compared.
  have same : published.names.Perm (schema.shared published).names := by
    refine (List.perm_ext_iff_of_nodup published.distinct (schema.shared published).distinct).mpr
      fun name => ?_
    rw [← names, ← names, mem_names_shared]
    constructor
    · intro inside
      have there := Members.isSome_get?_iff.mpr inside
      obtain ⟨property, found⟩ := Option.isSome_iff_exists.mp there
      obtain ⟨own, known, -⟩ := known name property found
      exact ⟨Members.isSome_get?_iff.mp (Option.isSome_iff_exists.mpr ⟨own, known⟩), there⟩
    · rintro ⟨-, there⟩
      exact Members.isSome_get?_iff.mp there
  have agree : ∀ name ∈ (schema.shared published).names,
      (schema.shared published).weight name = schema.weight name := by
    intro name inside
    obtain ⟨field, chosen, rfl⟩ := List.mem_map.mp inside
    have left : (schema.shared published).find? field.1 = some field.2 :=
      Members.get?_of_mem (schema.shared published).distinct chosen
    have right : schema.find? field.1 = some field.2 :=
      Members.get?_of_mem schema.distinct (List.mem_filter.mp chosen).1
    rw [weight, weight, left, right]
  calc published.budget
      = (published.names.map published.weight).sum := budget_eq_sum_weight published
    _ ≤ (published.names.map schema.weight).sum := List.sum_le_sum lighter
    _ = ((schema.shared published).names.map schema.weight).sum := (same.map _).sum_eq
    _ = ((schema.shared published).names.map (schema.shared published).weight).sum :=
        congrArg List.sum (List.map_congr_left fun name inside => (agree name inside).symm)
    _ = (schema.shared published).budget := (budget_eq_sum_weight _).symm

end CatalogSearch.Schema
