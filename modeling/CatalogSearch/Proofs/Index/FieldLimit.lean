/-
**What the limit on fields covers when a mapping is sent.**

A push reads the fields of an index and its limit, raises the limit to what its own schema needs, and only
then sends what the index lacks. So the limit covers the schema that is pushed. Fields of the index that
the schema does not have are not counted.

* `Exchange.fields?`, `Exchange.limit?` — what an exchange tells of the fields and the limit of an index;
* `Pusher.told_of_remote`, `told_of_raiseLimit` — what is known after each part of a push;
* `Pusher.limit_in_force` — what holds when a mapping is sent, whatever the service answers;
* `Pusher.not_limit_covers_index` — an index with a field of its own can outgrow its limit.
-/

import CatalogSearch.Index.Push
import CatalogSearch.Index.Store
import CatalogSearch.Proofs.Index.Pushes
import CatalogSearch.Proofs.Schema.Budget

namespace CatalogSearch

namespace Exchange

/-- The fields that an index has, if an exchange tells: those of its mapping, or none if it is new. -/
def fields? (index : String) : Exchange → Option Schema
  | ⟨.getMapping name, .ok answer⟩ =>
    if name = index then (Published.reading index (some answer)).toOption else none
  | ⟨.createIndex name, .ok _⟩ => if name = index then some .empty else none
  | _ => none

/-- The limit of an index, if an exchange tells: the one that is read, or the one that is put. -/
def limit? (index : String) : Exchange → Option Nat
  | ⟨.getSettings name, .ok answer⟩ =>
    if name = index then Published.fieldLimit? index answer else none
  | ⟨.putLimit name limit, .ok _⟩ => if name = index then some limit else none
  | _ => none

end Exchange

namespace Pusher

variable {index : String} {said : List Exchange}

/-! ### The parts of a push -/

/-- **After the first part of a push** the fields of the index are known. -/
theorem told_of_remote {published : Schema} {created : Bool}
    (dialogue : (remote index).Dialogue said (.ok (published, created))) :
    lastTold? (Exchange.fields? index) said = some published := by
  cases reads_of_remote dialogue with
  | found read => simp [lastTold?, Exchange.fields?, read, Except.toOption]
  | made => simp [lastTold?, Exchange.fields?]

/-- **After the second part of a push** the limit is known, and is what is needed. -/
theorem told_of_raiseLimit {need : Nat} {raised : Option Nat}
    (dialogue : (raiseLimit index need).Dialogue said (.ok raised)) :
    lastTold? (Exchange.fields? index) said = none ∧
      ∃ limit, lastTold? (Exchange.limit? index) said = some limit ∧ need ≤ limit := by
  cases covers_of_raiseLimit dialogue with
  | @enough settings limit read enough => exact ⟨rfl, limit, by simp [lastTold?, Exchange.limit?, read], enough⟩
  | raised => exact ⟨rfl, need, by simp [lastTold?, Exchange.limit?], Nat.le_refl need⟩

/-- The first two parts of a push send no mapping. -/
theorem not_putMapping {name : String} {mapping : Json} :
    ¬ (remote index).Asks said (.putMapping name mapping) ∧
      ∀ need, ¬ (raiseLimit index need).Asks said (.putMapping name mapping) := by
  constructor
  · intro asks
    rcases asks_remote asks with ⟨_, impossible⟩ | ⟨_, impossible⟩ | ⟨_, impossible⟩ <;> cases impossible
  · intro need asks
    rcases asks_raiseLimit asks with ⟨_, impossible⟩ | ⟨_, _, _, impossible⟩ <;> cases impossible

/-! ### Whole pushes -/

/-- **When a push sends a mapping**, it sends what the schema has over the fields that the index was told
to have, and the limit in force is what the schema needs. It covers all that the index will have, if the
index has no field but those of the schema, and none that weighs more. -/
theorem limit_in_force (pusher : Pusher) (index : String) (schema : Schema) {said : List Exchange}
    {name : String} {mapping : Json}
    (asks : (pusher.push index schema).Asks said (.putMapping name mapping)) :
    ∃ published limit,
      lastTold? (Exchange.fields? index) said = some published ∧
      lastTold? (Exchange.limit? index) said = some limit ∧
      name = index ∧ mapping = (schema.difference published).toMapping ∧
      max schema.budget pusher.minLimit ≤ limit ∧
      (published.extended schema).budget + (schema.shared published).budget =
        schema.budget + published.budget ∧
      ((∀ field property, published.find? field = some property →
          ∃ own, schema.find? field = some own ∧ property.budget ≤ own.budget) →
        (published.extended schema).budget ≤ limit) := by
  have asked := asks_exchange_of_push asks
  rcases asked.of_bind with early | ⟨⟨published, created⟩, front, rest, rfl, first, asked⟩
  · exact (not_putMapping.1 early).elim
  rcases asked.of_bind with early | ⟨raised, middle, rest, rfl, second, asked⟩
  · exact (not_putMapping.2 _ early).elim
  rcases asked.of_bind with sent | ⟨_, _, _, _, _, ended⟩
  swap
  · exact ended.elim
  -- Both parts are over, and nothing was said since.
  obtain ⟨rfl, same⟩ := sent_of_sendMapping sent
  cases same
  have fields := told_of_remote first
  obtain ⟨silent, limit, inForce, enough⟩ := told_of_raiseLimit second
  have weighs := published.budget_extended_add_shared schema
  refine ⟨published, limit, ?_, ?_, rfl, rfl, enough, weighs, fun known => ?_⟩
  · rw [List.append_nil, lastTold?_append, silent, Option.none_or, fields]
  · rw [List.append_nil, lastTold?_append, inForce, Option.some_or]
  · have shared := Schema.budget_le_shared known
    have covered : schema.budget ≤ limit := (Nat.le_max_left _ _).trans enough
    omega

/-- An alias is added beside the one field of an index, whose limit was one: it is put to three. -/
theorem limit_in_force_alias :
    let schema : Schema :=
      ⟨[("ID", .ofKind .integer), ("NUMBER", .ofAlias "ID")], by decide⟩
    let world : World Store :=
      { service :=
          { indices := [("products", [("ID", .object [("type", .string "integer")])])]
            defaultLimit := .string "1" } }
    let talk := (push {} "products" schema).transcript Store.handler world
    (push {} "products" schema).Asks (talk.take 4)
      (.putMapping "products" (Schema.difference schema ⟨[("ID", .ofKind .integer)], by decide⟩).toMapping) ∧
    ∃ published limit,
      lastTold? (Exchange.fields? "products") (talk.take 4) = some published ∧
      lastTold? (Exchange.limit? "products") (talk.take 4) = some limit ∧
      limit = 3 ∧ published.names = ["ID"] ∧ (published.extended schema).budget ≤ limit := by
  intro schema world talk
  have asks : (push {} "products" schema).Asks (talk.take 4)
      (.putMapping "products"
        (Schema.difference schema ⟨[("ID", .ofKind .integer)], by decide⟩).toMapping) := by
    have split : talk = talk.take 4 ++ talk.drop 4 := rfl
    exact Program.asks_of_transcript split
  obtain ⟨published, limit, fields, inForce, -, -, -, -, covered⟩ := limit_in_force {} "products" schema asks
  have known : some published = some ⟨[("ID", .ofKind .integer)], by decide⟩ := fields.symm.trans rfl
  cases known
  have three : some limit = some 3 := inForce.symm.trans rfl
  cases three
  refine ⟨asks, _, _, fields, inForce, rfl, rfl, covered fun field property found => ?_⟩
  obtain ⟨_, _⟩ := List.mem_singleton.mp (Members.mem_of_get? found)
  exact ⟨_, rfl, Nat.le_refl _⟩

/-- **A limit need not cover the fields that only the index has**: a field is sent to an index that has
another one and room for a single field. -/
theorem not_limit_covers_index :
    ¬ ∀ (pusher : Pusher) (index : String) (schema : Schema) (said : List Exchange) (mapping : Json)
        (published : Schema) (limit : Nat),
      (pusher.push index schema).Asks said (.putMapping index mapping) →
      lastTold? (Exchange.fields? index) said = some published →
      lastTold? (Exchange.limit? index) said = some limit →
      (published.extended schema).budget ≤ limit := by
  intro covers
  let schema : Schema := ⟨[("NAME", .ofKind .keyword)], by decide⟩
  let world : World Store :=
    { service :=
        { indices := [("products", [("ID", .object [("type", .string "integer")])])]
          defaultLimit := .string "1" } }
  let talk := (push {} "products" schema).transcript Store.handler world
  have asks : (push {} "products" schema).Asks (talk.take 3) (.putMapping "products" schema.toMapping) := by
    have split : talk = talk.take 3 ++ talk.drop 3 := rfl
    exact Program.asks_of_transcript split
  have covered := covers {} "products" schema (talk.take 3) schema.toMapping
    ⟨[("ID", .ofKind .integer)], by decide⟩ 1 asks rfl rfl
  revert covered
  decide

end Pusher
end CatalogSearch
