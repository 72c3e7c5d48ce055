/-
**Answers of the store, read.**

What the service in memory writes of an index is what it holds.

* `Numeral.natural?_toString` — a limit within a word is read as it is written;
* `Published.result_schema_mappingAnswer` — the schema in a mapping answer is that of the definitions;
* `Published.fieldLimit?_settingsAnswer` — the limit in a settings answer is the one put last, or else
  the default one;
* `Store.definitionsOf_toMapping` — the definitions in the mapping of a schema;
* `Store.get?_indices_serve` — only writes to an index change its definitions.
-/

import CatalogSearch.Index.Published
import CatalogSearch.Index.Store
import CatalogSearch.Proofs.Text.Digits

namespace CatalogSearch

/-- **A limit within a word is read as it is written.** -/
theorem Numeral.natural?_toString {n : Nat} (fits : n < 18446744073709551616) :
    Numeral.natural? (toString n) = some n := by
  have digits : (toString n).toList = Date.padded 0 n := by
    simp [toString, Nat.repr, Date.padded]
  have trimmed : Text.trim (Date.padded 0 n) = Date.padded 0 n := by
    have left := Text.trimLeft_padded 0 n []
    rw [List.append_nil] at left
    rw [Text.trim, left]
    exact Text.trimRight_padded 0 n []
  have unsigned : ∀ rest, Date.padded 0 n ≠ '+' :: rest := by
    intro rest signed
    have digit := Text.isDigit_padded '+' (signed ▸ List.mem_cons_self)
    revert digit
    decide
  have word : WordInt.ofInt? n = some ⟨n, by omega, by omega⟩ :=
    dif_pos ⟨by omega, by omega⟩
  simp only [natural?, digits, trimmed]
  rw [Text.natOfDigits?_padded, Option.bind_some, word]
  rfl

namespace Published

/-- **The schema in a mapping answer is that of the definitions.** -/
theorem result_schema_mappingAnswer (index : String) (definitions : Members Json) :
    (schema index (Store.mappingAnswer index definitions)).result =
      (Schema.ofProperties definitions).result.mapError .refused := by
  have found : indices? (Store.mappingAnswer index definitions) = some [(index, definitions)] := by
    simp [indices?, Store.mappingAnswer, Json.membersOf?, Json.members?, definitions?, part?,
      Json.fields?, Members.get?, Json.orElse?]
  have there : Members.get? [(index, definitions)] index = some definitions := if_pos rfl
  unfold schema
  rw [found]
  simp only [there]
  rw [Logged.result_andThen]
  cases read : (Schema.ofProperties definitions).result <;> simp only [Logged.mapError, read] <;> rfl

theorem sectionLimit?_own (store : Store) (index : String) :
    sectionLimit? index (store.settingsAnswer index) "settings" =
      (store.limits.get? index).bind fun limit => Numeral.natural? (toString limit) := by
  have written :
      (store.settingsAnswer index).at? [index, "settings", "index", "mapping", "total_fields", "limit"] =
        (store.limits.get? index).map fun limit => .string (toString limit) := by
    cases own : Members.get? store.limits index <;>
      simp [Store.settingsAnswer, Json.at?, Json.member?, Json.members?, Members.get?, own,
        Store.limitSection]
  rw [sectionLimit?, written, Option.bind_map]
  rfl

theorem sectionLimit?_default (store : Store) (index : String) :
    sectionLimit? index (store.settingsAnswer index) "defaults" = limitOf? store.defaultLimit := by
  simp [sectionLimit?, Store.settingsAnswer, Json.at?, Json.member?, Json.members?, Members.get?,
    Store.limitSection]

/-- **The limit in a settings answer is the one put last**, or else the default one. -/
theorem fieldLimit?_settingsAnswer (store : Store) (index : String) :
    fieldLimit? index (store.settingsAnswer index) =
      ((store.limits.get? index).bind fun limit => Numeral.natural? (toString limit)).or
        (limitOf? store.defaultLimit) := by
  rw [fieldLimit?, sectionLimit?_own, sectionLimit?_default]

end Published

namespace Store

theorem definitionsOf_toMapping (schema : Schema) :
    definitionsOf schema.toMapping = schema.toProperties := by
  simp [definitionsOf, Schema.toMapping, Json.member?, Json.members?, Members.get?]

/-- Only writes to an index change its definitions. -/
theorem get?_indices_serve (call : ServiceCall) (store : Store) (index : String)
    (apart : call.isWrite = true → call.index ≠ index) :
    (store.serve call).2.indices.get? index = store.indices.get? index := by
  cases call with
  | createIndex name =>
    exact (Members.get?_insert ..).trans (if_neg (apart rfl))
  | putMapping name mapping =>
    rw [serve]
    split
    · exact (Members.get?_insert ..).trans (if_neg (apart rfl))
    · rfl
  | search request =>
    rw [serve]
    split <;> rfl
  | _ => rfl

end Store

end CatalogSearch
