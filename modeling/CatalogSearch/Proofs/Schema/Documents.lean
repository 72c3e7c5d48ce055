/-
**Documents of records.**

A document has the fields of the schema that are no aliases, in the schema's order, each with the value that it
stores of what the record gives for its name. Nothing else of the record has a part in it.

* `Schema.documentFields` — the fields of documents; `Schema.given` — what a record gives for a name;
* `Schema.document_eq_ok_iff`, `document_eq_error_iff` — the document field by field, or the fault of the first
  field that has one;
* `Schema.document_congr` — records that give the same have the same document;
* `Schema.document_of_document` — a document gives for each of its fields the value that is stored, so that it
  is its own document where the kinds are known;
* `Schema.document_exact` — all of this together.
-/

import CatalogSearch.Proofs.Schema.Idempotence
import CatalogSearch.Proofs.Strict
import CatalogSearch.Schema.Value

namespace CatalogSearch.Schema

/-- The fields that documents have: all but the aliases. -/
def documentFields (schema : Schema) : Members Property := schema.fields.filter fun field => !field.2.isAlias

/-- What a record gives for a name: null if it has nothing there. -/
def given (record : Members Json) (name : String) : Json := (record.get? name).getD .null

variable {schema : Schema} {record document : Members Json}

theorem nodup_documentFields (schema : Schema) : (Members.names schema.documentFields).Nodup :=
  schema.distinct.sublist (List.Sublist.map _ List.filter_sublist)

theorem mem_documentFields {field : String × Property} :
    field ∈ schema.documentFields ↔ field ∈ schema.fields ∧ field.2.isAlias = false := by
  simp [documentFields]

/-! ### Field by field -/

theorem documentField_eq_ok {field : String × Property} {entry : String × Json} :
    documentField record field = .ok entry ↔
      entry.1 = field.1 ∧ field.2.normalize (given record field.1) = .ok entry.2 := by
  unfold documentField given
  cases field.2.normalize ((record.get? field.1).getD .null) with
  | error fault => simp
  | ok value =>
    obtain ⟨name, stored⟩ := entry
    simp [eq_comm]

theorem documentField_eq_error {field : String × Property} {error : Error} :
    documentField record field = .error error ↔
      ∃ fault, field.2.normalize (given record field.1) = .error fault ∧ error = .invalidOperation fault := by
  unfold documentField given
  cases field.2.normalize ((record.get? field.1).getD .null) <;> simp [eq_comm]

/-- **A document has the fields of the schema in order**, each with what it stores of the record. -/
theorem document_eq_ok_iff :
    schema.document record = .ok document ↔
      List.Forall₂ (fun field entry => entry.1 = field.1 ∧
        field.2.normalize (given record field.1) = .ok entry.2) schema.documentFields document := by
  unfold Schema.document
  rw [mapM_eq_ok_iff]
  simp only [documentField_eq_ok]
  rfl

theorem exists_document_iff :
    (∃ document, schema.document record = .ok document) ↔
      ∀ field ∈ schema.documentFields, ∃ value, field.2.normalize (given record field.1) = .ok value := by
  have one : ∀ field : String × Property, (∃ entry, documentField record field = .ok entry) ↔
      ∃ value, field.2.normalize (given record field.1) = .ok value := by
    intro field
    simp only [documentField_eq_ok]
    exact ⟨fun ⟨entry, _, made⟩ => ⟨entry.2, made⟩, fun ⟨value, made⟩ => ⟨(field.1, value), rfl, made⟩⟩
  unfold Schema.document
  rw [exists_mapM_iff]
  simp only [one]
  rfl

/-- **A record without a document has the fault of the first field that cannot store its value.** -/
theorem document_eq_error_iff {error : Error} :
    schema.document record = .error error ↔
      ∃ front field back fault, schema.documentFields = front ++ field :: back ∧
        (∀ early ∈ front, ∃ value, early.2.normalize (given record early.1) = .ok value) ∧
        field.2.normalize (given record field.1) = .error fault ∧ error = .invalidOperation fault := by
  unfold Schema.document
  rw [mapM_eq_error_iff]
  simp only [documentField_eq_ok, documentField_eq_error]
  constructor
  · rintro ⟨front, field, back, split, early, fault, failed, rfl⟩
    refine ⟨front, field, back, fault, split, fun one inside => ?_, failed, rfl⟩
    obtain ⟨entry, -, made⟩ := early one inside
    exact ⟨entry.2, made⟩
  · rintro ⟨front, field, back, fault, split, early, failed, rfl⟩
    refine ⟨front, field, back, split, fun one inside => ?_, fault, failed, rfl⟩
    obtain ⟨value, made⟩ := early one inside
    exact ⟨(one.1, value), rfl, made⟩

/-! ### What a document says of its record -/

/-- Records that give the same for the fields of documents have the same document, or the same fault. -/
theorem document_congr {other : Members Json}
    (agree : ∀ field ∈ schema.documentFields, given other field.1 = given record field.1) :
    schema.document other = schema.document record := by
  unfold Schema.document
  refine mapM_congr fun field inside => ?_
  have same := agree field inside
  unfold given at same
  unfold documentField
  rw [same]

theorem names_document (made : schema.document record = .ok document) :
    Members.names document = Members.names schema.documentFields := by
  have fields := document_eq_ok_iff.mp made
  clear made
  generalize schema.documentFields = asked at fields ⊢
  induction fields with
  | nil => rfl
  | cons same _ ih => exact congrArg₂ List.cons same.1 ih

theorem given_of_mem (distinct : (Members.names document).Nodup) {entry : String × Json}
    (inside : entry ∈ document) : given document entry.1 = entry.2 := by
  unfold given
  rw [Members.get?_of_mem distinct inside, Option.getD_some]

/-- A document has under the name of a field what the field stores of the record. -/
theorem exists_get?_document {name : String} {property : Property} (found : schema.find? name = some property)
    (plain : property.isAlias = false) (made : schema.document record = .ok document) :
    ∃ stored, document.get? name = some stored ∧ property.normalize (given record name) = .ok stored := by
  have distinct : (Members.names document).Nodup := names_document made ▸ nodup_documentFields schema
  have asked : (name, property) ∈ schema.documentFields :=
    mem_documentFields.mpr ⟨Members.mem_of_get? found, plain⟩
  obtain ⟨⟨put, stored⟩, inside, rfl, normalized⟩ := exists_of_mem_right (document_eq_ok_iff.mp made).flip asked
  exact ⟨stored, Members.get?_of_mem distinct inside, normalized⟩

/-- **A document is its own document** where the kinds are known: what a field stores it stores again. -/
theorem document_of_document (known : ∀ field ∈ schema.documentFields, field.2.kind ∈ Kind.known)
    (made : schema.document record = .ok document) : schema.document document = .ok document := by
  -- a name is there once, so the document gives for each field what stands beside it
  have distinct : (Members.names document).Nodup := names_document made ▸ nodup_documentFields schema
  obtain ⟨long, each⟩ := List.forall₂_iff_zip.mp (document_eq_ok_iff.mp made)
  refine document_eq_ok_iff.mpr (List.forall₂_iff_zip.mpr ⟨long, fun {field entry} paired => ?_⟩)
  obtain ⟨asked, inside⟩ := List.of_mem_zip paired
  obtain ⟨named, stored⟩ := each paired
  refine ⟨named, ?_⟩
  rw [← named, given_of_mem distinct inside]
  exact Property.normalize_of_normalize (known field asked) stored

/-- The kinds but the aliases and the unknown ones have rules of their own. -/
theorem kind_mem_known {field : String × Property}
    (known : ∀ field ∈ schema.fields, ∀ name, field.2.kind ≠ .other name)
    (inside : field ∈ schema.documentFields) : field.2.kind ∈ Kind.known := by
  obtain ⟨there, plain⟩ := mem_documentFields.mp inside
  have recognized := known field there
  unfold Property.isAlias at plain
  cases sort : field.2.kind with
  | aliased => simp [sort] at plain
  | other name => exact absurd sort (recognized name)
  | _ => simp [Kind.known]

/-- **The document of a record.** There is one if every field but the aliases can store what the record gives
for it, null where it gives nothing; else the fault is that of the first such field that cannot. It has these
fields alone, in the order of the schema, each with the value that is stored, and it is its own document. All
else that a record holds is no matter. -/
theorem document_exact (schema : Schema) (known : ∀ field ∈ schema.fields, ∀ name, field.2.kind ≠ .other name)
    (record : Members Json) :
    ((∃ document, schema.document record = .ok document) ↔
      ∀ field ∈ schema.documentFields, ∃ value, field.2.normalize (given record field.1) = .ok value) ∧
    (∀ error, schema.document record = .error error ↔
      ∃ front field back fault, schema.documentFields = front ++ field :: back ∧
        (∀ early ∈ front, ∃ value, early.2.normalize (given record early.1) = .ok value) ∧
        field.2.normalize (given record field.1) = .error fault ∧ error = .invalidOperation fault) ∧
    (∀ document, schema.document record = .ok document →
      Members.names document = Members.names schema.documentFields ∧
      List.Forall₂ (fun field entry => field.2.normalize (given record field.1) = .ok entry.2)
        schema.documentFields document ∧
      schema.document document = .ok document) ∧
    ∀ other, (∀ field ∈ schema.documentFields, given other field.1 = given record field.1) →
      schema.document other = schema.document record := by
  refine ⟨exists_document_iff, fun error => document_eq_error_iff, fun document made => ?_,
    fun other => document_congr⟩
  refine ⟨names_document made, ?_, document_of_document (fun field => kind_mem_known known) made⟩
  exact (document_eq_ok_iff.mp made).imp fun field entry stored => stored.2

/-- A rich text, a day written in another order, numbers in texts, and a field that is missing; beside them
what stands under an alias and under no field, in another record in another order. -/
theorem document_exact_record :
    let schema : Schema :=
      ⟨[ ("NAME", .ofKind .keyword), ("EXTERNAL_ID", .ofAlias "NAME"), ("ACTIVE_FROM", .ofKind .date),
         ("SORT", .ofKind .long), ("PRICE", .ofKind .double), ("ACTIVE", .ofKind .boolean) ], by decide⟩
    let record : Members Json :=
      [ ("SORT", .array [.string " -7.9 ", .bool true]), ("EXTERNAL_ID", .string "a"),
        ("NAME", .object [("TYPE", .string "HTML"), ("TEXT", .string "<b>shoe</b>")]),
        ("ACTIVE_FROM", .string "14.06.2019 12:30"), ("ACTIVE", .string "N") ]
    let other : Members Json :=
      [ ("UNKNOWN", .null), ("ACTIVE", .string "N"), ("ACTIVE_FROM", .string "14.06.2019 12:30"),
        ("EXTERNAL_ID", .array []), ("PRICE", .null),
        ("NAME", .object [("TYPE", .string "HTML"), ("TEXT", .string "<b>shoe</b>")]),
        ("SORT", .array [.string " -7.9 ", .bool true]) ]
    let document : Members Json :=
      [ ("NAME", .string "<b>shoe</b>"), ("ACTIVE_FROM", .string "2019-06-14 12:30:00"),
        ("SORT", .array [.number (.int ⟨-7, by decide, by decide⟩), .null]), ("PRICE", .null),
        ("ACTIVE", .bool false) ]
    (∀ field ∈ schema.fields, ∀ name, field.2.kind ≠ .other name) ∧
      schema.document record = .ok document ∧ schema.document document = .ok document ∧
      schema.document other = schema.document record := by
  intro schema record other document
  have known : ∀ field ∈ schema.fields, ∀ name, field.2.kind ≠ .other name := by
    simp [schema, Property.ofKind, Property.ofAlias]
  obtain ⟨-, -, made, same⟩ := document_exact schema known record
  have stored : schema.document record = .ok document := by decide +kernel
  refine ⟨known, stored, (made document stored).2.2, same other ?_⟩
  decide +kernel

end CatalogSearch.Schema
