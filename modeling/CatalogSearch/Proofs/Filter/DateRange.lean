/-
**What the range of two dates spans.**

The limits of a `><` condition on a date are ordered as texts are. Texts of moments with a year of four digits
are ordered as the moments, be they days or days with a time, so the range runs from the earlier of the two to
the later one, in whichever order and spelling they are given.

* `Json.asDate_eq_string` — a date is stored as the text of a moment;
* `FilterCompiler.between_chronological` — the query of both orders.
-/

import CatalogSearch.Proofs.Calendar.Written
import CatalogSearch.Proofs.Filter.Between
import Mathlib.Data.String.Basic

namespace CatalogSearch

/-- **A date that is stored as a text is the text of the moment it denotes.** -/
theorem Json.asDate_eq_string {value : Json} {s : String} (found : value.asDate = .ok (.string s)) :
    ∃ m, Moment.read value = .ok (some m) ∧ s = m.text := by
  obtain ⟨moment, read, same⟩ := map_eq_ok.mp found
  cases moment with
  | none => cases same
  | some m =>
    cases same
    exact ⟨m, read, rfl⟩

/-- The limits that two texts are given. -/
def textLimits (s t : String) : Bounds :=
  if t < s then { atLeast := some (.string t), atMost := some (.string s) }
  else { atLeast := some (.string s), atMost := some (.string t) }

namespace Property

variable {property : Property} {x : Json} {s : String}

/-- What the field of dates stores as a text says a moment. -/
theorem exists_writtenAs (date : property.kind = .date) (stored : property.normalize x = .ok (.string s)) :
    ∃ m : Moment, m.WrittenAs s.toList := by
  have scalar := normalizeScalar_of_isScalar stored trivial
  rw [date] at scalar
  obtain ⟨m, -, rfl⟩ := Json.asDate_eq_string scalar
  exact ⟨m, m.writtenAs_text⟩

end Property

namespace FilterCompiler

variable {compiler : FilterCompiler} {schema : Schema} {key field : String} {property : Property}
  {x y : Json} {s t : String}

/-- The query of a range between two values that the field stores as texts. -/
theorem compile_between_texts (asks : compiler.Asks schema key .between field property)
    (first : property.normalize x = .ok (.string s)) (second : property.normalize y = .ok (.string t)) :
    compiler.compile schema [(key, .array [x, y])] =
      .done (.bool [.onRange field (textLimits s t)] [] []) := by
  have clause : (⟨.between, field, property.kind, .array [.string s, .string t]⟩ : Condition).clause .and =
      .ok (.must, .onRange field (textLimits s t)) := by
    by_cases after : t < s <;>
      simp [Condition.clause, Condition.between, Json.isAfter?, textLimits, after, Except.map,
        Condition.affirmed, Logic.occur]
  exact asks.compile_eq rfl (Property.normalize_pair first second trivial trivial) clause

/-- **The range of two dates runs from the earlier one to the later one.** Both orders of two values that are
stored with years of four digits are compiled to one range, whose limits are the two texts; the lower one says
a moment that is no later than the upper one's. -/
theorem between_chronological (asks : compiler.Asks schema key .between field property)
    (date : property.kind = .date) (first : property.normalize x = .ok (.string s))
    (second : property.normalize y = .ok (.string t)) (plain : Text.HasPlainYear s.toList)
    (plain' : Text.HasPlainYear t.toList) :
    ∃ (low high : String) (m n : Moment), (low = s ∧ high = t ∨ low = t ∧ high = s) ∧
      compiler.compile schema [(key, .array [x, y])] =
        .done (.bool [.onRange field { atLeast := some (.string low), atMost := some (.string high) }] [] []) ∧
      compiler.compile schema [(key, .array [y, x])] =
        .done (.bool [.onRange field { atLeast := some (.string low), atMost := some (.string high) }] [] []) ∧
      m.WrittenAs low.toList ∧ n.WrittenAs high.toList ∧ m.instant ≤ n.instant := by
  obtain ⟨m, written⟩ := Property.exists_writtenAs date first
  obtain ⟨n, written'⟩ := Property.exists_writtenAs date second
  have given := compile_between_texts asks first second
  have turned := compile_between_texts asks second first
  unfold textLimits at given turned
  rcases lt_trichotomy s t with before | rfl | after
  · rw [if_neg before.asymm] at given
    rw [if_pos before] at turned
    exact ⟨s, t, m, n, .inl ⟨rfl, rfl⟩, given, turned, written, written',
      written.instant_le written' plain plain' (String.lt_iff.not.mp before.asymm)⟩
  · rw [if_neg (lt_irrefl s)] at given turned
    exact ⟨s, s, m, m, .inl ⟨rfl, rfl⟩, given, turned, written, written, le_rfl⟩
  · rw [if_pos after] at given
    rw [if_neg after.asymm] at turned
    exact ⟨t, s, n, m, .inr ⟨rfl, rfl⟩, given, turned, written', written,
      written'.instant_le written plain' plain (String.lt_iff.not.mp after.asymm)⟩

/-- A count of seconds and the bare date of its day: the date is its midnight, and the text of the one is the
beginning of that of the other. -/
theorem between_chronological_day :
    let schema : Schema := ⟨[("D", .ofKind .date)], by decide⟩
    let count : Json := .number (.int ⟨1560515401, by decide, by decide⟩)
    ∃ (low high : String) (m n : Moment),
      (low = "2019-06-14 12:30:01" ∧ high = "2019-06-14" ∨ low = "2019-06-14" ∧ high = "2019-06-14 12:30:01") ∧
      compile {} schema [("><D", .array [count, .string " 14.06.2019 "])] =
        .done (.bool [.onRange "D" { atLeast := some (.string low), atMost := some (.string high) }] [] []) ∧
      compile {} schema [("><D", .array [.string " 14.06.2019 ", count])] =
        .done (.bool [.onRange "D" { atLeast := some (.string low), atMost := some (.string high) }] [] []) ∧
      m.WrittenAs low.toList ∧ n.WrittenAs high.toList ∧ m.instant ≤ n.instant := by
  intro schema count
  have sign : "><D" = Operator.between.symbol ++ "D" := by decide
  have asks : Asks {} schema "><D" .between "D" (.ofKind .date) :=
    asks_of_name sign (by decide) (List.all_eq_true.mp rfl) (by rintro _ ⟨⟩; decide) rfl rfl
  have first : (Property.ofKind .date).normalize count = .ok (.string "2019-06-14 12:30:01") := rfl
  have second : (Property.ofKind .date).normalize (.string " 14.06.2019 ") = .ok (.string "2019-06-14") := rfl
  exact between_chronological asks rfl first second (by decide) (by decide)

end FilterCompiler
end CatalogSearch
