/-
**Percent-encoding is undone by decoding.**

A byte is written as a percent sign and two digits, and read back as itself; what stands for itself is no percent
sign, so that none is taken for the start of a byte.

* `Percent.decode_encode`, `Percent.text?_decode_encode` — what is written is read back, as bytes and as a text;
* `Percent.not_mem_encode` — what is never written.
-/

import CatalogSearch.Url.Percent
import Mathlib.Tactic.IntervalCases

namespace CatalogSearch.Percent

theorem hexValue?_digit {n : Nat} (bound : n < 16) :
    Json.Reader.hexValue? (Nat.digitChar n).toUpper = some n := by
  interval_cases n <;> rfl

/-- The byte behind a percent sign and two digits. -/
theorem decode_byte (b : UInt8) (rest : List Char) : decode (byte b ++ rest) = b :: decode rest := by
  have bound : b.toNat < 256 := b.toNat_lt
  have high : b.toNat / 16 < 16 := by omega
  have low : b.toNat % 16 < 16 := by omega
  have whole : 16 * (b.toNat / 16) + b.toNat % 16 = b.toNat := Nat.div_add_mod ..
  rw [byte, List.cons_append, List.cons_append, List.cons_append, List.nil_append, decode, hexValue?_digit high,
    hexValue?_digit low]
  simp only [whole, UInt8.ofNat_toNat]

theorem decode_bytes (bytes : List UInt8) (rest : List Char) :
    decode (bytes.flatMap byte ++ rest) = bytes ++ decode rest := by
  induction bytes with
  | nil => rfl
  | cons b others ih => rw [List.flatMap_cons, List.append_assoc, decode_byte, ih, List.cons_append]

/-- What is no percent sign stands for itself. -/
theorem decode_cons {c : Char} (other : c ≠ '%') (rest : List Char) :
    decode (c :: rest) = String.utf8EncodeChar c ++ decode rest := by
  rw [decode]
  exact fun _ _ _ same => absurd same other

variable {isEscaped : Char → Bool}

/-- **What is written is read back**, if the percent sign never stands for itself. -/
theorem decode_encode (escaped : isEscaped '%' = true) (cs : List Char) :
    decode (encode isEscaped cs) = cs.flatMap String.utf8EncodeChar := by
  unfold encode
  induction cs with
  | nil => rfl
  | cons c rest ih =>
    rw [List.flatMap_cons, List.flatMap_cons]
    split
    · rw [character, decode_bytes, ih]
    · next plain =>
      have other : c ≠ '%' := by
        rintro rfl
        exact plain (by rw [escaped, Bool.true_or])
      rw [List.singleton_append, decode_cons other, ih]

theorem text?_utf8 (cs : List Char) : text? (cs.flatMap String.utf8EncodeChar) = some (String.ofList cs) := by
  have bytes : (⟨(cs.flatMap String.utf8EncodeChar).toArray⟩ : ByteArray) = cs.utf8Encode := by
    rw [← List.data_toByteArray]
    rfl
  rw [text?, bytes, String.fromUTF8?, dif_pos ByteArray.isValidUTF8_utf8Encode]
  rfl

/-- What is written is the text itself. -/
theorem text?_decode_encode (escaped : isEscaped '%' = true) (cs : List Char) :
    text? (decode (encode isEscaped cs)) = some (String.ofList cs) := by
  rw [decode_encode escaped, text?_utf8]

theorem mem_byte {c : Char} {b : UInt8} (inside : c ∈ byte b) :
    c = '%' ∨ (Json.Reader.hexValue? c).isSome = true := by
  have bound : b.toNat < 256 := b.toNat_lt
  simp only [byte, List.mem_cons, List.not_mem_nil, or_false] at inside
  rcases inside with sign | rfl | rfl
  · exact .inl sign
  · exact .inr (by rw [hexValue?_digit (show b.toNat / 16 < 16 by omega), Option.isSome_some])
  · exact .inr (by rw [hexValue?_digit (show b.toNat % 16 < 16 by omega), Option.isSome_some])

/-- **What is to be escaped is not written**, but for the characters of bytes. -/
theorem not_mem_encode {c : Char} (escaped : isEscaped c = true) (other : c ≠ '%')
    (none : Json.Reader.hexValue? c = none) (cs : List Char) : c ∉ encode isEscaped cs := by
  intro inside
  obtain ⟨d, -, written⟩ := List.mem_flatMap.mp inside
  split at written
  · obtain ⟨b, -, digit⟩ := List.mem_flatMap.mp written
    rcases mem_byte digit with sign | digit
    · exact other sign
    · rw [none] at digit
      cases digit
  · next plain =>
    obtain rfl := List.mem_singleton.mp written
    exact plain (by rw [escaped, Bool.true_or])

end CatalogSearch.Percent
