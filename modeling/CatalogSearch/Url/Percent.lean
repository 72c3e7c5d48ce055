/-
**Percent-encoding.**

* `Percent.encode` — characters with those of a set, and all past ASCII, written as bytes;
* `Percent.decode` — the bytes that a text written in this way denotes;
* `Percent.inPath`, `inSegment`, `inQuery`, … — the characters that each part of a URL does not hold
  as they are.
-/

import CatalogSearch.Json.Reader

namespace CatalogSearch.Percent

/-- A byte as a percent sign and two digits. -/
def byte (b : UInt8) : List Char :=
  ['%', (Nat.digitChar (b.toNat / 16)).toUpper, (Nat.digitChar (b.toNat % 16)).toUpper]

/-- A character as its bytes. -/
def character (c : Char) : List Char := (String.utf8EncodeChar c).flatMap byte

/-- Characters with those of a set, and all past ASCII, written as bytes. -/
def encode (isEscaped : Char → Bool) (cs : List Char) : List Char :=
  cs.flatMap fun c => if isEscaped c || 0x7F < c.toNat then character c else [c]

/-- The bytes that a text denotes; a percent sign without two digits stands for itself. -/
def decode : List Char → List UInt8
  | '%' :: a :: b :: rest =>
    match Json.Reader.hexValue? a, Json.Reader.hexValue? b with
    | some high, some low => UInt8.ofNat (16 * high + low) :: decode rest
    | _, _ => UInt8.ofNat '%'.toNat :: decode (a :: b :: rest)
  | c :: rest => String.utf8EncodeChar c ++ decode rest
  | [] => []

/-- The text of bytes, if they are one. -/
def text? (bytes : List UInt8) : Option String := String.fromUTF8? ⟨bytes.toArray⟩

/-- Controls. -/
def isControl (c : Char) : Bool := c.toNat < 0x20 || c.toNat = 0x7F

/-- What a fragment does not hold as it is. -/
def inFragment (c : Char) : Bool := isControl c || c ∈ [' ', '"', '<', '>', '`']

/-- What a query does not hold as it is; the apostrophe only in some schemes. -/
def inQuery (special : Bool) (c : Char) : Bool :=
  isControl c || c ∈ [' ', '"', '#', '<', '>'] || (special && c = '\'')

/-- What a path does not hold as it is. -/
def inPath (c : Char) : Bool := inFragment c || c ∈ ['#', '?', '{', '}']

/-- What a segment that is added to a path does not hold as it is; the backslash only in some
schemes. -/
def inSegment (special : Bool) (c : Char) : Bool :=
  inPath c || c ∈ ['/', '%'] || (special && c = '\\')

/-- What names of users and passwords do not hold as they are. -/
def inUser (c : Char) : Bool :=
  inPath c || c ∈ ['/', ':', ';', '=', '@', '[', '\\', ']', '^', '|']

end CatalogSearch.Percent
