/-
**Hosts of URLs.**

* `Host.special` — the written form of a host of the known schemes: a domain, or an address of four or
  of eight numbers;
* `Host.other` — the written form of a host of any other scheme.
-/

import CatalogSearch.Text.Lowercase
import CatalogSearch.Text.Quoted
import CatalogSearch.Text.Word
import CatalogSearch.Url.Percent
import CatalogSearch.Url.Punycode

namespace CatalogSearch

/-- Why a text is no URL that can be used. -/
inductive UrlFault where
  | emptyHost
  | invalidDomain
  /-- What stands behind a host's colon is no number, or too great. -/
  | invalidNumber
  | invalidIpv4
  | invalidIpv6
  | invalidCharacter
  | noScheme
  /-- No path to which segments can be added. -/
  | noPath
deriving DecidableEq, Repr

/-- The text of a fault. -/
def UrlFault.message : UrlFault → String
  | emptyHost => "empty host"
  | invalidDomain => "invalid international domain name"
  | invalidNumber => "invalid port number"
  | invalidIpv4 => "invalid IPv4 address"
  | invalidIpv6 => "invalid IPv6 address"
  | invalidCharacter => "invalid domain character"
  | noScheme => "relative URL without a base"
  | noPath => "relative URL with a cannot-be-a-base base"

namespace Host

/-- The parts of characters between separators. -/
def splitAt (separator : Char) : List Char → List (List Char)
  | [] => [[]]
  | c :: rest =>
    if c = separator then [] :: splitAt separator rest
    else match splitAt separator rest with
      | part :: parts => (c :: part) :: parts
      | [] => [[c]]

/-- The number that digits of a base denote. -/
def number? (base : Nat) (cs : List Char) : Option Nat :=
  (cs.mapM fun c => (Json.Reader.hexValue? c).filter (· < base)).map
    (·.foldl (fun n d => base * n + d) 0)

/-- A number of an address: hexadecimal behind `0x`, octal behind `0`, else decimal. -/
def part? : List Char → Option Nat
  | [] => none
  | '0' :: 'x' :: rest | '0' :: 'X' :: rest => number? 16 rest
  | '0' :: c :: rest => number? 8 (c :: rest)
  | cs => number? 10 cs

/-- Whether the last part of a domain, an empty one apart, is a number. -/
def endsInNumber (domain : List Char) : Bool :=
  let parts := splitAt '.' domain
  let last := match parts.reverse with
    | [] :: before :: _ => before
    | last :: _ => last
    | [] => []
  (!last.isEmpty && last.all Char.isDigit) || (part? last).isSome

/-- The four numbers of an address, of which the last may stand for those left out. -/
def ipv4? (domain : List Char) : Option (List Nat) := do
  let parts := splitAt '.' domain
  let parts := if parts.getLast? = some [] then parts.dropLast else parts
  let numbers ← if 4 < parts.length then none else parts.mapM part?
  let last ← numbers.getLast?
  let leading := numbers.dropLast
  let free := 4 - leading.length
  if leading.any (255 < ·) || Nat.pow 256 free ≤ last then none
  else
    return leading ++ (List.range free).map fun i => last / Nat.pow 256 (free - 1 - i) % 256

/-- Four numbers with points between them. -/
def ipv4Text (numbers : List Nat) : List Char :=
  (String.intercalate "." (numbers.map toString)).toList

/-- One of the eight numbers of an address, in up to four hexadecimal digits. -/
def piece? (cs : List Char) : Option Nat :=
  if cs.isEmpty ∨ 4 < cs.length then none else number? 16 cs

/-- A decimal number up to 255, without zeros before it. -/
def octet? (cs : List Char) : Option Nat :=
  match cs with
  | ['0'] => some 0
  | '0' :: _ => none
  | cs => if cs.isEmpty then none else (number? 10 cs).filter (· ≤ 255)

/-- Two numbers of an address written as four with points. -/
def embedded? (cs : List Char) : Option (List Nat) :=
  match (splitAt '.' cs).mapM octet? with
  | some [a, b, c, d] => some [256 * a + b, 256 * c + d]
  | _ => none

/-- The numbers of a part of an address; the last may be written as four with points. -/
def pieces? (last : Bool) (cs : List Char) : Option (List Nat) :=
  if cs.isEmpty then some []
  else
    let parts := splitAt ':' cs
    match parts.reverse with
    | [] => some []
    | final :: before =>
      if last && final.any (· = '.') then do
        return (← before.reverse.mapM piece?) ++ (← embedded? final)
      else parts.mapM piece?

/-- The characters before and behind the first two colons in a row. -/
def gap? : List Char → Option (List Char × List Char)
  | ':' :: ':' :: rest => some ([], rest)
  | c :: rest => (gap? rest).map fun (before, behind) => (c :: before, behind)
  | [] => none

/-- The eight numbers of an address; two colons in a row stand for zeros. -/
def ipv6? (cs : List Char) : Option (List Nat) :=
  match gap? cs with
  | none => (pieces? true cs).filter (·.length = 8)
  | some (before, behind) => do
    let before ← pieces? false before
    let behind ← pieces? true behind
    let written := before.length + behind.length
    if 7 < written then none
    else return before ++ List.replicate (8 - written) 0 ++ behind

/-- The length of the run of zeros at the start. -/
def zeros (numbers : List Nat) : Nat := (numbers.takeWhile (· = 0)).length

/-- Where the longest run of zeros starts, and how long it is; of equal ones it is the first. -/
def longestZeros (numbers : List Nat) : Nat × Nat :=
  (List.range numbers.length).foldl (fun best i =>
    let length := zeros (numbers.drop i)
    if best.2 < length then (i, length) else best) (0, 0)

/-- Hexadecimal numbers with colons between them. -/
def colons (numbers : List Nat) : List Char :=
  (String.intercalate ":" (numbers.map fun n => String.ofList (Nat.toDigits 16 n))).toList

/-- Eight numbers in brackets, two colons standing for the longest run of two or more zeros. -/
def ipv6Text (numbers : List Nat) : List Char :=
  let (start, length) := longestZeros numbers
  if 1 < length then
    '[' :: colons (numbers.take start) ++ ':' :: ':' :: colons (numbers.drop (start + length)) ++
      [']']
  else '[' :: colons numbers ++ [']']

/-- A host between brackets. -/
def bracketed (cs : List Char) : Except UrlFault (List Char) :=
  if cs.getLast? = some ']' then
    match ipv6? cs.tail.dropLast with
    | some numbers => .ok (ipv6Text numbers)
    | none => .error .invalidIpv6
  else .error .invalidIpv6

/-- The ranges of characters past ASCII that a domain is written without. -/
def silentRanges : List (Nat × Nat) :=
  [(0xAD, 0xAD), (0x34F, 0x34F), (0x180B, 0x180D), (0x180F, 0x180F), (0x200B, 0x200B),
   (0x2060, 0x2060), (0x2064, 0x2064), (0xFE00, 0xFE0F), (0xFEFF, 0xFEFF), (0xE0100, 0xE01EF)]

/-- The characters that stand for a character of a domain: small letters for capital ones, ASCII for
wide forms, a point for other full stops, and nothing for what does not show. -/
def domainChar (c : Char) : List Char :=
  let n := c.toNat
  if n < 0x80 then [c.toLower]
  else if Text.inRanges silentRanges c then []
  else if n = 0x3002 ∨ n = 0xFF0E ∨ n = 0xFF61 then ['.']
  else if 0xFF01 ≤ n ∧ n ≤ 0xFF5E then [(Char.ofNat (n - 0xFEE0)).toLower]
  else Text.lowerChar c

/-- What a domain cannot have. -/
def isDenied (c : Char) : Bool :=
  c.toNat ≤ 0x20 || c.toNat = 0x7F ||
    c ∈ ['%', '#', '/', ':', '<', '>', '?', '@', '[', '\\', ']', '^', '|']

/-- Whether a character past ASCII may stand in a domain: it shows, or belongs to a word, and is no
joiner. -/
def isDomainChar (c : Char) : Bool :=
  (Text.isWord c || !Text.needsCode c) && c.toNat ≠ 0x200C && c.toNat ≠ 0x200D

/-- Whether characters, some of them past ASCII, are a label as it is written: all may stand in a domain,
and the first does not join what is before it. -/
def isLabel (cs : List Char) : Bool :=
  cs.all (fun c => c.toNat < 0x80 || isDomainChar c) &&
    cs.head?.all fun c => c.toNat < 0x80 || !Text.needsCode c

/-- The mark of a label that stands for letters past ASCII. -/
def encodedMark : List Char := "xn--".toList

/-- Whether a label behind its mark stands for letters as they are written, some of them past ASCII. -/
def isEncoded (cs : List Char) : Bool :=
  match Punycode.decode? cs with
  | some letters =>
    letters.any (0x80 ≤ ·.toNat) && letters.all (fun c => domainChar c = [c]) && isLabel letters
  | none => false

/-- A label of a domain in ASCII. -/
def label? (cs : List Char) : Option (List Char) :=
  if cs.all (·.toNat < 0x80) then
    if cs.take 4 = encodedMark && !isEncoded (cs.drop 4) then none else some cs
  else if isLabel cs then some (encodedMark ++ Punycode.encode cs)
  else none

/-- A domain in ASCII. -/
def domain? (s : String) : Option (List Char) :=
  let cs := s.toList.flatMap domainChar
  if cs.any isDenied then none
  else do
    let labels ← (splitAt '.' cs).mapM label?
    return (String.intercalate "." (labels.map String.ofList)).toList

/-- The written form of a host of the known schemes. -/
def special (cs : List Char) : Except UrlFault (List Char) :=
  if cs.head? = some '[' then bracketed cs
  else match (Percent.text? (Percent.decode cs)).bind domain? with
    | none => .error .invalidDomain
    | some [] => .error .emptyHost
    | some domain =>
      if endsInNumber domain then
        match ipv4? domain with
        | some numbers => .ok (ipv4Text numbers)
        | none => .error .invalidIpv4
      else .ok domain

/-- What a host of other schemes cannot have. -/
def isForbidden (c : Char) : Bool :=
  c.toNat = 0 || c ∈ ['\t', '\n', '\r', ' ', '#', '/', ':', '<', '>', '?', '@', '[', '\\', ']', '^', '|']

/-- The written form of a host of other schemes. -/
def other (cs : List Char) : Except UrlFault (List Char) :=
  if cs.head? = some '[' then bracketed cs
  else if cs.any isForbidden then .error .invalidCharacter
  else .ok (Percent.encode Percent.isControl cs)

end Host
end CatalogSearch
