/-
**Mail dates (RFC 2822).**

* `Rfc2822.read?` — the wall-clock time of a mail date; its zone is read, and checked, and dropped.
-/

import CatalogSearch.Calendar.Rfc3339

namespace CatalogSearch.Rfc2822

/-- The short names of the days of the week. -/
def weekdayNames : List String := ["mon", "tue", "wed", "thu", "fri", "sat", "sun"]

/-- The short names of the months. -/
def monthNames : List String :=
  ["jan", "feb", "mar", "apr", "may", "jun", "jul", "aug", "sep", "oct", "nov", "dec"]

/-- The zones with names, and their hours from universal time. -/
def zoneNames : List (String × Int) :=
  [("gmt", 0), ("ut", 0), ("z", 0), ("edt", -4), ("est", -5), ("cdt", -5), ("cst", -6),
   ("mdt", -6), ("mst", -7), ("pdt", -7), ("pst", -8)]

/-- The place in a list of names of the one that the first three letters spell in any case. -/
def shortName? (names : List String) (cs : List Char) : Option (Nat × List Char) :=
  let name := String.ofList ((cs.take 3).map Char.toLower)
  (names.findIdx? (· = name)).map (·, cs.drop 3)

/-- The characters behind one or more blanks. -/
def afterSpace? : List Char → Option (List Char)
  | c :: rest => if Text.isBlank c then some (Text.trimLeft rest) else none
  | [] => none

/-- The day of the week, if one is given, and what follows its comma. -/
def weekday? (cs : List Char) : Option (Option Nat × List Char) :=
  match shortName? weekdayNames cs with
  | some (day, rest) => (Rfc3339.after? ',' rest).map (some day, ·)
  | none => some (none, cs)

/-- A year: two digits mean the years from 1950 to 2049, three count from 1900. -/
def year? (cs : List Char) : Option (Int × List Char) := do
  let (n, rest) ← Layout.number? 2 none cs
  let width := cs.length - rest.length
  let year : Nat :=
    if width = 2 then (if n < 50 then n + 2000 else n + 1900)
    else if width = 3 then n + 1900
    else n
  return ((year : Int), rest)

/-- The second behind a colon, if there is one; blanks may stand before the colon. -/
def second? (cs : List Char) : Option (Nat × List Char) :=
  match Text.trimLeft cs with
  | ':' :: rest => Rfc3339.ofWidth? 2 rest
  | _ => some (0, cs)

/-- The seconds of a zone of digits, without a colon. -/
def digitZone? (cs : List Char) : Option (Int × List Char) := do
  let (negative, cs) ← match cs with
    | '+' :: rest => some (false, rest)
    | '-' :: rest => some (true, rest)
    | _ => none
  let (hours, cs) ← Rfc3339.ofWidth? 2 cs
  let (minutes, cs) ← Rfc3339.ofWidth? 2 cs
  let seconds : Int := 3600 * (hours : Int) + 60 * (minutes : Int)
  if hours < 24 ∧ minutes < 60 then some (if negative then -seconds else seconds, cs) else none

/-- The seconds of a zone: digits, a name, or a single letter, of which only J is none. -/
def zone? (cs : List Char) : Option (Int × List Char) :=
  let name := (cs.takeWhile Char.isAlpha).map Char.toLower
  let rest := cs.dropWhile Char.isAlpha
  if name.isEmpty then digitZone? cs
  else match zoneNames.lookup (String.ofList name) with
    | some hours => some (3600 * hours, rest)
    | none => if name.length = 1 ∧ name ≠ ['j'] then some (0, rest) else none

/-- The characters behind a comment whose opening is read, `depth` further ones being open. A
backslash takes its meaning from the next character. -/
def afterComment? : Nat → List Char → Option (List Char)
  | _, [] => none
  | depth, '\\' :: _ :: rest => afterComment? depth rest
  | _, ['\\'] => none
  | depth, '(' :: rest => afterComment? (depth + 1) rest
  | 0, ')' :: rest => some rest
  | depth + 1, ')' :: rest => afterComment? depth rest
  | depth, _ :: rest => afterComment? depth rest

/-- Whether comments, with blanks before them, are all that is left, given at most `fuel` of them. -/
def onlyComments : Nat → List Char → Bool
  | _, [] => true
  | 0, _ :: _ => false
  | fuel + 1, cs =>
    match Text.trimLeft cs with
    | '(' :: rest => match afterComment? 0 rest with
      | some rest => onlyComments fuel rest
      | none => false
    | _ => false

/-- The wall-clock time of a mail date. A day of the week must be the one of the date, and the
universal time of its minute must be supported too. -/
def read? (cs : List Char) : Option DateTime := do
  let (weekday, cs) ← weekday? (Text.trimLeft cs)
  let (day, cs) ← Layout.number? 1 (some 2) (Text.trimLeft cs)
  let (month, cs) ← shortName? monthNames (← afterSpace? cs)
  let (year, cs) ← year? (← afterSpace? cs)
  let (hour, cs) ← Rfc3339.ofWidth? 2 (← afterSpace? cs)
  let cs ← Rfc3339.after? ':' (Text.trimLeft cs)
  let (minute, cs) ← Rfc3339.ofWidth? 2 (Text.trimLeft cs)
  let (second, cs) ← second? cs
  let (offset, cs) ← zone? (← afterSpace? cs)
  let time ← DateParts.time? { year, month := month + 1, day, hour, minute, second }
  let _ ← DateTime.ofSeconds? (time.seconds - time.clock.second - offset)
  if onlyComments cs.length cs && weekday.all (· = time.date.weekday) then some time else none

end CatalogSearch.Rfc2822
