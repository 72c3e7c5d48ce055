/-
**Internet timestamps (RFC 3339).**

* `Rfc3339.read?` — the wall-clock time of a timestamp; its offset is read and dropped.
-/

import CatalogSearch.Calendar.Layout

namespace CatalogSearch.Rfc3339

/-- A number of exactly `width` digits. -/
def ofWidth? (width : Nat) (cs : List Char) : Option (Nat × List Char) :=
  Layout.number? width (some width) cs

/-- The characters behind a given one. -/
def after? (c : Char) : List Char → Option (List Char)
  | d :: rest => if c = d then some rest else none
  | [] => none

/-- The characters behind a full offset: two digits of hours, a colon, two digits of minutes. -/
def afterHours? (cs : List Char) : Option (List Char) := do
  let (hours, rest) ← ofWidth? 2 cs
  let rest ← after? ':' rest
  let (minutes, rest) ← ofWidth? 2 rest
  if hours < 24 ∧ minutes < 60 then some rest else none

/-- The characters behind an offset; a minus may be a hyphen or the minus sign. -/
def afterOffset? : List Char → Option (List Char)
  | c :: rest =>
    if c = 'Z' ∨ c = 'z' then some rest
    else if c = '+' ∨ c = '-' ∨ c.toNat = 0x2212 then afterHours? rest
    else none
  | [] => none

/-- The wall-clock time of a timestamp. -/
def read? (cs : List Char) : Option DateTime := do
  let (year, cs) ← ofWidth? 4 cs
  let cs ← after? '-' cs
  let (month, cs) ← ofWidth? 2 cs
  let cs ← after? '-' cs
  let (day, cs) ← ofWidth? 2 cs
  let cs ← match cs with
    | c :: rest => if c = 'T' ∨ c = 't' ∨ c = ' ' then some rest else none
    | [] => none
  let (hour, cs) ← ofWidth? 2 cs
  let cs ← after? ':' cs
  let (minute, cs) ← ofWidth? 2 cs
  let cs ← after? ':' cs
  let (second, cs) ← ofWidth? 2 cs
  let cs ← Layout.afterFraction? cs
  let cs ← afterOffset? cs
  if cs.isEmpty then DateParts.time? { year, month, day, hour, minute, second } else none

end CatalogSearch.Rfc3339
