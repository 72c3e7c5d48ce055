/-
**Layouts of dates and times.**

A layout is a sequence of numbers and signs. A number may follow blanks and takes as many digits as
it finds, up to its width; a space stands for any number of blanks; the fraction of a second may be
absent; every other sign stands for itself.

* `Layout.parts?` — the numbers that a text in this layout gives;
* `Layout.date?`, `Layout.time?` — the date, or the date and time, it denotes.
-/

import CatalogSearch.Calendar.DateTime
import CatalogSearch.Text.Basic

namespace CatalogSearch

/-- The numbers of a date and time, as a text gives them. -/
structure DateParts where
  year : Int := 0
  month : Nat := 0
  day : Nat := 0
  hour : Nat := 0
  minute : Nat := 0
  second : Nat := 0
deriving DecidableEq, Repr

namespace DateParts

/-- The date of the parts, if it is supported. -/
def date? (parts : DateParts) : Option Date :=
  (Date.ofParts? parts.year parts.month parts.day).filter Date.isSupported

/-- The date and time of the parts, if they are supported. -/
def time? (parts : DateParts) : Option DateTime := do
  let date ← parts.date?
  let clock ← Clock.ofParts? parts.hour parts.minute parts.second
  return ⟨date, clock⟩

end DateParts

/-- A part of a layout. All numbers but the year have up to two digits. -/
inductive LayoutItem where
  /-- The year: up to four digits, or a sign and any number of them. -/
  | year
  | month
  | day
  | hour
  | minute
  | second
  /-- A point and digits, or nothing. -/
  | fraction
  /-- Any number of blanks. -/
  | space
  | sign (c : Char)
deriving DecidableEq, Repr

/-- A layout is the sequence of its parts. -/
abbrev Layout := List LayoutItem

namespace Layout

/-- The number of the digits at the start, between `least` and `most` of them, and what follows. -/
def number? (least : Nat) (most : Option Nat) (cs : List Char) : Option (Nat × List Char) :=
  let run := cs.takeWhile Char.isDigit
  let taken := match most with
    | some most => run.take most
    | none => run
  if taken.length < least then none
  else (Text.natOfDigits? taken).map (·, cs.drop taken.length)

/-- A year: without a sign it has at most four digits. -/
def year? : List Char → Option (Int × List Char)
  | '-' :: rest => (number? 1 none rest).map fun (n, rest) => (-(n : Int), rest)
  | '+' :: rest => (number? 1 none rest).map fun (n, rest) => ((n : Int), rest)
  | cs => (number? 1 (some 4) cs).map fun (n, rest) => ((n : Int), rest)

/-- A number of up to two digits behind blanks. -/
def two? (cs : List Char) : Option (Nat × List Char) := number? 1 (some 2) (Text.trimLeft cs)

/-- The characters behind a fraction of a second. -/
def afterFraction? : List Char → Option (List Char)
  | '.' :: rest =>
    if (rest.takeWhile Char.isDigit).isEmpty then none else some (rest.dropWhile Char.isDigit)
  | cs => some cs

/-- Reads one part. -/
def step? (item : LayoutItem) (parts : DateParts) (cs : List Char) :
    Option (DateParts × List Char) :=
  match item with
  | .year => (year? (Text.trimLeft cs)).map fun (n, rest) => ({ parts with year := n }, rest)
  | .month => (two? cs).map fun (n, rest) => ({ parts with month := n }, rest)
  | .day => (two? cs).map fun (n, rest) => ({ parts with day := n }, rest)
  | .hour => (two? cs).map fun (n, rest) => ({ parts with hour := n }, rest)
  | .minute => (two? cs).map fun (n, rest) => ({ parts with minute := n }, rest)
  | .second => (two? cs).map fun (n, rest) => ({ parts with second := n }, rest)
  | .fraction => (afterFraction? cs).map (parts, ·)
  | .space => some (parts, Text.trimLeft cs)
  | .sign c => match cs with
    | d :: rest => if c = d then some (parts, rest) else none
    | [] => none

/-- Reads a whole text from given parts on. -/
def partsFrom? : Layout → DateParts → List Char → Option DateParts
  | [], parts, [] => some parts
  | [], _, _ :: _ => none
  | item :: layout, parts, cs =>
    (step? item parts cs).bind fun (parts, rest) => partsFrom? layout parts rest

/-- The numbers that a whole text in this layout gives. -/
def parts? (layout : Layout) (cs : List Char) : Option DateParts := partsFrom? layout {} cs

/-- The date that a text in this layout denotes. -/
def date? (layout : Layout) (cs : List Char) : Option Date := (layout.parts? cs).bind DateParts.date?

/-- The date and time that a text in this layout denotes. -/
def time? (layout : Layout) (cs : List Char) : Option DateTime :=
  (layout.parts? cs).bind DateParts.time?

/-- Year, month and day with a sign between them. -/
def yearFirst (c : Char) : Layout := [.year, .sign c, .month, .sign c, .day]

/-- Day, month and year with a sign between them. -/
def dayFirst (c : Char) : Layout := [.day, .sign c, .month, .sign c, .year]

/-- Hour and minute. -/
def toMinute : Layout := [.hour, .sign ':', .minute]

/-- Hour, minute and second. -/
def toSecond : Layout := [.hour, .sign ':', .minute, .sign ':', .second]

/-- The layouts of a date that stands alone, in the order they are tried. -/
def bareDates : List Layout := [yearFirst '-', dayFirst '.', yearFirst '.', dayFirst '-']

/-- The layouts of a date with a time, in the order they are tried. -/
def dateTimes : List Layout :=
  [ yearFirst '-' ++ .space :: toSecond,
    yearFirst '-' ++ .sign 'T' :: toSecond,
    yearFirst '-' ++ .space :: toSecond ++ [.fraction],
    yearFirst '-' ++ .sign 'T' :: toSecond ++ [.fraction],
    yearFirst '-' ++ .space :: toMinute,
    yearFirst '-' ++ .sign 'T' :: toMinute,
    dayFirst '.' ++ .space :: toSecond,
    dayFirst '.' ++ .space :: toMinute,
    yearFirst '/' ++ .space :: toSecond ]

/-- The layouts of a date with slashes, in the order they are tried. -/
def slashedDates : List Layout := [yearFirst '/', dayFirst '/']

end Layout
end CatalogSearch
