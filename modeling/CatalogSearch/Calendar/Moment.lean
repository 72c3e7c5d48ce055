/-
**Dates of documents.**

Every date leaves in one of two forms: a day, or a day with a time. A text is a bare date, a count of
seconds, or one of the layouts of a date with a time; the wall-clock time is kept as written.

* `Moment` — a day, or a day with a time; `Moment.text` — its form;
* `Moment.ofSeconds` — the moment of a count of seconds, where zero is no date;
* `Moment.ofText` — the moment a text denotes, where the empty text and `0` are no date;
* `Moment.read` — the moment a value denotes.
-/

import CatalogSearch.Calendar.Rfc2822
import CatalogSearch.Error

namespace CatalogSearch

/-- A day, or a day with a time. -/
inductive Moment where
  | day (date : Date)
  | time (time : DateTime)
deriving DecidableEq, Repr

namespace Moment

/-- The form in which a moment is stored. -/
def text : Moment → String
  | day d => d.text
  | time t => t.text

/-- The characters behind a run of digits of any script, of which there are `least` to `most`. -/
def afterDigits? (least most : Nat) (cs : List Char) : Option (List Char) :=
  let count := (cs.takeWhile Text.isDecimalDigit).length
  if least ≤ count ∧ count ≤ most then some (cs.dropWhile Text.isDecimalDigit) else none

/-- The characters behind a hyphen or a point. -/
def afterSeparator? : List Char → Option (List Char)
  | '-' :: rest | '.' :: rest => some rest
  | _ => none

/-- Whether a text has the shape of a bare date: two to four digits, two, and two to four, with a
hyphen or a point between them. -/
def isBareDate (cs : List Char) : Bool :=
  (afterDigits? 2 4 cs >>= afterSeparator? >>= afterDigits? 2 2 >>= afterSeparator? >>=
    afterDigits? 2 4) = some []

/-- Whether a text is one or more digits of any script, perhaps behind a minus. -/
def isTimestamp (cs : List Char) : Bool :=
  let digits := match cs with
    | '-' :: rest => rest
    | cs => cs
  !digits.isEmpty && digits.all Text.isDecimalDigit

/-- The signed word that ASCII digits denote, perhaps behind a minus. -/
def secondsOfText? (cs : List Char) : Option Int :=
  match cs with
  | '-' :: rest => (Text.natOfDigits? rest).bind fun n => (WordInt.ofSigned? (-n)).map (·.val)
  | cs => (Text.natOfDigits? cs).bind fun n => (WordInt.ofSigned? n).map (·.val)

/-- The moment of a count of seconds; zero is no date. -/
def ofSeconds (seconds : Int) : Except OperationFault (Option Moment) :=
  if seconds = 0 then .ok none
  else match DateTime.ofSeconds? seconds with
    | some t => .ok (some (time t))
    | none => .error (.timestampRange seconds)

/-- The date and time of a text that is neither a bare date nor a count of seconds. -/
def timeOfText? (cs : List Char) : Option DateTime :=
  (Rfc3339.read? cs).or <|
    (Rfc2822.read? cs).or <|
      (Layout.dateTimes.findSome? (·.time? cs)).or <|
        (Layout.slashedDates.findSome? (·.date? cs)).map (⟨·, .midnight⟩)

/-- The moment that a trimmed text denotes. -/
def ofTrimmed (cs : List Char) : Except OperationFault (Option Moment) :=
  let whole := String.ofList cs
  if cs = [] ∨ cs = ['0'] then .ok none
  else if isBareDate cs then
    match Layout.bareDates.findSome? (·.date? cs) with
    | some date => .ok (some (day date))
    | none => .error (.unreadableDate whole)
  else if isTimestamp cs then
    match secondsOfText? cs with
    | some seconds => ofSeconds seconds
    | none => .error (.textNotTimestamp whole)
  else match timeOfText? cs with
    | some t => .ok (some (time t))
    | none => .error (.unreadableDate whole)

/-- The moment that a text denotes. -/
def ofText (s : String) : Except OperationFault (Option Moment) := ofTrimmed (Text.trim s.toList)

/-- The moment that a number of seconds denotes; a double must be whole and within a signed word. -/
def ofNumber (n : Number) : Except OperationFault (Option Moment) :=
  match n with
  | .int word =>
    if word.val ≤ WordInt.greatestSigned.val then ofSeconds word.val
    else .error (.numberNotTimestamp n)
  | .float x =>
    if x.isWhole && x.wholePart < twoTo 63 then ofSeconds x.truncate
    else .error (.numberNotTimestamp n)

/-- The moment that a value denotes; null and false are no date. -/
def read : Json → Except OperationFault (Option Moment)
  | .null | .bool false => .ok none
  | .bool true => .error .truthNotDate
  | .number n => ofNumber n
  | .string s => ofText s
  | value => .error (.valueNotDate value)

/-- The value that stands for a moment, or for none. -/
def toJson : Option Moment → Json
  | none => .null
  | some moment => .string moment.text

end Moment
end CatalogSearch
