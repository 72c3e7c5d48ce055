/-
**What a layout reads depends on where the digits of a text are, not on which they are.**

The shape of a text has a zero for each of its digits. A layout that reads a text reads its shape, and takes as
much of it in every step, so that no layout reads a text whose shape it does not read. Texts of one form have
one shape, and whether a layout reads that one can be computed.

* `Text.shape` — a text with a zero for each digit;
* `Layout.step?_shape`, `Layout.partsFrom?_shape` — a step and a run over a shape;
* `Moment.isBareDate_shape` — the pattern of bare dates looks at shapes alone;
* `Text.marks`, `Text.isTight` — the signs of a text, and whether it begins with two digits and no blank.
-/

import CatalogSearch.Calendar.Moment
import CatalogSearch.Proofs.Calendar.Layout

namespace CatalogSearch

namespace Text

/-- A zero for any digit, and every other character itself. -/
def zeroed (c : Char) : Char := if c.isDigit then '0' else c

/-- **The shape of a text**: a zero stands for each digit. -/
def shape (cs : List Char) : List Char := cs.map zeroed

theorem zeroed_of_isDigit {c : Char} (digit : c.isDigit = true) : zeroed c = '0' := if_pos digit

theorem zeroed_of_not_isDigit {c : Char} (noDigit : c.isDigit = false) : zeroed c = c :=
  if_neg (by simp [noDigit])

@[simp] theorem isDigit_zeroed (c : Char) : (zeroed c).isDigit = c.isDigit := by
  cases digit : c.isDigit with
  | false => rw [zeroed_of_not_isDigit digit, digit]
  | true => rw [zeroed_of_isDigit digit, Char.isDigit_iff_toNat.mpr ⟨by decide, by decide⟩]

@[simp] theorem isBlank_zeroed (c : Char) : isBlank (zeroed c) = isBlank c := by
  cases digit : c.isDigit with
  | false => rw [zeroed_of_not_isDigit digit]
  | true => rw [isBlank_of_isDigit digit, isBlank_of_isDigit (by rw [isDigit_zeroed, digit])]

@[simp] theorem isDecimalDigit_zeroed (c : Char) : isDecimalDigit (zeroed c) = isDecimalDigit c := by
  cases digit : c.isDigit with
  | false => rw [zeroed_of_not_isDigit digit]
  | true =>
    rw [isDecimalDigit_of_isDigit digit, isDecimalDigit_of_isDigit (by rw [isDigit_zeroed, digit])]

/-- A sign that is no digit stands in a shape where it stands in the text. -/
theorem zeroed_eq_iff {c sign : Char} (noDigit : sign.isDigit = false) : zeroed c = sign ↔ c = sign := by
  cases digit : c.isDigit with
  | false => rw [zeroed_of_not_isDigit digit]
  | true =>
    rw [zeroed_of_isDigit digit]
    constructor <;> rintro rfl
    · cases noDigit
    · cases noDigit.symm.trans digit

@[simp] theorem shape_append (cs ds : List Char) : shape (cs ++ ds) = shape cs ++ shape ds :=
  List.map_append

theorem shape_of_digits {cs : List Char} (digits : ∀ c ∈ cs, c.isDigit = true) :
    shape cs = List.replicate cs.length '0' :=
  List.eq_replicate_iff.mpr ⟨List.length_map _, by
    intro c member
    obtain ⟨d, inside, rfl⟩ := List.mem_map.mp member
    exact zeroed_of_isDigit (digits d inside)⟩

theorem trimLeft_shape (cs : List Char) : trimLeft (shape cs) = shape (trimLeft cs) := by
  have same : isBlank ∘ zeroed = isBlank := funext isBlank_zeroed
  rw [trimLeft, shape, List.dropWhile_map, same]
  rfl

/-- The zeros in the shape of digits denote zero. -/
theorem natOfDigits?_shape {cs : List Char} (digits : ∀ c ∈ cs, c.isDigit = true) :
    natOfDigits? (shape cs) = (natOfDigits? cs).map fun _ => 0 := by
  rcases List.eq_nil_or_concat cs with rfl | ⟨front, last, rfl⟩
  · rfl
  · rw [natOfDigits?_eq (by simp) digits, shape_of_digits digits,
      natOfDigits?_eq (by simp) (fun c member => by rw [(List.mem_replicate.mp member).2]; rfl)]
    simp

end Text

open Text (shape zeroed)

namespace Layout

/-! ### Readers -/

/-- What a reader of a number takes of a shape. -/
theorem number?_shape (least : Nat) (most : Option Nat) (cs : List Char) :
    number? least most (shape cs) = (number? least most cs).map fun read => (0, shape read.2) := by
  have same : Char.isDigit ∘ zeroed = Char.isDigit := funext Text.isDigit_zeroed
  have run : (shape cs).takeWhile Char.isDigit = shape (cs.takeWhile Char.isDigit) := by
    rw [shape, List.takeWhile_map, same]
    rfl
  have taken : ∀ {front : List Char}, front <+: cs.takeWhile Char.isDigit →
      (if (shape front).length < least then none
        else (Text.natOfDigits? (shape front)).map (·, (shape cs).drop (shape front).length)) =
      (if front.length < least then none
        else (Text.natOfDigits? front).map (·, cs.drop front.length)).map fun read => (0, shape read.2) := by
    intro front inside
    have digits : ∀ c ∈ front, c.isDigit = true := fun c member =>
      List.all_eq_true.mp List.all_takeWhile c (inside.subset member)
    rw [Text.natOfDigits?_shape digits, shape, List.length_map]
    split
    · rfl
    · rw [Option.map_map, Option.map_map, shape, ← List.map_drop]
      rfl
  cases most with
  | none => simpa only [number?, run] using taken (List.prefix_refl _)
  | some width =>
    simp only [number?, run]
    rw [shape, ← List.map_take]
    exact taken (List.take_prefix _ _)

theorem two?_shape (cs : List Char) :
    two? (shape cs) = (two? cs).map fun read => (0, shape read.2) := by
  rw [two?, Text.trimLeft_shape, number?_shape, two?]

/-- No sign but a sign reads as one in the shape. -/
theorem shape_cons_of_sign {sign : Char} (cs : List Char) (noDigit : sign.isDigit = false) :
    shape (sign :: cs) = sign :: shape cs := by
  rw [shape, List.map_cons, Text.zeroed_of_not_isDigit noDigit]
  rfl

theorem year?_shape (cs : List Char) :
    year? (shape cs) = (year? cs).map fun read => (0, shape read.2) := by
  have signed : ∀ {most : Option Nat} (rest : List Char) (worth : Nat → Int), worth 0 = 0 →
      (number? 1 most (shape rest)).map (fun read => (worth read.1, read.2)) =
        ((number? 1 most rest).map fun read => (worth read.1, read.2)).map fun read => (0, shape read.2) := by
    intro most rest worth zero
    rw [number?_shape, Option.map_map, Option.map_map]
    congr 1
    funext read
    exact congrArg (·, shape read.2) zero
  cases cs with
  | nil => rfl
  | cons c rest =>
    by_cases minus : c = '-'
    · subst minus
      exact signed rest (fun n => -(n : Int)) rfl
    · by_cases plus : c = '+'
      · subst plus
        exact signed rest (fun n => (n : Int)) rfl
      · have minus' := mt (Text.zeroed_eq_iff (by decide)).mp minus
        have plus' := mt (Text.zeroed_eq_iff (by decide)).mp plus
        rw [year?_of_unsigned rest minus plus]
        exact (year?_of_unsigned (shape rest) minus' plus').trans (signed (c :: rest) (fun n => (n : Int)) rfl)

theorem afterFraction?_shape (cs : List Char) :
    afterFraction? (shape cs) = (afterFraction? cs).map shape := by
  have same : Char.isDigit ∘ zeroed = Char.isDigit := funext Text.isDigit_zeroed
  cases cs with
  | nil => rfl
  | cons c rest =>
    by_cases point : c = '.'
    · subst point
      show (if ((shape rest).takeWhile Char.isDigit).isEmpty then none
        else some ((shape rest).dropWhile Char.isDigit)) = Option.map shape
          (if (rest.takeWhile Char.isDigit).isEmpty then none else some (rest.dropWhile Char.isDigit))
      rw [shape, List.takeWhile_map, List.dropWhile_map, same, List.isEmpty_map]
      split <;> rfl
    · have point' := mt (Text.zeroed_eq_iff (by decide)).mp point
      have pass : ∀ {c : Char} (rest : List Char), c ≠ '.' → afterFraction? (c :: rest) = some (c :: rest) := by
        intro c rest noPoint
        unfold afterFraction?
        split
        · next same => cases same; exact absurd rfl noPoint
        · rfl
      rw [pass rest point]
      exact pass (shape rest) point'

/-! ### Runs -/

/-- Whether a part of a layout is a sign of its own that is a digit. -/
def isDigitSign : LayoutItem → Bool
  | .sign c => c.isDigit
  | _ => false

/-- **What a part of a layout takes of a shape**, and whether it takes any. -/
theorem step?_shape {item : LayoutItem} (parts : DateParts) (cs : List Char)
    (noDigit : isDigitSign item = false) :
    step? item {} (shape cs) = (step? item parts cs).map fun read => ({}, shape read.2) := by
  cases item with
  | year =>
    simp only [step?, Text.trimLeft_shape, year?_shape, Option.map_map]
    rfl
  | month | day | hour | minute | second =>
    simp only [step?, two?_shape, Option.map_map]
    rfl
  | fraction =>
    simp only [step?, afterFraction?_shape, Option.map_map]
    rfl
  | space =>
    simp only [step?, Text.trimLeft_shape]
    rfl
  | sign c =>
    cases cs with
    | nil => rfl
    | cons d rest =>
      have same : c = zeroed d ↔ c = d := by rw [eq_comm, Text.zeroed_eq_iff noDigit, eq_comm]
      show (if c = zeroed d then some (({} : DateParts), shape rest) else none) =
        Option.map _ (if c = d then _ else none)
      by_cases found : c = d
      · rw [if_pos found, if_pos (same.mpr found)]
        rfl
      · rw [if_neg found, if_neg (mt same.mp found)]
        rfl

/-- **A layout reads a text if it reads the shape of it.** -/
theorem partsFrom?_shape {layout : Layout} (parts : DateParts) (cs : List Char)
    (noDigit : ∀ item ∈ layout, isDigitSign item = false) :
    partsFrom? layout {} (shape cs) = (partsFrom? layout parts cs).map fun _ => {} := by
  -- by induction on the layout; the numbers that are read are of no use to what is read next
  induction layout generalizing parts cs with
  | nil => cases cs <;> rfl
  | cons item layout ih =>
    have others := fun item member => noDigit item (List.mem_cons_of_mem _ member)
    simp only [partsFrom?, step?_shape parts cs (noDigit item List.mem_cons_self)]
    cases step? item parts cs with
    | none => rfl
    | some read => exact ih read.1 read.2 others

end Layout

/-! ### Bare dates -/

namespace Moment

theorem afterDigits?_shape (least most : Nat) (cs : List Char) :
    afterDigits? least most (shape cs) = (afterDigits? least most cs).map shape := by
  have same : Text.isDecimalDigit ∘ zeroed = Text.isDecimalDigit := funext Text.isDecimalDigit_zeroed
  simp only [afterDigits?, shape, List.takeWhile_map, List.dropWhile_map, same, List.length_map]
  split <;> rfl

theorem afterSeparator?_shape (cs : List Char) :
    afterSeparator? (shape cs) = (afterSeparator? cs).map shape := by
  cases cs with
  | nil => rfl
  | cons c rest =>
    by_cases mark : c = '-' ∨ c = '.'
    · rcases mark with rfl | rfl <;> rfl
    · have none : ∀ {c : Char} (rest : List Char), ¬(c = '-' ∨ c = '.') → afterSeparator? (c :: rest) = none := by
        intro c rest noMark
        unfold afterSeparator?
        split
        · next same => cases same; exact absurd (.inl rfl) noMark
        · next same => cases same; exact absurd (.inr rfl) noMark
        · rfl
      have mark' : ¬(zeroed c = '-' ∨ zeroed c = '.') := by
        rwa [Text.zeroed_eq_iff (by decide), Text.zeroed_eq_iff (by decide)]
      rw [none rest mark]
      exact none (shape rest) mark'

/-- **Bare dates are told by their shape.** -/
theorem isBareDate_shape (cs : List Char) : isBareDate (shape cs) = isBareDate cs := by
  have next : ∀ {reader : List Char → Option (List Char)} {found : Option (List Char)},
      (∀ cs, reader (shape cs) = (reader cs).map shape) →
      (found.map shape).bind reader = (found.bind reader).map shape := by
    intro reader found commutes
    cases found with
    | none => rfl
    | some rest => exact commutes rest
  have done : ∀ found : Option (List Char), (found.map shape = some []) = (found = some []) := by
    intro found
    rw [Option.map_eq_some_iff]
    simp [shape]
  simp only [isBareDate, Option.bind_eq_bind, afterDigits?_shape 2 4 cs, next afterSeparator?_shape,
    next (afterDigits?_shape 2 2), next (afterDigits?_shape 2 4), done]

end Moment

/-! ### Signs, and the ends of a text -/

namespace Text

/-- **The signs of a text**: the number of its characters that are neither digits nor points. -/
def marks (cs : List Char) : Nat := cs.countP fun c => !c.isDigit && c ≠ '.'

theorem marks_append (front back : List Char) : marks (front ++ back) = marks front + marks back :=
  List.countP_append

theorem marks_cons {c : Char} (rest : List Char) (mark : c.isDigit = false) (noPoint : c ≠ '.') :
    marks (c :: rest) = marks rest + 1 :=
  List.countP_cons_of_pos (by simp [mark, noPoint])

theorem marks_le_of_suffix {cs rest : List Char} (suffix : rest <:+ cs) : marks rest ≤ marks cs :=
  suffix.sublist.countP_le

theorem marks_shape (cs : List Char) : marks (shape cs) = marks cs := by
  rw [marks, shape, List.countP_map]
  refine List.countP_congr fun c _ => ?_
  simp [zeroed_eq_iff (show ('.' : Char).isDigit = false from rfl)]

/-- **Whether a text begins with two digits and no blank behind them**, and does not end in a blank. -/
def isTight (cs : List Char) : Bool :=
  match cs with
  | a :: b :: c :: _ => a.isDigit && b.isDigit && !isBlank c && !cs.getLast?.any isBlank
  | _ => false

theorem isTight_shape (cs : List Char) : isTight (shape cs) = isTight cs := by
  match cs with
  | [] | [_] | [_, _] => rfl
  | a :: b :: c :: rest =>
    have last : (shape (a :: b :: c :: rest)).getLast?.any isBlank =
        (a :: b :: c :: rest).getLast?.any isBlank := by
      rw [shape, List.getLast?_map, Option.any_map]
      congr 1
      exact funext isBlank_zeroed
    show (_ && _ && _ && !(shape (a :: b :: c :: rest)).getLast?.any isBlank) = _
    rw [last, isDigit_zeroed, isDigit_zeroed, isBlank_zeroed]
    rfl

theorem isTight_iff {cs : List Char} : isTight cs = true ↔ (∃ a b c rest, cs = a :: b :: c :: rest ∧
    a.isDigit = true ∧ b.isDigit = true ∧ isBlank c = false) ∧ ∀ c ∈ cs.getLast?, isBlank c = false := by
  match cs with
  | [] | [_] | [_, _] => simp [isTight]
  | a :: b :: c :: rest =>
    rw [isTight]
    cases (a :: b :: c :: rest).getLast? <;> simp [and_assoc]

/-- A tight text remains one with more behind it that has no blank. -/
theorem isTight_append {front back : List Char} (tight : isTight front = true)
    (dark : ∀ c ∈ back, isBlank c = false) : isTight (front ++ back) = true := by
  obtain ⟨⟨a, b, c, rest, rfl, begins⟩, last⟩ := isTight_iff.mp tight
  refine isTight_iff.mpr ⟨⟨a, b, c, rest ++ back, rfl, begins⟩, fun d ends => ?_⟩
  rw [List.getLast?_append] at ends
  rcases Option.or_eq_some_iff.mp ends with behind | ⟨-, before⟩
  · exact dark d (List.mem_of_mem_getLast? behind)
  · exact last d before

theorem trim_of_isTight {cs : List Char} (tight : isTight cs = true) : trim cs = cs := by
  obtain ⟨⟨a, b, c, rest, rfl, digit, -⟩, last⟩ := isTight_iff.mp tight
  have first : ∀ d ∈ (a :: b :: c :: rest).head?, isBlank d = false := by
    rintro d ⟨⟩
    exact isBlank_of_isDigit digit
  have trimmed : trim ([] ++ (a :: b :: c :: rest) ++ []) = a :: b :: c :: rest :=
    trim_append nofun nofun (List.cons_ne_nil _ _) first last
  rwa [List.append_nil] at trimmed

end Text

theorem Layout.separators_shape (cs : List Char) : separators (shape cs) = separators cs := by
  rw [separators, shape, List.countP_map]
  refine List.countP_congr fun c _ => ?_
  simp

end CatalogSearch
