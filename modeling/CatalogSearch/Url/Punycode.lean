/-
**Punycode.**

* `Punycode.encode` — letters of any script as ASCII letters, digits and hyphens;
* `Punycode.decode?` — the letters that such a text stands for.
-/

namespace CatalogSearch.Punycode

/-- The digit of a value below 36: letters first, then digits. -/
def digit (n : Nat) : Char := Char.ofNat (if n < 26 then n + 'a'.toNat else n - 26 + '0'.toNat)

/-- The number of digits, times 36, by which a sum is reduced, and the reduced sum. -/
def reduce : Nat → Nat → Nat → Nat × Nat
  | 0, k, delta => (k, delta)
  | fuel + 1, k, delta => if 455 < delta then reduce fuel (k + 36) (delta / 35) else (k, delta)

/-- The bias after a code point is written. -/
def adapt (delta count : Nat) (first : Bool) : Nat :=
  let delta := if first then delta / 700 else delta / 2
  let (k, delta) := reduce delta 0 (delta + delta / count)
  k + 36 * delta / (delta + 38)

/-- A number in digits whose weights follow the bias; each step divides it by ten or more. -/
def varint (fuel bias k q : Nat) : List Char :=
  match fuel with
  | 0 => []
  | fuel + 1 =>
    let t := min 26 (max 1 (k - bias))
    if q < t then [digit q]
    else digit (t + (q - t) % (36 - t)) :: varint fuel bias (k + 36) ((q - t) / (36 - t))

/-- What has been written, and from where it goes on. -/
structure State where
  output : List Char
  /-- The distance from the code point written last. -/
  delta : Nat
  bias : Nat
  /-- How many characters of the input are written. -/
  handled : Nat

/-- Goes past one character of the input on the way to the code point `n`. -/
def step (basic n : Nat) (state : State) (c : Nat) : State :=
  if c < n then { state with delta := state.delta + 1 }
  else if c = n then
    { output := state.output ++ varint (state.delta + 1) state.bias 36 state.delta
      delta := 0
      bias := adapt state.delta (state.handled + 1) (state.handled = basic)
      handled := state.handled + 1 }
  else state

/-- Writes every place of the code points given in rising order, the last one written being below
`n`. -/
def run (input : List Nat) (basic n : Nat) (state : State) : List Nat → List Char
  | [] => state.output
  | next :: rest =>
    let state := { state with delta := state.delta + (next - n) * (state.handled + 1) }
    let state := input.foldl (step basic next) state
    run input basic (next + 1) { state with delta := state.delta + 1 } rest

/-- Characters as ASCII. -/
def encode (cs : List Char) : List Char :=
  let input := cs.map Char.toNat
  let plain := cs.filter (·.toNat < 0x80)
  let others := ((input.filter (0x80 ≤ ·)).mergeSort (· ≤ ·)).eraseDups
  let output := if plain.isEmpty then [] else plain ++ ['-']
  run input plain.length 0x80 ⟨output, 0, 72, plain.length⟩ others

/-- The value of a digit. -/
def digitValue? (c : Char) : Option Nat :=
  if c.isDigit then some (c.toNat - '0'.toNat + 26)
  else if c.isAlpha then some (c.toLower.toNat - 'a'.toNat)
  else none

/-- The number that the digits at the start denote, and what follows them; `k` and `weight` go with the
next digit. -/
def number? (bias k weight : Nat) : List Char → Option (Nat × List Char)
  | [] => none
  | c :: rest => do
    let d ← digitValue? c
    let t := min 26 (max 1 (k - bias))
    if d < t then return (d * weight, rest)
    else
      let (more, rest) ← number? bias (k + 36) (weight * (36 - t)) rest
      return (d * weight + more, rest)

/-- Puts the letters that digits stand for into a text. The latest letter was `n`, and `i` letters stand
up to it. -/
def place? (fuel n i bias : Nat) (done : List Char) (cs : List Char) : Option (List Char) :=
  match fuel, cs with
  | _, [] => some done
  | 0, _ => none
  | fuel + 1, cs => do
    let (delta, rest) ← number? bias 36 1 cs
    let size := done.length + 1
    let next := n + (i + delta) / size
    let before := (i + delta) % size
    if next.isValidChar then
      place? fuel next (before + 1) (adapt delta size (i = 0))
        (done.take before ++ Char.ofNat next :: done.drop before) rest
    else none

/-- The letters that a text stands for: those before its last hyphen, among which the digits behind it
put the others. -/
def decode? (cs : List Char) : Option (List Char) :=
  let digits := (cs.reverse.takeWhile (· ≠ '-')).reverse
  let plain := cs.take (cs.length - digits.length - 1)
  let digits := if plain.isEmpty then cs else digits
  place? digits.length 0x80 0 72 plain digits

end CatalogSearch.Punycode
