/-
**When a contained part is found.**

The value of a `%` condition is put between two stars as it stands, so the characters that a pattern gives a
meaning of its own keep that meaning. A value without such characters is found exactly where it is contained,
and any other value finds a text that does not contain it or misses one that does.

* `Glyph`, `Glyph.read` — what the characters of a pattern ask for, a backslash taking the meaning of the
  next one away;
* `Glyph.Matches` — the texts that satisfy what is asked, from end to end;
* `Glyph.sample` — a text that satisfies it, with nothing for a star;
* `Glyph.matches_around_iff` — a pattern between stars, if its characters mean themselves;
* `Glyph.eq_of_infix_sample`, `Glyph.plain_of_sample` — a needle is part of the sample of its own pattern
  only if its characters mean themselves;
* `FilterCompiler.finds_parts_iff` — so the query is true to the part only then.
-/

import CatalogSearch.Proofs.Filter.OneCondition
import Mathlib.Data.List.Infix

namespace CatalogSearch

/-- What one place of a pattern asks for. -/
inductive Glyph where
  /-- Any run of characters. -/
  | run
  | one
  | exactly (c : Char)
deriving DecidableEq, Repr

namespace Glyph

def ofChar (c : Char) : Glyph := if c = '*' then run else if c = '?' then one else exactly c

/-- The places of a pattern. A backslash stands for the character behind it, or for itself at the end. -/
def read : List Char → List Glyph
  | [] => []
  | [c] => [ofChar c]
  | c :: d :: rest => if c = '\\' then exactly d :: read rest else ofChar c :: read (d :: rest)

/-- The text satisfies the places one after another, and nothing is left of it. -/
def Matches : List Glyph → List Char → Prop
  | [], s => s = []
  | run :: places, s => ∃ rest ∈ s.tails, Matches places rest
  | one :: places, s => ∃ rest ∈ s.tail?, Matches places rest
  | exactly c :: places, s => s.head? = some c ∧ Matches places s.tail

instance decidableMatches : (places : List Glyph) → (s : List Char) → Decidable (Matches places s)
  | [], s => inferInstanceAs (Decidable (s = []))
  | run :: places, s =>
    haveI := decidableMatches places
    inferInstanceAs (Decidable (∃ rest ∈ s.tails, Matches places rest))
  | one :: places, s =>
    haveI := decidableMatches places
    inferInstanceAs (Decidable (∃ rest ∈ s.tail?, Matches places rest))
  | exactly c :: places, s =>
    haveI := decidableMatches places
    inferInstanceAs (Decidable (s.head? = some c ∧ Matches places s.tail))

/-- The stored text, as a whole, is one that the pattern describes. -/
def Describes (pattern stored : String) : Prop := Matches (read pattern.toList) stored.toList

instance (pattern stored : String) : Decidable (Describes pattern stored) :=
  inferInstanceAs (Decidable (Matches _ _))

/-- The character has no meaning of its own in a pattern. -/
def IsPlain (c : Char) : Prop := c ≠ '*' ∧ c ≠ '?' ∧ c ≠ '\\'

variable {places : List Glyph} {n s : List Char} {c d : Char}

@[simp] theorem matches_run_cons :
    Matches (run :: places) s ↔ ∃ rest, rest <:+ s ∧ Matches places rest := by
  simp only [Matches, List.mem_tails]

@[simp] theorem matches_one_cons : Matches (one :: places) (c :: s) ↔ Matches places s := by
  simp [Matches]

@[simp] theorem matches_exactly_cons :
    Matches (exactly c :: places) s ↔ ∃ rest, s = c :: rest ∧ Matches places rest := by
  cases s <;> simp [Matches]

theorem matches_run : Matches [run] s :=
  matches_run_cons.mpr ⟨[], List.nil_suffix, rfl⟩

theorem ofChar_of_isPlain (plain : IsPlain c) : ofChar c = exactly c := by
  rw [ofChar, if_neg plain.1, if_neg plain.2.1]

/-! ### Reading a pattern -/

theorem read_cons (other : c ≠ '\\') (tail : List Char) : read (c :: tail) = ofChar c :: read tail := by
  cases tail with
  | nil => rfl
  | cons d rest => rw [read, if_neg other]

theorem read_backslash (d : Char) (rest : List Char) :
    read ('\\' :: d :: rest) = exactly d :: read rest := by
  rw [read, if_pos rfl]

/-- Without a backslash the characters are read one by one. -/
theorem read_append (free : '\\' ∉ n) (tail : List Char) : read (n ++ tail) = n.map ofChar ++ read tail := by
  induction n with
  | nil => rfl
  | cons c rest ih =>
    obtain ⟨other, free⟩ := not_or.mp (mt List.mem_cons.mpr free)
    rw [List.cons_append, read_cons (Ne.symm other), ih free]
    rfl

/-! ### A needle between stars -/

/-- **Characters without meaning are matched by themselves.** -/
theorem matches_map_exactly :
    Matches (n.map exactly ++ places) s ↔ ∃ rest, s = n ++ rest ∧ Matches places rest := by
  induction n generalizing s with
  | nil => simp
  | cons c n ih =>
    rw [List.map_cons, List.cons_append, matches_exactly_cons]
    constructor
    · rintro ⟨t, rfl, matched⟩
      obtain ⟨rest, rfl, behind⟩ := ih.mp matched
      exact ⟨rest, rfl, behind⟩
    · rintro ⟨rest, rfl, matched⟩
      have behind : Matches (n.map exactly ++ places) (n ++ rest) := ih.mpr ⟨rest, rfl, matched⟩
      exact ⟨n ++ rest, rfl, behind⟩

/-- Any characters but a backslash match themselves, whatever else they may match. -/
theorem matches_map_ofChar (matched : Matches places s) : Matches (n.map ofChar ++ places) (n ++ s) := by
  induction n with
  | nil => exact matched
  | cons c n ih =>
    show Matches (ofChar c :: (n.map ofChar ++ places)) (c :: (n ++ s))
    unfold ofChar
    split
    · exact matches_run_cons.mpr ⟨n ++ s, List.suffix_cons c _, ih⟩
    · split
      · exact matches_one_cons.mpr ih
      · exact matches_exactly_cons.mpr ⟨n ++ s, rfl, ih⟩

/-- The pattern that has the needle between stars. -/
def around (n : List Char) : List Glyph := read ('*' :: (n ++ ['*']))

theorem around_eq (n : List Char) : around n = run :: read (n ++ ['*']) := read_cons (by decide) _

/-- **Between stars, characters without meaning are found where they are contained.** -/
theorem matches_around_iff (plain : ∀ c ∈ n, IsPlain c) : Matches (around n) s ↔ n <:+: s := by
  have free : '\\' ∉ n := fun inside => (plain _ inside).2.2 rfl
  have exact : n.map ofChar = n.map exactly := List.map_congr_left fun c inside =>
    ofChar_of_isPlain (plain c inside)
  rw [around_eq, read_append free, exact, matches_run_cons, List.infix_iff_prefix_suffix]
  constructor
  · rintro ⟨rest, ends, matched⟩
    obtain ⟨behind, rfl, -⟩ := matches_map_exactly.mp matched
    exact ⟨n ++ behind, List.prefix_append n behind, ends⟩
  · rintro ⟨rest, ⟨behind, rfl⟩, ends⟩
    exact ⟨n ++ behind, ends, matches_map_exactly.mpr ⟨behind, rfl, matches_run⟩⟩

/-- Between stars, a needle without a backslash is found wherever it is contained. -/
theorem matches_around_of_infix (free : '\\' ∉ n) (inside : n <:+: s) : Matches (around n) s := by
  obtain ⟨front, back, rfl⟩ := inside
  rw [around_eq, read_append free, matches_run_cons]
  refine ⟨n ++ back, ⟨front, by simp⟩, matches_map_ofChar matches_run⟩

/-! ### The sample of a pattern -/

/-- A text that satisfies the places: nothing for a run, and some character for any one. -/
def sample : List Glyph → List Char
  | [] => []
  | run :: places => sample places
  | one :: places => '_' :: sample places
  | exactly c :: places => c :: sample places

theorem matches_sample (places : List Glyph) : Matches places (sample places) := by
  induction places with
  | nil => rfl
  | cons place places ih =>
    cases place with
    | run => exact matches_run_cons.mpr ⟨sample places, List.suffix_refl _, ih⟩
    | one => exact matches_one_cons.mpr ih
    | exactly c => exact matches_exactly_cons.mpr ⟨sample places, rfl, ih⟩

theorem length_sample_ofChar (c : Char) (places : List Glyph) :
    (sample (ofChar c :: places)).length ≤ (sample places).length + 1 := by
  unfold ofChar
  split
  · exact Nat.le_succ _
  · split <;> exact Nat.le_refl _

/-- The sample is no longer than the needle: the star behind it adds nothing, and a backslash takes a
character away. -/
theorem length_sample_le : ∀ n : List Char, (sample (read (n ++ ['*']))).length ≤ n.length
  | [] => Nat.le_refl _
  | [c] => by
    by_cases escaped : c = '\\'
    · subst escaped
      exact Nat.le_refl _
    · rw [List.cons_append, read_cons escaped]
      exact length_sample_ofChar c _
  | c :: d :: rest => by
    by_cases escaped : c = '\\'
    · -- of the two only the second one is left, whatever it is
      subst escaped
      have shorter := length_sample_le rest
      show (sample (read ('\\' :: d :: (rest ++ ['*'])))).length ≤ rest.length + 1 + 1
      rw [read_backslash]
      show (sample (read (rest ++ ['*']))).length + 1 ≤ rest.length + 1 + 1
      omega
    · have shorter := length_sample_le (d :: rest)
      rw [List.cons_append, read_cons escaped]
      exact (length_sample_ofChar c _).trans (Nat.succ_le_succ shorter)

/-- **A needle that is its own sample has no characters with a meaning.** Each of them would be missing from
the sample, or be another one there. -/
theorem plain_of_sample (same : sample (read (n ++ ['*'])) = n) : ∀ c ∈ n, IsPlain c := by
  induction n with
  | nil => exact List.forall_mem_nil _
  | cons c rest ih =>
    by_cases escaped : c = '\\'
    · -- at the end it takes the meaning of the star behind the needle, and before that the sample is shorter
      exfalso
      subst escaped
      cases rest with
      | nil => exact absurd same (by decide)
      | cons d rest =>
        have length := congrArg List.length same
        have shorter := length_sample_le rest
        rw [List.cons_append, List.cons_append, read_backslash] at length
        simp only [sample, List.length_cons] at length
        omega
    · rw [List.cons_append, read_cons escaped] at same
      by_cases star : c = '*'
      · -- nothing stands for it in the sample, which is shorter then
        have length := congrArg List.length same
        have shorter := length_sample_le rest
        rw [star] at length
        simp only [ofChar, if_pos, sample, List.length_cons] at length
        omega
      by_cases mark : c = '?'
      · -- the sample has another character there
        rw [mark] at same
        cases same
      rw [ofChar, if_neg star, if_neg mark] at same
      exact List.forall_mem_cons.mpr ⟨⟨star, mark, escaped⟩, ih (List.cons.inj same).2⟩

/-- **The pattern is true to the needle only if no character of it has a meaning**: the sample is found. -/
theorem plain_of_matches_around (faithful : ∀ s, Matches (around n) s → n <:+: s) :
    ∀ c ∈ n, IsPlain c := by
  have found : Matches (around n) (sample (read (n ++ ['*']))) := by
    rw [around_eq]
    exact matches_sample (run :: read (n ++ ['*']))
  have part := faithful _ found
  exact plain_of_sample (part.eq_of_length_le (length_sample_le n)).symm

theorem read_around (needle : String) : read ("*" ++ needle ++ "*").toList = around needle.toList := by
  simp [around, String.toList_append]

end Glyph

namespace FilterCompiler

variable {compiler : FilterCompiler} {schema : Schema} {key field : String} {property : Property}

/-- **The query finds the texts that contain the needle just if no character of it has a meaning in
patterns.** Without a backslash it finds at least those. -/
theorem finds_parts_iff (asks : compiler.Asks schema key .contains field property)
    (texts : property.kind = .keyword ∨ property.kind = .text) (needle : String) :
    ∃ pattern, compiler.compile schema [(key, .string needle)] =
        .done (.bool [.onPattern field pattern] [] []) ∧
      ((∀ stored : String, Glyph.Describes pattern stored ↔ needle.toList <:+: stored.toList) ↔
        ∀ c ∈ needle.toList, c ≠ '*' ∧ c ≠ '?' ∧ c ≠ '\\') ∧
      ('\\' ∉ needle.toList → ∀ stored : String, needle.toList <:+: stored.toList →
        Glyph.Describes pattern stored) := by
  have normalized : property.normalize (.string needle) = .ok (.string needle) := by
    unfold Property.normalize
    rw [if_neg (by simp [asks.isAlias_eq_false])]
    rcases texts with kind | kind <;> rw [kind] <;> rfl
  refine ⟨"*" ++ needle ++ "*", asks.compile_eq rfl normalized rfl, ?_, ?_⟩
  · simp only [Glyph.Describes, Glyph.read_around]
    constructor
    · intro faithful
      refine Glyph.plain_of_matches_around fun s matched => ?_
      have stored := (faithful (String.ofList s)).mp
      rw [String.toList_ofList] at stored
      exact stored matched
    · intro plain stored
      exact Glyph.matches_around_iff plain
  · intro free stored inside
    rw [Glyph.Describes, Glyph.read_around]
    exact Glyph.matches_around_of_infix free inside

/-- A needle of characters without meaning, one of which is the sign of the operator. -/
theorem finds_parts_percent :
    ∃ pattern, compile {} ⟨[("NAME", .ofKind .keyword)], by decide⟩ [("%NAME", .string "50% (net)")] =
        .done (.bool [.onPattern "NAME" pattern] [] []) ∧
      ∀ stored : String, Glyph.Describes pattern stored ↔ "50% (net)".toList <:+: stored.toList := by
  have percent : "%NAME" = Operator.contains.symbol ++ "NAME" := by decide
  have asks : Asks {} ⟨[("NAME", .ofKind .keyword)], by decide⟩ "%NAME" .contains "NAME"
      (.ofKind .keyword) :=
    asks_of_name percent (by decide) (List.all_eq_true.mp rfl) (by rintro _ ⟨⟩; decide) rfl rfl
  obtain ⟨pattern, compiled, exact, -⟩ := finds_parts_iff asks (.inl rfl) "50% (net)"
  have plain : "50% (net)".toList.all (fun c => c ≠ '*' ∧ c ≠ '?' ∧ c ≠ '\\') = true := by decide
  exact ⟨pattern, compiled, exact.mpr fun c inside => of_decide_eq_true (List.all_eq_true.mp plain c inside)⟩

/-- **A needle need not be found as a part**: a star asks for nothing, and so the empty text is found. -/
theorem not_finds_parts :
    ¬ ∀ (compiler : FilterCompiler) (schema : Schema) (key field : String) (property : Property),
      compiler.Asks schema key .contains field property →
      property.kind = .keyword ∨ property.kind = .text →
        ∀ needle : String, ∃ pattern, compiler.compile schema [(key, .string needle)] =
            .done (.bool [.onPattern field pattern] [] []) ∧
          ∀ stored : String, Glyph.Describes pattern stored ↔ needle.toList <:+: stored.toList := by
  intro faithful
  let schema : Schema := ⟨[("NAME", .ofKind .keyword)], by decide⟩
  have percent : "%NAME" = Operator.contains.symbol ++ "NAME" := by decide
  have asks : Asks {} schema "%NAME" .contains "NAME" (.ofKind .keyword) :=
    asks_of_name percent (by decide) (List.all_eq_true.mp rfl) (by rintro _ ⟨⟩; decide) rfl rfl
  obtain ⟨pattern, compiled, exact⟩ := faithful {} schema "%NAME" "NAME" _ asks (.inl rfl) "*"
  have stars : compile {} schema [("%NAME", .string "*")] =
      .done (.bool [.onPattern "NAME" "***"] [] []) := rfl
  have same : pattern = "***" := by
    cases stars.symm.trans compiled
    rfl
  have found : Glyph.Describes "***" "" := by decide
  have part := (exact "").mp (same ▸ found)
  exact absurd part (by decide)

/-- A backslash makes a text be missed that contains it. -/
example : ¬ Glyph.Describes "*\\*" "\\" := by decide

end FilterCompiler
end CatalogSearch
