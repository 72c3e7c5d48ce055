/-
**Segments that are added to a URL.**

A segment is written so that nothing in it parts the path or is taken for the writing of a byte. It is one step of
the path, and is read back as it was given, unless it names a directory by dots, holds a tabulator or a line end, or
is taken for a drive. Every segment adds one step at most; so where as many steps are added as there are segments,
each stands where it was added.

* `Url.steps`, `Url.kept` — the steps of a path, and the segments that remain when others are added;
* `Url.written`, `Url.segmentText?` — a segment as it is written, and its reading; `Url.written_of_isDrive`;
* `Url.IsPlain`, `Url.Fits`, `Url.Takes` — the segments that are kept as they are, and the lists of them that a path
  and a URL take;
* `Url.Adds`, `Url.steps_push_cases` — what one segment adds; `Url.steps_foldl_push`, `steps_foldl_push_iff` — what
  a list of them does, and when each is read back; `Url.extend_iff` — the same for a URL;
* `Url.pathText_injective`, `Url.extend_injective` — steps without a slash are told apart in the written path, and
  so are segments that a URL takes;
* `Rest.Client.endpoint_takes_iff` — all of this, for the addresses of the service.
-/

import CatalogSearch.Proofs.Text.Digits
import CatalogSearch.Proofs.Url.Encoding
import CatalogSearch.Rest.Request

namespace CatalogSearch

namespace Url

/-! ### Steps -/

/-- The steps of a path; the root alone has none. -/
def steps (path : List String) : List String := if path = [""] then [] else path

/-- The segments of a path without an empty one at its end. -/
def kept (path : List String) : List String := if path.getLast? = some "" then path.dropLast else path

theorem steps_of_ne {path : List String} (other : path ≠ [""]) : steps path = path := if_neg other

theorem length_steps_le (path : List String) : (steps path).length ≤ path.length := by
  unfold steps
  split <;> simp

/-- An empty segment adds a step or none, and any other one adds itself. -/
theorem steps_append (path : List String) (segment : String) :
    steps (append path segment) = steps path ++ [segment] ∨
      segment = "" ∧ steps (append path segment) = steps path := by
  unfold append
  by_cases root : path = [""]
  · rw [if_pos root, root]
    by_cases given : segment = ""
    · exact .inr ⟨given, by rw [given]⟩
    · exact .inl (if_neg (by simpa using given))
  · rw [if_neg root, steps_of_ne root]
    by_cases lone : path ++ [segment] = [""]
    · obtain ⟨rfl, same⟩ := List.append_eq_singleton_iff.mp lone |>.resolve_right fun other =>
        List.cons_ne_nil _ _ other.2
      obtain rfl := List.singleton_inj.mp same
      exact .inr ⟨rfl, rfl⟩
    · exact .inl (steps_of_ne lone)

/-- Two dots add an empty step behind a drive, and none elsewhere. -/
theorem steps_above (path : List String) :
    steps (above path ++ [""]) = steps path ++ [""] ∨
      (steps (above path ++ [""])).length ≤ (steps path).length := by
  unfold above
  split
  · next drive =>
    have some_step : path ≠ [] := by rintro rfl; cases drive
    have other : path ≠ [""] := by rintro rfl; cases drive
    rw [steps_of_ne other, steps_of_ne fun lone => some_step (List.append_left_eq_self.mp lone)]
    exact .inl rfl
  · refine .inr ?_
    cases some_step : path.dropLast with
    | nil => exact Nat.zero_le _
    | cons first more =>
      have longer := congrArg List.length some_step
      rw [List.length_dropLast, List.length_cons] at longer
      have other : path ≠ [""] := by rintro rfl; cases some_step
      rw [steps_of_ne other, ← some_step]
      refine (length_steps_le _).trans ?_
      rw [List.length_append, List.length_dropLast, List.length_singleton]
      omega

/-! ### Segments as they are written -/

/-- A segment as it is written. -/
def written (scheme segment : String) : String :=
  String.ofList (Percent.encode (Percent.inSegment (isSpecial scheme)) segment.toList)

/-- The text that a segment as it is written stands for, if it stands for one. -/
def segmentText? (written : String) : Option String := Percent.text? (Percent.decode written.toList)

theorem segmentText?_written (scheme segment : String) : segmentText? (written scheme segment) = some segment := by
  rw [segmentText?, written, String.toList_ofList, Percent.text?_decode_encode (by simp [Percent.inSegment]),
    String.ofList_toList]

theorem written_ne_empty (scheme : String) {segment : String} (given : segment ≠ "") :
    written scheme segment ≠ "" := by
  intro same
  have whole := segmentText?_written scheme segment
  rw [same] at whole
  exact given (Option.some.inj whole).symm

theorem slash_not_mem_written (scheme segment : String) : '/' ∉ (written scheme segment).toList := by
  rw [written, String.toList_ofList]
  exact Percent.not_mem_encode (by simp [Percent.inSegment]) (by decide) (by decide) _

/-- A drive is a letter with a colon or a bar. -/
theorem isDrive_iff {segment : List Char} : isDrive segment = true ↔
    ∃ letter mark, segment = [letter, mark] ∧ letter.isAlpha = true ∧ (mark = ':' ∨ mark = '|') := by
  unfold isDrive
  split
  · next letter mark => simp
  · next other =>
    refine iff_of_false Bool.false_ne_true ?_
    rintro ⟨letter, mark, rfl, -⟩
    exact other letter mark rfl

/-- What has no percent sign stands for itself. -/
theorem segmentText?_of_not_mem {segment : String} (plain : '%' ∉ segment.toList) :
    segmentText? segment = some segment := by
  have bytes : ∀ cs : List Char, '%' ∉ cs → Percent.decode cs = cs.flatMap String.utf8EncodeChar := by
    intro cs absent
    induction cs with
    | nil => rfl
    | cons c rest ih =>
      obtain ⟨other, later⟩ := not_or.mp (mt List.mem_cons.mpr absent)
      rw [Percent.decode_cons (Ne.symm other), ih later, List.flatMap_cons]
  rw [segmentText?, bytes _ plain, Percent.text?_utf8, String.ofList_toList]

theorem percent_not_mem_drive {segment : List Char} (drive : isDrive segment = true) : '%' ∉ segment := by
  obtain ⟨letter, mark, rfl, alpha, rfl | rfl⟩ := isDrive_iff.mp drive
  all_goals
    intro inside
    rcases List.mem_cons.mp inside with rfl | other
    · cases alpha
    · cases List.mem_singleton.mp other

/-- **What is written as a drive** is one. -/
theorem written_of_isDrive {scheme segment : String} (drive : isDrive (written scheme segment).toList = true) :
    written scheme segment = segment := by
  have whole := segmentText?_of_not_mem (percent_not_mem_drive drive)
  rw [segmentText?_written] at whole
  exact (Option.some.inj whole).symm

/-- A letter is written as it is. -/
theorem encode_letter {c : Char} (alpha : c.isAlpha = true) (special : Bool) (rest : List Char) :
    Percent.encode (Percent.inSegment special) (c :: rest) =
      c :: Percent.encode (Percent.inSegment special) rest := by
  have bounds := Text.isAlpha_iff.mp alpha
  have ascii : ¬0x7F < c.toNat := by omega
  have plain : Percent.inSegment special c = false := by
    have low : ¬c.toNat < 0x20 := by omega
    have delete : c.toNat ≠ 0x7F := by omega
    have apart : ∀ d : Char, d.isAlpha = false → c ≠ d := by
      rintro d other rfl
      cases alpha.symm.trans other
    simp (disch := decide) [Percent.inSegment, Percent.inPath, Percent.inFragment, Percent.isControl, low,
      delete, apart]
  simp [Percent.encode, plain, ascii]

/-- A drive is written as it is. -/
theorem written_drive (scheme : String) {segment : String} (drive : isDrive segment.toList = true) :
    written scheme segment = segment := by
  obtain ⟨letter, mark, same, alpha, marked⟩ := isDrive_iff.mp drive
  have behind : Percent.encode (Percent.inSegment (isSpecial scheme)) [mark] = [mark] := by
    rcases marked with rfl | rfl <;> cases isSpecial scheme <;> rfl
  rw [written, same, encode_letter alpha, behind, ← same, String.ofList_toList]

/-! ### Segments that are kept as they are -/

/-- **A segment that is kept as it is**: it names no directory by dots, and has no tabulators and line ends. -/
structure IsPlain (segment : String) : Prop where
  named : segment ≠ "." ∧ segment ≠ ".."
  visible : ∀ c ∈ segment.toList, c ≠ '\t' ∧ c ≠ '\n' ∧ c ≠ '\r'

/-- A drive with a bar, for which a colon is written. -/
def IsBarred (segment : String) : Prop := ∃ letter : Char, letter.isAlpha = true ∧ segment.toList = [letter, '|']

/-- **The segments that fit behind a path as they are**: all of them are plain, and the first one behind the root of
a file is no drive with a bar. -/
structure Fits (scheme : String) (path segments : List String) : Prop where
  plain : ∀ segment ∈ segments, IsPlain segment
  /-- No such drive comes first. -/
  drive : scheme = "file" → path = [""] → ∀ segment, segments.head? = some segment → ¬IsBarred segment

theorem visible_eq_self_iff {segment : String} :
    visible segment = segment.toList ↔ ∀ c ∈ segment.toList, c ≠ '\t' ∧ c ≠ '\n' ∧ c ≠ '\r' := by
  simp [visible, List.filter_eq_self, and_assoc]

/-- What is written of a drive reads back as one with a colon. -/
theorem segmentText?_driveText {letter mark : Char} (alpha : letter.isAlpha = true)
    (marked : mark = ':' ∨ mark = '|') :
    segmentText? (String.ofList (driveText true [letter, mark])) = some (String.ofList [letter, ':']) := by
  have drive (mark : Char) (marked : mark = ':' ∨ mark = '|') : isDrive [letter, mark] = true :=
    isDrive_iff.mpr ⟨letter, mark, rfl, alpha, marked⟩
  have colon : driveText true [letter, mark] = [letter, ':'] := if_pos (drive mark marked)
  rw [colon]
  refine segmentText?_of_not_mem ?_
  rw [String.toList_ofList]
  exact percent_not_mem_drive (drive ':' (.inl rfl))

/-! ### One segment -/

/-- **The steps that a segment can add** behind a path: an empty one, where dots act, or the segment as it is written
without tabulators and line ends, with a colon if it is a drive. -/
inductive Adds (scheme : String) (path : List String) (segment : String) : String → Prop
  | empty : Adds scheme path segment ""
  | shown (named : segment ≠ "." ∧ segment ≠ "..") : Adds scheme path segment <| String.ofList <|
      driveText (scheme = "file" && path = [""]) (written scheme (String.ofList (visible segment))).toList

/-- **What one segment does**: it adds a step or none. -/
theorem steps_push_cases (scheme : String) (path : List String) (segment : String) :
    (steps (push scheme path segment)).length ≤ (steps path).length ∨
      ∃ step, steps (push scheme path segment) = steps path ++ [step] ∧ Adds scheme path segment step := by
  unfold push
  split
  · exact .inl le_rfl
  · next named =>
    rw [not_or] at named
    dsimp only
    split
    · rcases steps_append path "" with adds | ⟨-, same⟩
      · exact .inr ⟨"", adds, .empty⟩
      · exact .inl (by rw [same])
    · split
      · rcases steps_above path with adds | fewer
        · exact .inr ⟨"", adds, .empty⟩
        · exact .inl fewer
      · rcases steps_append path _ with adds | ⟨-, same⟩
        · refine .inr ⟨_, adds, ?_⟩
          have shown : Adds scheme path segment _ := .shown named
          simpa only [written, String.toList_ofList] using shown
        · exact .inl (by rw [same])

/-- A segment that fits is put behind the path as it is written. -/
theorem push_eq_append {scheme segment : String} {path : List String} (plain : IsPlain segment)
    (drive : scheme = "file" → path = [""] → ¬IsBarred segment) :
    push scheme path segment = append path (written scheme segment) := by
  have shown := visible_eq_self_iff.mpr plain.visible
  have undotted : segment.toList ≠ ['.'] ∧ segment.toList ≠ ['.', '.'] :=
    ⟨fun same => plain.named.1 (String.toList_inj.mp same), fun same => plain.named.2 (String.toList_inj.mp same)⟩
  have kept : driveText (scheme = "file" && path = [""]) (written scheme segment).toList =
      (written scheme segment).toList := by
    unfold driveText
    split
    · next first =>
      rw [Bool.and_eq_true, Bool.and_eq_true, decide_eq_true_iff, decide_eq_true_iff] at first
      obtain ⟨⟨file, root⟩, found⟩ := first
      have whole := written_of_isDrive found
      rw [whole] at found ⊢
      obtain ⟨letter, mark, same, alpha, rfl | rfl⟩ := isDrive_iff.mp found
      · rw [same]
        rfl
      · exact absurd ⟨letter, alpha, same⟩ (drive file root)
    · rfl
  rw [written, String.toList_ofList] at kept
  rw [push, if_neg (not_or.mpr plain.named), shown]
  simp only [if_neg undotted.1, if_neg undotted.2, kept]
  rfl

/-- **A step that reads back as the segment** was added as it was given. -/
theorem fits_of_reads {scheme segment step : String} {path : List String} (given : segment ≠ "")
    (adds : Adds scheme path segment step) (reads : segmentText? step = some segment) :
    IsPlain segment ∧ (scheme = "file" → path = [""] → ¬IsBarred segment) := by
  cases adds with
  | empty => exact absurd (Option.some.inj reads).symm given
  | shown named =>
    by_cases first : (scheme = "file" && path = [""] && isDrive (written scheme
      (String.ofList (visible segment))).toList) = true
    · obtain ⟨root, drive⟩ := Bool.and_eq_true_iff.mp first
      obtain ⟨letter, mark, same, alpha, marked⟩ := isDrive_iff.mp drive
      rw [same, root, segmentText?_driveText alpha marked] at reads
      obtain rfl := Option.some.inj reads
      refine ⟨⟨named, ?_⟩, fun _ _ => ?_⟩
      · rw [String.toList_ofList]
        intro c inside
        rcases List.mem_cons.mp inside with rfl | colon
        · refine ⟨?_, ?_, ?_⟩ <;> (rintro rfl; cases alpha)
        · obtain rfl := List.mem_singleton.mp colon
          decide
      · rintro ⟨other, -, barred⟩
        rw [String.toList_ofList] at barred
        cases barred
    · have kept : driveText (scheme = "file" && path = [""])
          (written scheme (String.ofList (visible segment))).toList =
          (written scheme (String.ofList (visible segment))).toList := if_neg first
      rw [kept, String.ofList_toList, segmentText?_written] at reads
      have whole : visible segment = segment.toList :=
        String.toList_ofList.symm.trans (congrArg String.toList (Option.some.inj reads))
      refine ⟨⟨named, visible_eq_self_iff.mp whole⟩, fun file root => ?_⟩
      rintro ⟨letter, alpha, barred⟩
      have drive : isDrive segment.toList = true := isDrive_iff.mpr ⟨letter, '|', barred, alpha, .inr rfl⟩
      rw [Option.some.inj reads, written_drive scheme drive] at first
      simp [file, root, drive] at first

/-! ### Many segments -/

theorem length_steps_foldl_push (scheme : String) (path segments : List String) :
    (steps (segments.foldl (push scheme) path)).length ≤ (steps path).length + segments.length := by
  induction segments generalizing path with
  | nil => exact le_rfl
  | cons segment rest ih =>
    have later := ih (push scheme path segment)
    rw [List.foldl_cons, List.length_cons]
    rcases steps_push_cases scheme path segment with fewer | ⟨step, adds, -⟩
    · omega
    · rw [adds, List.length_append, List.length_singleton] at later
      omega

/-- **Where as many steps are added as there are segments**, every segment adds one behind those that were there. -/
theorem exists_step_of_length {scheme segment : String} {path rest : List String}
    (whole : (steps ((segment :: rest).foldl (push scheme) path)).length =
      (steps path).length + (rest.length + 1)) :
    (∃ step, steps (push scheme path segment) = steps path ++ [step] ∧ Adds scheme path segment step) ∧
      (steps (rest.foldl (push scheme) (push scheme path segment))).length =
        (steps (push scheme path segment)).length + rest.length := by
  have later := length_steps_foldl_push scheme (push scheme path segment) rest
  rw [List.foldl_cons] at whole
  rcases steps_push_cases scheme path segment with fewer | ⟨step, adds, made⟩
  · omega
  · refine ⟨⟨step, adds, made⟩, ?_⟩
    rw [whole, adds, List.length_append, List.length_singleton]
    omega

theorem exists_added {scheme : String} {path segments : List String}
    (whole : (steps (segments.foldl (push scheme) path)).length = (steps path).length + segments.length) :
    ∃ added, steps (segments.foldl (push scheme) path) = steps path ++ added := by
  induction segments generalizing path with
  | nil => exact ⟨[], (List.append_nil _).symm⟩
  | cons segment rest ih =>
    obtain ⟨⟨step, adds, -⟩, later⟩ := exists_step_of_length whole
    obtain ⟨added, more⟩ := ih later
    exact ⟨step :: added, by rw [List.foldl_cons, more, adds, List.append_assoc, List.singleton_append]⟩

/-- **Segments that fit** are added one by one, as they are written. -/
theorem steps_foldl_push {scheme : String} {path segments : List String}
    (given : ∀ segment ∈ segments, segment ≠ "") (fits : Fits scheme path segments) :
    steps (segments.foldl (push scheme) path) = steps path ++ segments.map (written scheme) := by
  induction segments generalizing path with
  | nil => exact (List.append_nil _).symm
  | cons segment rest ih =>
    have adds := push_eq_append (fits.plain segment List.mem_cons_self) fun file root =>
      fits.drive file root segment rfl
    have behind : steps (push scheme path segment) = steps path ++ [written scheme segment] := by
      rw [adds]
      exact (steps_append path _).resolve_right fun empty =>
        written_ne_empty scheme (given segment List.mem_cons_self) empty.1
    have other : push scheme path segment ≠ [""] := by
      intro root
      rw [root] at behind
      exact List.append_ne_nil_of_right_ne_nil _ (List.cons_ne_nil _ _) behind.symm
    have later : Fits scheme (push scheme path segment) rest :=
      ⟨fun next inside => fits.plain next (List.mem_cons_of_mem _ inside), fun _ root => absurd root other⟩
    rw [List.foldl_cons, ih (fun next inside => given next (List.mem_cons_of_mem _ inside)) later, behind,
      List.map_cons, List.append_assoc, List.singleton_append]

/-- **Each of the steps that are added reads back as its segment** just if the segments fit. -/
theorem steps_foldl_push_iff {scheme : String} {path segments : List String}
    (given : ∀ segment ∈ segments, segment ≠ "") :
    (∃ added, steps (segments.foldl (push scheme) path) = steps path ++ added ∧
      added.map segmentText? = segments.map some) ↔ Fits scheme path segments := by
  constructor
  · rintro ⟨added, whole, reads⟩
    induction segments generalizing path added with
    | nil => exact ⟨fun _ inside => absurd inside List.not_mem_nil, fun _ _ _ first => nomatch first⟩
    | cons segment rest ih =>
      obtain ⟨first, more, rfl, read, others⟩ := List.map_eq_cons_iff.mp reads
      have count : more.length = rest.length := by simpa using congrArg List.length others
      have length := congrArg List.length whole
      rw [List.length_append, List.length_cons, count] at length
      obtain ⟨⟨step, adds, made⟩, later⟩ := exists_step_of_length length
      obtain ⟨behind, rest_added⟩ := exists_added later
      -- the step that the segment adds is the first one that is read
      have same := rest_added
      rw [adds, List.append_assoc, List.singleton_append, ← List.foldl_cons, whole,
        List.append_cancel_left_eq] at same
      obtain ⟨rfl, rfl⟩ := List.cons.inj same
      obtain ⟨plain, drive⟩ := fits_of_reads (given segment List.mem_cons_self) made read
      have tail := ih (fun next inside => given next (List.mem_cons_of_mem _ inside)) more rest_added others
      refine ⟨fun next inside => ?_, fun file root next head => ?_⟩
      · rcases List.mem_cons.mp inside with rfl | inside
        · exact plain
        · exact tail.plain next inside
      · cases head
        exact drive file root
  · intro fits
    refine ⟨_, steps_foldl_push given fits, ?_⟩
    rw [List.map_map]
    refine List.map_congr_left fun segment _ => ?_
    rw [Function.comp_apply, segmentText?_written]

/-! ### Written paths -/

theorem toList_pathText (path : List String) :
    (pathText path).toList = path.flatMap fun segment => '/' :: segment.toList := by
  rw [pathText, String.toList_join, List.flatMap_map]
  exact congrArg (path.flatMap ·) (funext fun _ => String.toList_append)

theorem pathText_append (front back : List String) :
    pathText (front ++ back) = pathText front ++ pathText back := by
  rw [pathText, List.map_append, String.join_append]
  rfl

/-- A segment without a slash ends where the path goes on. -/
theorem takeWhile_segment {segment : String} (single : '/' ∉ segment.toList) (rest : List String) :
    (segment.toList ++ (pathText rest).toList).takeWhile (· ≠ '/') = segment.toList := by
  have inner : ∀ c ∈ segment.toList, decide (c ≠ '/') = true := fun c inside =>
    decide_eq_true fun same => single (same ▸ inside)
  rw [List.takeWhile_append_of_pos inner, toList_pathText]
  cases rest with
  | nil => exact List.append_nil _
  | cons next others => exact List.append_nil _

/-- **Segments without a slash are told apart** in the path as it is written. -/
theorem pathText_injective {path other : List String} (single : ∀ segment ∈ path, '/' ∉ segment.toList)
    (alone : ∀ segment ∈ other, '/' ∉ segment.toList) (same : pathText path = pathText other) : path = other := by
  have chars := congrArg String.toList same
  rw [toList_pathText, toList_pathText] at chars
  clear same
  induction path generalizing other with
  | nil =>
    cases other with
    | nil => rfl
    | cons segment rest => cases chars
  | cons segment rest ih =>
    cases other with
    | nil => cases chars
    | cons first others =>
      rw [List.flatMap_cons, List.flatMap_cons, List.cons_append, List.cons_append, ← toList_pathText,
        ← toList_pathText] at chars
      have behind := (List.cons.inj chars).2
      have here : segment.toList = first.toList := by
        rw [← takeWhile_segment (single _ List.mem_cons_self) rest, behind,
          takeWhile_segment (alone _ List.mem_cons_self) others]
      rw [here, List.append_cancel_left_eq, toList_pathText, toList_pathText] at behind
      rw [String.toList_inj.mp here, ih (fun next inside => single next (List.mem_cons_of_mem _ inside))
        (fun next inside => alone next (List.mem_cons_of_mem _ inside)) behind]

/-! ### URLs -/

/-- **The segments that a URL takes as they are**: those that fit behind its path, unless this is two slashes, of
which one is lost. -/
structure Takes (url : Url) (segments : List String) : Prop where
  slashes : url.path ≠ ["", ""]
  fits : Fits url.scheme url.path segments

/-- The path behind which segments are added has the segments that are kept, and is the root if it was. -/
theorem steps_opened {path : List String} (slashes : path ≠ ["", ""]) :
    steps (opened path) = kept path ∧ (opened path = [""] ↔ path = [""]) := by
  unfold opened kept
  by_cases last : path.getLast? = some ""
  · obtain ⟨front, rfl⟩ := List.getLast?_eq_some_iff.mp last
    rw [if_pos last, List.dropLast_concat]
    cases front with
    | nil => exact ⟨rfl, iff_of_true rfl rfl⟩
    | cons first more =>
      have other : first :: more ≠ [""] := by
        intro same
        exact slashes (by rw [same]; rfl)
      rw [if_pos ⟨by simp, last⟩]
      exact ⟨steps_of_ne other, iff_of_false other (by simp)⟩
  · have other : path ≠ [""] := by
      rintro rfl
      exact last rfl
    rw [if_neg last, if_neg fun both => last both.2]
    exact ⟨steps_of_ne other, Iff.rfl⟩

/-- **Behind the segments that a URL keeps there is one step for each segment, which reads back as it**, just if the
URL takes the segments as they are. -/
theorem extend_iff {url : Url} {segments : List String} (given : ∀ segment ∈ segments, segment ≠ "") :
    (∃ added, steps (url.extend segments).path = kept url.path ++ added ∧
      added.map segmentText? = segments.map some) ↔ Takes url segments := by
  by_cases slashes : url.path = ["", ""]
  · refine iff_of_false ?_ fun takes => takes.slashes slashes
    -- the path that is extended is the root, which has one step less than what is kept
    rintro ⟨added, whole, reads⟩
    have count : added.length = segments.length := by simpa using congrArg List.length reads
    have most := length_steps_foldl_push url.scheme (opened url.path) segments
    have length := congrArg List.length whole
    have left : (steps (opened url.path)).length = 0 := by rw [slashes]; rfl
    have held : (kept url.path).length = 1 := by rw [slashes]; rfl
    rw [List.length_append, held, count] at length
    have same : (steps (url.extend segments).path).length =
      (steps (segments.foldl (push url.scheme) (opened url.path))).length := rfl
    omega
  · obtain ⟨steps_eq, root⟩ := steps_opened slashes
    rw [← steps_eq]
    refine (steps_foldl_push_iff given).trans ⟨fun fits => ⟨slashes, fits.plain, ?_⟩, fun takes =>
      ⟨takes.fits.plain, ?_⟩⟩
    · exact fun file same => fits.drive file (root.mpr same)
    · exact fun file same => takes.fits.drive file (root.mp same)

namespace Takes

variable {url : Url} {segments others : List String}

/-- Segments that a URL takes stand behind the ones that it keeps, as they are written. -/
theorem steps_extend (takes : Takes url segments) (given : ∀ segment ∈ segments, segment ≠ "") :
    steps (url.extend segments).path = kept url.path ++ segments.map (written url.scheme) := by
  obtain ⟨steps_eq, root⟩ := steps_opened takes.slashes
  rw [← steps_eq]
  exact steps_foldl_push given ⟨takes.fits.plain, fun file same => takes.fits.drive file (root.mp same)⟩

/-- What stands behind the segments that are kept has no slashes. -/
theorem exists_tail (takes : Takes url segments) (given : ∀ segment ∈ segments, segment ≠ "") :
    ∃ tail, (url.extend segments).path = kept url.path ++ tail ∧ ∀ segment ∈ tail, '/' ∉ segment.toList := by
  have whole := takes.steps_extend given
  by_cases root : (url.extend segments).path = [""]
  · rw [root] at whole ⊢
    obtain ⟨empty, -⟩ := List.append_eq_nil_iff.mp whole.symm
    exact ⟨[""], by rw [empty, List.nil_append], by simp⟩
  · rw [steps_of_ne root] at whole
    refine ⟨_, whole, fun segment inside => ?_⟩
    obtain ⟨given, -, rfl⟩ := List.mem_map.mp inside
    exact slash_not_mem_written _ given

/-- **Segments that a URL takes are told apart** in what is written. -/
theorem extend_injective (takes : Takes url segments) (also_takes : Takes url others)
    (given : ∀ segment ∈ segments, segment ≠ "") (also_given : ∀ segment ∈ others, segment ≠ "")
    (same : (url.extend segments).text = (url.extend others).text) : segments = others := by
  obtain ⟨tail, path, single⟩ := takes.exists_tail given
  obtain ⟨other, also_path, alone⟩ := also_takes.exists_tail also_given
  have texts : pathText (url.extend segments).path = pathText (url.extend others).path := by
    unfold text at same
    exact (String.append_right_inj _).mp ((String.append_left_inj _).mp ((String.append_left_inj _).mp same))
  rw [path, also_path, pathText_append, pathText_append] at texts
  have tails : pathText tail = pathText other := (String.append_right_inj _).mp texts
  have paths : (url.extend segments).path = (url.extend others).path := by
    rw [path, also_path, pathText_injective single alone tails]
  have writings := (takes.steps_extend given).symm.trans
    ((congrArg steps paths).trans (also_takes.steps_extend also_given))
  rw [List.append_cancel_left_eq] at writings
  have reads := congrArg (List.map segmentText?) writings
  simp only [List.map_map, Function.comp_def, segmentText?_written] at reads
  exact (List.map_inj_right fun _ _ => Option.some.inj).mp reads

end Takes
end Url

/-! ### Addresses of the service -/

namespace Rest.Client

theorem endpoint_iff (client : Client) {segments : List String} (given : ∀ segment ∈ segments, segment ≠ "") :
    (∃ path added, client.endpoint segments = { client.base with path } ∧
        Url.steps path = Url.kept client.base.path ++ added ∧ added.map Url.segmentText? = segments.map some) ↔
      client.base.Takes segments := by
  rw [← Url.extend_iff given]
  constructor
  · rintro ⟨path, added, same, whole, reads⟩
    have here : (client.base.extend segments).path = path := congrArg Url.path same
    exact ⟨added, by rw [here, whole], reads⟩
  · rintro ⟨added, whole, reads⟩
    exact ⟨_, added, rfl, whole, reads⟩

/-- **Behind the path of the service there is one segment for each that is given, which reads back as it**, just if
the path takes the segments as they are; nothing else of the address changes. Segments that it takes are told apart
in the address. -/
theorem endpoint_takes_iff (client : Client) (segments : List String)
    (given : ∀ segment ∈ segments, segment ≠ "") :
    ((∃ path added, client.endpoint segments = { client.base with path } ∧
        Url.steps path = Url.kept client.base.path ++ added ∧ added.map Url.segmentText? = segments.map some) ↔
      client.base.Takes segments) ∧
    (client.base.Takes segments → ∀ others, (∀ segment ∈ others, segment ≠ "") → client.base.Takes others →
      (client.endpoint segments).text = (client.endpoint others).text → segments = others) :=
  ⟨client.endpoint_iff given, fun takes _ also_given also_takes same =>
    takes.extend_injective also_takes given also_given same⟩

/-- A name with a slash, a blank and a percent sign is one segment, and has an address of its own. -/
theorem endpoint_takes_iff_slash :
    let client : Client := { base := ⟨"http", some "localhost:9200", [""], false, none, none⟩ }
    (client.endpoint ["products", "_update", "a/b %2F"]).text =
        "http://localhost:9200/products/_update/a%2Fb%20%252F" ∧
      (∃ path added, client.endpoint ["products", "_update", "a/b %2F"] = { client.base with path } ∧
        Url.steps path = Url.kept client.base.path ++ added ∧
        added.map Url.segmentText? = ["products", "_update", "a/b %2F"].map some) ∧
      (client.endpoint ["products", "_update", "a/b %2F"]).text ≠
        (client.endpoint ["products", "_update", "a/b /"]).text := by
  intro client
  have takes (id : String) (plain : Url.IsPlain id) : client.base.Takes ["products", "_update", id] := by
    refine ⟨by decide, ⟨fun segment inside => ?_, fun file => absurd file (by decide)⟩⟩
    simp only [List.mem_cons, List.not_mem_nil, or_false] at inside
    rcases inside with rfl | rfl | rfl
    · exact ⟨by decide, Url.visible_eq_self_iff.mp rfl⟩
    · exact ⟨by decide, Url.visible_eq_self_iff.mp rfl⟩
    · exact plain
  have known := takes "a/b %2F" ⟨by decide, Url.visible_eq_self_iff.mp rfl⟩
  obtain ⟨reads, apart⟩ := client.endpoint_takes_iff ["products", "_update", "a/b %2F"] (by decide)
  refine ⟨by decide, reads.mpr known, fun same => ?_⟩
  have other := takes "a/b /" ⟨by decide, Url.visible_eq_self_iff.mp rfl⟩
  have equal := apart known _ (by decide) other same
  revert equal
  decide

/-- **Not every segment reads back**: a tabulator is lost, so that two names have one address, and a dot as a name
is passed over, so that the address is that of all names. -/
theorem not_endpoint_takes :
    let client : Client := { base := ⟨"http", some "localhost:9200", [""], false, none, none⟩ }
    (¬∃ path added, client.endpoint ["a\tb"] = { client.base with path } ∧
        Url.steps path = Url.kept client.base.path ++ added ∧ added.map Url.segmentText? = ["a\tb"].map some) ∧
      client.endpoint ["a\tb"] = client.endpoint ["ab"] ∧
      client.endpoint [".", "_mapping"] = client.endpoint ["_mapping"] := by
  intro client
  refine ⟨fun reads => ?_, by decide, by decide⟩
  have takes := (client.endpoint_iff (by decide)).mp reads
  exact (takes.fits.plain "a\tb" List.mem_cons_self).visible '\t' (by decide) |>.1 rfl

end Rest.Client
end CatalogSearch
