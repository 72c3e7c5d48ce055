/-
**What becomes of the options of a search.**

Options are laid over a request one after another. A text `index` names the index and an object `body` brings a
body, wherever they stand; all others are set in the body. But a body that is brought replaces what stands there,
with the options that came before it, so that these are lost unless the body has them itself.

* `SearchRequest.target?`, `SearchRequest.body?`, `SearchRequest.laid` — the index and the body among options, and
  the options that are set in the body;
* `SearchRequest.index_setAll` — the index, whatever the order;
* `SearchRequest.get?_assemble_of_none`, `get?_assemble_of_body` — the body, if none is brought and if one is;
* `SearchRequest.NothingLost` — every option before the body stands in it; `SearchRequest.get?_eq_iff`,
  `present_iff`: so all options are set just then;
* `SearchRequest.assemble_lays_iff` — when options are laid over a request as a map is laid over another, and when
  their order does not matter.
-/

import CatalogSearch.Proofs.Schema.RoundTrip
import CatalogSearch.Request

namespace CatalogSearch

/-! ### Members as maps -/

namespace Members

variable {α : Type} {members other front back base : Members α} {name : String} {value : α}

/-- Where no name occurs twice, what is there is what is found. -/
theorem get?_eq_some_iff_mem (distinct : (names members).Nodup) :
    get? members name = some value ↔ (name, value) ∈ members :=
  ⟨mem_of_get?, get?_of_mem distinct⟩

/-- **The order of members does not matter to what is found**, where no name occurs twice. -/
theorem get?_of_perm (distinct : (names members).Nodup) (perm : other.Perm members) (name : String) :
    get? other name = get? members name := by
  have distinct' : (names other).Nodup := (List.Perm.map Prod.fst perm).nodup_iff.mpr distinct
  refine Option.ext fun value => ?_
  rw [get?_eq_some_iff_mem distinct, get?_eq_some_iff_mem distinct', perm.mem_iff]

/-- What is laid over is found, or else what is below. -/
theorem get?_overlay_of_nodup (base : Members α) {upper : Members α} (distinct : (names upper).Nodup)
    (name : String) : get? (overlay base upper) name = (get? upper name).or (get? base name) := by
  rw [get?_overlay, get?_of_perm distinct (List.reverse_perm upper)]

/-- Of two lists of members with different names none has a name of the other. -/
theorem get?_back_of_mem_front (distinct : (names (front ++ back)).Nodup) {entry : String × α}
    (inside : entry ∈ front) : get? back entry.1 = none := by
  unfold names at distinct
  rw [List.map_append, List.nodup_append] at distinct
  exact get?_eq_none_iff.mpr fun later =>
    distinct.2.2 _ (List.mem_map.mpr ⟨entry, inside, rfl⟩) _ later rfl

/-- **Members in front of others make no difference** just if the base has them as they are. -/
theorem get?_eq_append_iff (distinct : (names (front ++ back)).Nodup) :
    (∀ name, (get? back name).or (get? base name) = (get? (front ++ back) name).or (get? base name)) ↔
      ∀ entry ∈ front, get? base entry.1 = some entry.2 := by
  simp only [get?_append]
  constructor
  · intro same entry inside
    have found : get? front entry.1 = some entry.2 :=
      get?_of_mem (distinct.sublist (List.Sublist.map _ (List.sublist_append_left _ _))) inside
    have equal := same entry.1
    rw [found, get?_back_of_mem_front distinct inside] at equal
    exact equal
  · intro known name
    cases found : get? front name with
    | none => rfl
    | some value =>
      have inside := mem_of_get? found
      rw [get?_back_of_mem_front distinct inside, known _ inside]
      rfl

/-- **Members that are laid over a base are found**, and those in front of them just if the base has them. -/
theorem forall_found_append_iff (distinct : (names (front ++ back)).Nodup) :
    (∀ entry ∈ front ++ back, (get? back entry.1).or (get? base entry.1) = some entry.2) ↔
      ∀ entry ∈ front, get? base entry.1 = some entry.2 := by
  constructor
  · intro found entry inside
    have there := found entry (List.mem_append_left _ inside)
    rwa [get?_back_of_mem_front distinct inside] at there
  · intro known entry inside
    rcases List.mem_append.mp inside with before | after
    · rw [get?_back_of_mem_front distinct before, known entry before]
      rfl
    · rw [get?_of_mem (distinct.sublist (List.Sublist.map _ (List.sublist_append_right _ _))) after]
      rfl

end Members

namespace SearchRequest

/-- The index that options name. -/
def target? (options : Members Json) : Option String := (options.get? "index").bind Json.text?

/-- The body that options bring. -/
def body? (options : Members Json) : Option (Members Json) := (options.get? "body").bind Json.members?

/-- Whether an option is set in the body: it is no text `index` and no object `body`. -/
def isLaid (option : String × Json) : Bool :=
  !(option.1 = "index" && option.2.text?.isSome) && !(option.1 = "body" && option.2.members?.isSome)

/-- **The options that are set in the body.** -/
def laid (options : Members Json) : Members Json := options.filter isLaid

/-- A request with options laid over it in order. -/
def setAll (request : SearchRequest) (options : Members Json) : SearchRequest :=
  options.foldl (fun request option => request.set option.1 option.2) request

variable {request : SearchRequest} {options front back : Members Json} {members : Members Json}

theorem assemble_eq (index : String) (query : Query) (sort : List SortClause) (options : Members Json) :
    assemble index query sort options = (ofParts index query sort).setAll options := rfl

/-! ### One option -/

/-- **An option names the index, brings a body, or is set in the body.** -/
theorem option_cases (option : String × Json) :
    (∃ index, option = ("index", .string index)) ∨ (∃ members, option = ("body", .object members)) ∨
      isLaid option = true := by
  obtain ⟨name, value⟩ := option
  by_cases index : name = "index"
  · subst index
    cases value <;> simp [isLaid, Json.text?]
  · by_cases body : name = "body"
    · subst body
      cases value <;> simp [isLaid, Json.members?]
    · simp [isLaid, index, body]

theorem set_of_isLaid {option : String × Json} (plain : isLaid option = true) :
    request.set option.1 option.2 = { request with body := request.body.insert option.1 option.2 } := by
  obtain ⟨name, value⟩ := option
  show request.set name value = { request with body := request.body.insert name value }
  unfold set
  split
  · simp [isLaid, Json.text?] at plain
  · simp [isLaid, Json.members?] at plain
  · rfl

/-! ### The index -/

theorem target?_cons (name : String) (value : Json) (rest : Members Json) :
    target? ((name, value) :: rest) = if name = "index" then value.text? else target? rest := by
  unfold target?
  by_cases index : name = "index" <;> simp [Members.get?, index]

theorem target?_of_not_mem (absent : "index" ∉ options.names) : target? options = none := by
  rw [target?, Members.get?_eq_none_iff.mpr absent]
  rfl

/-- **The index is the one that the options name**, wherever they do. -/
theorem index_setAll (distinct : options.names.Nodup) :
    (request.setAll options).index = (target? options).getD request.index := by
  induction options generalizing request with
  | nil => rfl
  | cons option rest ih =>
    obtain ⟨name, value⟩ := option
    obtain ⟨fresh, others⟩ := List.nodup_cons.mp distinct
    have later : ((request.set name value).setAll rest).index =
        (target? rest).getD (request.set name value).index := ih others
    refine later.trans ?_
    rw [target?_cons]
    by_cases named : name = "index"
    · -- no other option is called `index`, and this one names one if it is a text
      subst named
      rw [target?_of_not_mem fresh, if_pos rfl]
      cases value <;> rfl
    · have kept : (request.set name value).index = request.index := by
        rcases option_cases (name, value) with ⟨index, same⟩ | ⟨members, same⟩ | plain
        · cases same
          exact absurd rfl named
        · cases same
          rfl
        · have same : request.set name value = _ := set_of_isLaid plain
          rw [same]
      rw [if_neg named, kept]

/-! ### The body -/

/-- Without a body among them, options are set in the body. -/
theorem body_setAll_of_none (free : ∀ members, ("body", Json.object members) ∉ options) :
    (request.setAll options).body = Members.overlay request.body (laid options) := by
  induction options generalizing request with
  | nil => rfl
  | cons option rest ih =>
    have later : ((request.set option.1 option.2).setAll rest).body =
        Members.overlay (request.set option.1 option.2).body (laid rest) :=
      ih fun members inside => free members (List.mem_cons_of_mem _ inside)
    refine later.trans ?_
    rcases option_cases option with ⟨index, rfl⟩ | ⟨members, rfl⟩ | plain
    · rfl
    · exact absurd List.mem_cons_self (free members)
    · rw [set_of_isLaid plain, laid, laid, List.filter_cons_of_pos plain]
      rfl

/-- **A body that is brought takes the place of everything before it.** -/
theorem body_setAll_of_body (free : ∀ members, ("body", Json.object members) ∉ back) :
    (request.setAll (front ++ ("body", .object members) :: back)).body =
      Members.overlay members (laid back) := by
  unfold setAll
  rw [List.foldl_append, List.foldl_cons]
  exact body_setAll_of_none free

/-! ### The body among options -/

theorem isLaid_body (members : Members Json) : isLaid ("body", .object members) = false := rfl

theorem laid_split : laid (front ++ ("body", .object members) :: back) = laid front ++ laid back := by
  rw [laid, List.filter_append, List.filter_cons_of_neg (by simp [isLaid_body])]
  rfl

theorem nodup_names_laid (distinct : options.names.Nodup) : (laid options).names.Nodup :=
  distinct.sublist (List.Sublist.map _ List.filter_sublist)

theorem split_of_body? (brought : body? options = some members) :
    ∃ front back, options = front ++ ("body", .object members) :: back := by
  obtain ⟨value, found, read⟩ := Option.bind_eq_some_iff.mp brought
  obtain ⟨front, back, split, -⟩ := Members.get?_eq_some_iff.mp found
  cases value <;> cases read
  exact ⟨front, back, split⟩

/-- Options before a body and options behind it have different names, and none of them is called so. -/
theorem apart_of_split (distinct : Members.names (front ++ ("body", .object members) :: back) |>.Nodup) :
    "body" ∉ front.names ∧ "body" ∉ back.names ∧ ∀ name ∈ front.names, name ∉ back.names := by
  unfold Members.names at distinct
  rw [List.map_append, List.map_cons, List.nodup_append] at distinct
  obtain ⟨-, behind, apart⟩ := distinct
  refine ⟨fun before => apart _ before _ List.mem_cons_self rfl, (List.nodup_cons.mp behind).1,
    fun name before after => ?_⟩
  exact apart name before name (List.mem_cons_of_mem _ after) rfl

theorem body?_split (distinct : Members.names (front ++ ("body", .object members) :: back) |>.Nodup) :
    body? (front ++ ("body", .object members) :: back) = some members := by
  have inside : ("body", Json.object members) ∈ front ++ ("body", .object members) :: back :=
    List.mem_append_right _ List.mem_cons_self
  rw [body?, Members.get?_of_mem distinct inside]
  rfl

theorem free_of_not_mem (absent : "body" ∉ options.names) (members : Members Json) :
    ("body", Json.object members) ∉ options := fun inside =>
  absent (List.mem_map.mpr ⟨_, inside, rfl⟩)

theorem free_of_body?_eq_none (distinct : options.names.Nodup) (none : body? options = none)
    (members : Members Json) : ("body", Json.object members) ∉ options := by
  intro inside
  rw [body?, Members.get?_of_mem distinct inside] at none
  cases none

section Assembled

variable (index : String) (query : Query) (sort : List SortClause)

/-- **Without a body among them, options are laid over what is computed.** -/
theorem get?_assemble_of_none (distinct : options.names.Nodup) (none : body? options = none) (name : String) :
    (assemble index query sort options).body.get? name =
      ((laid options).get? name).or ((ofParts index query sort).body.get? name) := by
  rw [assemble_eq, body_setAll_of_none (free_of_body?_eq_none distinct none)]
  exact Members.get?_overlay_of_nodup _ (nodup_names_laid distinct) name

/-- **Only the options behind a body are laid over it.** -/
theorem get?_assemble_of_body (distinct : Members.names (front ++ ("body", .object members) :: back) |>.Nodup)
    (name : String) :
    (assemble index query sort (front ++ ("body", .object members) :: back)).body.get? name =
      ((laid back).get? name).or (members.get? name) := by
  have behind : back.names.Nodup := distinct.sublist
    (List.Sublist.map _ ((List.sublist_cons_self _ _).trans (List.sublist_append_right _ _)))
  rw [assemble_eq, body_setAll_of_body (free_of_not_mem (apart_of_split distinct).2.1)]
  exact Members.get?_overlay_of_nodup _ (nodup_names_laid behind) name

end Assembled

/-! ### What is lost -/

/-- The options before a body. -/
def ahead (options : Members Json) : Members Json := options.takeWhile fun option => option.1 ≠ "body"

/-- The options behind a body. -/
def behind (options : Members Json) : Members Json :=
  (options.dropWhile fun option => option.1 ≠ "body").tail

/-- **Nothing is lost**: the options that are to be set in the body and stand before one that is brought stand in
that body, with the same values. -/
def NothingLost (options : Members Json) : Prop :=
  ∀ members, body? options = some members → ∀ option ∈ laid (ahead options),
    Members.get? members option.1 = some option.2

theorem ahead_split (distinct : Members.names (front ++ ("body", .object members) :: back) |>.Nodup) :
    ahead (front ++ ("body", .object members) :: back) = front ∧
      behind (front ++ ("body", .object members) :: back) = back := by
  have other : ∀ option ∈ front, decide (option.1 ≠ "body") = true := fun option inside =>
    decide_eq_true fun called => (apart_of_split distinct).1 (List.mem_map.mpr ⟨option, inside, called⟩)
  constructor
  · rw [ahead, List.takeWhile_append_of_pos other]
    simp
  · rw [behind, List.dropWhile_append_of_pos other]
    rfl

theorem nothingLost_split (distinct : Members.names (front ++ ("body", .object members) :: back) |>.Nodup) :
    NothingLost (front ++ ("body", .object members) :: back) ↔
      ∀ option ∈ laid front, Members.get? members option.1 = some option.2 := by
  simp [NothingLost, body?_split distinct, (ahead_split distinct).1]

section Assembled

variable (index : String) (query : Query) (sort : List SortClause)

/-- **The body is what the options, laid over what is below them, should make it** just if nothing is lost. -/
theorem get?_assemble_iff (distinct : options.names.Nodup) :
    (∀ name, (assemble index query sort options).body.get? name =
      ((laid options).get? name).or (((body? options).getD (ofParts index query sort).body).get? name)) ↔
    NothingLost options := by
  cases brought : body? options with
  | none =>
    refine ⟨fun _ members there => ?_, fun _ => get?_assemble_of_none index query sort distinct brought⟩
    cases brought.symm.trans there
  | some members =>
    obtain ⟨front, back, rfl⟩ := split_of_body? brought
    have laid := nodup_names_laid distinct
    rw [laid_split] at laid
    simp only [get?_assemble_of_body index query sort distinct, laid_split, Option.getD_some]
    exact (Members.get?_eq_append_iff laid).trans (nothingLost_split distinct).symm

/-- **Every option that is to be set is there** just if nothing is lost. -/
theorem forall_found_assemble_iff (distinct : options.names.Nodup) :
    (∀ option ∈ laid options, (assemble index query sort options).body.get? option.1 = some option.2) ↔
      NothingLost options := by
  cases brought : body? options with
  | none =>
    refine ⟨fun _ members there => ?_, fun _ option inside => ?_⟩
    · cases brought.symm.trans there
    · rw [get?_assemble_of_none index query sort distinct brought,
        Members.get?_of_mem (nodup_names_laid distinct) inside]
      rfl
  | some members =>
    obtain ⟨front, back, rfl⟩ := split_of_body? brought
    have laid := nodup_names_laid distinct
    rw [laid_split] at laid
    simp only [get?_assemble_of_body index query sort distinct, laid_split]
    exact (Members.forall_found_append_iff laid).trans (nothingLost_split distinct).symm

end Assembled

/-! ### The order of options -/

/-- **Two requests ask the same**: their bodies have the same members, in whatever order. -/
def Alike (request other : SearchRequest) : Prop :=
  request.index = other.index ∧ ∀ name, request.body.get? name = other.body.get? name

theorem names_nodup_of_perm {other : Members Json} (distinct : options.names.Nodup)
    (perm : other.Perm options) : other.names.Nodup :=
  (List.Perm.map Prod.fst perm).nodup_iff.mpr distinct

section Permuted

variable (index : String) (query : Query) (sort : List SortClause)

theorem index_assemble_of_perm {other : Members Json} (distinct : options.names.Nodup)
    (perm : other.Perm options) :
    (assemble index query sort other).index = (assemble index query sort options).index := by
  rw [assemble_eq, assemble_eq, index_setAll distinct, index_setAll (names_nodup_of_perm distinct perm),
    target?, target?, Members.get?_of_perm distinct perm]

/-- A body that has all options already stays as it is. -/
theorem get?_assemble_of_known (distinct : options.names.Nodup) (brought : body? options = some members)
    (known : ∀ option ∈ laid options, Members.get? members option.1 = some option.2) (name : String) :
    (assemble index query sort options).body.get? name = Members.get? members name := by
  obtain ⟨front, back, rfl⟩ := split_of_body? brought
  rw [get?_assemble_of_body index query sort distinct]
  cases found : Members.get? (laid back) name with
  | none => rfl
  | some value =>
    have inside : (name, value) ∈ laid (front ++ ("body", Json.object members) :: back) :=
      laid_split ▸ List.mem_append_right _ (Members.mem_of_get? found)
    exact (known _ inside).symm

/-- **The order of options does not matter** just if none of them brings a body, or that body has them all. -/
theorem alike_of_perm_iff (distinct : options.names.Nodup) :
    (∀ other : Members Json, other.Perm options →
      (assemble index query sort other).Alike (assemble index query sort options)) ↔
    ∀ members, body? options = some members →
      ∀ option ∈ laid options, Members.get? members option.1 = some option.2 := by
  constructor
  · intro alike members brought option inside
    obtain ⟨front, back, rfl⟩ := split_of_body? brought
    -- The body comes last in one order, where it is all there is, and first in another one.
    have last : (front ++ back ++ [("body", Json.object members)]).Perm
        (front ++ ("body", Json.object members) :: back) := by
      rw [List.append_assoc]
      exact (List.perm_append_singleton _ back).append_left front
    have first : ([] ++ ("body", Json.object members) :: (front ++ back)).Perm
        (front ++ ("body", Json.object members) :: back) := List.perm_middle.symm
    have alone := (alike _ last).2 option.1
    have under := (alike _ first).2 option.1
    rw [get?_assemble_of_body index query sort (names_nodup_of_perm distinct last)] at alone
    rw [get?_assemble_of_body index query sort (names_nodup_of_perm distinct first)] at under
    have found : Members.get? (laid (front ++ back)) option.1 = some option.2 := by
      have same : laid (front ++ back) = laid (front ++ ("body", .object members) :: back) := by
        rw [laid_split, laid, List.filter_append]
        rfl
      rw [same]
      exact Members.get?_of_mem (nodup_names_laid distinct) inside
    rw [found] at under
    exact alone.trans under.symm
  · intro known other perm
    refine ⟨index_assemble_of_perm index query sort distinct perm, fun name => ?_⟩
    have distinct' := names_nodup_of_perm distinct perm
    have body : body? other = body? options := by
      rw [body?, body?, Members.get?_of_perm distinct perm]
    have laid : (laid other).Perm (laid options) := List.Perm.filter _ perm
    cases brought : body? options with
    | none =>
      rw [get?_assemble_of_none index query sort distinct brought,
        get?_assemble_of_none index query sort distinct' (body.trans brought),
        Members.get?_of_perm (nodup_names_laid distinct) laid]
    | some members =>
      have known := known members brought
      rw [get?_assemble_of_known index query sort distinct brought known,
        get?_assemble_of_known index query sort distinct' (body.trans brought)
          fun option inside => known option (laid.mem_iff.mp inside)]

end Permuted

/-! ### All of it -/

/-- No name occurs twice in the body. -/
theorem nodup_names_assemble (index : String) (query : Query) (sort : List SortClause)
    (proper : (Json.object options).isProper = true) :
    (assemble index query sort options).body.names.Nodup := by
  have distinct := Json.nodup_names_of_isProper proper
  cases brought : body? options with
  | none =>
    have computed : (ofParts index query sort).body.names.Nodup := by
      unfold ofParts
      cases sort <;> simp [Members.names]
    rw [assemble_eq, body_setAll_of_none (free_of_body?_eq_none distinct brought)]
    exact Members.nodup_names_overlay computed _
  | some members =>
    obtain ⟨front, back, rfl⟩ := split_of_body? brought
    have given : (Json.object members).isProper = true :=
      Json.isProper_of_mem proper (List.mem_append_right front List.mem_cons_self)
    rw [assemble_eq, body_setAll_of_body (free_of_not_mem (apart_of_split distinct).2.1)]
    exact Members.nodup_names_overlay (Json.nodup_names_of_isProper given) _

/-- **When options are laid over a request as one map over another.** The index is always the one that they
name, or else the given one. The body is what they bring, or else the computed one, with those of the other
options laid over it that stand behind a body that is brought. So it is the body with all other options laid
over it, and has each of them, just if nothing is lost; and no order of the options makes a difference just if
they bring no body, or one that has all other options. -/
theorem assemble_lays_iff (index : String) (query : Query) (sort : List SortClause) (options : Members Json)
    (proper : (Json.object options).isProper = true) :
    let request := assemble index query sort options
    let base := (body? options).getD (ofParts index query sort).body
    request.index = (target? options).getD index ∧
    request.body.names.Nodup ∧
    (∀ members, body? options = some members → ∀ name,
      request.body.get? name = ((laid (behind options)).get? name).or (Members.get? members name)) ∧
    ((∀ name, request.body.get? name = ((laid options).get? name).or (base.get? name)) ↔
      NothingLost options) ∧
    ((∀ option ∈ laid options, request.body.get? option.1 = some option.2) ↔ NothingLost options) ∧
    ((∀ other : Members Json, other.Perm options → (assemble index query sort other).Alike request) ↔
      ∀ members, body? options = some members →
        ∀ option ∈ laid options, Members.get? members option.1 = some option.2) := by
  have distinct := Json.nodup_names_of_isProper proper
  refine ⟨index_setAll distinct, nodup_names_assemble index query sort proper, ?_,
    get?_assemble_iff index query sort distinct, forall_found_assemble_iff index query sort distinct,
    alike_of_perm_iff index query sort distinct⟩
  intro members brought name
  obtain ⟨front, back, rfl⟩ := split_of_body? brought
  rw [get?_assemble_of_body index query sort distinct, (ahead_split distinct).2]

/-- A body between a page's size, which it has itself, and the start of the page: the index, the size and the
start are all there. -/
theorem assemble_lays_iff_page :
    let body : Members Json := [("size", .ofNat 20), ("query", .object [("match_all", .object [])])]
    let options : Members Json :=
      [("size", .ofNat 20), ("index", .string "archive"), ("body", .object body), ("from", .ofNat 40)]
    let request := assemble "products" .everything [] options
    (Json.object options).isProper = true ∧ request.index = "archive" ∧
      (∀ name, request.body.get? name = ((laid options).get? name).or (body.get? name)) ∧
      (∀ option ∈ laid options, request.body.get? option.1 = some option.2) ∧
      ¬ ∀ other : Members Json, other.Perm options →
        (assemble "products" .everything [] other).Alike request := by
  intro body options request
  have proper : (Json.object options).isProper = true := by decide
  obtain ⟨named, -, -, lays, found, permuted⟩ := assemble_lays_iff "products" .everything [] options proper
  have nothing : NothingLost options := by
    rintro members ⟨⟩ option inside
    cases List.mem_singleton.mp inside
    rfl
  refine ⟨proper, named, lays.mpr nothing, found.mpr nothing, fun alike => ?_⟩
  -- the start of the page is not in the body, and is lost in front of it
  have start := permuted.mp alike body rfl ("from", .ofNat 40) (by decide)
  cases start

/-- **An option can be lost**: the size of a page is, in front of a body without one. -/
theorem not_assemble_lays :
    ¬ ∀ (index : String) (query : Query) (sort : List SortClause) (options : Members Json),
      (Json.object options).isProper = true →
      let request := assemble index query sort options
      let base := (body? options).getD (ofParts index query sort).body
      request.index = (target? options).getD index ∧
      (∀ name, request.body.get? name = ((laid options).get? name).or (base.get? name)) ∧
      (∀ option ∈ laid options, request.body.get? option.1 = some option.2) ∧
      ∀ other : Members Json, other.Perm options → (assemble index query sort other).Alike request := by
  intro lays
  let options : Members Json :=
    [("size", .ofNat 20), ("body", .object [("query", .object [("match_all", .object [])])])]
  obtain ⟨-, -, found, -⟩ := lays "products" .everything [] options (by decide)
  have size := found ("size", .ofNat 20) (by decide)
  cases size

end SearchRequest
end CatalogSearch
