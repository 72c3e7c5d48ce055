/-
**A cache that is not noticed.**

Searches and pushes that share a cache and come one after another find in it what the service would be
asked for, whichever calls of a push fail on the way.

* `World.Coherent` — every schema in the cache is what can be read of its index now;
* `Use` — what can be done with the cache; `Use.coherent_visited` — no step of a use makes the cache
  incoherent, because a search keeps only what it reads (`Contract.reading`), and a push works on an
  index without a cached schema (`Contract.pushing`);
* `Finder.run_schema_eq_emptied` — a schema from a coherent cache is the one from an empty cache;
* `Use.describeCount_le_one` — between pushes an index is described once;
* `Use.caching_not_noticed` — all this in every state that is reached from an empty cache.
-/

import CatalogSearch.Proofs.Index.Searches

namespace CatalogSearch

variable {σ : Type} {serve : (call : ServiceCall) → σ → Except ServiceError call.Answer × σ}
  {held : σ → String → Option (Option Json)}

/-! ### Coherent caches -/

/-- **Every schema in the cache is what can be read of its index now.** -/
def World.Coherent (held : σ → String → Option (Option Json)) (world : World σ) : Prop :=
  ∀ index schema, world.cache.peek? index = some schema →
    Published.reading index (held world.service index) = .ok schema

theorem World.Coherent.dropped {world : World σ} (coherent : world.Coherent held) (index : String) :
    (world.dropped index).Coherent held := by
  intro other schema kept
  have dropped := SchemaCache.peek?_invalidate world.cache index other
  rw [World.dropped, dropped] at kept
  split at kept
  · cases kept
  · exact coherent other schema kept

/-- **A schema from a coherent cache is the one from an empty cache**, where the service answers. -/
theorem Finder.run_schema_eq_emptied (truthful : Truthful serve held) {world : World σ}
    (coherent : world.Coherent held) {index : String}
    (answered : world.cache.peek? index = none ∨ Answers serve index world.service) :
    ((schema index).run (Handler.ofService serve) world).1 =
      ((schema index).run (Handler.ofService serve) { world with cache := {} }).1 := by
  have emptied : ((schema index).run (Handler.ofService serve) { world with cache := {} }).1 =
      Published.described serve index world.service :=
    (run_schema_of_miss serve rfl).1
  rw [emptied]
  cases cached : world.cache.peek? index with
  | none => exact (run_schema_of_miss serve cached).1
  | some kept =>
    rcases answered with miss | answered
    · cases miss.symm.trans cached
    · rw [run_schema_of_hit serve cached, Published.described_eq_reading serve index truthful answered,
        coherent index kept cached]

/-! ### Contracts of searches and pushes -/

namespace Contract

/-- **What a search may do**: ask, be told what is held, and keep what can be read of that. -/
def reading (known : String → Option (Option Json)) : Contract where
  asks call := call.isWrite = false
  answers
    | .indexExists index => fun present => present = (known index).isSome
    | .getMapping index => fun answer => ∀ mapping, known index = some mapping → answer = mapping
    | _ => fun _ => True
  finds index found := ∀ schema, found = some schema →
    Published.reading index (known index) = .ok schema
  keeps index schema := Published.reading index (known index) = .ok schema
  drops _ := False

/-- **What a push may do**: ask about an index, write to it and drop its schema, but keep none. -/
def pushing (index : String) : Contract where
  asks call := call.index = index
  keeps _ _ := False

/-- **What concerns other indices alone**: not to ask for this one, keep a schema of it or drop it. -/
def elsewhere (index : String) : Contract where
  asks call := call ≠ .indexExists index
  keeps other _ := other ≠ index
  drops other := other ≠ index

/-- **A search changes nothing that is held, and leaves the cache coherent.** -/
theorem maintains_reading (truthful : Truthful serve held) (known : String → Option (Option Json)) :
    (reading known).Maintains serve fun world => held world.service = known ∧ world.Coherent held where
  answers := by
    rintro world ⟨same, -⟩ call answer - told
    subst same
    cases call with
    | indexExists index => exact truthful.present _ index answer told
    | getMapping index => exact truthful.mapping _ index answer told
    | _ => trivial
  finds := by
    rintro world ⟨same, coherent⟩ index schema kept
    subst same
    exact coherent index schema kept
  step := by
    rintro before after ⟨same, coherent⟩ allowed
    subst same
    have same : held after.service = held before.service := by
      rcases allowed.service with still | ⟨call, read, moved⟩
      · rw [still]
      · rw [moved]
        exact truthful.reads _ call read
    refine ⟨same, fun index schema kept => ?_⟩
    rw [same]
    rcases allowed.cache index with still | ⟨fresh, read, now⟩ | ⟨dropped, -⟩
    · exact coherent index schema (still ▸ kept)
    · rw [now] at kept
      cases kept
      exact read
    · exact dropped.elim

/-- **A push leaves the cache coherent while it has no schema of the index.** -/
theorem maintains_pushing (truthful : Truthful serve held) (index : String) :
    (pushing index).Maintains serve fun world =>
      world.cache.peek? index = none ∧ world.Coherent held where
  answers _ _ _ _ _ _ := trivial
  finds _ _ _ := trivial
  step := by
    rintro before after ⟨absent, coherent⟩ allowed
    -- Nothing is kept, so that what is cached after the step was cached before, and is not of this index.
    have none : ∀ other schema, after.cache.peek? other = some schema →
        before.cache.peek? other = some schema := by
      intro other schema kept
      rcases allowed.cache other with still | ⟨fresh, never, -⟩ | ⟨-, now⟩
      · exact still ▸ kept
      · exact never.elim
      · rw [now] at kept
        cases kept
    refine ⟨Option.eq_none_iff_forall_ne_some.mpr fun schema kept => ?_, fun other schema kept => ?_⟩
    · cases absent.symm.trans (none index schema kept)
    · have kept := none other schema kept
      have different : index ≠ other := by
        rintro rfl
        cases absent.symm.trans kept
      have same : held after.service other = held before.service other := by
        rcases allowed.service with still | ⟨call, about, moved⟩
        · rw [still]
        · rw [moved]
          exact truthful.writes _ call other (about ▸ different)
      rw [same]
      exact coherent other schema kept

theorem maintains_elsewhere (index : String) (start : World σ) :
    (elsewhere index).Maintains serve fun world =>
      world.cache.peek? index = start.cache.peek? index ∧
        ∃ calls, world.calls = start.calls ++ calls ∧ ∀ call ∈ calls, call ≠ .indexExists index where
  answers _ _ _ _ _ _ := trivial
  finds _ _ _ := trivial
  step := by
    rintro before after ⟨kept, calls, made, others⟩ allowed
    obtain ⟨more, asked, apart⟩ := allowed.calls
    refine ⟨?_, calls ++ more, ?_, ?_⟩
    · rcases allowed.cache index with still | ⟨_, different, -⟩ | ⟨different, -⟩
      · exact still.trans kept
      · exact absurd rfl different
      · exact absurd rfl different
    · rw [asked, made, List.append_assoc]
    · intro call member
      rcases List.mem_append.mp member with old | new
      · exact others call old
      · exact apart call new

end Contract

/-- What a search looks up or is told can be read of the index. -/
theorem Finder.obeys_schema_reading (known : String → Option (Option Json)) (index : String) :
    (Finder.schema index).Obeys (.reading known)
      fun schema => Published.reading index (known index) = .ok schema := by
  refine Finder.obeys_schema (fun schema found => found schema rfl) fun _ => ?_
  refine Published.obeys_describe rfl (fun absent => ?_) fun there =>
    Published.obeys_read rfl fun answer told found read => ?_
  · have none : known index = none :=
      Option.not_isSome_iff_eq_none.mp (Bool.eq_false_iff.mp absent.symm)
    have read : Published.reading index (known index) = .ok .empty := by rw [none]; rfl
    exact ⟨read, read⟩
  · obtain ⟨mapping, held⟩ := Option.isSome_iff_exists.mp there.symm
    rw [told mapping held, ← held] at read
    exact ⟨read, read⟩

/-! ### Uses of a cache -/

/-- What can be done with a cache. -/
inductive Use where
  | schema (index : String)
  | prepare (finder : Finder) (index : String) (filter : Members Json) (sort : Option (Members Json))
      (options : Members Json)
  | search (finder : Finder) (index : String) (filter : Members Json) (sort : Option (Members Json))
      (options : Members Json)
  | push (minLimit : Nat) (index : String) (schema : Schema)

namespace Use

def Result : Use → Type
  | schema _ => Schema
  | prepare _ _ _ _ _ => SearchRequest
  | search _ _ _ _ _ => Json
  | push _ _ _ => PushReport

def program : (use : Use) → Program use.Result
  | schema index => Finder.schema index
  | prepare finder index filter sort options => finder.prepare index filter sort options
  | search finder index filter sort options => finder.search index filter sort options
  | push minLimit index given => Pusher.push ⟨true, minLimit⟩ index given

def index : Use → String
  | schema index | prepare _ index _ _ _ | search _ index _ _ _ | push _ index _ => index

def isPush : Use → Bool
  | push _ _ _ => true
  | schema _ | prepare _ _ _ _ _ | search _ _ _ _ _ => false

def run (handler : Handler σ) (use : Use) (world : World σ) : World σ :=
  (use.program.run handler world).2

/-- The world after uses one after another. -/
def runAll (handler : Handler σ) (uses : List Use) (world : World σ) : World σ :=
  uses.foldl (fun world use => use.run handler world) world

/-- A use that pushes nothing keeps to the contract of a search. -/
theorem obeys_reading {use : Use} (find : use.isPush = false) (known : String → Option (Option Json)) :
    use.program.Obeys (.reading known) fun _ => True := by
  cases use with
  | schema index => exact (Finder.obeys_schema_reading known index).mono fun _ _ => trivial
  | prepare finder index filter sort options =>
    exact finder.obeys_prepare filter sort options (Finder.obeys_schema_reading known index)
  | search finder index filter sort options =>
    exact finder.obeys_search filter sort options (Finder.obeys_schema_reading known index) fun _ => rfl
  | push _ _ _ => cases find

/-- **The cache is coherent at every step of a use**, if it is at the start. -/
theorem coherent_visited (truthful : Truthful serve held) (use : Use) {world : World σ}
    (coherent : world.Coherent held) (steps : Nat) :
    (use.program.visited (Handler.ofService serve) world steps).2.Coherent held := by
  by_cases find : use.isPush = false
  · have searched := (obeys_reading find (held world.service)).visited
      (Contract.maintains_reading truthful _) ⟨rfl, coherent⟩ steps
    exact searched.2.2
  · cases use with
    | push minLimit index given =>
      cases steps with
      | zero => exact coherent
      | succ steps =>
        -- The first step drops the schema of the index. No later step needs one, or keeps one.
        obtain ⟨-, rest⟩ : Program.Obeys (.pushing index) _ (Pusher.push ⟨true, minLimit⟩ index given) :=
          Pusher.obeys_push (fun _ about => about) ⟨true, minLimit⟩ given trivial
        have pushed := rest.visited (Contract.maintains_pushing truthful index)
          ⟨world.peek?_dropped index, coherent.dropped index⟩ steps
        rw [Program.visited_succ]
        exact pushed.2.2
    | _ => exact absurd rfl find

theorem coherent_runAll (truthful : Truthful serve held) (uses : List Use) {world : World σ}
    (coherent : world.Coherent held) :
    (runAll (Handler.ofService serve) uses world).Coherent held := by
  induction uses generalizing world with
  | nil => exact coherent
  | cons use rest ih =>
    obtain ⟨steps, reached⟩ := use.program.exists_visited_run (Handler.ofService serve) world
    have ended := coherent_visited truthful use coherent steps
    rw [reached] at ended
    exact ih ended

/-! ### How often an index is asked for -/

/-- Whether a use asks for an index. -/
def contacts (handler : Handler σ) (index : String) (use : Use) (world : World σ) : Bool :=
  decide (.indexExists index ∈ (use.run handler world).calls.drop world.calls.length)

/-- Whether a use that pushes nothing asks for an index and gets its schema. -/
def describes (handler : Handler σ) (index : String) (use : Use) (world : World σ) : Bool :=
  !use.isPush && use.contacts handler index world && ((Finder.schema index).run handler world).1.isOk

/-- How many of the uses, one after another, ask for an index and get its schema. -/
def describeCount (handler : Handler σ) (index : String) : List Use → World σ → Nat
  | [], _ => 0
  | use :: rest, world =>
    (if use.describes handler index world then 1 else 0) +
      describeCount handler index rest (use.run handler world)

theorem contacts_eq_false {handler : Handler σ} {index : String} {use : Use} {world : World σ}
    {calls : List ServiceCall} (made : (use.run handler world).calls = world.calls ++ calls)
    (others : ∀ call ∈ calls, call ≠ .indexExists index) :
    use.contacts handler index world = false := by
  rw [contacts, made, List.drop_left, decide_eq_false_iff_not]
  exact fun asked => others _ asked rfl

variable (serve)

theorem obeys_schema_elsewhere {name index : String} (other : name ≠ index) :
    (Finder.schema name).Obeys (.elsewhere index) fun _ => True := by
  refine Finder.obeys_schema (fun _ _ => trivial) fun _ => ?_
  refine Published.obeys_describe ?_ (fun _ => ⟨other, trivial⟩) fun _ =>
    Published.obeys_read nofun fun _ _ _ _ => ⟨other, trivial⟩
  exact fun same => other (ServiceCall.indexExists.inj same)

/-- **A use concerns its own index.** -/
theorem obeys_elsewhere {use : Use} {index : String} (other : use.index ≠ index) :
    use.program.Obeys (.elsewhere index) fun _ => True := by
  cases use with
  | schema name => exact obeys_schema_elsewhere other
  | prepare finder name filter sort options =>
    exact finder.obeys_prepare filter sort options (obeys_schema_elsewhere other)
  | search finder name filter sort options =>
    exact finder.obeys_search filter sort options (obeys_schema_elsewhere other) nofun
  | push minLimit name given =>
    refine (Pusher.obeys_push (fun call about same => other ?_) ⟨true, minLimit⟩ given other).mono
      fun _ _ => trivial
    rw [← show call.index = name from about, same]
    rfl

theorem run_of_ne {use : Use} {index : String} (other : use.index ≠ index) (world : World σ) :
    (use.run (Handler.ofService serve) world).cache.peek? index = world.cache.peek? index ∧
      use.contacts (Handler.ofService serve) index world = false := by
  have start : world.calls = world.calls ++ [] := (List.append_nil _).symm
  obtain ⟨kept, calls, made, others⟩ := ((obeys_elsewhere other).run
    (Contract.maintains_elsewhere index world)
    ⟨rfl, [], start, List.forall_mem_nil _⟩).2
  exact ⟨kept, contacts_eq_false made others⟩

/-- Behind the schema of its index, a use that pushes nothing makes no call but a search. -/
theorem run_of_find {use : Use} (find : use.isPush = false) (world : World σ) :
    (use.run (Handler.ofService serve) world).cache =
        ((Finder.schema use.index).run (Handler.ofService serve) world).2.cache ∧
      ∃ calls, (use.run (Handler.ofService serve) world).calls =
          ((Finder.schema use.index).run (Handler.ofService serve) world).2.calls ++ calls ∧
        ∀ call ∈ calls, ∃ request, call = .search request := by
  cases use with
  | schema index => exact ⟨rfl, [], (List.append_nil _).symm, List.forall_mem_nil _⟩
  | prepare finder index filter sort options =>
    obtain ⟨warnings, prepared⟩ :=
      finder.run_prepare index filter sort options (Handler.ofService serve) world
    have ended : (prepare finder index filter sort options).run (Handler.ofService serve) world = _ :=
      congrArg Prod.snd prepared
    rw [ended]
    exact ⟨rfl, [], (List.append_nil _).symm, List.forall_mem_nil _⟩
  | search finder index filter sort options =>
    exact finder.run_search serve index filter sort options world
  | push _ _ _ => cases find

/-- Where the schema of an index is cached, no use but a push to it asks for it or drops it. -/
theorem cached_of_cached {use : Use} {index : String}
    (apart : use.isPush = true → use.index ≠ index) {world : World σ} {kept : Schema}
    (cached : world.cache.peek? index = some kept) :
    (use.run (Handler.ofService serve) world).cache.peek? index = some kept ∧
      use.contacts (Handler.ofService serve) index world = false := by
  by_cases same : use.index = index
  · have find : use.isPush = false := Bool.eq_false_iff.mpr fun push => apart push same
    obtain ⟨cache, calls, made, searches⟩ := run_of_find serve find world
    rw [same, Finder.run_schema_of_hit serve cached] at cache made
    refine ⟨?_, contacts_eq_false made fun call member asked => ?_⟩
    · rw [cache]
      exact (SchemaCache.peek?_lookup ..).trans cached
    · obtain ⟨request, search⟩ := searches call member
      cases search.symm.trans asked
  · obtain ⟨still, silent⟩ := run_of_ne serve same world
    exact ⟨still.trans cached, silent⟩

theorem cached_of_describes {use : Use} {index : String} {world : World σ}
    (described : use.describes (Handler.ofService serve) index world = true) :
    ∃ kept, (use.run (Handler.ofService serve) world).cache.peek? index = some kept := by
  simp only [describes, Bool.and_eq_true, Bool.not_eq_true'] at described
  obtain ⟨⟨find, contacted⟩, found⟩ := described
  by_cases same : use.index = index
  · obtain ⟨cache, -⟩ := run_of_find serve find world
    cases ran : ((Finder.schema index).run (Handler.ofService serve) world).1 with
    | error error =>
      rw [ran] at found
      cases found
    | ok schema =>
      rw [cache, same]
      exact ⟨schema, Finder.peek?_of_run_schema serve ran⟩
  · cases (run_of_ne serve same world).2.symm.trans contacted

/-- **Between pushes to an index it is described once**, and not at all if its schema is cached. -/
theorem describeCount_le_one {index : String} {uses : List Use}
    (apart : ∀ use ∈ uses, use.isPush = true → use.index ≠ index) (world : World σ) :
    describeCount (Handler.ofService serve) index uses world ≤ 1 ∧
      ∀ kept, world.cache.peek? index = some kept →
        describeCount (Handler.ofService serve) index uses world = 0 := by
  -- The second part carries the induction: where a use describes the index, it leaves its schema cached.
  induction uses generalizing world with
  | nil => exact ⟨Nat.zero_le 1, fun _ _ => rfl⟩
  | cons use rest ih =>
    obtain ⟨first, others⟩ := List.forall_mem_cons.mp apart
    obtain ⟨once, never⟩ := ih others (use.run (Handler.ofService serve) world)
    rw [describeCount]
    refine ⟨?_, fun kept cached => ?_⟩
    · split
      · next described =>
        obtain ⟨kept, cached⟩ := cached_of_describes serve described
        have afterwards := never kept cached
        omega
      · rw [Nat.zero_add]
        exact once
    · obtain ⟨still, silent⟩ := cached_of_cached serve first cached
      rw [never kept still, describes, silent, Bool.and_false]
      rfl

variable {serve}

/-- **The cache is not noticed.** Start from an empty cache, and search and push, one use after another,
on a service that holds what it answers. Then at every step of every further use each cached schema is
what can be read of its index, and is what describing the index gives if the service answers; a prepared
request is the one that is prepared without a cache; and as long as nothing is pushed to an index, it is
described at most once. -/
theorem caching_not_noticed (truthful : Truthful serve held) (state : σ) (past : List Use) :
    let handler := Handler.ofService serve
    let world := runAll handler past { service := state }
    (∀ (use : Use) steps index schema,
        (use.program.visited handler world steps).2.cache.peek? index = some schema →
        Published.reading index (held (use.program.visited handler world steps).2.service index) =
            .ok schema ∧
          (Answers serve index (use.program.visited handler world steps).2.service →
            ((Published.describe index).run handler (use.program.visited handler world steps).2).1 =
              .ok schema)) ∧
      (∀ (finder : Finder) index filter sort options,
        world.cache.peek? index = none ∨ Answers serve index world.service →
          ((finder.prepare index filter sort options).run handler world).1 =
            ((finder.prepare index filter sort options).run handler { world with cache := {} }).1) ∧
      ∀ index uses, (∀ use ∈ uses, use.isPush = true → use.index ≠ index) →
        describeCount handler index uses world ≤ 1 := by
  intro handler world
  have coherent : world.Coherent held := coherent_runAll truthful past fun _ _ kept => by cases kept
  refine ⟨fun use steps index schema kept => ?_, fun finder index filter sort options answered => ?_,
    fun index uses apart => (describeCount_le_one serve apart world).1⟩
  · have read := coherent_visited truthful use coherent steps index schema kept
    refine ⟨read, fun answers => ?_⟩
    rw [Published.run_describe_eq_described,
      Published.described_eq_reading serve index truthful answers, read]
  · obtain ⟨_, cached⟩ := finder.run_prepare index filter sort options handler world
    obtain ⟨_, emptied⟩ :=
      finder.run_prepare index filter sort options handler { world with cache := {} }
    rw [cached, emptied, Finder.run_schema_eq_emptied truthful coherent answered]

end Use

/-- The answer to the last call of a push is lost. The index has the new field all the same, and a search
finds it. -/
theorem Use.caching_not_noticed_lossy :
    let handler := Handler.ofService Store.serveLossy
    let schema : Schema := ⟨[("NAME", .ofKind .keyword)], by decide⟩
    let store : Store := { indices := [("products", [("ID", .object [("type", .string "integer")])])] }
    let start : World (Store × List Bool) :=
      { service := (store, [false, false, false, false, false, true]) }
    let past : List Use := [.schema "products", .push 0 "products" schema, .schema "products"]
    let both : Schema := ⟨[("ID", .ofKind .integer), ("NAME", .ofKind .keyword)], by decide⟩
    ((runAll handler past start).cache.peek? "products" = some both) ∧
      Published.reading "products" (Store.heldLossy (runAll handler past start).service "products") =
        .ok both ∧
      describeCount handler "products" past start = 2 := by
  intro handler schema store start past both
  have kept : (runAll handler past start).cache.peek? "products" = some both := by decide +kernel
  obtain ⟨coherent, -, -⟩ := caching_not_noticed Store.truthful_serveLossy start.service past
  exact ⟨kept, (coherent (.schema "products") 0 "products" both kept).1, by decide +kernel⟩

end CatalogSearch
