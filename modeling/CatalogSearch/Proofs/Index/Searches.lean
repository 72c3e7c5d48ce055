/-
**What searches find.**

* `Truthful` — a service that answers what it holds of an index, which only writes to the index change,
  whether they are answered or not; `Store.truthful_serveLossy` — a store that loses answers is one;
* `Published.described` — what comes of describing an index in a state of the service, whatever the cache;
  `Published.described_eq_reading` — it is what can be read of what the service holds;
* `Finder.run_schema_of_hit`, `run_schema_of_miss` — a schema is taken from the cache or described;
  `Finder.run_prepare`, `run_search` — all else follows from it.
-/

import CatalogSearch.Proofs.Index.Answers
import CatalogSearch.Proofs.Index.Contracts

namespace CatalogSearch

section Service

variable {σ : Type} (serve : (call : ServiceCall) → σ → Except ServiceError call.Answer × σ)

/-- **A service that holds what it answers.** Of each index it holds nothing, or a mapping if there is
one. Whether or not a call is answered, reading changes nothing, and writing to an index nothing but what
is held of that one. -/
structure Truthful (held : σ → String → Option (Option Json)) : Prop where
  present : ∀ state index answer, (serve (.indexExists index) state).1 = .ok answer →
    answer = (held state index).isSome
  mapping : ∀ state index answer, (serve (.getMapping index) state).1 = .ok answer →
    ∀ known, held state index = some known → answer = known
  reads : ∀ state call, call.isWrite = false → held (serve call state).2 = held state
  writes : ∀ state call index, call.index ≠ index → held (serve call state).2 index = held state index

/-- The service answers what is asked of an index to describe it. -/
def Answers (index : String) (state : σ) : Prop :=
  ∃ (present : Bool) (next : σ), serve (.indexExists index) state = (.ok present, next) ∧
    (present = true → ∃ answer last, serve (.getMapping index) next = (.ok answer, last))

end Service

/-! ### A store that loses answers -/

namespace Store

/-- A store whose answers are lost as laid down. A call whose answer is lost has taken effect. -/
def serveLossy (call : ServiceCall) (state : Store × List Bool) :
    Except ServiceError call.Answer × (Store × List Bool) :=
  (if state.2.headD false then .error .transport else (state.1.serve call).1,
    (state.1.serve call).2, state.2.tail)

def heldLossy (state : Store × List Bool) (index : String) : Option (Option Json) :=
  (state.1.indices.get? index).map fun definitions => some (mappingAnswer index definitions)

/-- An answer that is not lost is that of the store. -/
theorem serve_of_serveLossy {call : ServiceCall} {state : Store × List Bool} {answer : call.Answer}
    (told : (serveLossy call state).1 = .ok answer) : (state.1.serve call).1 = .ok answer := by
  unfold serveLossy at told
  by_cases lost : state.2.headD false = true
  · rw [if_pos lost] at told
    cases told
  · rwa [if_neg lost] at told

theorem truthful_serveLossy : Truthful serveLossy heldLossy where
  present state index answer told := by
    cases serve_of_serveLossy told
    exact Option.isSome_map.symm
  mapping state index answer told known there := by
    cases serve_of_serveLossy told
    obtain ⟨definitions, stored, rfl⟩ := Option.map_eq_some_iff.mp there
    show (state.1.indices.get? index).map (mappingAnswer index) = _
    rw [stored]
    rfl
  reads state call read := by
    funext index
    rw [heldLossy, heldLossy, serveLossy,
      get?_indices_serve call state.1 index fun write => absurd (read.symm.trans write) Bool.false_ne_true]
  writes state call index other := by
    rw [heldLossy, heldLossy, serveLossy, get?_indices_serve call state.1 index fun _ => other]

end Store

section Describing

variable {σ : Type} (serve : (call : ServiceCall) → σ → Except ServiceError call.Answer × σ)

/-! ### Describing an index -/

namespace Published

variable (index : String)

/-- What comes of describing an index in a state of the service. -/
def described (state : σ) : Except ServiceError CatalogSearch.Schema :=
  ((describe index).run (Handler.ofService serve) { service := state }).1

theorem run_read_fst (world : World σ) :
    ((read index).run (Handler.ofService serve) world).1 =
      (serve (.getMapping index) world.service).1.bind fun answer => reading index (some answer) := by
  refine (congrArg Prod.fst (Program.run_call_bind_ofService serve (.getMapping index) _ world)).trans ?_
  cases (serve (.getMapping index) world.service).1 with
  | error error => rfl
  | ok answer =>
    cases answer with
    | none => rfl
    | some answer => exact congrArg Prod.fst (Program.run_ofLogged ..)

theorem run_describe_fst (world : World σ) :
    ((describe index).run (Handler.ofService serve) world).1 =
      (serve (.indexExists index) world.service).1.bind fun (present : Bool) =>
        if present then (serve (.getMapping index) (serve (.indexExists index) world.service).2).1.bind
          fun answer => reading index (some answer)
        else .ok .empty := by
  refine (congrArg Prod.fst (Program.run_call_bind_ofService serve (.indexExists index) _ world)).trans ?_
  cases (serve (.indexExists index) world.service).1 with
  | error error => rfl
  | ok present =>
    cases present with
    | false => rfl
    | true => exact run_read_fst serve index _

/-- **The cache has no part in describing an index.** -/
theorem run_describe_eq_described (world : World σ) :
    ((describe index).run (Handler.ofService serve) world).1 = described serve index world.service := by
  rw [described, run_describe_fst, run_describe_fst]

/-- **What is described is what can be read**, if the service answers. -/
theorem described_eq_reading {held : σ → String → Option (Option Json)} (truthful : Truthful serve held)
    {state : σ} (answers : Answers serve index state) :
    described serve index state = reading index (held state index) := by
  obtain ⟨present, next, asked, answered⟩ := answers
  have known := truthful.present state index present (congrArg Prod.fst asked)
  have same : held next = held state := by
    have kept := truthful.reads state (.indexExists index) rfl
    rwa [asked] at kept
  rw [described, run_describe_fst, asked]
  cases there : held state index with
  | none =>
    rw [there] at known
    cases known
    rfl
  | some mapping =>
    rw [there] at known
    cases known
    obtain ⟨answer, last, told⟩ := answered rfl
    have read := truthful.mapping next index answer (congrArg Prod.fst told) mapping (same ▸ there)
    show (serve (.getMapping index) next).1.bind _ = _
    rw [told, read]
    rfl

end Published

end Describing

/-! ### Schemas from the cache -/

namespace Finder

section Schemas

variable {σ : Type} (serve : (call : ServiceCall) → σ → Except ServiceError call.Answer × σ)
  {index : String} {world : World σ}

theorem run_schema (index : String) (world : World σ) :
    (schema index).run (Handler.ofService serve) world =
      (match world.cache.peek? index with
        | some kept => .pure kept
        | none => (Published.describe index).bind fun found => .insert index found (.pure found)
        : Program Schema).run (Handler.ofService serve)
          { world with cache := (world.cache.lookup index).2 } := by
  rw [← SchemaCache.lookup_fst]
  rfl

/-- A cached schema is taken without a call. -/
theorem run_schema_of_hit {kept : Schema} (hit : world.cache.peek? index = some kept) :
    (schema index).run (Handler.ofService serve) world =
      (.ok kept, { world with cache := (world.cache.lookup index).2 }) := by
  rw [run_schema, hit]
  rfl

/-- What is not in the cache is described, and kept if there is a schema. -/
theorem run_schema_of_miss (miss : world.cache.peek? index = none) :
    ((schema index).run (Handler.ofService serve) world).1 =
        Published.described serve index world.service ∧
      ∀ found, Published.described serve index world.service = .ok found →
        ((schema index).run (Handler.ofService serve) world).2.cache.peek? index = some found := by
  have composed := Program.run_bind (Handler.ofService serve) (Published.describe index)
    (fun found => .insert index found (.pure found))
    { world with cache := (world.cache.lookup index).2 }
  have missed := run_schema serve index world
  rw [miss] at missed
  have described := Published.run_describe_eq_described serve index
    { world with cache := (world.cache.lookup index).2 }
  rw [missed.trans composed, ← described]
  rcases (Published.describe index).run (Handler.ofService serve)
    { world with cache := (world.cache.lookup index).2 } with ⟨result, after⟩
  refine ⟨by cases result <;> rfl, fun found told => ?_⟩
  cases told
  exact (SchemaCache.peek?_insert after.cache index index found).trans (if_pos rfl)

theorem peek?_of_run_schema {found : Schema}
    (ran : ((schema index).run (Handler.ofService serve) world).1 = .ok found) :
    ((schema index).run (Handler.ofService serve) world).2.cache.peek? index = some found := by
  cases cached : world.cache.peek? index with
  | some kept =>
    rw [run_schema_of_hit serve cached] at ran ⊢
    cases ran
    exact (SchemaCache.peek?_lookup ..).trans cached
  | none =>
    obtain ⟨described, kept⟩ := run_schema_of_miss serve cached
    exact kept found (described.symm.trans ran)

theorem run_prepare (finder : Finder) (index : String) (filter : Members Json)
    (sort : Option (Members Json)) (options : Members Json) (handler : Handler σ) (world : World σ) :
    ∃ warnings, (finder.prepare index filter sort options).run handler world =
      (((schema index).run handler world).1.bind fun published =>
          (finder.compile published index filter sort options).result.mapError .refused,
        ((schema index).run handler world).2.notedAll warnings) := by
  have composed := Program.run_bind handler (schema index)
    (fun published => .ofCompilation (finder.compile published index filter sort options)) world
  rcases outcome : (schema index).run handler world with ⟨result, after⟩
  rw [outcome] at composed
  cases result with
  | error error =>
    refine ⟨[], composed.trans ?_⟩
    rw [World.notedAll, List.append_nil]
    rfl
  | ok published => exact ⟨_, composed.trans (Program.run_ofLogged ..)⟩

/-- Behind the schema, a search makes one call, or none if the request is refused. -/
theorem run_search (finder : Finder) (index : String) (filter : Members Json)
    (sort : Option (Members Json)) (options : Members Json) (world : World σ) :
    ((finder.search index filter sort options).run (Handler.ofService serve) world).2.cache =
        ((schema index).run (Handler.ofService serve) world).2.cache ∧
      ∃ calls, ((finder.search index filter sort options).run (Handler.ofService serve) world).2.calls =
          ((schema index).run (Handler.ofService serve) world).2.calls ++ calls ∧
        ∀ call ∈ calls, ∃ request, call = .search request := by
  obtain ⟨warnings, prepared⟩ :=
    finder.run_prepare index filter sort options (Handler.ofService serve) world
  have composed := Program.run_bind (Handler.ofService serve)
    (finder.prepare index filter sort options) (fun request => .call (.search request)) world
  rw [prepared] at composed
  rw [show finder.search index filter sort options =
    (finder.prepare index filter sort options >>= fun request => .call (.search request)) from rfl,
    composed]
  cases ((schema index).run (Handler.ofService serve) world).1.bind fun published =>
      (finder.compile published index filter sort options).result.mapError .refused with
  | error error => exact ⟨rfl, [], (List.append_nil _).symm, List.forall_mem_nil _⟩
  | ok request =>
    exact ⟨rfl, [.search request], rfl, List.forall_mem_singleton.mpr ⟨request, rfl⟩⟩

end Schemas

end Finder

end CatalogSearch
