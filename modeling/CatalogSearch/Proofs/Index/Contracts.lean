/-
**What programs may do.**

* `Contract` — the calls a program may make, the answers and finds it may count on, the schemas it may
  keep, and the indices it may drop;
* `Program.Obeys` — a program keeps to a contract on every path, and what it ends in is as promised;
* `Program.Obeys.mono`, `Obeys.bind`, `obeys_ofLogged`, `Obeys.andFinally` — contracts of composed
  programs;
* `Contract.Allows` — what a step under a contract can do to the world; `Program.Obeys.step` — that it
  does no more;
* `Contract.Maintains` — an invariant that such steps keep, and that makes good what the contract counts
  on; `Program.Obeys.visited`, `Obeys.run` — it holds at every step and at the end;
* `Published.obeys_describe`, `Finder.obeys_schema`, `Pusher.obeys_push` — the contracts of the programs.
-/

import CatalogSearch.Index.Finder
import CatalogSearch.Index.Push
import CatalogSearch.Proofs.Index.Runs

namespace CatalogSearch

/-- What a program may do, and what it may count on. -/
structure Contract where
  asks : ServiceCall → Prop := fun _ => True
  /-- The answers that it may count on. -/
  answers : (call : ServiceCall) → call.Answer → Prop := fun _ _ => True
  /-- What it may count on finding in the cache. -/
  finds : String → Option Schema → Prop := fun _ _ => True
  keeps : String → Schema → Prop := fun _ _ => True
  drops : String → Prop := fun _ => True

namespace Program

variable {α β : Type}

/-- **A program keeps to a contract** whatever it is told within it, and whatever it ends in is as
promised. -/
def Obeys (contract : Contract) (ends : α → Prop) : Program α → Prop
  | .done (.ok a) => ends a
  | .done (.error _) => True
  | .warn _ next => Obeys contract ends next
  | .ask call next =>
    contract.asks call ∧ (∀ error, Obeys contract ends (next (.error error))) ∧
      ∀ answer, contract.answers call answer → Obeys contract ends (next (.ok answer))
  | .lookup index next => ∀ found, contract.finds index found → Obeys contract ends (next found)
  | .insert index schema next => contract.keeps index schema ∧ Obeys contract ends next
  | .invalidate index next => contract.drops index ∧ Obeys contract ends next

variable {contract : Contract} {ends : α → Prop}

theorem Obeys.mono {weaker : α → Prop} {program : Program α} (obeys : program.Obeys contract ends)
    (weakens : ∀ a, ends a → weaker a) : program.Obeys contract weaker := by
  induction program with
  | done result =>
    cases result with
    | ok a => exact weakens a obeys
    | error error => trivial
  | warn warning next ih => exact ih obeys
  | ask call next ih =>
    exact ⟨obeys.1, fun error => ih _ (obeys.2.1 error), fun answer told => ih _ (obeys.2.2 answer told)⟩
  | lookup index next ih => exact fun found told => ih _ (obeys found told)
  | insert index schema next ih => exact ⟨obeys.1, ih obeys.2⟩
  | invalidate index next ih => exact ⟨obeys.1, ih obeys.2⟩

/-- **One program after another** keeps to a contract if the second does from what the first ends in. -/
theorem Obeys.bind {between : α → Prop} {ends : β → Prop} {first : Program α} {next : α → Program β}
    (obeys : first.Obeys contract between) (rest : ∀ a, between a → (next a).Obeys contract ends) :
    (first >>= next).Obeys contract ends := by
  show (Program.bind next first).Obeys contract ends
  induction first with
  | done result =>
    cases result with
    | ok a => exact rest a obeys
    | error error => trivial
  | warn warning _ ih => exact ih obeys
  | ask call _ ih =>
    exact ⟨obeys.1, fun error => ih _ (obeys.2.1 error), fun answer told => ih _ (obeys.2.2 answer told)⟩
  | lookup index _ ih => exact fun found told => ih _ (obeys found told)
  | insert index schema _ ih => exact ⟨obeys.1, ih obeys.2⟩
  | invalidate index _ ih => exact ⟨obeys.1, ih obeys.2⟩

theorem Obeys.andFinally {program : Program α} (obeys : program.Obeys contract ends) {index : String}
    (drops : contract.drops index) : (program.andFinally index).Obeys contract ends := by
  induction program with
  | done result => exact ⟨drops, obeys⟩
  | warn warning next ih => exact ih obeys
  | ask call next ih =>
    exact ⟨obeys.1, fun error => ih _ (obeys.2.1 error), fun answer told => ih _ (obeys.2.2 answer told)⟩
  | lookup name next ih => exact fun found told => ih _ (obeys found told)
  | insert name schema next ih => exact ⟨obeys.1, ih obeys.2⟩
  | invalidate name next ih => exact ⟨obeys.1, ih obeys.2⟩

theorem obeys_call {request : ServiceCall} {ends : request.Answer → Prop} (asks : contract.asks request)
    (answered : ∀ answer, contract.answers request answer → ends answer) :
    (call request).Obeys contract ends :=
  ⟨asks, fun _ => trivial, answered⟩

theorem obeys_warnAll (warnings : List Warning) {next : Program α}
    (obeys : next.Obeys contract ends) : (warnAll warnings next).Obeys contract ends := by
  induction warnings with
  | nil => exact obeys
  | cons warning rest ih => exact ih

theorem obeys_ofLogged {step : Logged ServiceError α} (ended : ∀ a, step.result = .ok a → ends a) :
    (ofLogged step).Obeys contract ends := by
  refine obeys_warnAll step.warnings ?_
  cases outcome : step.result with
  | ok a => exact ended a outcome
  | error error => trivial

end Program

/-! ### Steps -/

section Steps

variable {σ α : Type} (serve : (call : ServiceCall) → σ → Except ServiceError call.Answer × σ)

/-- **What a step under a contract can do**: let the service answer a call, change the cache, and no
more. -/
structure Contract.Allows (contract : Contract) (before after : World σ) : Prop where
  service : after.service = before.service ∨
    ∃ call, contract.asks call ∧ after.service = (serve call before.service).2
  cache : ∀ index, after.cache.peek? index = before.cache.peek? index ∨
    (∃ schema, contract.keeps index schema ∧ after.cache.peek? index = some schema) ∨
    (contract.drops index ∧ after.cache.peek? index = none)
  calls : ∃ calls, after.calls = before.calls ++ calls ∧ ∀ call ∈ calls, contract.asks call

/-- **A step of a program keeps to its contract**, if what the contract counts on is so. -/
theorem Program.Obeys.step {contract : Contract} {ends : α → Prop} {program : Program α}
    (obeys : program.Obeys contract ends) (world : World σ)
    (answers : ∀ call next, program = .ask call next → contract.asks call →
      ∀ answer, (serve call world.service).1 = .ok answer → contract.answers call answer)
    (finds : ∀ index, contract.finds index (world.cache.peek? index)) :
    (program.step (Handler.ofService serve) world).1.Obeys contract ends ∧
      contract.Allows serve world (program.step (Handler.ofService serve) world).2 := by
  cases program with
  | done result =>
    exact ⟨obeys, .inl rfl, fun _ => .inl rfl, [], (List.append_nil _).symm, List.forall_mem_nil _⟩
  | warn warning next =>
    exact ⟨obeys, .inl rfl, fun _ => .inl rfl, [], (List.append_nil _).symm, List.forall_mem_nil _⟩
  | ask call next =>
    obtain ⟨allowed, refused, answered⟩ := obeys
    refine ⟨?_, .inr ⟨call, allowed, rfl⟩, fun _ => .inl rfl, [call], rfl,
      List.forall_mem_singleton.mpr allowed⟩
    show Program.Obeys contract ends (next (serve call world.service).1)
    cases told : (serve call world.service).1 with
    | ok answer => exact answered answer (answers call next rfl allowed answer told)
    | error error => exact refused error
  | lookup index next =>
    refine ⟨?_, .inl rfl, fun other => .inl ?_, [], (List.append_nil _).symm, List.forall_mem_nil _⟩
    · show Program.Obeys contract ends (next (world.cache.lookup index).1)
      rw [SchemaCache.lookup_fst]
      exact obeys _ (finds index)
    · exact SchemaCache.peek?_lookup ..
  | insert index schema next =>
    refine ⟨obeys.2, .inl rfl, fun other => ?_, [], (List.append_nil _).symm, List.forall_mem_nil _⟩
    have kept := SchemaCache.peek?_insert world.cache index other schema
    by_cases same : index = other
    · exact .inr (.inl ⟨schema, same ▸ obeys.1, kept.trans (if_pos same)⟩)
    · exact .inl (kept.trans (if_neg same))
  | invalidate index next =>
    refine ⟨obeys.2, .inl rfl, fun other => ?_, [], (List.append_nil _).symm, List.forall_mem_nil _⟩
    have dropped := SchemaCache.peek?_invalidate world.cache index other
    by_cases same : index = other
    · exact .inr (.inr ⟨same ▸ obeys.1, dropped.trans (if_pos same)⟩)
    · exact .inl (dropped.trans (if_neg same))

/-- **An invariant of the steps under a contract**, from which everything follows that the contract
counts on. -/
structure Contract.Maintains (contract : Contract) (holds : World σ → Prop) : Prop where
  answers : ∀ world, holds world → ∀ call answer, contract.asks call →
    (serve call world.service).1 = .ok answer → contract.answers call answer
  finds : ∀ world, holds world → ∀ index, contract.finds index (world.cache.peek? index)
  step : ∀ before after, holds before → contract.Allows serve before after → holds after

variable {serve} {contract : Contract} {holds : World σ → Prop} {ends : α → Prop}

/-- **An invariant holds at every step.** -/
theorem Program.Obeys.visited (maintains : contract.Maintains serve holds) {program : Program α}
    (obeys : program.Obeys contract ends) {world : World σ} (start : holds world) (steps : Nat) :
    (program.visited (Handler.ofService serve) world steps).1.Obeys contract ends ∧
      holds (program.visited (Handler.ofService serve) world steps).2 := by
  induction steps generalizing program world with
  | zero => exact ⟨obeys, start⟩
  | succ steps ih =>
    obtain ⟨next, allowed⟩ := obeys.step serve world
      (fun call _ _ asks answer => maintains.answers world start call answer asks)
      (maintains.finds world start)
    rw [Program.visited_succ]
    exact ih next (maintains.step _ _ start allowed)

/-- **An invariant holds at the end**, and what a program ends in is as promised. -/
theorem Program.Obeys.run (maintains : contract.Maintains serve holds) {program : Program α}
    (obeys : program.Obeys contract ends) {world : World σ} (start : holds world) :
    (∀ a, (program.run (Handler.ofService serve) world).1 = .ok a → ends a) ∧
      holds (program.run (Handler.ofService serve) world).2 := by
  obtain ⟨steps, reached⟩ := program.exists_visited_run (Handler.ofService serve) world
  have ended := obeys.visited maintains start steps
  rw [reached] at ended
  refine ⟨fun a told => ?_, ended.2⟩
  rw [told] at ended
  exact ended.1

end Steps

/-! ### The contracts of the programs -/

section Programs

variable {contract : Contract} {index : String}

namespace Published

/-- What can be read of an index: no fields without the index or a mapping, or else those of the
mapping. -/
def reading (index : String) : Option (Option Json) → Except ServiceError CatalogSearch.Schema
  | some (some answer) => (schema index answer).result
  | _ => .ok .empty

theorem obeys_read {ends : CatalogSearch.Schema → Prop} (mapping : contract.asks (.getMapping index))
    (answered : ∀ answer, contract.answers (.getMapping index) answer →
      ∀ found, reading index (some answer) = .ok found → ends found) :
    (read index).Obeys contract ends := by
  refine (Program.obeys_call mapping fun _ told => told).bind fun answer told => ?_
  have answered := answered answer told
  cases answer with
  | none => exact answered .empty rfl
  | some answer => exact Program.obeys_ofLogged answered

/-- **An index is asked for, and its mapping if it is there.** -/
theorem obeys_describe {ends : CatalogSearch.Schema → Prop} (asks : contract.asks (.indexExists index))
    (absent : contract.answers (.indexExists index) false → ends .empty)
    (there : contract.answers (.indexExists index) true → (read index).Obeys contract ends) :
    (describe index).Obeys contract ends := by
  refine (Program.obeys_call asks fun _ told => told).bind fun present told => ?_
  cases present with
  | false => exact absent told
  | true => exact there told

end Published

namespace Finder

/-- **A schema is looked up, or else asked for and kept.** -/
theorem obeys_schema {ends : Schema → Prop} (hit : ∀ found, contract.finds index (some found) → ends found)
    (miss : contract.finds index none →
      (Published.describe index).Obeys contract fun found => contract.keeps index found ∧ ends found) :
    (schema index).Obeys contract ends := by
  intro found told
  cases found with
  | some found => exact hit found told
  | none => exact (miss told).bind fun _ fresh => fresh

theorem obeys_prepare (finder : Finder) (filter : Members Json) (sort : Option (Members Json))
    (options : Members Json) {between : Schema → Prop} (obeys : (schema index).Obeys contract between) :
    (finder.prepare index filter sort options).Obeys contract fun _ => True :=
  obeys.bind fun _ _ => Program.obeys_ofLogged fun _ _ => trivial

theorem obeys_search (finder : Finder) (filter : Members Json) (sort : Option (Members Json))
    (options : Members Json) {between : Schema → Prop} (obeys : (schema index).Obeys contract between)
    (asks : ∀ request, contract.asks (.search request)) :
    (finder.search index filter sort options).Obeys contract fun _ => True :=
  (finder.obeys_prepare filter sort options obeys).bind fun request _ =>
    Program.obeys_call (asks request) fun _ _ => trivial

end Finder

namespace Pusher

theorem obeys_remote (asked : contract.asks (.indexExists index))
    (read : contract.asks (.getMapping index)) (made : contract.asks (.createIndex index)) :
    (remote index).Obeys contract fun _ => True := by
  refine (Program.obeys_call asked fun _ told => told).bind fun present _ => ?_
  cases present with
  | false => exact (Program.obeys_call made fun _ told => told).bind fun _ _ => trivial
  | true => exact (Published.obeys_read read fun _ _ _ _ => trivial).bind fun _ _ => trivial

theorem obeys_raiseLimit (need : Nat) (asked : contract.asks (.getSettings index))
    (raised : contract.asks (.putLimit index need)) :
    (raiseLimit index need).Obeys contract fun _ => True := by
  have put : (Program.call (.putLimit index need) >>= fun _ => pure (some need)).Obeys contract
      fun _ => True :=
    (Program.obeys_call raised fun _ told => told).bind fun _ _ => trivial
  refine (Program.obeys_call asked fun _ told => told).bind fun settings _ => ?_
  cases Published.fieldLimit? index settings with
  | none => exact put
  | some limit =>
    show (if limit < need then _ else _ : Program (Option Nat)).Obeys contract _
    split
    · exact put
    · trivial

theorem obeys_sendMapping (lacking : Schema) (sends : ∀ mapping, contract.asks (.putMapping index mapping)) :
    (sendMapping index lacking).Obeys contract fun acknowledged => acknowledged = true →
      lacking.names ≠ [] → contract.answers (.putMapping index lacking.toMapping) true := by
  by_cases none : lacking.isEmpty = true
  · have sent : sendMapping index lacking = .pure true := if_pos none
    rw [sent]
    exact fun _ any => absurd (List.map_eq_nil_iff.mpr (List.isEmpty_iff.mp none)) any
  · have sent : sendMapping index lacking = .call (.putMapping index lacking.toMapping) := if_neg none
    rw [sent]
    exact Program.obeys_call (sends _) fun _ told taken _ => taken ▸ told

/-- **A push asks about its index, and keeps no schema.** What it reports to be added was sent, and the
answer to that can be counted on. -/
theorem obeys_push (asks : ∀ call, call.index = index → contract.asks call) (pusher : Pusher)
    (schema : Schema) (drops : contract.drops index) :
    (pusher.push index schema).Obeys contract fun report => report.acknowledged = true →
      report.added ≠ [] → ∃ lacking : Schema, report.added = lacking.names ∧
        contract.answers (.putMapping index lacking.toMapping) true := by
  have exchange : (pusher.exchange index schema).Obeys contract fun report =>
      report.acknowledged = true → report.added ≠ [] → ∃ lacking : Schema,
        report.added = lacking.names ∧ contract.answers (.putMapping index lacking.toMapping) true := by
    refine (obeys_remote (asks _ rfl) (asks _ rfl) (asks _ rfl)).bind fun remote _ => ?_
    refine (obeys_raiseLimit (pusher.need schema) (asks _ rfl) (asks _ rfl)).bind fun raised _ => ?_
    have sent := obeys_sendMapping (schema.difference remote.1) fun _ => asks _ rfl
    refine sent.bind fun acknowledged told => ?_
    exact fun taken any => ⟨_, rfl, told taken any⟩
  unfold push
  split
  · exact ⟨drops, exchange.andFinally drops⟩
  · exact exchange

end Pusher

end Programs
end CatalogSearch
