/-
**Pushing a schema adds what is missing, once.**

A push to a store that takes new definitions leaves every definition as it is and puts the lacking
fields behind them. A second push of the same schema finds nothing to do.

* `Store.Publishes`, `Store.Suffices` — the index has these definitions; its limit is high enough;
* `Pusher.of_run_remote`, `of_run_raiseLimit`, `of_run_sendMapping` — what each part of a push leaves
  behind, from which `Pusher.of_run_push` says what a whole one does;
* `Pusher.Settled` — what a schema needs is there; `Pusher.run_push_of_settled` — then a push makes no
  call that writes;
* `Pusher.push_additive_and_convergent` — both together.
-/

import CatalogSearch.Index.Push
import CatalogSearch.Proofs.Index.Answers
import CatalogSearch.Proofs.Index.Runs
import CatalogSearch.Proofs.Schema.Definitions

namespace CatalogSearch

namespace Store

/-- The index is there and has these definitions. -/
def Publishes (store : Store) (index : String) (definitions : Members Json) : Prop :=
  store.indices.get? index = some definitions

/-- The limit of an index can be read and is no less than what is needed. -/
def Suffices (store : Store) (index : String) (need : Nat) : Prop :=
  ∃ limit, Published.fieldLimit? index (store.settingsAnswer index) = some limit ∧ need ≤ limit

theorem Publishes.definitions_eq {store : Store} {index : String} {definitions : Members Json}
    (published : store.Publishes index definitions) : store.definitions index = definitions := by
  rw [Store.definitions, published]
  rfl

theorem publishes_publish (store : Store) (index : String) (definitions : Members Json) :
    (store.publish index definitions).Publishes index definitions :=
  (Members.get?_insert store.indices index index definitions).trans (if_pos rfl)

theorem Suffices.publish {store : Store} {index : String} {need : Nat}
    (enough : store.Suffices index need) (definitions : Members Json) :
    (store.publish index definitions).Suffices index need := by
  have same : (store.publish index definitions).settingsAnswer index = store.settingsAnswer index := rfl
  rw [Suffices, same]
  exact enough

/-- A limit within a word suffices once it is put. -/
theorem suffices_of_put (store : Store) (index : String) {need : Nat}
    (fits : need < 18446744073709551616) :
    ({ store with limits := store.limits.insert index need } : Store).Suffices index need := by
  refine ⟨need, ?_, Nat.le_refl need⟩
  rw [Published.fieldLimit?_settingsAnswer]
  have put : (store.limits.insert index need).get? index = some need :=
    (Members.get?_insert ..).trans (if_pos rfl)
  rw [put, Option.bind_some, Numeral.natural?_toString fits, Option.some_or]

end Store

namespace Schema

/-- Of definitions that are all objects, every one is a field. -/
theorem contains_eq_of_ofProperties {definitions : Members Json} {found : Schema}
    (read : (ofProperties definitions).result = .ok found)
    (objects : ∀ entry ∈ definitions, ∃ members, entry.2 = .object members) (name : String) :
    found.contains name = (definitions.get? name).isSome := by
  rw [Bool.eq_iff_iff, contains_of_ofProperties read, Members.isSome_get?_iff, Members.names,
    List.mem_map]
  constructor
  · rintro ⟨members, inside⟩
    exact ⟨_, inside, rfl⟩
  · rintro ⟨entry, inside, rfl⟩
    obtain ⟨members, object⟩ := objects entry inside
    exact ⟨members, object ▸ inside⟩

theorem names_difference (schema other : Schema) :
    (schema.difference other).names = schema.names.filter fun name => !other.contains name := by
  rw [names, names, Members.names, Members.names, List.filter_map]
  rfl

theorem difference_eq_empty {schema other : Schema}
    (complete : ∀ name ∈ schema.names, other.contains name = true) :
    schema.difference other = .empty := by
  have none : (schema.difference other).fields = [] := by
    refine List.filter_eq_nil_iff.mpr fun field inside => ?_
    simp [complete field.1 (List.mem_map_of_mem inside)]
  exact (mk.injEq ..).mpr none

theorem names_toProperties (schema : Schema) : Members.names schema.toProperties = schema.names := by
  rw [toProperties, Members.names, List.map_map]
  rfl

end Schema

namespace Pusher

variable {index : String} {world after : World Store}

/-! ### The parts of a push -/

theorem run_call_of_serve {request : ServiceCall} {answer : Except ServiceError request.Answer}
    {store : Store} (served : Store.serve request world.service = (answer, store)) :
    (Program.call request).run Store.handler world =
      (answer, { world.called request with service := store }) := by
  show ((Store.serve request world.service).1,
    { world.called request with service := (Store.serve request world.service).2 }) = _
  rw [served]

theorem run_read (world : World Store) {definitions : Members Json}
    (there : world.service.Publishes index definitions) :
    ∃ warnings, (Published.read index).run Store.handler world =
      ((Schema.ofProperties definitions).result.mapError .refused,
        (world.called (.getMapping index)).notedAll warnings) := by
  have answered : (Program.call (.getMapping index)).run Store.handler world =
      (.ok (some (Store.mappingAnswer index definitions)), world.called (.getMapping index)) :=
    run_call_of_serve (by rw [Store.serve, there]; rfl)
  refine ⟨(Published.schema index (Store.mappingAnswer index definitions)).warnings, ?_⟩
  refine (Program.run_bind_of_ok Store.handler answered).trans ?_
  refine (Program.run_ofLogged ..).trans ?_
  rw [Published.result_schema_mappingAnswer]

theorem run_remote_of_absent (absent : world.service.indices.get? index = none) :
    (remote index).run Store.handler world =
      (.ok (.empty, true), { (world.called (.indexExists index)).called (.createIndex index) with
        service := world.service.publish index [] }) := by
  have answered : (Program.call (.indexExists index)).run Store.handler world =
      (.ok false, world.called (.indexExists index)) :=
    run_call_of_serve (by rw [Store.serve, Store.contains, absent]; rfl)
  exact (Program.run_bind_of_ok Store.handler answered).trans rfl

theorem run_remote_of_publishes {definitions : Members Json}
    (there : world.service.Publishes index definitions) :
    ∃ warnings, (remote index).run Store.handler world =
      (((Schema.ofProperties definitions).result.mapError .refused).map (·, false),
        ((world.called (.indexExists index)).called (.getMapping index)).notedAll warnings) := by
  have answered : (Program.call (.indexExists index)).run Store.handler world =
      (.ok true, world.called (.indexExists index)) :=
    run_call_of_serve (by rw [Store.serve, Store.contains, there]; rfl)
  obtain ⟨warnings, read⟩ := run_read (world.called (.indexExists index)) there
  refine ⟨warnings, (Program.run_bind_of_ok Store.handler answered).trans ?_⟩
  refine (Program.run_bind ..).trans ?_
  rw [read]
  cases (Schema.ofProperties definitions).result <;> rfl

/-- **After the first part of a push** the index is there, with the definitions it had before. -/
theorem of_run_remote {published : Schema} {created : Bool}
    (ran : (remote index).run Store.handler world = (.ok (published, created), after)) :
    after.service.Publishes index (world.service.definitions index) ∧
      (Schema.ofProperties (world.service.definitions index)).result = .ok published ∧
      after.service.acknowledges = world.service.acknowledges := by
  cases there : world.service.indices.get? index with
  | none =>
    have none : world.service.definitions index = [] := by rw [Store.definitions, there]; rfl
    cases (run_remote_of_absent there).symm.trans ran
    rw [none]
    exact ⟨Store.publishes_publish .., rfl, rfl⟩
  | some definitions =>
    have there : world.service.Publishes index definitions := there
    obtain ⟨warnings, reads⟩ := run_remote_of_publishes there
    rw [there.definitions_eq]
    cases read : (Schema.ofProperties definitions).result with
    | error error =>
      rw [read] at reads
      cases reads.symm.trans ran
    | ok found =>
      rw [read] at reads
      cases reads.symm.trans ran
      exact ⟨there, rfl, rfl⟩

theorem run_raiseLimit_of_suffices {need : Nat} (enough : world.service.Suffices index need) :
    (raiseLimit index need).run Store.handler world = (.ok none, world.called (.getSettings index)) := by
  obtain ⟨limit, read, reaches⟩ := enough
  have answered : (Program.call (.getSettings index)).run Store.handler world =
      (.ok (world.service.settingsAnswer index), world.called (.getSettings index)) := rfl
  refine (Program.run_bind_of_ok Store.handler answered).trans ?_
  rw [read]
  show (if limit < need then _ else _ : Program (Option Nat)).run Store.handler _ = _
  rw [if_neg (Nat.not_lt.mpr reaches)]
  rfl

theorem run_raiseLimit_of_not_suffices {need : Nat}
    (short : ¬ world.service.Suffices index need) :
    (raiseLimit index need).run Store.handler world =
      (.ok (some need), { (world.called (.getSettings index)).called (.putLimit index need) with
        service := { world.service with limits := world.service.limits.insert index need } }) := by
  have answered : (Program.call (.getSettings index)).run Store.handler world =
      (.ok (world.service.settingsAnswer index), world.called (.getSettings index)) := rfl
  refine (Program.run_bind_of_ok Store.handler answered).trans ?_
  cases read : Published.fieldLimit? index (world.service.settingsAnswer index) with
  | none => rfl
  | some limit =>
    have low : limit < need := Nat.not_le.mp fun reaches => short ⟨limit, read, reaches⟩
    show (if limit < need then _ else _ : Program (Option Nat)).run Store.handler _ = _
    rw [if_pos low]
    rfl

/-- **After the second part of a push** the limit suffices. -/
theorem of_run_raiseLimit {need : Nat} (fits : need < 18446744073709551616) {raised : Option Nat}
    (ran : (raiseLimit index need).run Store.handler world = (.ok raised, after)) :
    after.service.Suffices index need ∧ after.service.indices = world.service.indices ∧
      after.service.acknowledges = world.service.acknowledges := by
  by_cases enough : world.service.Suffices index need
  · cases (run_raiseLimit_of_suffices enough).symm.trans ran
    exact ⟨enough, rfl, rfl⟩
  · cases (run_raiseLimit_of_not_suffices enough).symm.trans ran
    exact ⟨Store.suffices_of_put _ _ fits, rfl, rfl⟩

/-- **After the last part of a push** the lacking fields lie over the definitions. -/
theorem of_run_sendMapping {lacking : Schema} {definitions : Members Json} {need : Nat}
    (there : world.service.Publishes index definitions)
    (enough : world.service.Suffices index need)
    (acknowledges : world.service.acknowledges = true) {acknowledged : Bool}
    (ran : (sendMapping index lacking).run Store.handler world = (.ok acknowledged, after)) :
    after.service.Publishes index (Members.overlay definitions lacking.toProperties) ∧
      after.service.Suffices index need ∧ acknowledged = true := by
  cases none : lacking.isEmpty with
  | true =>
    have sent : sendMapping index lacking = .pure true := if_pos none
    rw [sent] at ran
    cases ran
    have none : lacking.toProperties = [] := by
      rw [Schema.toProperties, List.isEmpty_iff.mp none, List.map_nil]
    rw [none]
    exact ⟨there, enough, rfl⟩
  | false =>
    have sent : sendMapping index lacking = .call (.putMapping index lacking.toMapping) :=
      if_neg (Bool.eq_false_iff.mp none)
    rw [sent] at ran
    have served : Store.serve (.putMapping index lacking.toMapping) world.service =
        (.ok true, world.service.publish index
          (Members.overlay definitions lacking.toProperties)) := by
      rw [Store.serve, if_pos acknowledges, there.definitions_eq, Store.definitionsOf_toMapping]
    cases (run_call_of_serve served).symm.trans ran
    exact ⟨Store.publishes_publish .., enough.publish _, rfl⟩

/-! ### Whole pushes -/

/-- **After a push** the index has the definitions it had before and, behind them, those of the fields
that it lacked. -/
theorem of_run_exchange (pusher : Pusher) {schema : Schema}
    (fits : pusher.need schema < 18446744073709551616)
    (objects : ∀ entry ∈ world.service.definitions index, ∃ members, entry.2 = .object members)
    (acknowledges : world.service.acknowledges = true) {report : PushReport}
    (ran : (pusher.exchange index schema).run Store.handler world = (.ok report, after)) :
    ∃ published, (Schema.ofProperties (world.service.definitions index)).result = .ok published ∧
      report.added = (schema.difference published).names ∧
      after.service.Publishes index
        (world.service.definitions index ++ (schema.difference published).toProperties) ∧
      after.service.Suffices index (pusher.need schema) := by
  obtain ⟨⟨published, created⟩, reached, first, ran⟩ := (Program.run_bind_eq_ok Store.handler).mp ran
  obtain ⟨raised, enlarged, second, ran⟩ := (Program.run_bind_eq_ok Store.handler).mp ran
  obtain ⟨acknowledged, sent, third, ran⟩ := (Program.run_bind_eq_ok Store.handler).mp ran
  cases ran
  obtain ⟨there, read, same⟩ := of_run_remote first
  obtain ⟨enough, kept, still⟩ := of_run_raiseLimit fits second
  have there : enlarged.service.Publishes index (world.service.definitions index) := by
    rw [Store.Publishes, kept]
    exact there
  obtain ⟨overlaid, enough, -⟩ :=
    of_run_sendMapping there enough (still.trans (same.trans acknowledges)) third
  -- The names of the lacking fields are new and distinct: laid over the others, they stand behind them.
  refine ⟨published, read, rfl, ?_, enough⟩
  rwa [Members.overlay_eq_append] at overlaid
  · rw [Schema.names_toProperties]
    exact (schema.difference published).distinct
  · intro name lacked there
    rw [Schema.names_toProperties, Schema.names_difference, List.mem_filter,
      Schema.contains_eq_of_ofProperties read objects, Members.isSome_get?_iff.mpr there] at lacked
    exact Bool.false_ne_true lacked.2

/-- **What a schema needs is there**: definitions that can be read, of every field, and a limit. -/
def Settled (pusher : Pusher) (index : String) (schema : Schema) (store : Store) : Prop :=
  ∃ definitions published, store.Publishes index definitions ∧
    (Schema.ofProperties definitions).result = .ok published ∧
    (∀ name ∈ schema.names, published.contains name = true) ∧
    store.Suffices index (pusher.need schema)

/-- Where everything is there, a push only asks. -/
theorem run_exchange_of_settled (world : World Store) {pusher : Pusher} {schema : Schema}
    (settled : pusher.Settled index schema world.service) :
    ∃ again, (pusher.exchange index schema).run Store.handler world =
        (.ok ⟨false, [], none, true⟩, again) ∧
      again.service = world.service ∧
      again.calls = world.calls ++ [.indexExists index, .getMapping index, .getSettings index] := by
  obtain ⟨definitions, published, there, read, complete, enough⟩ := settled
  obtain ⟨warnings, reads⟩ := run_remote_of_publishes there
  rw [read] at reads
  refine ⟨(((world.called (.indexExists index)).called (.getMapping index)).notedAll warnings).called
    (.getSettings index), ?_, rfl, ?_⟩
  · refine (Program.run_bind_of_ok Store.handler reads).trans ?_
    have enough : ((world.called (.indexExists index)).called (.getMapping index)).notedAll warnings
      |>.service.Suffices index (pusher.need schema) := enough
    refine (Program.run_bind_of_ok Store.handler (run_raiseLimit_of_suffices enough)).trans ?_
    rw [Schema.difference_eq_empty complete]
    rfl
  · simp [World.called, World.notedAll]

/-- A push drops the cached schema before and after its calls, or not at all. -/
theorem run_push (pusher : Pusher) (index : String) (schema : Schema) (world : World Store) :
    (pusher.push index schema).run Store.handler world =
      if pusher.dropsCached then
        (((pusher.exchange index schema).run Store.handler (world.dropped index)).1,
          ((pusher.exchange index schema).run Store.handler (world.dropped index)).2.dropped index)
      else (pusher.exchange index schema).run Store.handler world := by
  unfold push
  split
  · exact Program.run_andFinally Store.handler index _ (world.dropped index)
  · rfl

/-- What holds of the calls of a push from any cache holds of the push. -/
theorem exists_run_exchange {pusher : Pusher} {schema : Schema} {report : PushReport}
    (ran : (pusher.push index schema).run Store.handler world = (.ok report, after)) :
    ∃ start reached, start.service = world.service ∧ start.calls = world.calls ∧
      (pusher.exchange index schema).run Store.handler start = (.ok report, reached) ∧
      after.service = reached.service ∧ after.calls = reached.calls := by
  rw [run_push] at ran
  split at ran
  · rcases outcome : (pusher.exchange index schema).run Store.handler (world.dropped index) with
      ⟨result, reached⟩
    rw [outcome] at ran
    cases ran
    exact ⟨world.dropped index, reached, rfl, rfl, outcome, rfl, rfl⟩
  · exact ⟨world, after, rfl, rfl, ran, rfl, rfl⟩

/-- **Where everything is there, a push only asks**, and reports nothing new. -/
theorem run_push_of_settled {pusher : Pusher} {schema : Schema}
    (settled : pusher.Settled index schema world.service) :
    ∃ again, (pusher.push index schema).run Store.handler world =
        (.ok ⟨false, [], none, true⟩, again) ∧
      again.service = world.service ∧
      again.calls = world.calls ++ [.indexExists index, .getMapping index, .getSettings index] := by
  rw [run_push]
  split
  · obtain ⟨again, ran, service, calls⟩ := run_exchange_of_settled (world.dropped index) settled
    rw [ran]
    exact ⟨again.dropped index, rfl, service, calls⟩
  · exact run_exchange_of_settled world settled

/-- A push that succeeds leaves everything there that its schema needs. -/
theorem settled_append {pusher : Pusher} {schema published : Schema} {definitions : Members Json}
    {store : Store} (built : schema.Built)
    (read : (Schema.ofProperties definitions).result = .ok published)
    (there : store.Publishes index (definitions ++ (schema.difference published).toProperties))
    (enough : store.Suffices index (pusher.need schema)) : pusher.Settled index schema store := by
  have rest : (schema.difference published).Built := built.difference published
  have readable : Schema.AreReadable
      (definitions ++ (schema.difference published).toProperties) := by
    intro entry member
    rcases List.mem_append.mp member with before | added
    · exact Schema.exists_ofProperties_iff.mp ⟨published, read⟩ entry before
    · exact rest.areReadable_toProperties entry added
  obtain ⟨found, reads⟩ := Schema.exists_ofProperties_iff.mpr readable
  refine ⟨_, found, there, reads, fun name wanted => ?_, enough⟩
  rw [Schema.contains_of_ofProperties reads]
  -- A field of the schema was there before, or it was lacking and stands behind.
  by_cases known : published.contains name = true
  · obtain ⟨members, before⟩ := (Schema.contains_of_ofProperties read name).mp known
    exact ⟨members, List.mem_append_left _ before⟩
  · obtain ⟨field, inside, rfl⟩ := List.mem_map.mp wanted
    refine ⟨field.2.toMembers, List.mem_append_right _ (List.mem_map.mpr ⟨field, ?_, rfl⟩)⟩
    exact List.mem_filter.mpr ⟨inside, by simpa using known⟩

/-- **Pushes are additive and converge.** On a store whose definitions are objects and that takes new
ones, a push that succeeds keeps every definition, adds those of the fields that the index lacked, and
leaves the same push nothing to do. -/
theorem push_additive_and_convergent (pusher : Pusher) (index : String) {schema : Schema}
    (built : schema.Built) (fits : pusher.need schema < 18446744073709551616) (world : World Store)
    (objects : ∀ entry ∈ world.service.definitions index, ∃ members, entry.2 = .object members)
    (acknowledges : world.service.acknowledges = true) {report : PushReport} {after : World Store}
    (pushed : (pusher.push index schema).run Store.handler world = (.ok report, after)) :
    (∀ name definition, (world.service.definitions index).get? name = some definition →
        (after.service.definitions index).get? name = some definition) ∧
      (∀ name ∈ schema.names, ((after.service.definitions index).get? name).isSome = true) ∧
      (∀ name ∈ report.added, ∃ property, schema.find? name = some property ∧
        (after.service.definitions index).get? name = some property.toJson) ∧
      report.added = schema.names.filter
        (fun name => ((world.service.definitions index).get? name).isNone) ∧
      ∃ again calls, (pusher.push index schema).run Store.handler after =
          (.ok ⟨false, [], none, true⟩, again) ∧
        again.service = after.service ∧ again.calls = after.calls ++ calls ∧
        ∀ call ∈ calls, call.isWrite = false := by
  obtain ⟨start, reached, service, -, ran, same, -⟩ := exists_run_exchange pushed
  rw [← service] at objects acknowledges ⊢
  obtain ⟨published, read, added, there, enough⟩ := of_run_exchange pusher fits objects acknowledges ran
  rw [← same] at there enough
  have lacks := Schema.contains_eq_of_ofProperties read objects
  have settled := settled_append built read there enough
  have kept : ∀ name definition, (start.service.definitions index).get? name = some definition →
      (after.service.definitions index).get? name = some definition := by
    intro name definition before
    rw [there.definitions_eq, Members.get?_append, before, Option.some_or]
  have sent : ∀ name ∈ report.added, ∃ property, schema.find? name = some property ∧
      (after.service.definitions index).get? name = some property.toJson := by
    intro name member
    rw [added] at member
    obtain ⟨field, inside, rfl⟩ := List.mem_map.mp member
    obtain ⟨own, lacking⟩ := List.mem_filter.mp inside
    have absent : (start.service.definitions index).get? field.1 = none := by
      rw [lacks] at lacking
      simpa using lacking
    refine ⟨field.2, Members.get?_of_mem schema.distinct own, ?_⟩
    rw [there.definitions_eq, Members.get?_append, absent, Option.none_or]
    refine Members.get?_of_mem ?_ (List.mem_map.mpr ⟨field, inside, rfl⟩)
    rw [Schema.names_toProperties]
    exact (schema.difference published).distinct
  have order : report.added = schema.names.filter
      fun name => ((start.service.definitions index).get? name).isNone := by
    rw [added, Schema.names_difference]
    refine List.filter_congr fun name _ => ?_
    rw [lacks]
    cases (start.service.definitions index).get? name <;> rfl
  refine ⟨kept, fun name wanted => ?_, sent, order, ?_⟩
  · cases before : (start.service.definitions index).get? name with
    | some definition => rw [kept name definition before]; rfl
    | none =>
      obtain ⟨property, -, now⟩ := sent name
        (order ▸ List.mem_filter.mpr ⟨wanted, by rw [before]; rfl⟩)
      rw [now]
      rfl
  · obtain ⟨again, pushed, unchanged, calls⟩ := run_push_of_settled settled
    refine ⟨again, _, pushed, unchanged, calls, ?_⟩
    simp [ServiceCall.isWrite]

/-- An index with a field of another type keeps it, gets the field it lacks and a higher limit. -/
theorem push_additive_and_convergent_products :
    let pusher : Pusher := ⟨true, 2000⟩
    let schema : Schema :=
      (Schema.empty.insert "ID" (.ofKind (.ofName "integer"))).insert "NAME"
        (.ofKind (.ofName "keyword"))
    let world : World Store :=
      { service := { indices := [("products", [("ID", .object [("type", .string "long")])])] } }
    ∃ after, (pusher.push "products" schema).run Store.handler world =
        (.ok ⟨false, ["NAME"], some 2000, true⟩, after) ∧
      (after.service.definitions "products").get? "ID" = some (.object [("type", .string "long")]) ∧
      ∃ again calls, (pusher.push "products" schema).run Store.handler after =
          (.ok ⟨false, [], none, true⟩, again) ∧
        again.service = after.service ∧ again.calls = after.calls ++ calls ∧
        ∀ call ∈ calls, call.isWrite = false := by
  intro pusher schema world
  have built : schema.Built :=
    (Schema.Made.empty.insert "ID" (.new "integer")).insert "NAME" (.new "keyword")
  have objects : ∀ entry ∈ world.service.definitions "products",
      ∃ members, entry.2 = .object members := by
    simp [world, Store.definitions, Members.get?]
  have pushed : (pusher.push "products" schema).run Store.handler world =
      (.ok ⟨false, ["NAME"], some 2000, true⟩,
        ((pusher.push "products" schema).run Store.handler world).2) := Prod.ext rfl rfl
  obtain ⟨kept, -, -, -, settled⟩ := push_additive_and_convergent pusher "products" built
    (by decide) world objects rfl pushed
  exact ⟨_, pushed, kept "ID" _ rfl, settled⟩

end Pusher
end CatalogSearch
