/-
**Which cached schemas outlive a push.**

A push drops the schema of its index before its calls and after them. A search that was told the old
mapping may still put it into the cache when the push has ended.

* `Additive` — a service whose indices gain fields and lose none; `Store.additive_serveGuarded` — a store
  that is one;
* `Contract.sending` — what a push reports to be added was taken by the service, so that
  `Shared.hasField_of_returned` it is there when the push ends;
* `Contract.fresh` — a search of an index with some fields keeps no schema without them, unless it has
  read one before (`Finding.obeys_fresh`);
* `Shared.Fresh.play` — no move brings a schema without these fields into the cache;
* `Shared.HitsContain`, `Shared.UpcomingContain` — some fields are in all schemas that can be found in the
  cache, or that searches are about to keep; `Shared.hits_contain_added_iff` — for the fields that a push
  added, these are the same when it ends;
* `Shared.stale_hit_after_push` — there is such a search in one order of the steps of two tasks.
-/

import CatalogSearch.Proofs.Index.Answers
import CatalogSearch.Proofs.Index.Interleaving
import CatalogSearch.Proofs.Schema.Definitions

namespace CatalogSearch

/-! ### Services that only add -/

/-- The definitions of an index, if it is there, have an object under a name. -/
def HasField (definitions : Option (Members Json)) (name : String) : Prop :=
  ∃ known members, definitions = some known ∧ known.get? name = some (.object members)

section Service

variable {σ : Type} (serve : (call : ServiceCall) → σ → Except ServiceError call.Answer × σ)

/-- **A service that only adds.** It answers what it has, it loses no field of an index, and what it
acknowledges is there. -/
structure Additive (definitions : σ → String → Option (Members Json)) : Prop where
  present : ∀ state index answer, (serve (.indexExists index) state).1 = .ok answer →
    answer = (definitions state index).isSome
  mapping : ∀ state index answer, (serve (.getMapping index) state).1 = .ok answer →
    ∀ known, definitions state index = some known → answer = some (Store.mappingAnswer index known)
  keeps : ∀ state call index name, HasField (definitions state index) name →
    HasField (definitions (serve call state).2 index) name
  adds : ∀ state index mapping, (serve (.putMapping index mapping) state).1 = .ok true →
    ∀ name members, (Store.definitionsOf mapping).get? name = some (.object members) →
      HasField (definitions (serve (.putMapping index mapping) state).2 index) name

end Service

namespace Store

/-- A store that refuses to create an index twice, and to take definitions that are no objects. -/
def serveGuarded (call : ServiceCall) (store : Store) : Except ServiceError call.Answer × Store :=
  match call with
  | .createIndex index =>
    if store.contains index then (.error (.status 400 "exists"), store)
    else store.serve (.createIndex index)
  | .putMapping index mapping =>
    if (definitionsOf mapping).all fun entry => entry.2.members?.isSome then
      store.serve (.putMapping index mapping)
    else (.error (.status 400 "malformed"), store)
  | call => store.serve call

/-- Objects laid over definitions leave or put an object under every name that has one. -/
theorem exists_get?_overlay {base upper : Members Json}
    (objects : ∀ entry ∈ upper, entry.2.members?.isSome = true) {name : String}
    (has : (∃ members, base.get? name = some (.object members)) ∨ name ∈ Members.names upper) :
    ∃ members, (Members.overlay base upper).get? name = some (.object members) := by
  induction upper generalizing base with
  | nil => exact has.resolve_right List.not_mem_nil
  | cons head rest ih =>
    obtain ⟨first, others⟩ := List.forall_mem_cons.mp objects
    obtain ⟨members, object⟩ := Option.isSome_iff_exists.mp first
    have object : head.2 = .object members := by
      cases value : head.2 <;> rw [value] at object <;> cases object
      rfl
    refine ih others ?_
    rw [Members.get?_insert]
    by_cases same : head.1 = name
    · exact .inl ⟨members, (if_pos same).trans (congrArg some object)⟩
    · rw [if_neg same]
      exact has.imp_right fun inside =>
        (List.mem_cons.mp inside).resolve_left fun here => same here.symm

theorem additive_serveGuarded : Additive serveGuarded fun store index => store.indices.get? index where
  present state index answer told := by
    cases told
    rfl
  mapping state index answer told known there := by
    cases told
    show (state.indices.get? index).map (mappingAnswer index) = _
    rw [there]
    rfl
  keeps state call index name has := by
    cases call with
    | createIndex other =>
      rw [serveGuarded]
      split
      · exact has
      · next absent =>
        have different : other ≠ index := by
          rintro rfl
          obtain ⟨known, _, there, _⟩ := has
          exact absent (by rw [contains, there]; rfl)
        rw [get?_indices_serve (.createIndex other) state index fun _ => different]
        exact has
    | putMapping other mapping =>
      rw [serveGuarded]
      split
      · next objects =>
        by_cases same : other = index
        · subst same
          rw [serve]
          split
          · obtain ⟨known, members, there, own⟩ := has
            have before : (state.definitions other).get? name = some (.object members) := by
              rw [definitions, there]
              exact own
            obtain ⟨left, now⟩ :=
              exists_get?_overlay (List.all_eq_true.mp objects) (.inl ⟨members, before⟩)
            exact ⟨_, left, (Members.get?_insert ..).trans (if_pos rfl), now⟩
          · exact has
        · rw [get?_indices_serve (.putMapping other mapping) state index fun _ => same]
          exact has
      · exact has
    | search request =>
      show HasField ((serve (.search request) state).2.indices.get? index) name
      rw [get?_indices_serve (.search request) state index fun write => absurd write Bool.false_ne_true]
      exact has
    | _ => exact has
  adds state index mapping told name members sent := by
    rw [serveGuarded] at told ⊢
    split at told
    · next objects =>
      rw [if_pos objects]
      rw [serve] at told ⊢
      split at told
      · next acknowledges =>
        rw [if_pos acknowledges]
        have listed : name ∈ Members.names (definitionsOf mapping) :=
          List.mem_map.mpr ⟨_, Members.mem_of_get? sent, rfl⟩
        obtain ⟨left, now⟩ := exists_get?_overlay (List.all_eq_true.mp objects) (.inr listed)
        exact ⟨_, left, (Members.get?_insert ..).trans (if_pos rfl), now⟩
      · cases told
    · cases told

end Store

theorem Schema.get?_toProperties (schema : Schema) (name : String) :
    schema.toProperties.get? name = (schema.find? name).map Property.toJson := by
  rw [toProperties, find?]
  induction schema.fields with
  | nil => rfl
  | cons field rest ih =>
    rw [List.map_cons, Members.get?, Members.get?]
    split
    · rfl
    · exact ih

/-! ### What pushes and searches leave out -/

namespace Contract

/-- **What a push may count on** if an index has no other fields in the end: that it takes only these. -/
def sending (index : String) (fields : String → Prop) : Contract where
  answers
    | .putMapping name mapping => fun taken => name = index → taken = true →
      ∀ field members, (Store.definitionsOf mapping).get? field = some (.object members) → fields field
    | _ => fun _ => True

/-- **What a search may count on** if an index has some fields, and what it keeps then. -/
def fresh (index : String) (fields : String → Prop) : Contract where
  answers
    | .indexExists name => fun present => name = index → ∀ field, fields field → present = true
    | .getMapping name => fun answer => name = index → ∀ field, fields field →
      ∃ known members, answer = some (Store.mappingAnswer index known) ∧
        known.get? field = some (.object members)
    | _ => fun _ => True
  keeps name schema := name = index → ∀ field, fields field → schema.contains field = true

end Contract

variable {index : String} {fields : String → Prop}

/-- What a push reports to be added is among the fields that the index has in the end. -/
theorem Pusher.obeys_push_sending (pusher : Pusher) (name : String) (schema : Schema) :
    (pusher.push name schema).Obeys (.sending index fields) fun report =>
      name = index → report.acknowledged = true → ∀ field ∈ report.added, fields field := by
  refine (Pusher.obeys_push (fun _ _ => trivial) pusher schema trivial).mono ?_
  intro report told same acknowledged field added
  obtain ⟨lacking, sent, taken⟩ := told acknowledged (List.ne_nil_of_mem added)
  rw [sent, ← Schema.contains_iff] at added
  obtain ⟨property, found⟩ := Option.isSome_iff_exists.mp added
  refine taken same rfl field property.toMembers ?_
  rw [Store.definitionsOf_toMapping, Schema.get?_toProperties, found]
  rfl

theorem Published.obeys_read_fresh (name : String) :
    (Published.read name).Obeys (.fresh index fields) ((Contract.fresh index fields).keeps name) := by
  refine Published.obeys_read trivial fun answer told found read same field wanted => ?_
  obtain ⟨known, members, rfl, there⟩ := told same field wanted
  subst same
  have read : (Published.schema name (Store.mappingAnswer name known)).result = .ok found := read
  rw [Published.result_schema_mappingAnswer] at read
  cases outcome : (Schema.ofProperties known).result with
  | error error =>
    rw [outcome] at read
    cases read
  | ok schema =>
    rw [outcome] at read
    cases read
    exact (Schema.contains_of_ofProperties outcome field).mpr ⟨members, Members.mem_of_get? there⟩

theorem Published.obeys_describe_fresh (name : String) :
    (Published.describe name).Obeys (.fresh index fields) ((Contract.fresh index fields).keeps name) :=
  Published.obeys_describe trivial
    (fun absent same field wanted => absurd (absent same field wanted) Bool.false_ne_true)
    fun _ => Published.obeys_read_fresh name

theorem Finder.obeys_schema_fresh (name : String) :
    (Finder.schema name).Obeys (.fresh index fields) fun _ => True :=
  Finder.obeys_schema (fun _ _ => trivial) fun _ =>
    (Published.obeys_describe_fresh name).mono fun _ kept => ⟨kept, trivial⟩

/-- **A search keeps no schema without the fields**, unless it is about to. -/
theorem Finding.obeys_fresh {name : String} {rest : Program Schema} (finding : Finding name rest)
    (upcoming : ∀ schema, rest.upcoming? = some schema →
      (Contract.fresh index fields).keeps name schema) :
    rest.Obeys (.fresh index fields) fun _ => True := by
  cases finding with
  | looking => exact Finder.obeys_schema_fresh name
  | asking => exact (Published.obeys_describe_fresh name).bind fun _ kept => ⟨kept, trivial⟩
  | reading => exact (Published.obeys_read_fresh name).bind fun _ kept => ⟨kept, trivial⟩
  | keeping warnings schema =>
    have kept := upcoming schema (Program.upcoming?_warnAll ..)
    exact Program.obeys_warnAll warnings ⟨kept, trivial⟩
  | ended warnings result =>
    refine Program.obeys_warnAll warnings ?_
    cases result <;> trivial

/-- The task keeps to what is sent, or to what is fresh. -/
def Task.Sends (index : String) (fields : String → Prop) : Task → Prop
  | find _ _ => True
  | push name rest => rest.Obeys (.sending index fields) fun report =>
    name = index → report.acknowledged = true → ∀ field ∈ report.added, fields field

/-- The task brings no schema of an index into the cache that lacks some fields. -/
def Task.KeepsFresh (index : String) (fields : String → Prop) : Task → Prop
  | find _ rest => rest.Obeys (.fresh index fields) fun _ => True
  | push _ rest => rest.Obeys .keepless fun _ => True

/-! ### Up to the end of a push -/

section Runs

variable {σ : Type} {serve : (call : ServiceCall) → σ → Except ServiceError call.Answer × σ}
  {definitions : σ → String → Option (Members Json)}

theorem Program.service_step {α : Type} (program : Program α) (world : World σ) :
    (program.step (Handler.ofService serve) world).2.service = world.service ∨
      ∃ call, (program.step (Handler.ofService serve) world).2.service = (serve call world.service).2 := by
  cases program with
  | ask call next => exact .inr ⟨call, rfl⟩
  | _ => exact .inl rfl

theorem Task.service_step (task : Task) (world : World σ) :
    (task.step (Handler.ofService serve) world).2.service = world.service ∨
      ∃ call, (task.step (Handler.ofService serve) world).2.service = (serve call world.service).2 := by
  cases task with
  | find name rest => exact rest.service_step world
  | push name rest => exact rest.service_step world

namespace Shared

/-- **No move loses a field.** -/
theorem hasField_play (additive : Additive serve definitions) {shared : Shared σ} (move : Move)
    {field : String} (has : HasField (definitions shared.world.service index) field) :
    HasField (definitions (shared.play (Handler.ofService serve) move).world.service index) field := by
  rcases shared.world_play (Handler.ofService serve) move with still | ⟨task, -, moved⟩
  · rw [still]
    exact has
  · rw [moved]
    rcases task.service_step shared.world with same | ⟨call, answered⟩
    · rw [same]
      exact has
    · rw [answered]
      exact additive.keeps _ call index field has

theorem hasField_playAll (additive : Additive serve definitions) {shared : Shared σ}
    (moves : List Move) {field : String}
    (has : HasField (definitions shared.world.service index) field) :
    HasField (definitions (shared.playAll (Handler.ofService serve) moves).world.service index)
      field := by
  induction moves generalizing shared with
  | nil => exact has
  | cons move rest ih => exact ih (hasField_play additive move has)

/-- **What pushes send is there in the end**, because no later move loses it. -/
theorem sends_playAll (additive : Additive serve definitions) (moves : List Move) {shared : Shared σ}
    (sends : ∀ task ∈ shared.tasks, task.Sends index fields)
    (has : ∀ field, HasField
      (definitions (shared.playAll (Handler.ofService serve) moves).world.service index) field →
        fields field) :
    ∀ task ∈ (shared.playAll (Handler.ofService serve) moves).tasks, task.Sends index fields := by
  -- The fields are those of the last state, and fixed: what a step has put by then is still there.
  induction moves generalizing shared with
  | nil => exact sends
  | cons move rest ih =>
    refine ih (forall_tasks_play sends (fun _ => trivial)
      (fun minLimit name schema => Pusher.obeys_push_sending ⟨true, minLimit⟩ name schema) ?_) has
    intro task _ moved sends
    cases task with
    | find name rest => trivial
    | push name left =>
      refine (Program.Obeys.step serve sends shared.world ?_ fun _ => trivial).1
      intro call next same _ answer told
      cases call with
      | putMapping other mapping =>
        rintro rfl rfl field members sent
        refine has field (hasField_playAll additive rest ?_)
        have taken := additive.adds shared.world.service other mapping told field members sent
        rw [moved]
        subst same
        exact taken
      | _ => trivial

/-- **When a push ends, what it reports to be added is there**, and the cache has no schema of the
index. -/
theorem hasField_of_returned (additive : Additive serve definitions) {before : Shared σ}
    (reached : before.Reached (Handler.ofService serve)) {n : Nat} {rest : Program PushReport}
    (running : before.tasks[n]? = some (.push index rest)) (unfinished : rest.isDone = false)
    {report : PushReport}
    (returned : (before.go (Handler.ofService serve) n).tasks[n]? =
      some (.push index (.done (.ok report))))
    (acknowledged : report.acknowledged = true) :
    (before.go (Handler.ofService serve) n).world = before.world.dropped index ∧
      ∀ field ∈ report.added, HasField (definitions before.world.service index) field := by
  have inside := List.mem_of_getElem? running
  have ended : (rest.step (Handler.ofService serve) before.world).1 = .done (.ok report) := by
    have stepped := (getElem?_go (Handler.ofService serve) running).symm.trans returned
    exact (Task.push.inj (Option.some.inj stepped)).2
  have last := (reached.placed _ inside).1.eq_of_step_eq_done unfinished ended
  subst last
  refine ⟨congrArg world (go_of_some _ running), ?_⟩
  obtain ⟨state, moves, rfl⟩ := reached
  have sends : ∀ task ∈
      (playAll (Handler.ofService serve) { world := { service := state } } moves).tasks,
      task.Sends index _ :=
    sends_playAll additive moves (List.forall_mem_nil _) fun _ has => has
  exact (sends _ inside).2 rfl acknowledged

/-! ### From the end of a push on -/

/-- **From here on the index and every schema of it in the cache have some fields**, and no task is about
to change that. -/
structure Fresh (definitions : σ → String → Option (Members Json)) (index : String)
    (fields : String → Prop) (shared : Shared σ) : Prop where
  tasks : ∀ task ∈ shared.tasks, task.KeepsFresh index fields
  service : ∀ field, fields field → HasField (definitions shared.world.service index) field
  cache : ∀ schema, shared.world.cache.peek? index = some schema →
    ∀ field, fields field → schema.contains field = true

end Shared

/-- **A step of such a task** brings no schema of the index into the cache that lacks the fields. -/
theorem Task.KeepsFresh.step (additive : Additive serve definitions) {task : Task}
    (keeps : task.KeepsFresh index fields) {world : World σ}
    (service : ∀ field, fields field → HasField (definitions world.service index) field) :
    (task.step (Handler.ofService serve) world).1.KeepsFresh index fields ∧
      ∀ schema, (task.step (Handler.ofService serve) world).2.cache.peek? index = some schema →
        world.cache.peek? index = some schema ∨ ∀ field, fields field → schema.contains field = true := by
  cases task with
  | push name rest =>
    obtain ⟨next, allowed⟩ :=
      Program.Obeys.step serve keeps world (fun _ _ _ _ _ _ => trivial) fun _ => trivial
    refine ⟨next, fun schema kept => .inl ?_⟩
    rcases allowed.cache index with still | ⟨_, never, _⟩ | ⟨_, now⟩
    · exact still ▸ kept
    · exact never.elim
    · cases now.symm.trans kept
  | find name rest =>
    have told : ∀ call next, rest = .ask call next → (Contract.fresh index fields).asks call →
        ∀ answer, (serve call world.service).1 = .ok answer →
          (Contract.fresh index fields).answers call answer := by
      intro call next _ _ answer told
      cases call with
      | indexExists other =>
        rintro rfl field wanted
        obtain ⟨known, members, there, _⟩ := service field wanted
        rw [additive.present _ _ _ told, there]
        rfl
      | getMapping other =>
        rintro rfl field wanted
        obtain ⟨known, members, there, has⟩ := service field wanted
        exact ⟨known, members, additive.mapping _ _ _ told known there, has⟩
      | _ => trivial
    obtain ⟨next, allowed⟩ := Program.Obeys.step serve keeps world told fun _ => trivial
    refine ⟨next, fun schema kept => ?_⟩
    rcases allowed.cache index with still | ⟨fresh, has, now⟩ | ⟨_, now⟩
    · exact .inl (still ▸ kept)
    · cases now.symm.trans kept
      exact .inr (has rfl)
    · cases now.symm.trans kept

namespace Shared

/-- **A move keeps it so.** -/
theorem Fresh.play (additive : Additive serve definitions) {shared : Shared σ}
    (fresh : shared.Fresh definitions index fields) (move : Move) :
    (shared.play (Handler.ofService serve) move).Fresh definitions index fields where
  tasks := forall_tasks_play fresh.tasks Finder.obeys_schema_fresh
    (fun minLimit name schema => (Pusher.obeys_push (fun _ _ => trivial) ⟨true, minLimit⟩ schema
      trivial).mono fun _ _ => trivial)
    fun _ _ _ keeps => (keeps.step additive fresh.service).1
  service field wanted := hasField_play additive move (fresh.service field wanted)
  cache schema kept := by
    rcases shared.world_play (Handler.ofService serve) move with still | ⟨task, inside, moved⟩
    · exact fresh.cache schema (still ▸ kept)
    · rw [moved] at kept
      rcases ((fresh.tasks task inside).step additive fresh.service).2 schema kept with old | has
      · exact fresh.cache schema old
      · exact has

theorem Fresh.playAll (additive : Additive serve definitions) (moves : List Move) {shared : Shared σ}
    (fresh : shared.Fresh definitions index fields) :
    (shared.playAll (Handler.ofService serve) moves).Fresh definitions index fields := by
  induction moves generalizing shared with
  | nil => exact fresh
  | cons move rest ih => exact ih (fresh.play additive move)

/-- **Every schema of an index that can be found in the cache has some fields**, from here on, whenever no
push to the index is under way. -/
def HitsContain (handler : Handler σ) (index : String) (fields : List String) (shared : Shared σ) : Prop :=
  ∀ moves, (shared.playAll handler moves).Alone index →
    ∀ schema, (shared.playAll handler moves).world.cache.peek? index = some schema →
      ∀ field ∈ fields, schema.contains field = true

/-- Every schema that a search of an index is about to keep has some fields. -/
def UpcomingContain (index : String) (fields : List String) (shared : Shared σ) : Prop :=
  ∀ rest, .find index rest ∈ shared.tasks → ∀ schema, rest.upcoming? = some schema →
    ∀ field ∈ fields, schema.contains field = true

/-- **After a push, the cache has the fields that it added**, whenever no push to the index is under way,
if and only if no search of the index stands before keeping a schema without them when the push ends. -/
theorem hits_contain_added_iff (additive : Additive serve definitions) {before : Shared σ}
    (reached : before.Reached (Handler.ofService serve)) {n : Nat} {rest : Program PushReport}
    (running : before.tasks[n]? = some (.push index rest)) (unfinished : rest.isDone = false)
    {report : PushReport}
    (returned : (before.go (Handler.ofService serve) n).tasks[n]? =
      some (.push index (.done (.ok report))))
    (acknowledged : report.acknowledged = true) :
    (before.go (Handler.ofService serve) n).HitsContain (Handler.ofService serve) index report.added ↔
      (before.go (Handler.ofService serve) n).UpcomingContain index report.added := by
  obtain ⟨world, has⟩ := hasField_of_returned additive reached running unfinished returned acknowledged
  have placed := (reached.go n).placed
  constructor
  · -- The pushes to the index are let to their ends, and then the search is let to keep its schema.
    intro hits left member schema upcoming
    obtain ⟨m, there⟩ := List.mem_iff_getElem?.mp member
    obtain ⟨pushes, alone, finds⟩ :=
      exists_alone (Handler.ofService serve) index (before.go (Handler.ofService serve) n)
    obtain ⟨moves, last, tasks, kept⟩ := exists_kept_of_upcoming (Handler.ofService serve)
      (finds m index left there) (placed _ member) upcoming
    rw [← playAll_append] at tasks kept
    refine hits (pushes ++ moves) (fun other inside => ?_) schema kept
    rw [tasks] at inside
    rcases List.mem_or_eq_of_mem_set inside with old | new
    · exact alone other old
    · cases new
  · -- The cache has no schema of the index now, and from here on none without the fields comes.
    intro upcoming moves _
    have fresh : (before.go (Handler.ofService serve) n).Fresh definitions index (· ∈ report.added) := by
      refine ⟨fun task member => ?_, fun field added => ?_, fun schema kept => ?_⟩
      · cases task with
        | push name left => exact (placed _ member).2
        | find name left =>
          refine Finding.obeys_fresh (placed _ member) fun schema about same field added => ?_
          subst same
          exact upcoming left member schema about field added
      · rw [world]
        exact has field added
      · rw [world] at kept
        cases (before.world.peek?_dropped index).symm.trans kept
    exact (fresh.playAll additive moves).cache

end Shared

end Runs

/-- A search of an index with one field, and a push of a second one to it, whose steps come in some
order. -/
def Shared.contest (steps : List Nat) : Shared Store :=
  playAll (Handler.ofService Store.serveGuarded)
    { world := { service :=
      { indices := [("products", [("ID", .object [("type", .string "integer")])])] } } }
    ([ .find "products",
       .push 0 "products" ⟨[("ID", .ofKind .integer), ("NAME", .ofKind .keyword)], by decide⟩ ] ++
      steps.map .go)

/-- A search keeps the old schema while a push is under way. The push drops it at its end, and no later
hit lacks the new field. -/
theorem Shared.hits_contain_added_midway :
    (contest [1, 0, 0, 0, 0, 1, 1, 1, 1]).world.cache.peek? "products" =
        some ⟨[("ID", .ofKind .integer)], by decide⟩ ∧
      ((contest [1, 0, 0, 0, 0, 1, 1, 1, 1]).go (Handler.ofService Store.serveGuarded) 1).HitsContain
        (Handler.ofService Store.serveGuarded) "products" ["NAME"] := by
  have reached : (contest [1, 0, 0, 0, 0, 1, 1, 1, 1]).Reached (Handler.ofService Store.serveGuarded) :=
    ⟨_, _, rfl⟩
  have running : (contest [1, 0, 0, 0, 0, 1, 1, 1, 1]).tasks[1]? = some (.push "products"
      (.invalidate "products" (.done (.ok ⟨false, ["NAME"], none, true⟩)))) := rfl
  have ended : ((contest [1, 0, 0, 0, 0, 1, 1, 1, 1]).go (Handler.ofService Store.serveGuarded) 1).tasks =
      [ .find "products" (.done (.ok ⟨[("ID", .ofKind .integer)], by decide⟩)),
        .push "products" (.done (.ok ⟨false, ["NAME"], none, true⟩)) ] := rfl
  have returned : ((contest [1, 0, 0, 0, 0, 1, 1, 1, 1]).go (Handler.ofService Store.serveGuarded)
      1).tasks[1]? = some (.push "products" (.done (.ok ⟨false, ["NAME"], none, true⟩))) := by
    rw [ended]
    rfl
  refine ⟨rfl, (hits_contain_added_iff Store.additive_serveGuarded reached running rfl returned
    rfl).mpr fun rest member schema upcoming => ?_⟩
  rw [ended] at member
  simp only [List.mem_cons, List.not_mem_nil, or_false, reduceCtorEq] at member
  cases member
  cases upcoming

/-- **A schema that is read before a push writes can be kept after the push has ended.** The search is told
the mapping of the index before the push puts a field into it, and keeps what it was told after the push
has dropped the schema of the index for the second time. -/
theorem Shared.stale_hit_after_push :
    (contest [0, 0, 0, 1, 1, 1, 1, 1, 1]).tasks[1]? =
        some (.push "products" (.done (.ok ⟨false, ["NAME"], none, true⟩))) ∧
      ¬ (contest [0, 0, 0, 1, 1, 1, 1, 1, 1]).HitsContain (Handler.ofService Store.serveGuarded)
        "products" ["NAME"] := by
  have later : ((contest [0, 0, 0, 1, 1, 1, 1, 1, 1]).playAll (Handler.ofService Store.serveGuarded)
      [.go 0]).tasks = [ .find "products" (.done (.ok ⟨[("ID", .ofKind .integer)], by decide⟩)),
        .push "products" (.done (.ok ⟨false, ["NAME"], none, true⟩)) ] := rfl
  have hit : ((contest [0, 0, 0, 1, 1, 1, 1, 1, 1]).playAll (Handler.ofService Store.serveGuarded)
      [.go 0]).world.cache.peek? "products" = some ⟨[("ID", .ofKind .integer)], by decide⟩ := rfl
  refine ⟨rfl, fun contain => ?_⟩
  have named := contain [.go 0] (alone_of_done later) _ hit "NAME" (List.mem_singleton.mpr rfl)
  cases named

end CatalogSearch
