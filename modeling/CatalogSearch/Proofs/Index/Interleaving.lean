/-
**Searches and pushes at once.**

Any number of searches for schemas and of pushes share a cache and a service. Each takes its steps one by
one, and they may come in any order.

* `Task`, `Shared` — what is under way, and what it shares; `Move`, `Shared.play` — a task begins, or
  takes a step; `Shared.Reached` — what moves lead to from nothing under way;
* `Shared.forall_tasks_play`, `Shared.world_play` — what a move does to the tasks and to the world;
* `Finding` — how far a search can be; `Pushing` — how far a push can be; `Task.Placed.step` — a step
  leads from one such place to another, so that `Shared.Reached.placed` every task is in one;
* `Pushing.eq_of_step_eq_done` — the last step of a push drops the schema of its index;
* `Shared.exists_alone`, `Shared.exists_kept_of_upcoming` — pushes end if they are let to, with the
  searches where they are, and a search that is about to keep a schema keeps it.
-/

import CatalogSearch.Proofs.Index.Contracts

namespace CatalogSearch

/-- A search for the schema of an index or a push to one, and what is left of it. -/
inductive Task where
  | find (index : String) (rest : Program Schema)
  | push (index : String) (rest : Program PushReport)

/-- Tasks, under way or done, and the service and cache that they share. -/
structure Shared (σ : Type) where
  tasks : List Task := []
  world : World σ

/-- What can happen next: a search begins, a push begins with a least limit, or a task takes a step. -/
inductive Move where
  | find (index : String)
  | push (minLimit : Nat) (index : String) (schema : Schema)
  | go (task : Nat)

variable {σ : Type}

def Task.step (handler : Handler σ) (task : Task) (world : World σ) : Task × World σ :=
  match task with
  | find index rest => (find index (rest.step handler world).1, (rest.step handler world).2)
  | push index rest => (push index (rest.step handler world).1, (rest.step handler world).2)

namespace Shared

def go (handler : Handler σ) (shared : Shared σ) (n : Nat) : Shared σ :=
  match shared.tasks[n]? with
  | some task =>
    ⟨shared.tasks.set n (task.step handler shared.world).1, (task.step handler shared.world).2⟩
  | none => shared

def play (handler : Handler σ) (shared : Shared σ) : Move → Shared σ
  | .find index => { shared with tasks := shared.tasks ++ [.find index (Finder.schema index)] }
  | .push minLimit index schema =>
    { shared with tasks := shared.tasks ++ [.push index (Pusher.push ⟨true, minLimit⟩ index schema)] }
  | .go n => shared.go handler n

/-- What moves lead to, one after another. -/
def playAll (handler : Handler σ) (shared : Shared σ) (moves : List Move) : Shared σ :=
  moves.foldl (play handler) shared

/-- What moves lead to from nothing under way and an empty cache. -/
def Reached (handler : Handler σ) (shared : Shared σ) : Prop :=
  ∃ state moves, shared = playAll handler { world := { service := state } } moves

variable {handler : Handler σ}

theorem playAll_append (handler : Handler σ) (shared : Shared σ) (first rest : List Move) :
    shared.playAll handler (first ++ rest) = (shared.playAll handler first).playAll handler rest :=
  List.foldl_append

theorem go_of_some (handler : Handler σ) {shared : Shared σ} {n : Nat} {task : Task}
    (there : shared.tasks[n]? = some task) :
    shared.go handler n =
      ⟨shared.tasks.set n (task.step handler shared.world).1, (task.step handler shared.world).2⟩ := by
  rw [go, there]

theorem getElem?_go (handler : Handler σ) {shared : Shared σ} {n : Nat} {task : Task}
    (there : shared.tasks[n]? = some task) :
    (shared.go handler n).tasks[n]? = some (task.step handler shared.world).1 := by
  rw [go_of_some handler there]
  exact List.getElem?_set_self (List.getElem?_eq_some_iff.mp there).1

theorem go_of_none (handler : Handler σ) {shared : Shared σ} {n : Nat}
    (absent : shared.tasks[n]? = none) :
    shared.go handler n = shared := by
  rw [go, absent]

theorem Reached.go {shared : Shared σ} (reached : shared.Reached handler) (n : Nat) :
    (shared.go handler n).Reached handler := by
  obtain ⟨state, moves, rfl⟩ := reached
  refine ⟨state, moves ++ [.go n], ?_⟩
  rw [playAll_append]
  rfl

/-- What holds of tasks at their beginning and is kept by their steps holds of all of them. -/
theorem forall_tasks_play {P : Task → Prop} {shared : Shared σ} (each : ∀ task ∈ shared.tasks, P task)
    (finds : ∀ index, P (.find index (Finder.schema index)))
    (pushes : ∀ minLimit index schema, P (.push index (Pusher.push ⟨true, minLimit⟩ index schema)))
    {move : Move} (steps : ∀ task ∈ shared.tasks,
      (shared.play handler move).world = (task.step handler shared.world).2 →
      P task → P (task.step handler shared.world).1) :
    ∀ task ∈ (shared.play handler move).tasks, P task := by
  have begun : ∀ task, P task → ∀ other ∈ shared.tasks ++ [task], P other := by
    intro task fresh other member
    rcases List.mem_append.mp member with old | new
    · exact each other old
    · exact List.mem_singleton.mp new ▸ fresh
  cases move with
  | find index => exact begun _ (finds index)
  | push minLimit index schema => exact begun _ (pushes minLimit index schema)
  | go n =>
    show ∀ task ∈ (shared.go handler n).tasks, P task
    cases there : shared.tasks[n]? with
    | none =>
      rw [go_of_none handler there]
      exact each
    | some task =>
      have moved := congrArg world (go_of_some handler there)
      rw [go_of_some handler there]
      intro other member
      have inside := List.mem_of_getElem? there
      rcases List.mem_or_eq_of_mem_set member with old | rfl
      · exact each other old
      · exact steps task inside moved (each task inside)

theorem forall_tasks_playAll {P : Task → Prop}
    (finds : ∀ index, P (.find index (Finder.schema index)))
    (pushes : ∀ minLimit index schema, P (.push index (Pusher.push ⟨true, minLimit⟩ index schema)))
    (steps : ∀ task world, P task → P (task.step handler world).1) (moves : List Move)
    {shared : Shared σ} (each : ∀ task ∈ shared.tasks, P task) :
    ∀ task ∈ (shared.playAll handler moves).tasks, P task := by
  induction moves generalizing shared with
  | nil => exact each
  | cons move rest ih =>
    exact ih (forall_tasks_play each finds pushes fun task _ _ holds => steps task _ holds)

/-- The world changes by a step of a task, or not at all. -/
theorem world_play (handler : Handler σ) (shared : Shared σ) (move : Move) :
    (shared.play handler move).world = shared.world ∨
      ∃ task ∈ shared.tasks, (shared.play handler move).world = (task.step handler shared.world).2 := by
  cases move with
  | find index => exact .inl rfl
  | push minLimit index schema => exact .inl rfl
  | go n =>
    cases there : shared.tasks[n]? with
    | none => exact .inl (congrArg world (go_of_none handler there))
    | some task =>
      exact .inr ⟨task, List.mem_of_getElem? there, congrArg world (go_of_some handler there)⟩

end Shared

/-! ### Where searches and pushes stand -/

namespace Program

variable {α β : Type}

theorem bind_warnAll (warnings : List Warning) (program : Program α) (next : α → Program β) :
    (warnAll warnings program).bind next = warnAll warnings (program.bind next) := by
  induction warnings with
  | nil => rfl
  | cons warning rest ih => exact congrArg (Program.warn warning) ih

def isDone : Program α → Bool
  | .done _ => true
  | .warn _ _ | .ask _ _ | .lookup _ _ | .insert _ _ _ | .invalidate _ _ => false

/-- The schema that a program is about to keep, after warnings at most. -/
def upcoming? : Program α → Option Schema
  | .insert _ schema _ => some schema
  | .warn _ next => next.upcoming?
  | .done _ | .ask _ _ | .lookup _ _ | .invalidate _ _ => none

theorem upcoming?_warnAll (warnings : List Warning) (program : Program α) :
    (warnAll warnings program).upcoming? = program.upcoming? := by
  induction warnings with
  | nil => rfl
  | cons warning rest ih => exact ih

theorem andFinally_ne_done (program : Program α) (index : String) (result : Except ServiceError α) :
    program.andFinally index ≠ .done result := by
  cases program <;> exact nofun

end Program

/-- **How far a search for a schema can be.** -/
inductive Finding (index : String) : Program Schema → Prop where
  | looking : Finding index (Finder.schema index)
  | asking : Finding index
      ((Published.describe index).bind fun schema => .insert index schema (.pure schema))
  | reading : Finding index
      ((Published.read index).bind fun schema => .insert index schema (.pure schema))
  | keeping (warnings : List Warning) (schema : Schema) :
      Finding index (.warnAll warnings (.insert index schema (.pure schema)))
  | ended (warnings : List Warning) (result : Except ServiceError Schema) :
      Finding index (.warnAll warnings (.done result))

/-- **How far a push can be.** -/
inductive Pushing (index : String) : Program PushReport → Prop where
  | started (rest : Program PushReport) : Pushing index (.invalidate index (rest.andFinally index))
  /-- It has not dropped the schema of the index for the second time. -/
  | going (rest : Program PushReport) : Pushing index (rest.andFinally index)
  | ended (result : Except ServiceError PushReport) : Pushing index (.done result)

section Steps

variable {serve : (call : ServiceCall) → σ → Except ServiceError call.Answer × σ} {index : String}

theorem finding_of_logged (step : Logged ServiceError Schema) :
    Finding index
      ((Program.ofLogged step).bind fun schema => .insert index schema (.pure schema)) := by
  rw [Program.ofLogged, Program.bind_warnAll]
  cases step.result with
  | ok schema => exact .keeping step.warnings schema
  | error error => exact .ended step.warnings (.error error)

/-- **A step of a search** leads from one place to another. -/
theorem Finding.step {rest : Program Schema} (finding : Finding index rest) (world : World σ) :
    Finding index (rest.step (Handler.ofService serve) world).1 := by
  cases finding with
  | looking =>
    rw [Finder.schema, Program.step]
    rcases world.cache.lookup index with ⟨found, after⟩
    cases found with
    | some schema => exact .ended [] (.ok schema)
    | none => exact .asking
  | asking =>
    show Finding index
      (Program.bind _ (Program.bind _ (.done (serve (.indexExists index) world.service).1)))
    cases (serve (.indexExists index) world.service).1 with
    | error error => exact .ended [] (.error error)
    | ok present =>
      cases present with
      | false => exact .keeping [] .empty
      | true => exact .reading
  | reading =>
    show Finding index
      (Program.bind _ (Program.bind _ (.done (serve (.getMapping index) world.service).1)))
    cases (serve (.getMapping index) world.service).1 with
    | error error => exact .ended [] (.error error)
    | ok answer =>
      cases answer with
      | none => exact .keeping [] .empty
      | some answer => exact finding_of_logged (Published.schema index answer)
  | keeping warnings schema =>
    cases warnings with
    | nil => exact .ended [] (.ok schema)
    | cons warning rest => exact .keeping rest schema
  | ended warnings result =>
    cases warnings with
    | nil => exact .ended [] result
    | cons warning rest => exact .ended rest result

/-- **A step of a push** leads from one place to another. -/
theorem Pushing.step {handler : Handler σ} {rest : Program PushReport} (pushing : Pushing index rest)
    (world : World σ) : Pushing index (rest.step handler world).1 := by
  cases pushing with
  | started rest => exact .going rest
  | going rest =>
    cases rest with
    | done result => exact .ended result
    | warn warning next => exact .going next
    | ask call next => exact .going (next _)
    | lookup name next => exact .going (next _)
    | insert name schema next => exact .going next
    | invalidate name next => exact .going next
  | ended result => exact .ended result

/-- **The last step of a push drops the schema of its index.** -/
theorem Pushing.eq_of_step_eq_done {handler : Handler σ} {rest : Program PushReport}
    (pushing : Pushing index rest) (running : rest.isDone = false) {world : World σ}
    {result : Except ServiceError PushReport} (ended : (rest.step handler world).1 = .done result) :
    rest = .invalidate index (.done result) := by
  cases pushing with
  | started rest => exact absurd ended (rest.andFinally_ne_done index result)
  | going rest =>
    cases rest with
    | done other =>
      cases ended
      rfl
    | warn warning next => exact absurd ended (next.andFinally_ne_done index result)
    | ask call next => exact absurd ended (Program.andFinally_ne_done _ index result)
    | lookup name next => exact absurd ended (Program.andFinally_ne_done _ index result)
    | insert name schema next => exact absurd ended (next.andFinally_ne_done index result)
    | invalidate name next => exact absurd ended (next.andFinally_ne_done index result)
  | ended other => cases running

/-- A push keeps no schema. -/
def Contract.keepless : Contract where
  keeps _ _ := False

/-- **Where a task can be.** A push keeps no schema from there. -/
def Task.Placed : Task → Prop
  | find index rest => Finding index rest
  | push index rest => Pushing index rest ∧ rest.Obeys .keepless fun _ => True

theorem Task.Placed.step {task : Task} (placed : task.Placed) (world : World σ) :
    (task.step (Handler.ofService serve) world).1.Placed := by
  cases task with
  | find index rest => exact Finding.step placed world
  | push index rest =>
    obtain ⟨pushing, obeys⟩ := placed
    exact ⟨pushing.step world, (obeys.step serve world (fun _ _ _ _ _ _ => trivial) fun _ => trivial).1⟩

/-- **Every task is in such a place.** -/
theorem Shared.Reached.placed {shared : Shared σ} (reached : shared.Reached (Handler.ofService serve)) :
    ∀ task ∈ shared.tasks, task.Placed := by
  obtain ⟨state, moves, rfl⟩ := reached
  refine Shared.forall_tasks_playAll (fun _ => .looking) (fun minLimit index schema => ?_)
    (fun _ world placed => placed.step world) moves (List.forall_mem_nil _)
  refine ⟨.started _, ?_⟩
  exact (Pusher.obeys_push (fun _ _ => trivial) ⟨true, minLimit⟩ schema trivial).mono fun _ _ => trivial

end Steps

/-! ### Tasks that are let go on -/

namespace Shared

variable {index : String}

/-- No push to an index is under way. -/
def Alone (index : String) (shared : Shared σ) : Prop :=
  ∀ rest, .push index rest ∈ shared.tasks → rest.isDone = true

theorem alone_of_done {shared : Shared σ} {found : Except ServiceError Schema}
    {report : Except ServiceError PushReport}
    (done : shared.tasks = [.find index (.done found), .push index (.done report)]) :
    shared.Alone index := by
  intro rest member
  rw [done] at member
  simp only [List.mem_cons, List.not_mem_nil, or_false, reduceCtorEq, false_or] at member
  cases member
  rfl

theorem tasks_playAll_replicate (handler : Handler σ) (steps : Nat) {shared : Shared σ} {n : Nat}
    {name : String} {rest : Program PushReport} (there : shared.tasks[n]? = some (.push name rest)) :
    (shared.playAll handler (List.replicate steps (.go n))).tasks =
      shared.tasks.set n (.push name (rest.visited handler shared.world steps).1) := by
  induction steps generalizing shared rest with
  | zero =>
    obtain ⟨inside, same⟩ := List.getElem?_eq_some_iff.mp there
    exact (same ▸ List.set_getElem_self inside).symm
  | succ steps ih =>
    refine (ih (getElem?_go handler there)).trans ?_
    rw [go_of_some handler there, List.set_set, Program.visited_succ]
    rfl

/-- A push ends if it is let. -/
theorem exists_done_of_push (handler : Handler σ) {shared : Shared σ} {n : Nat} {name : String}
    {rest : Program PushReport} (there : shared.tasks[n]? = some (.push name rest)) :
    ∃ moves result,
      (shared.playAll handler moves).tasks = shared.tasks.set n (.push name (.done result)) := by
  obtain ⟨steps, stopped⟩ := rest.exists_visited_run handler shared.world
  have tasks := tasks_playAll_replicate handler steps there
  rw [stopped] at tasks
  exact ⟨List.replicate steps (.go n), _, tasks⟩

/-- The pushes to an index among the first tasks have ended, and the searches are where they were. -/
structure Ended (index : String) (k : Nat) (shared after : Shared σ) : Prop where
  pushes : ∀ m : Nat, m < k → ∀ rest, after.tasks[m]? = some (.push index rest) → rest.isDone = true
  finds : ∀ (m : Nat) name left, shared.tasks[m]? = some (.find name left) →
    after.tasks[m]? = some (.find name left)
  length : after.tasks.length = shared.tasks.length

theorem exists_ended (handler : Handler σ) (index : String) (shared : Shared σ) (k : Nat) :
    ∃ moves, Ended index k shared (shared.playAll handler moves) := by
  induction k with
  | zero => exact ⟨[], nofun, fun _ _ _ there => there, rfl⟩
  | succ k ih =>
    obtain ⟨moves, ended⟩ := ih
    by_cases push : ∃ name rest, (shared.playAll handler moves).tasks[k]? = some (.push name rest)
    · obtain ⟨name, rest, there⟩ := push
      obtain ⟨others, result, tasks⟩ := exists_done_of_push handler there
      rw [← playAll_append] at tasks
      refine ⟨moves ++ others, fun m below left here => ?_, fun m other left here => ?_, ?_⟩
      · rw [tasks] at here
        rcases Nat.lt_succ_iff_lt_or_eq.mp below with before | rfl
        · rw [List.getElem?_set_ne (Nat.ne_of_gt before)] at here
          exact ended.pushes m before left here
        · rw [List.getElem?_set_self (List.getElem?_eq_some_iff.mp there).1] at here
          cases here
          rfl
      · have still := ended.finds m other left here
        have different : k ≠ m := by
          rintro rfl
          cases there.symm.trans still
        rw [tasks, List.getElem?_set_ne different]
        exact still
      · rw [tasks, List.length_set]
        exact ended.length
    · refine ⟨moves, fun m below left here => ?_, ended.finds, ended.length⟩
      rcases Nat.lt_succ_iff_lt_or_eq.mp below with before | rfl
      · exact ended.pushes m before left here
      · exact absurd ⟨index, left, here⟩ push

/-- **All pushes to an index end if they are let**, and the searches stay where they are. -/
theorem exists_alone (handler : Handler σ) (index : String) (shared : Shared σ) :
    ∃ moves, (shared.playAll handler moves).Alone index ∧
      ∀ (m : Nat) name left, shared.tasks[m]? = some (.find name left) →
        (shared.playAll handler moves).tasks[m]? = some (.find name left) := by
  obtain ⟨moves, ended⟩ := exists_ended handler index shared shared.tasks.length
  refine ⟨moves, fun rest member => ?_, ended.finds⟩
  obtain ⟨m, there⟩ := List.mem_iff_getElem?.mp member
  exact ended.pushes m (ended.length ▸ (List.getElem?_eq_some_iff.mp there).1) rest there

/-- A search that has only to warn and keep a schema keeps it, if it is let. -/
theorem exists_kept_of_keeping (handler : Handler σ) (warnings : List Warning) {schema : Schema}
    {shared : Shared σ} {n : Nat} (there : shared.tasks[n]? =
      some (.find index (.warnAll warnings (.insert index schema (.pure schema))))) :
    ∃ moves left, (shared.playAll handler moves).tasks = shared.tasks.set n (.find index left) ∧
      (shared.playAll handler moves).world.cache.peek? index = some schema := by
  induction warnings generalizing shared with
  | nil =>
    refine ⟨[.go n], .pure schema, congrArg tasks (go_of_some handler there), ?_⟩
    have kept := SchemaCache.peek?_insert shared.world.cache index index schema
    exact (congrArg (·.world.cache.peek? index) (go_of_some handler there)).trans
      (kept.trans (if_pos rfl))
  | cons warning rest ih =>
    have next : (shared.go handler n).tasks[n]? =
        some (.find index (.warnAll rest (.insert index schema (.pure schema)))) :=
      getElem?_go handler there
    obtain ⟨moves, left, tasks, kept⟩ := ih next
    refine ⟨.go n :: moves, left, tasks.trans ?_, kept⟩
    rw [go_of_some handler there]
    exact List.set_set ..

theorem exists_kept_of_upcoming (handler : Handler σ) {shared : Shared σ} {n : Nat}
    {rest : Program Schema} (there : shared.tasks[n]? = some (.find index rest))
    (finding : Finding index rest) {schema : Schema} (upcoming : rest.upcoming? = some schema) :
    ∃ moves left, (shared.playAll handler moves).tasks = shared.tasks.set n (.find index left) ∧
      (shared.playAll handler moves).world.cache.peek? index = some schema := by
  cases finding with
  | looking => cases upcoming
  | asking => cases upcoming
  | reading => cases upcoming
  | keeping warnings kept =>
    cases (Program.upcoming?_warnAll ..).symm.trans upcoming
    exact exists_kept_of_keeping handler warnings there
  | ended warnings result => cases (Program.upcoming?_warnAll ..).symm.trans upcoming

end Shared
end CatalogSearch
