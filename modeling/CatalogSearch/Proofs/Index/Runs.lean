/-
**Runs of programs.**

* `Program.run_bind`, `run_andFinally`, `run_ofLogged` — the run of a composed program, from the runs of
  its parts;
* `Program.run_bind_eq_ok` — a composed program succeeds when its parts do, one after the other;
* `Program.run_call_bind_ofService` — a program that begins with a call;
* `Program.visited` — where a program stands after some of its steps; `Program.exists_visited_run` — a
  run is steps up to the end.
-/

import CatalogSearch.Index.Program
import Mathlib.Logic.Function.Iterate

namespace CatalogSearch

namespace World

variable {σ : Type}

def notedAll (world : World σ) (warnings : List Warning) : World σ :=
  { world with warnings := world.warnings ++ warnings }

/-- The world after the cached schema of an index is dropped. -/
def dropped (world : World σ) (index : String) : World σ :=
  { world with cache := (world.cache.invalidate index).2 }

theorem peek?_dropped (world : World σ) (index : String) :
    (world.dropped index).cache.peek? index = none :=
  (SchemaCache.peek?_invalidate ..).trans (if_pos rfl)

end World

namespace Program

variable {α β σ : Type} (handler : Handler σ)

theorem run_call (request : ServiceCall) (world : World σ) :
    (call request).run handler world = handler request (world.called request) := rfl

/-- **One program runs after another**, unless the first one fails. -/
theorem run_bind (first : Program α) (next : α → Program β) (world : World σ) :
    (first >>= next).run handler world =
      match first.run handler world with
      | (.ok a, after) => (next a).run handler after
      | (.error error, after) => (.error error, after) := by
  show (bind next first).run handler world = _
  induction first generalizing world with
  | done result => cases result <;> rfl
  | warn warning rest ih => exact ih _
  | ask request rest ih => exact ih _ _
  | lookup index rest ih => exact ih _ _
  | insert index schema rest ih => exact ih _
  | invalidate index rest ih => exact ih _

theorem run_bind_of_ok {first : Program α} {next : α → Program β} {world middle : World σ} {a : α}
    (ran : first.run handler world = (.ok a, middle)) :
    (first >>= next).run handler world = (next a).run handler middle := by
  rw [run_bind, ran]

theorem run_bind_eq_ok {first : Program α} {next : α → Program β} {world after : World σ} {b : β} :
    (first >>= next).run handler world = (.ok b, after) ↔
      ∃ a middle, first.run handler world = (.ok a, middle) ∧
        (next a).run handler middle = (.ok b, after) := by
  rw [run_bind]
  rcases first.run handler world with ⟨result, middle⟩
  cases result with
  | error error => simp
  | ok a =>
    constructor
    · exact fun rest => ⟨a, middle, rfl, rest⟩
    · rintro ⟨_, _, same, rest⟩
      cases same
      exact rest

/-- **A last step is taken whatever the result.** -/
theorem run_andFinally (index : String) (program : Program α) (world : World σ) :
    (program.andFinally index).run handler world =
      ((program.run handler world).1, (program.run handler world).2.dropped index) := by
  induction program generalizing world with
  | done result => rfl
  | warn warning rest ih => exact ih _
  | ask request rest ih => exact ih _ _
  | lookup name rest ih => exact ih _ _
  | insert name schema rest ih => exact ih _
  | invalidate name rest ih => exact ih _

theorem run_warnAll (warnings : List Warning) (next : Program α) (world : World σ) :
    (warnAll warnings next).run handler world = next.run handler (world.notedAll warnings) := by
  induction warnings generalizing world with
  | nil => simp [warnAll, World.notedAll]
  | cons warning rest ih =>
    have later := ih (world.noted warning)
    simp only [World.noted, World.notedAll, List.append_assoc, List.singleton_append] at later
    exact later

theorem run_ofLogged (step : Logged ServiceError α) (world : World σ) :
    (ofLogged step).run handler world = (step.result, world.notedAll step.warnings) :=
  run_warnAll handler step.warnings (.done step.result) world

/-- What comes of a call decides what comes of a program that begins with it. -/
theorem run_call_bind_ofService
    (serve : (call : ServiceCall) → σ → Except ServiceError call.Answer × σ) (request : ServiceCall)
    (next : request.Answer → Program β) (world : World σ) :
    (call request >>= next).run (Handler.ofService serve) world =
      match (serve request world.service).1 with
      | .ok answer => (next answer).run (Handler.ofService serve)
          { world.called request with service := (serve request world.service).2 }
      | .error error =>
        (.error error, { world.called request with service := (serve request world.service).2 }) := by
  rw [run_bind, run_call, Handler.ofService, World.called]
  rcases serve request world.service with ⟨answer, state⟩
  cases answer <;> rfl

/-! ### Step by step -/

/-- **Where a program stands after some steps**, with nothing in between. -/
def visited (program : Program α) (world : World σ) (steps : Nat) : Program α × World σ :=
  (fun state => state.1.step handler state.2)^[steps] (program, world)

theorem visited_succ (program : Program α) (world : World σ) (steps : Nat) :
    program.visited handler world (steps + 1) =
      (program.step handler world).1.visited handler (program.step handler world).2 steps :=
  Function.iterate_succ_apply _ _ _

/-- **A run is steps up to the end.** -/
theorem exists_visited_run (program : Program α) (world : World σ) :
    ∃ steps, program.visited handler world steps =
      (.done (program.run handler world).1, (program.run handler world).2) := by
  induction program generalizing world with
  | done result => exact ⟨0, rfl⟩
  | warn warning rest ih =>
    obtain ⟨steps, reached⟩ := ih (world.noted warning)
    exact ⟨steps + 1, (visited_succ ..).trans reached⟩
  | ask request rest ih =>
    obtain ⟨steps, reached⟩ := ih _ (handler request (world.called request)).2
    exact ⟨steps + 1, (visited_succ ..).trans reached⟩
  | lookup index rest ih =>
    obtain ⟨steps, reached⟩ := ih _ { world with cache := (world.cache.lookup index).2 }
    exact ⟨steps + 1, (visited_succ ..).trans reached⟩
  | insert index schema rest ih =>
    obtain ⟨steps, reached⟩ := ih { world with cache := world.cache.insert index schema }
    exact ⟨steps + 1, (visited_succ ..).trans reached⟩
  | invalidate index rest ih =>
    obtain ⟨steps, reached⟩ := ih (world.dropped index)
    exact ⟨steps + 1, (visited_succ ..).trans reached⟩

end Program
end CatalogSearch
