/-
**Programs over the index service and the schema cache.**

A program is a tree of steps: it warns, calls the service, or uses the cache, and goes on with what comes
back. What a program means is given apart from it, by whoever answers its calls.

* `Program` — the trees; `Program.bind` — one after another; `Program.andFinally` — a last step that a
  failure does not skip;
* `World` — the service's state, the cache, and what was called and warned so far;
* `Program.step`, `Program.run` — one step of a program, and all of them.
-/

import CatalogSearch.Index.Service
import CatalogSearch.Logged
import CatalogSearch.Schema.Cache

namespace CatalogSearch

/-- A program that ends in a result or an error. On the way it warns, calls the service, and uses the cache of
schemas. -/
inductive Program (α : Type) where
  | done (result : Except ServiceError α)
  | warn (warning : Warning) (next : Program α)
  /-- Calls the service, and goes on with its answer or its refusal. -/
  | ask (call : ServiceCall) (next : Except ServiceError call.Answer → Program α)
  | lookup (index : String) (next : Option Schema → Program α)
  | insert (index : String) (schema : Schema) (next : Program α)
  | invalidate (index : String) (next : Program α)

namespace Program

variable {α β : Type}

/-- Ends with a result. -/
def pure (a : α) : Program α := .done (.ok a)

/-- Ends with an error. -/
def fail (error : ServiceError) : Program α := .done (.error error)

/-- Calls the service for an answer; its refusal ends the program. -/
def call (request : ServiceCall) : Program request.Answer := .ask request .done

/-- One program after another, unless the first one fails. -/
def bind (next : α → Program β) : Program α → Program β
  | .done (.ok a) => next a
  | .done (.error error) => .done (.error error)
  | .warn warning rest => .warn warning (bind next rest)
  | .ask request rest => .ask request fun answer => bind next (rest answer)
  | .lookup index rest => .lookup index fun found => bind next (rest found)
  | .insert index schema rest => .insert index schema (bind next rest)
  | .invalidate index rest => .invalidate index (bind next rest)

instance : Monad Program where
  pure := pure
  bind first next := bind next first

/-- Whatever a program ends in, drops a schema from the cache before it ends. -/
def andFinally (index : String) : Program α → Program α
  | .done result => .invalidate index (.done result)
  | .warn warning rest => .warn warning (andFinally index rest)
  | .ask request rest => .ask request fun answer => andFinally index (rest answer)
  | .lookup name rest => .lookup name fun found => andFinally index (rest found)
  | .insert name schema rest => .insert name schema (andFinally index rest)
  | .invalidate name rest => .invalidate name (andFinally index rest)

/-- Warns of everything in a list, and goes on. -/
def warnAll (warnings : List Warning) (next : Program α) : Program α :=
  warnings.foldr .warn next

/-- A computation that warns and may fail, as a program. -/
def ofLogged (step : Logged ServiceError α) : Program α := warnAll step.warnings (.done step.result)

/-- A compilation as a program. -/
def ofCompilation (step : Logged Error α) : Program α := ofLogged (step.mapError .refused)

end Program

/-- What programs run in: the service, the cache of schemas, and the calls and warnings so far, in order. -/
structure World (σ : Type) where
  service : σ
  cache : SchemaCache := {}
  calls : List ServiceCall := []
  warnings : List Warning := []

/-- Whoever answers calls. An answer may come with any change of the world. -/
abbrev Handler (σ : Type) :=
  (call : ServiceCall) → World σ → Except ServiceError call.Answer × World σ

/-- The handler of a service that changes nothing but its own state. -/
def Handler.ofService {σ : Type}
    (serve : (call : ServiceCall) → σ → Except ServiceError call.Answer × σ) : Handler σ :=
  fun call world =>
    let (answer, service) := serve call world.service
    (answer, { world with service })

namespace World

variable {σ : Type}

/-- The world after a warning. -/
def noted (world : World σ) (warning : Warning) : World σ :=
  { world with warnings := world.warnings ++ [warning] }

/-- The world after a call is made, before it is answered. -/
def called (world : World σ) (call : ServiceCall) : World σ :=
  { world with calls := world.calls ++ [call] }

end World

namespace Program

variable {α σ : Type}

/-- One step of a program; the end stays. -/
def step (handler : Handler σ) : Program α → World σ → Program α × World σ
  | .done result, world => (.done result, world)
  | .warn warning next, world => (next, world.noted warning)
  | .ask call next, world =>
    let (answer, world) := handler call (world.called call)
    (next answer, world)
  | .lookup index next, world =>
    let (found, cache) := world.cache.lookup index
    (next found, { world with cache })
  | .insert index schema next, world =>
    (next, { world with cache := world.cache.insert index schema })
  | .invalidate index next, world =>
    (next, { world with cache := (world.cache.invalidate index).2 })

/-- All steps of a program, with nothing in between. -/
def run (handler : Handler σ) : Program α → World σ → Except ServiceError α × World σ
  | .done result, world => (result, world)
  | .warn warning next, world => run handler next (world.noted warning)
  | .ask call next, world =>
    let (answer, world) := handler call (world.called call)
    run handler (next answer) world
  | .lookup index next, world =>
    let (found, cache) := world.cache.lookup index
    run handler (next found) { world with cache }
  | .insert index schema next, world =>
    run handler next { world with cache := world.cache.insert index schema }
  | .invalidate index next, world =>
    run handler next { world with cache := (world.cache.invalidate index).2 }

end Program
end CatalogSearch
