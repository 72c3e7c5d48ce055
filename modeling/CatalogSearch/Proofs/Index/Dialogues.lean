/-
**What a program and the service say to each other.**

A dialogue is the list of a program's calls, each with the answer or the refusal that came back. Nothing
is assumed of who answers, so that what holds of all dialogues holds whatever the service does and
whoever else uses it meanwhile.

* `Program.Dialogue` — the dialogues of a program up to an end; `Program.Asks` — the calls that it makes
  at some moment, behind what was said so far;
* `Dialogue.of_bind`, `Asks.of_bind` — those of one program after another;
* `Program.Relays` — a program that fails with the first refusal; `Relays.stops`: it says nothing behind it;
* `Program.transcript` — the dialogue of a run: `dialogue_transcript` and `asks_of_transcript` say that
  it is one;
* `lastTold?` — the last thing of a sort that a dialogue tells.
-/

import CatalogSearch.Index.Program

namespace CatalogSearch

/-- A call, and what came of it. -/
structure Exchange where
  call : ServiceCall
  answer : Except ServiceError call.Answer

namespace Program

variable {α β σ : Type}

/-- **The dialogues of a program**: what it may ask and be answered until it ends in a result. -/
def Dialogue : Program α → List Exchange → Except ServiceError α → Prop
  | .done ended, talk, result => talk = [] ∧ ended = result
  | .warn _ next, talk, result => Dialogue next talk result
  | .ask call next, talk, result =>
    ∃ answer rest, talk = ⟨call, answer⟩ :: rest ∧ Dialogue (next answer) rest result
  | .lookup _ next, talk, result => ∃ found, Dialogue (next found) talk result
  | .insert _ _ next, talk, result => Dialogue next talk result
  | .invalidate _ next, talk, result => Dialogue next talk result

/-- **A program makes a call** when this was said before. -/
def Asks : Program α → List Exchange → ServiceCall → Prop
  | .done _, _, _ => False
  | .warn _ next, said, request => Asks next said request
  | .ask call next, said, request =>
    (said = [] ∧ call = request) ∨
      ∃ answer rest, said = ⟨call, answer⟩ :: rest ∧ Asks (next answer) rest request
  | .lookup _ next, said, request => ∃ found, Asks (next found) said request
  | .insert _ _ next, said, request => Asks next said request
  | .invalidate _ next, said, request => Asks next said request

/-! ### Composed programs -/

/-- **A dialogue of one program after another** is that of the first, if it fails, or else goes on with
one of the second. -/
theorem Dialogue.of_bind {first : Program α} {next : α → Program β} {talk : List Exchange}
    {result : Except ServiceError β} (dialogue : (first >>= next).Dialogue talk result) :
    (∃ error, first.Dialogue talk (.error error) ∧ result = .error error) ∨
      ∃ a front back, talk = front ++ back ∧ first.Dialogue front (.ok a) ∧
        (next a).Dialogue back result := by
  -- The induction follows the recursion of `bind`, which is on the first program.
  replace dialogue : (bind next first).Dialogue talk result := dialogue
  induction first generalizing talk with
  | done ended =>
    cases ended with
    | ok a => exact .inr ⟨a, [], talk, rfl, ⟨rfl, rfl⟩, dialogue⟩
    | error error =>
      obtain ⟨silent, same⟩ := dialogue
      exact .inl ⟨error, ⟨silent, rfl⟩, same.symm⟩
  | warn warning rest ih => exact ih dialogue
  | ask call rest ih =>
    obtain ⟨answer, others, rfl, later⟩ := dialogue
    rcases ih answer later with ⟨error, failed, same⟩ | ⟨a, front, back, rfl, ended, further⟩
    · exact .inl ⟨error, ⟨answer, others, rfl, failed⟩, same⟩
    · exact .inr ⟨a, ⟨call, answer⟩ :: front, back, rfl, ⟨answer, front, rfl, ended⟩, further⟩
  | lookup index rest ih =>
    obtain ⟨found, later⟩ := dialogue
    rcases ih found later with ⟨error, failed, same⟩ | ⟨a, front, back, split, ended, further⟩
    · exact .inl ⟨error, ⟨found, failed⟩, same⟩
    · exact .inr ⟨a, front, back, split, ⟨found, ended⟩, further⟩
  | insert index schema rest ih => exact ih dialogue
  | invalidate index rest ih => exact ih dialogue

/-- **A call of one program after another** is made by the first, or by the second when the first has
ended. -/
theorem Asks.of_bind {first : Program α} {next : α → Program β} {said : List Exchange}
    {request : ServiceCall} (asks : (first >>= next).Asks said request) :
    first.Asks said request ∨
      ∃ a front back, said = front ++ back ∧ first.Dialogue front (.ok a) ∧
        (next a).Asks back request := by
  replace asks : (bind next first).Asks said request := asks
  induction first generalizing said with
  | done ended =>
    cases ended with
    | ok a => exact .inr ⟨a, [], said, rfl, ⟨rfl, rfl⟩, asks⟩
    | error error => exact asks.elim
  | warn warning rest ih => exact ih asks
  | ask call rest ih =>
    rcases asks with now | ⟨answer, others, rfl, later⟩
    · exact .inl (.inl now)
    · rcases ih answer later with earlier | ⟨a, front, back, rfl, ended, further⟩
      · exact .inl (.inr ⟨answer, others, rfl, earlier⟩)
      · exact .inr ⟨a, ⟨call, answer⟩ :: front, back, rfl, ⟨answer, front, rfl, ended⟩, further⟩
  | lookup index rest ih =>
    obtain ⟨found, later⟩ := asks
    rcases ih found later with earlier | ⟨a, front, back, split, ended, further⟩
    · exact .inl ⟨found, earlier⟩
    · exact .inr ⟨a, front, back, split, ⟨found, ended⟩, further⟩
  | insert index schema rest ih => exact ih asks
  | invalidate index rest ih => exact ih asks

theorem dialogue_call {request : ServiceCall} {talk : List Exchange}
    {result : Except ServiceError request.Answer} :
    (call request).Dialogue talk result ↔ talk = [⟨request, result⟩] := by
  constructor
  · rintro ⟨answer, rest, rfl, rfl, rfl⟩
    rfl
  · rintro rfl
    exact ⟨result, [], rfl, rfl, rfl⟩

theorem asks_call {request other : ServiceCall} {said : List Exchange} :
    (call request).Asks said other ↔ said = [] ∧ request = other := by
  constructor
  · rintro (now | ⟨_, _, _, impossible⟩)
    · exact now
    · exact impossible.elim
  · exact .inl

/-- **A dialogue of a program that begins with a call** ends with its refusal, or goes on behind its answer. -/
theorem dialogue_call_bind {request : ServiceCall} {next : request.Answer → Program β} {talk : List Exchange}
    {result : Except ServiceError β} :
    (call request >>= next).Dialogue talk result ↔
      (∃ error, talk = [⟨request, .error error⟩] ∧ result = .error error) ∨
        ∃ answer rest, talk = ⟨request, .ok answer⟩ :: rest ∧ (next answer).Dialogue rest result := by
  constructor
  · rintro ⟨answer, rest, rfl, further⟩
    cases answer with
    | error error =>
      obtain ⟨rfl, rfl⟩ := further
      exact .inl ⟨error, rfl, rfl⟩
    | ok answer => exact .inr ⟨answer, rest, rfl, further⟩
  · rintro (⟨error, rfl, rfl⟩ | ⟨answer, rest, rfl, further⟩)
    · exact ⟨.error error, [], rfl, rfl, rfl⟩
    · exact ⟨.ok answer, rest, rfl, further⟩

/-- Such a program makes that call, or one behind its answer. -/
theorem asks_call_bind {request other : ServiceCall} {next : request.Answer → Program β}
    {said : List Exchange} :
    (call request >>= next).Asks said other ↔
      (said = [] ∧ request = other) ∨
        ∃ answer rest, said = ⟨request, .ok answer⟩ :: rest ∧ (next answer).Asks rest other := by
  refine or_congr Iff.rfl ⟨?_, ?_⟩
  · rintro ⟨answer, rest, rfl, further⟩
    cases answer with
    | error error => exact further.elim
    | ok answer => exact ⟨answer, rest, rfl, further⟩
  · rintro ⟨answer, rest, rfl, further⟩
    exact ⟨.ok answer, rest, rfl, further⟩

theorem dialogue_warnAll (warnings : List Warning) {next : Program α} {talk : List Exchange}
    {result : Except ServiceError α} :
    (warnAll warnings next).Dialogue talk result ↔ next.Dialogue talk result := by
  induction warnings with
  | nil => rfl
  | cons warning rest ih => exact ih

/-- A computation says nothing to the service. -/
theorem dialogue_ofLogged {step : Logged ServiceError α} {talk : List Exchange}
    {result : Except ServiceError α} :
    (ofLogged step).Dialogue talk result ↔ talk = [] ∧ step.result = result :=
  dialogue_warnAll step.warnings

theorem not_asks_ofLogged {step : Logged ServiceError α} {said : List Exchange} {request : ServiceCall} :
    ¬ (ofLogged step).Asks said request := by
  unfold ofLogged warnAll
  induction step.warnings with
  | nil => exact id
  | cons warning rest ih => exact ih

/-- A last step on the cache adds no call. -/
theorem asks_andFinally (index : String) {program : Program α} {said : List Exchange}
    {request : ServiceCall} :
    (program.andFinally index).Asks said request ↔ program.Asks said request := by
  induction program generalizing said with
  | done result => rfl
  | warn warning next ih => exact ih
  | ask call next ih =>
    refine or_congr Iff.rfl (exists_congr fun answer => exists_congr fun rest => ?_)
    exact and_congr Iff.rfl (ih answer)
  | lookup name next ih => exact exists_congr fun found => ih found
  | insert name schema next ih => exact ih
  | invalidate name next ih => exact ih

/-- Neither does it change what is said. -/
theorem dialogue_andFinally (index : String) {program : Program α} {talk : List Exchange}
    {result : Except ServiceError α} :
    (program.andFinally index).Dialogue talk result ↔ program.Dialogue talk result := by
  induction program generalizing talk with
  | done result => rfl
  | warn warning next ih => exact ih
  | ask call next ih =>
    refine exists_congr fun answer => exists_congr fun rest => ?_
    exact and_congr Iff.rfl (ih answer)
  | lookup name next ih => exact exists_congr fun found => ih found
  | insert name schema next ih => exact ih
  | invalidate name next ih => exact ih

/-! ### Refusals -/

/-- **A program relays refusals**: behind one, it does nothing but fail with it. -/
def Relays : Program α → Prop
  | .done _ => True
  | .warn _ next => Relays next
  | .ask _ next =>
    (∀ error, next (.error error) = .done (.error error)) ∧ ∀ answer, Relays (next (.ok answer))
  | .lookup _ next => ∀ found, Relays (next found)
  | .insert _ _ next => Relays next
  | .invalidate _ next => Relays next

theorem relays_call (request : ServiceCall) : (call request).Relays := ⟨fun _ => rfl, fun _ => trivial⟩

theorem Relays.bind {first : Program α} {next : α → Program β} (relays : first.Relays)
    (rest : ∀ a, (next a).Relays) : (first >>= next).Relays := by
  show (Program.bind next first).Relays
  induction first with
  | done ended =>
    cases ended with
    | ok a => exact rest a
    | error error => trivial
  | warn warning _ ih => exact ih relays
  | ask call later ih =>
    refine ⟨fun error => ?_, fun answer => ih _ (relays.2 answer)⟩
    simp only [relays.1 error, Program.bind]
  | lookup index _ ih => exact fun found => ih _ (relays found)
  | insert index schema _ ih => exact ih relays
  | invalidate index _ ih => exact ih relays

theorem relays_ofLogged (step : Logged ServiceError α) : (ofLogged step).Relays := by
  unfold ofLogged warnAll
  induction step.warnings with
  | nil => trivial
  | cons warning rest ih => exact ih

/-- **Behind a refusal nothing is said**, and it is what comes of the program. -/
theorem Relays.stops {program : Program α} (relays : program.Relays) {said later : List Exchange}
    {call : ServiceCall} {error : ServiceError} {result : Except ServiceError α}
    (dialogue : program.Dialogue (said ++ ⟨call, .error error⟩ :: later) result) :
    later = [] ∧ result = .error error := by
  induction program generalizing said with
  | done ended => exact absurd dialogue.1 (List.append_ne_nil_of_right_ne_nil _ (List.cons_ne_nil _ _))
  | warn warning next ih => exact ih relays dialogue
  | ask call next ih =>
    obtain ⟨answer, rest, split, further⟩ := dialogue
    cases said with
    | nil =>
      cases split
      rw [relays.1 error] at further
      exact ⟨further.1, further.2.symm⟩
    | cons head others =>
      cases split
      cases answer with
      | ok answer => exact ih _ (relays.2 answer) further
      | error refusal =>
        -- The program has ended behind its first call, so that there is no refusal of a later one.
        rw [relays.1 refusal] at further
        exact absurd further.1 (List.append_ne_nil_of_right_ne_nil _ (List.cons_ne_nil _ _))
  | lookup index next ih =>
    obtain ⟨found, further⟩ := dialogue
    exact ih found (relays found) further
  | insert index schema next ih => exact ih relays dialogue
  | invalidate index next ih => exact ih relays dialogue

/-! ### Runs -/

/-- **The dialogue of a run.** -/
def transcript (handler : Handler σ) : Program α → World σ → List Exchange
  | .done _, _ => []
  | .warn warning next, world => transcript handler next (world.noted warning)
  | .ask call next, world =>
    let (answer, world) := handler call (world.called call)
    ⟨call, answer⟩ :: transcript handler (next answer) world
  | .lookup index next, world =>
    let (found, cache) := world.cache.lookup index
    transcript handler (next found) { world with cache }
  | .insert index schema next, world =>
    transcript handler next { world with cache := world.cache.insert index schema }
  | .invalidate index next, world =>
    transcript handler next { world with cache := (world.cache.invalidate index).2 }

/-- **What is said in a run is a dialogue of the program**, up to the run's result. -/
theorem dialogue_transcript (handler : Handler σ) (program : Program α) (world : World σ) :
    program.Dialogue (program.transcript handler world) (program.run handler world).1 := by
  induction program generalizing world with
  | done result => exact ⟨rfl, rfl⟩
  | warn warning next ih => exact ih _
  | ask call next ih => exact ⟨_, _, rfl, ih _ _⟩
  | lookup index next ih => exact ⟨_, ih _ _⟩
  | insert index schema next ih => exact ih _
  | invalidate index next ih => exact ih _

/-- Every call in a dialogue is made behind what is said before it. -/
theorem Dialogue.asks {program : Program α} {said later : List Exchange} {exchange : Exchange}
    {result : Except ServiceError α}
    (dialogue : program.Dialogue (said ++ exchange :: later) result) :
    program.Asks said exchange.call := by
  induction program generalizing said with
  | done ended => exact absurd dialogue.1 (List.append_ne_nil_of_right_ne_nil _ (List.cons_ne_nil _ _))
  | warn warning next ih => exact ih dialogue
  | ask call next ih =>
    obtain ⟨answer, rest, split, further⟩ := dialogue
    cases said with
    | nil =>
      cases split
      exact .inl ⟨rfl, rfl⟩
    | cons head others =>
      cases split
      exact .inr ⟨answer, others, rfl, ih answer further⟩
  | lookup index next ih =>
    obtain ⟨found, further⟩ := dialogue
    exact ⟨found, ih found further⟩
  | insert index schema next ih => exact ih dialogue
  | invalidate index next ih => exact ih dialogue

/-- **Every call of a run is made behind what is said before it.** -/
theorem asks_of_transcript {handler : Handler σ} {program : Program α} {world : World σ}
    {said later : List Exchange} {exchange : Exchange}
    (split : program.transcript handler world = said ++ exchange :: later) :
    program.Asks said exchange.call :=
  Dialogue.asks (split ▸ program.dialogue_transcript handler world)

end Program

/-! ### What a dialogue tells -/

/-- The last thing that a dialogue tells, among what its exchanges tell. -/
def lastTold? {β : Type} (tells : Exchange → Option β) (talk : List Exchange) : Option β :=
  talk.reverse.findSome? tells

theorem lastTold?_append {β : Type} (tells : Exchange → Option β) (front back : List Exchange) :
    lastTold? tells (front ++ back) = (lastTold? tells back).or (lastTold? tells front) := by
  rw [lastTold?, List.reverse_append, List.findSome?_append]
  rfl

end CatalogSearch
