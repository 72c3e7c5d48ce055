/-
**The discipline of a push.**

The calls of a push come in one order, and the first failure ends it. An index is made only if it is not there, its
limit is only raised, and a mapping is sent only when the limit covers what is pushed. All this holds whatever is
answered, and by whom.

* `Pusher.InOrder` — the order of the calls; `Pusher.Turn.calls`: a push keeps to it;
* `Pusher.relays_exchange` — a refusal ends a push;
* `Pusher.Disciplined` — the laws of what is said and of the result; `Pusher.disciplined_of_dialogue`: every dialogue
  keeps them;
* `Pusher.push_disciplined` — so does every run, which leaves nothing of the index in the cache.
-/

import CatalogSearch.Index.Store
import CatalogSearch.Proofs.Index.Pushes
import CatalogSearch.Proofs.Index.Runs

namespace CatalogSearch.Pusher

variable {index : String} {need : Nat} {said talk : List Exchange} {request : ServiceCall} {pusher : Pusher}
  {schema : Schema}

/-! ### The order of the calls -/

theorem Reads.calls {published : Schema} {created : Bool} (reads : Reads index talk published created) :
    ∃ second, (second = .getMapping index ∨ second = .createIndex index) ∧
      talk.map (·.call) = [.indexExists index, second] := by
  cases reads with
  | found => exact ⟨_, .inl rfl, rfl⟩
  | made => exact ⟨_, .inr rfl, rfl⟩

theorem Covers.calls {raised : Option Nat} (covers : Covers index need talk raised) :
    ∃ raise, (raise = [] ∨ raise = [.putLimit index need]) ∧
      talk.map (·.call) = .getSettings index :: raise := by
  cases covers with
  | enough => exact ⟨_, .inl rfl, rfl⟩
  | raised => exact ⟨_, .inr rfl, rfl⟩

/-- **The order of calls**: the index, its mapping or its creation, its settings, then at most one limit and at most
one mapping that are put, up to some point. -/
def InOrder (index : String) (need : Nat) (calls : List ServiceCall) : Prop :=
  ∃ second raise send, (second = .getMapping index ∨ second = .createIndex index) ∧
    (raise = [] ∨ raise = [.putLimit index need]) ∧
    (send = [] ∨ ∃ mapping, send = [.putMapping index mapping]) ∧
    calls <+: [.indexExists index, second, .getSettings index] ++ (raise ++ send)

/-- **The calls of a push come in order.** -/
theorem Turn.calls (turn : Turn pusher index schema said request) :
    InOrder index (pusher.need schema) (said.map (·.call) ++ [request]) := by
  cases turn with
  | first => exact ⟨.getMapping index, [], [], .inl rfl, .inl rfl, .inl rfl, ⟨_, rfl⟩⟩
  | mapping => exact ⟨.getMapping index, [], [], .inl rfl, .inl rfl, .inl rfl, ⟨_, rfl⟩⟩
  | create => exact ⟨.createIndex index, [], [], .inr rfl, .inl rfl, .inl rfl, ⟨_, rfl⟩⟩
  | settings reads =>
    obtain ⟨second, known, calls⟩ := reads.calls
    exact ⟨second, [], [], known, .inl rfl, .inl rfl, [], by simp [calls]⟩
  | limit reads low =>
    obtain ⟨second, known, calls⟩ := reads.calls
    exact ⟨second, [_], [], known, .inr rfl, .inl rfl, [], by simp [calls]⟩
  | @fields _ _ published _ _ reads covers =>
    obtain ⟨second, known, calls⟩ := reads.calls
    obtain ⟨raise, put, later⟩ := covers.calls
    exact ⟨second, raise, [.putMapping index (schema.difference published).toMapping], known, put,
      .inr ⟨_, rfl⟩, [], by simp [calls, later]⟩

/-! ### The laws -/

/-- **The laws of a push**: of what is said, and of the result. -/
structure Disciplined (pusher : Pusher) (index : String) (schema : Schema) (talk : List Exchange)
    (result : Except ServiceError PushReport) : Prop where
  order : InOrder index (pusher.need schema) (talk.map (·.call))
  /-- Behind a refusal nothing is said, and it is the result. -/
  stops : ∀ said call error later, talk = said ++ ⟨call, .error error⟩ :: later →
    later = [] ∧ result = .error error
  /-- What fails is the last call, or else the reading of the mapping that was answered to it. -/
  fails : ∀ error, result = .error error →
    (∃ said call, talk = said ++ [⟨call, .error error⟩]) ∨
      ∃ answer : Option Json, talk = [⟨.indexExists index, .ok true⟩, ⟨.getMapping index, .ok answer⟩] ∧
        Published.reading index (some answer) = .error error
  /-- What succeeds has done all parts, and reports them. -/
  succeeds : ∀ report, result = .ok report →
    ∃ front middle rest published created raised acknowledged, talk = front ++ (middle ++ rest) ∧
      Reads index front published created ∧ Covers index (pusher.need schema) middle raised ∧
      Sends index (schema.difference published) rest acknowledged ∧
      report = ⟨created, (schema.difference published).names, raised, acknowledged⟩
  /-- An index is created when it is not there. -/
  creates : ∀ said name answer later, talk = said ++ ⟨.createIndex name, answer⟩ :: later →
    name = index ∧ said = [⟨.indexExists index, .ok false⟩]
  /-- The settings are asked for when the fields of the index are known. -/
  knows : ∀ said name answer later, talk = said ++ ⟨.getSettings name, answer⟩ :: later →
    name = index ∧ ∃ published created, Reads index said published created
  /-- A limit is put when none was read or a lower one, and is what is needed. -/
  raises : ∀ said name limit answer later, talk = said ++ ⟨.putLimit name limit, answer⟩ :: later →
    name = index ∧ limit = pusher.need schema ∧
      ∃ front settings, said = front ++ [⟨.getSettings index, .ok settings⟩] ∧
        ∀ read, Published.fieldLimit? index settings = some read → read < limit
  /-- A mapping is sent when the fields of the index are known and the limit suffices. It has exactly the fields
  that the index lacks, and at least one. -/
  sends : ∀ said name mapping answer later, talk = said ++ ⟨.putMapping name mapping, answer⟩ :: later →
    name = index ∧ ∃ front middle published created raised, said = front ++ middle ∧
      Reads index front published created ∧ Covers index (pusher.need schema) middle raised ∧
      mapping = (schema.difference published).toMapping ∧ (schema.difference published).fields ≠ [] ∧
      ∀ field, field ∈ (schema.difference published).fields ↔
        field ∈ schema.fields ∧ published.find? field.1 = none

theorem relays_remote : (remote index).Relays := by
  refine (Program.relays_call _).bind fun present => ?_
  cases present with
  | false => exact (Program.relays_call _).bind fun _ => trivial
  | true =>
    refine Program.Relays.bind ?_ fun _ => trivial
    refine (Program.relays_call _).bind fun answer => ?_
    cases answer with
    | none => trivial
    | some answer => exact Program.relays_ofLogged _

theorem relays_raiseLimit : (raiseLimit index need).Relays := by
  have put : (Program.call (.putLimit index need) >>= fun _ => Program.pure (some need)).Relays :=
    (Program.relays_call _).bind fun _ => trivial
  refine (Program.relays_call _).bind fun settings => ?_
  cases Published.fieldLimit? index settings with
  | none => exact put
  | some limit =>
    show (if limit < need then _ else _ : Program (Option Nat)).Relays
    split
    · exact put
    · trivial

theorem relays_sendMapping {lacking : Schema} : (sendMapping index lacking).Relays := by
  cases none : lacking.isEmpty with
  | true =>
    rw [sendMapping_of_nothing none]
    trivial
  | false =>
    rw [sendMapping_of_some none]
    exact Program.relays_call _

theorem relays_exchange : (pusher.exchange index schema).Relays :=
  relays_remote.bind fun _ => relays_raiseLimit.bind fun _ => relays_sendMapping.bind fun _ => trivial

/-- **Every dialogue of a push keeps the laws.** -/
theorem disciplined_of_dialogue {result : Except ServiceError PushReport}
    (dialogue : (pusher.push index schema).Dialogue talk result) :
    pusher.Disciplined index schema talk result where
  order := by
    rcases List.eq_nil_or_concat talk with rfl | ⟨said, last, split⟩
    · exact ⟨.getMapping index, [], [], .inl rfl, .inl rfl, .inl rfl, List.nil_prefix⟩
    · rw [List.concat_eq_append] at split
      subst split
      rw [List.map_append]
      exact (turn_of_asks dialogue.asks).calls
  stops := by
    rintro said call error later rfl
    exact relays_exchange.stops (dialogue_exchange_of_push dialogue)
  fails := by
    rintro error rfl
    rcases ends_of_dialogue dialogue with ⟨said, call, _, rfl, same⟩ | ⟨answer, _, rfl, unreadable, same⟩ |
      ⟨_, _, _, _, _, _, _, _, _, _, _, impossible⟩
    · cases same
      exact .inl ⟨said, call, rfl⟩
    · cases same
      exact .inr ⟨answer, rfl, unreadable⟩
    · cases impossible
  succeeds := by
    rintro report rfl
    rcases ends_of_dialogue dialogue with ⟨_, _, _, _, impossible⟩ | ⟨_, _, _, _, impossible⟩ |
      ⟨front, middle, rest, published, created, raised, acknowledged, split, reads, covers, sends, same⟩
    · cases impossible
    · cases impossible
    · cases same
      exact ⟨front, middle, rest, published, created, raised, acknowledged, split, reads, covers, sends, rfl⟩
  creates := by
    rintro said name answer later rfl
    cases turn_of_asks dialogue.asks with
    | create => exact ⟨rfl, rfl⟩
  knows := by
    rintro said name answer later rfl
    cases turn_of_asks dialogue.asks with
    | settings reads => exact ⟨rfl, _, _, reads⟩
  raises := by
    rintro said name limit answer later rfl
    cases turn_of_asks dialogue.asks with
    | limit reads low => exact ⟨rfl, rfl, _, _, rfl, low⟩
  sends := by
    rintro said name mapping answer later rfl
    cases turn_of_asks dialogue.asks with
    | fields reads covers some =>
      refine ⟨rfl, _, _, _, _, _, rfl, reads, covers, rfl, ?_, fun field => ?_⟩
      · exact fun none => by simp [Schema.isEmpty, none] at some
      · simp [Schema.difference, Schema.contains]

/-- **Every push keeps the laws**, whatever is answered and by whom, and leaves nothing of the index in the cache, if
it has one. -/
theorem push_disciplined {σ : Type} (handler : Handler σ) (pusher : Pusher) (index : String) (schema : Schema)
    (world : World σ) :
    pusher.Disciplined index schema ((pusher.push index schema).transcript handler world)
        ((pusher.push index schema).run handler world).1 ∧
      (pusher.dropsCached = true →
        ((pusher.push index schema).run handler world).2.cache.peek? index = none) := by
  refine ⟨disciplined_of_dialogue (Program.dialogue_transcript handler _ world), fun drops => ?_⟩
  have dropping : pusher.push index schema = .invalidate index ((pusher.exchange index schema).andFinally index) :=
    if_pos drops
  rw [dropping, Program.run, Program.run_andFinally]
  exact World.peek?_dropped _ index

/-- The limit of an index is put from one to two, its mapping is refused, and a schema that is cached meanwhile does
not stay. -/
theorem push_disciplined_refused :
    let schema : Schema := ⟨[("ID", .ofKind .integer), ("NAME", .ofKind .keyword)], by decide⟩
    let handler : Handler Store := fun call world =>
      if call.name = "put_mapping" then
        (.error .transport, { world with cache := world.cache.insert call.index .empty })
      else Store.handler call world
    let world : World Store :=
      { service :=
          { indices := [("products", [("ID", .object [("type", .string "integer")])])]
            defaultLimit := .string "1" } }
    let talk := (push {} "products" schema).transcript handler world
    let ended := (push {} "products" schema).run handler world
    talk.map (·.call) =
        [ .indexExists "products", .getMapping "products", .getSettings "products", .putLimit "products" 2,
          .putMapping "products" (Schema.toMapping ⟨[("NAME", .ofKind .keyword)], by decide⟩) ] ∧
      Disciplined {} "products" schema talk ended.1 ∧ ended.1 = .error .transport ∧
      ended.2.cache.peek? "products" = none := by
  intro schema handler world talk ended
  obtain ⟨disciplined, dropped⟩ := push_disciplined handler {} "products" schema world
  have split : ∃ said call, talk = said ++ [⟨call, .error .transport⟩] := ⟨talk.take 4, _, rfl⟩
  obtain ⟨said, call, split⟩ := split
  exact ⟨rfl, disciplined, (disciplined.stops said call .transport [] split).2, dropped rfl⟩

end CatalogSearch.Pusher
