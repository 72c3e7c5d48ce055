/-
**What a push says.**

A push reads an index, or makes it, then reads its limit on fields and puts what is needed if the limit does not
suffice, and then sends what the index lacks.

* `Refused` — a dialogue that ends with a refusal;
* `Pusher.Reads`, `Covers`, `Sends` — what is said by each part of a push when it ends well;
  `Pusher.dialogue_remote`, `dialogue_raiseLimit`, `dialogue_sendMapping`: there is nothing else but refusals;
* `Pusher.Turn` — the turns of a push: what it says next, and behind what; `Pusher.turn_of_asks`: nothing else;
* `Pusher.ends_of_dialogue` — how a push ends.
-/

import CatalogSearch.Proofs.Index.Contracts
import CatalogSearch.Proofs.Index.Dialogues

namespace CatalogSearch

/-- The last call is refused, and its refusal is the result. -/
def Refused {α : Type} (talk : List Exchange) (result : Except ServiceError α) : Prop :=
  ∃ said call error, talk = said ++ [⟨call, .error error⟩] ∧ result = .error error

namespace Refused

variable {α β : Type}

theorem of_call (call : ServiceCall) (error : ServiceError) :
    Refused [⟨call, .error error⟩] (.error error : Except ServiceError α) :=
  ⟨[], call, error, rfl, rfl⟩

/-- What was said before does not matter. -/
theorem behind {talk : List Exchange} {result : Except ServiceError α} (refused : Refused talk result)
    (front : List Exchange) : Refused (front ++ talk) result := by
  obtain ⟨said, call, error, rfl, ended⟩ := refused
  exact ⟨front ++ said, call, error, (List.append_assoc ..).symm, ended⟩

/-- Neither does it matter what the program would have ended in. -/
theorem cast {talk : List Exchange} {error : ServiceError}
    (refused : Refused talk (.error error : Except ServiceError α)) :
    Refused talk (.error error : Except ServiceError β) := by
  obtain ⟨said, call, _, rfl, ended⟩ := refused
  cases ended
  exact ⟨said, call, error, rfl, rfl⟩

end Refused

namespace Pusher

/-! ### The parts of a push -/

/-- **How an index is read**, or made if it is not there: what is said, the fields that it has, and whether it was
made. -/
inductive Reads (index : String) : List Exchange → Schema → Bool → Prop where
  | found {answer : Option Json} {published : Schema}
      (read : Published.reading index (some answer) = .ok published) :
      Reads index [⟨.indexExists index, .ok true⟩, ⟨.getMapping index, .ok answer⟩] published false
  | made : Reads index [⟨.indexExists index, .ok false⟩, ⟨.createIndex index, .ok ()⟩] .empty true

/-- **How the limit of an index is read**, and raised if it is not known to suffice: what is said, and the limit
that was put. -/
inductive Covers (index : String) (need : Nat) : List Exchange → Option Nat → Prop where
  | enough {settings : Json} {limit : Nat} (read : Published.fieldLimit? index settings = some limit)
      (enough : need ≤ limit) : Covers index need [⟨.getSettings index, .ok settings⟩] none
  /-- The limit is not read, or too low. -/
  | raised {settings : Json}
      (low : ∀ limit, Published.fieldLimit? index settings = some limit → limit < need) :
      Covers index need [⟨.getSettings index, .ok settings⟩, ⟨.putLimit index need, .ok ()⟩] (some need)

/-- **How fields are sent**, if there are any: what is said, and whether it is acknowledged. -/
inductive Sends (index : String) (lacking : Schema) : List Exchange → Bool → Prop where
  | nothing (none : lacking.isEmpty = true) : Sends index lacking [] true
  | mapping (some : lacking.isEmpty = false) (acknowledged : Bool) :
      Sends index lacking [⟨.putMapping index lacking.toMapping, .ok acknowledged⟩] acknowledged

variable {index : String} {need : Nat} {said talk : List Exchange} {request : ServiceCall}

/-- Reading a mapping ends in what it tells. -/
theorem dialogue_read {result : Except ServiceError Schema}
    (dialogue : (Published.read index).Dialogue talk result) :
    Refused talk result ∨ ∃ answer : Option Json, talk = [⟨.getMapping index, .ok answer⟩] ∧
      result = Published.reading index (some answer) := by
  rcases Program.dialogue_call_bind.mp dialogue with ⟨error, rfl, rfl⟩ | ⟨answer, rest, rfl, further⟩
  · exact .inl (.of_call _ error)
  refine .inr ⟨answer, ?_⟩
  cases answer with
  | none =>
    obtain ⟨rfl, rfl⟩ := further
    exact ⟨rfl, rfl⟩
  | some answer =>
    obtain ⟨rfl, rfl⟩ := Program.dialogue_ofLogged.mp further
    exact ⟨rfl, rfl⟩

/-- **The first part of a push** is refused, or cannot read the mapping, or reads or makes the index. -/
theorem dialogue_remote {result : Except ServiceError (Schema × Bool)}
    (dialogue : (remote index).Dialogue talk result) :
    Refused talk result ∨
      (∃ (answer : Option Json) (error : ServiceError),
        talk = [⟨.indexExists index, .ok true⟩, ⟨.getMapping index, .ok answer⟩] ∧
        Published.reading index (some answer) = .error error ∧ result = .error error) ∨
      ∃ published created, Reads index talk published created ∧ result = .ok (published, created) := by
  rcases Program.dialogue_call_bind.mp dialogue with ⟨error, rfl, rfl⟩ | ⟨present, rest, rfl, further⟩
  · exact .inl (.of_call _ error)
  cases present with
  | false =>
    rcases Program.dialogue_call_bind.mp further with ⟨error, rfl, rfl⟩ | ⟨_, rest, rfl, rfl, rfl⟩
    · exact .inl ((Refused.of_call _ error).behind [_])
    · exact .inr (.inr ⟨.empty, true, .made, rfl⟩)
  | true =>
    rcases Program.Dialogue.of_bind further with ⟨error, failed, rfl⟩ |
      ⟨published, front, back, rfl, read, rfl, rfl⟩
    · rcases dialogue_read failed with refused | ⟨answer, rfl, unreadable⟩
      · exact .inl (refused.cast.behind [_])
      · exact .inr (.inl ⟨answer, error, rfl, unreadable.symm, rfl⟩)
    · rcases dialogue_read read with ⟨_, _, _, _, impossible⟩ | ⟨answer, rfl, told⟩
      · cases impossible
      · exact .inr (.inr ⟨published, false, .found told.symm, rfl⟩)

/-- The first part asks for the index, and then reads or makes it. -/
theorem asks_remote (asks : (remote index).Asks said request) :
    (said = [] ∧ request = .indexExists index) ∨
      (said = [⟨.indexExists index, .ok true⟩] ∧ request = .getMapping index) ∨
      said = [⟨.indexExists index, .ok false⟩] ∧ request = .createIndex index := by
  rcases Program.asks_call_bind.mp asks with ⟨rfl, rfl⟩ | ⟨present, rest, rfl, further⟩
  · exact .inl ⟨rfl, rfl⟩
  cases present with
  | false =>
    rcases Program.asks_call_bind.mp further with ⟨rfl, rfl⟩ | ⟨_, _, _, ended⟩
    · exact .inr (.inr ⟨rfl, rfl⟩)
    · exact ended.elim
  | true =>
    rcases Program.Asks.of_bind further with read | ⟨_, _, _, _, _, ended⟩
    · rcases Program.asks_call_bind.mp read with ⟨rfl, rfl⟩ | ⟨answer, rest, rfl, ended⟩
      · exact .inr (.inl ⟨rfl, rfl⟩)
      · cases answer with
        | none => exact ended.elim
        | some answer => exact (Program.not_asks_ofLogged ended).elim
    · exact ended.elim

/-- **The second part of a push** is refused, or reads the limit and raises it if need be. -/
theorem dialogue_raiseLimit {result : Except ServiceError (Option Nat)}
    (dialogue : (raiseLimit index need).Dialogue talk result) :
    Refused talk result ∨ ∃ raised, Covers index need talk raised ∧ result = .ok raised := by
  rcases Program.dialogue_call_bind.mp dialogue with ⟨error, rfl, rfl⟩ | ⟨settings, rest, rfl, further⟩
  · exact .inl (.of_call _ error)
  -- The limit is put in two cases: if none was read, and if one was that is too low.
  have afterPut : (∀ limit, Published.fieldLimit? index settings = some limit → limit < need) →
      (Program.call (.putLimit index need) >>= fun _ => Program.pure (some need)).Dialogue rest result →
      Refused (⟨.getSettings index, .ok settings⟩ :: rest) result ∨
        ∃ raised, Covers index need (⟨.getSettings index, .ok settings⟩ :: rest) raised ∧
          result = .ok raised := by
    intro low further
    rcases Program.dialogue_call_bind.mp further with ⟨error, rfl, rfl⟩ | ⟨_, rest, rfl, rfl, rfl⟩
    · exact .inl ((Refused.of_call _ error).behind [_])
    · exact .inr ⟨some need, .raised low, rfl⟩
  cases read : Published.fieldLimit? index settings with
  | none =>
    rw [read] at further
    exact afterPut (by simp [read]) further
  | some limit =>
    rw [read] at further
    by_cases low : limit < need
    · simp only [if_pos low] at further
      exact afterPut (by simpa [read] using low) further
    · simp only [if_neg low] at further
      obtain ⟨rfl, rfl⟩ := further
      exact .inr ⟨none, .enough read (Nat.not_lt.mp low), rfl⟩

/-- The second part reads the limit, and then puts what is needed if it is not known to suffice. -/
theorem asks_raiseLimit (asks : (raiseLimit index need).Asks said request) :
    (said = [] ∧ request = .getSettings index) ∨
      ∃ settings, said = [⟨.getSettings index, .ok settings⟩] ∧
        (∀ limit, Published.fieldLimit? index settings = some limit → limit < need) ∧
        request = .putLimit index need := by
  rcases Program.asks_call_bind.mp asks with ⟨rfl, rfl⟩ | ⟨settings, rest, rfl, further⟩
  · exact .inl ⟨rfl, rfl⟩
  have put (asks : (Program.call (.putLimit index need) >>= fun _ => Program.pure (some need)).Asks
      rest request) : rest = [] ∧ request = .putLimit index need := by
    rcases Program.asks_call_bind.mp asks with ⟨rfl, rfl⟩ | ⟨_, _, _, ended⟩
    · exact ⟨rfl, rfl⟩
    · exact ended.elim
  cases read : Published.fieldLimit? index settings with
  | none =>
    rw [read] at further
    obtain ⟨rfl, rfl⟩ := put further
    exact .inr ⟨settings, rfl, by simp [read], rfl⟩
  | some limit =>
    rw [read] at further
    by_cases low : limit < need
    · simp only [if_pos low] at further
      obtain ⟨rfl, rfl⟩ := put further
      exact .inr ⟨settings, rfl, by simpa [read] using low, rfl⟩
    · simp only [if_neg low] at further
      exact further.elim

theorem sendMapping_of_nothing {lacking : Schema} (none : lacking.isEmpty = true) :
    sendMapping index lacking = .pure true := if_pos none

theorem sendMapping_of_some {lacking : Schema} (some : lacking.isEmpty = false) :
    sendMapping index lacking = .call (.putMapping index lacking.toMapping) :=
  if_neg (Bool.eq_false_iff.mp some)

/-- **The last part of a push** is refused, or sends what is lacking. -/
theorem dialogue_sendMapping {lacking : Schema} {result : Except ServiceError Bool}
    (dialogue : (sendMapping index lacking).Dialogue talk result) :
    Refused talk result ∨
      ∃ acknowledged, Sends index lacking talk acknowledged ∧ result = .ok acknowledged := by
  cases none : lacking.isEmpty with
  | true =>
    rw [sendMapping_of_nothing none] at dialogue
    obtain ⟨rfl, rfl⟩ := dialogue
    exact .inr ⟨true, .nothing none, rfl⟩
  | false =>
    rw [sendMapping_of_some none] at dialogue
    cases Program.dialogue_call.mp dialogue
    cases result with
    | error error => exact .inl (.of_call _ error)
    | ok acknowledged => exact .inr ⟨acknowledged, .mapping none acknowledged, rfl⟩

/-- The last part asks nothing if nothing is lacking. -/
theorem some_of_sendMapping {lacking : Schema} (asks : (sendMapping index lacking).Asks said request) :
    lacking.isEmpty = false := by
  refine Bool.eq_false_iff.mpr fun none => ?_
  rw [sendMapping_of_nothing none] at asks
  exact asks

/-- The last part of a push sends what is lacking. -/
theorem sent_of_sendMapping {lacking : Schema} (asks : (sendMapping index lacking).Asks said request) :
    said = [] ∧ request = .putMapping index lacking.toMapping := by
  rw [sendMapping_of_some (some_of_sendMapping asks)] at asks
  obtain ⟨silent, same⟩ := Program.asks_call.mp asks
  exact ⟨silent, same.symm⟩

/-! ### Whole pushes -/

variable {pusher : Pusher} {schema : Schema}

/-- **The turns of a push**: what it says next, and behind what. -/
inductive Turn (pusher : Pusher) (index : String) (schema : Schema) : List Exchange → ServiceCall → Prop where
  | first : Turn pusher index schema [] (.indexExists index)
  | mapping : Turn pusher index schema [⟨.indexExists index, .ok true⟩] (.getMapping index)
  | create : Turn pusher index schema [⟨.indexExists index, .ok false⟩] (.createIndex index)
  | settings {front : List Exchange} {published : Schema} {created : Bool}
      (reads : Reads index front published created) : Turn pusher index schema front (.getSettings index)
  /-- If the limit is not known to suffice, it puts what is needed. -/
  | limit {front : List Exchange} {published : Schema} {created : Bool} {settings : Json}
      (reads : Reads index front published created)
      (low : ∀ limit, Published.fieldLimit? index settings = some limit → limit < pusher.need schema) :
      Turn pusher index schema (front ++ [⟨.getSettings index, .ok settings⟩])
        (.putLimit index (pusher.need schema))
  | fields {front middle : List Exchange} {published : Schema} {created : Bool} {raised : Option Nat}
      (reads : Reads index front published created) (covers : Covers index (pusher.need schema) middle raised)
      (some : (schema.difference published).isEmpty = false) :
      Turn pusher index schema (front ++ middle)
        (.putMapping index (schema.difference published).toMapping)

/-- A part that ends well reads the index. -/
theorem reads_of_remote {published : Schema} {created : Bool}
    (dialogue : (remote index).Dialogue talk (.ok (published, created))) :
    Reads index talk published created := by
  rcases dialogue_remote dialogue with ⟨_, _, _, _, impossible⟩ | ⟨_, _, _, _, impossible⟩ |
    ⟨_, _, reads, same⟩
  · cases impossible
  · cases impossible
  · cases same
    exact reads

theorem covers_of_raiseLimit {raised : Option Nat}
    (dialogue : (raiseLimit index need).Dialogue talk (.ok raised)) : Covers index need talk raised := by
  rcases dialogue_raiseLimit dialogue with ⟨_, _, _, _, impossible⟩ | ⟨_, covers, same⟩
  · cases impossible
  · cases same
    exact covers

/-- What a push asks is asked by its calls; the cache is asked nothing. -/
theorem asks_exchange_of_push (asks : (pusher.push index schema).Asks said request) :
    (pusher.exchange index schema).Asks said request := by
  unfold push at asks
  split at asks
  · exact (Program.asks_andFinally index).mp asks
  · exact asks

theorem dialogue_exchange_of_push {result : Except ServiceError PushReport}
    (dialogue : (pusher.push index schema).Dialogue talk result) :
    (pusher.exchange index schema).Dialogue talk result := by
  unfold push at dialogue
  split at dialogue
  · exact (Program.dialogue_andFinally index).mp dialogue
  · exact dialogue

/-- **A push makes no other calls**, and none too early. -/
theorem turn_of_asks (asks : (pusher.push index schema).Asks said request) :
    Turn pusher index schema said request := by
  rcases (asks_exchange_of_push asks).of_bind with early | ⟨⟨published, created⟩, front, rest, rfl, first, asks⟩
  · rcases asks_remote early with ⟨rfl, rfl⟩ | ⟨rfl, rfl⟩ | ⟨rfl, rfl⟩
    · exact .first
    · exact .mapping
    · exact .create
  have reads := reads_of_remote first
  rcases asks.of_bind with early | ⟨raised, middle, rest, rfl, second, asks⟩
  · rcases asks_raiseLimit early with ⟨rfl, rfl⟩ | ⟨settings, rfl, low, rfl⟩
    · rw [List.append_nil]
      exact .settings reads
    · exact .limit reads low
  have covers := covers_of_raiseLimit second
  rcases asks.of_bind with sent | ⟨_, _, _, _, _, ended⟩
  · have some := some_of_sendMapping sent
    obtain ⟨rfl, rfl⟩ := sent_of_sendMapping sent
    rw [List.append_nil]
    exact .fields reads covers some
  · exact ended.elim

/-- **A push ends** with a refusal, or a mapping that cannot be read, or when all its parts are over. -/
theorem ends_of_dialogue {result : Except ServiceError PushReport}
    (dialogue : (pusher.push index schema).Dialogue talk result) :
    Refused talk result ∨
      (∃ (answer : Option Json) (error : ServiceError),
        talk = [⟨.indexExists index, .ok true⟩, ⟨.getMapping index, .ok answer⟩] ∧
        Published.reading index (some answer) = .error error ∧ result = .error error) ∨
      ∃ front middle rest published created raised acknowledged,
        talk = front ++ (middle ++ rest) ∧ Reads index front published created ∧
        Covers index (pusher.need schema) middle raised ∧
        Sends index (schema.difference published) rest acknowledged ∧
        result = .ok ⟨created, (schema.difference published).names, raised, acknowledged⟩ := by
  rcases (dialogue_exchange_of_push dialogue).of_bind with ⟨error, failed, rfl⟩ |
    ⟨⟨published, created⟩, front, rest, rfl, first, dialogue⟩
  · rcases dialogue_remote failed with refused | ⟨answer, _, rfl, unreadable, same⟩ | ⟨_, _, _, impossible⟩
    · exact .inl refused.cast
    · cases same
      exact .inr (.inl ⟨answer, error, rfl, unreadable, rfl⟩)
    · cases impossible
  have reads := reads_of_remote first
  rcases dialogue.of_bind with ⟨error, failed, rfl⟩ | ⟨raised, middle, rest, rfl, second, dialogue⟩
  · rcases dialogue_raiseLimit failed with refused | ⟨_, _, impossible⟩
    · exact .inl (refused.cast.behind front)
    · cases impossible
  have covers := covers_of_raiseLimit second
  rcases dialogue.of_bind with ⟨error, failed, rfl⟩ | ⟨acknowledged, rest, _, rfl, third, rfl, rfl⟩
  · rcases dialogue_sendMapping failed with refused | ⟨_, _, impossible⟩
    · exact .inl ((refused.cast.behind middle).behind front)
    · cases impossible
  rcases dialogue_sendMapping third with ⟨_, _, _, _, impossible⟩ | ⟨_, sends, same⟩
  · cases impossible
  · cases same
    rw [List.append_nil]
    exact .inr (.inr
      ⟨front, middle, rest, published, created, raised, acknowledged, rfl, reads, covers, sends, rfl⟩)

end Pusher
end CatalogSearch
