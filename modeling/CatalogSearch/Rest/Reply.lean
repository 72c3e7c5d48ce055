/-
**The index service over HTTP: replies.**

* `Reply` — a status and a text;
* `Reply.answer` — the answer to a call that a reply gives;
* `Reply.upserted` — whether a reply says that a document was written.
-/

import CatalogSearch.Index.Service
import CatalogSearch.Json.Reader

namespace CatalogSearch.Rest

/-- What the service replies with. -/
structure Reply where
  status : Nat
  body : String
deriving DecidableEq, Repr

namespace Reply

/-- Whether a reply says that all went well. -/
def isSuccess (reply : Reply) : Bool := 200 ≤ reply.status && reply.status < 300

/-- The text of a reply, which two statuses never have. -/
def text (reply : Reply) : String := if reply.status = 204 ∨ reply.status = 304 then "" else reply.body

/-- A reply that says that all went well; any other is an error. -/
def success (reply : Reply) : Except ServiceError Reply :=
  if reply.isSuccess then .ok reply else .error (.status reply.status reply.text)

/-- The value in a reply that says that all went well. -/
def value (precision : Json.Reader.Precision) (reply : Reply) : Except ServiceError Json :=
  reply.success.bind fun reply =>
    match Json.ofText? precision reply.text with
    | some value => .ok value
    | none => .error .transport

/-- Whether a value says that a mapping was taken. -/
def isAcknowledged (value : Json) : Bool :=
  ((value.member? "acknowledged").bind Json.truth?).getD false

/-- Whether a value says that a document was written or needs no writing. -/
def isWritten (value : Json) : Bool :=
  match (value.member? "result").bind Json.text? with
  | some result => result ∈ ["created", "updated", "noop"]
  | none => false

/-- Whether a reply without a text says that there is an index. -/
def presence (reply : Reply) : Except ServiceError Bool :=
  if reply.status = 404 then .ok false
  else if reply.isSuccess then .ok true
  else .error (.status reply.status "")

/-- The answer to a call that a reply gives. -/
def answer (precision : Json.Reader.Precision) (call : ServiceCall) (reply : Reply) :
    Except ServiceError call.Answer :=
  match call with
  | .indexExists _ => reply.presence
  | .getMapping _ => if reply.status = 404 then .ok none else (reply.value precision).map some
  | .getSettings _ => reply.value precision
  | .createIndex _ => reply.success.map fun _ => ()
  | .putLimit _ _ => reply.success.map fun _ => ()
  | .putMapping _ _ => (reply.value precision).map isAcknowledged
  | .search request =>
    if reply.status = 404 then .error (.indexNotFound request.index) else reply.value precision

/-- Whether a document was written. -/
def upserted (precision : Json.Reader.Precision) (reply : Reply) : Except ServiceError Bool :=
  (reply.value precision).map isWritten

end Reply
end CatalogSearch.Rest
