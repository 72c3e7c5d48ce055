/-
**Connections to the index service.**

* `Connection` — the replies that are still to come, and the requests that were sent;
* `Connection.send` — sends a request; `Connection.handler` — answers calls over a connection.
-/

import CatalogSearch.Index.Program
import CatalogSearch.Rest.Reply
import CatalogSearch.Rest.Request

namespace CatalogSearch.Rest

/-- A connection. -/
structure Connection where
  client : Client
  /-- How the numbers in replies are read. -/
  precision : Json.Reader.Precision := Json.Reader.nearest
  /-- Whether the service can be reached at all. -/
  isOpen : Bool := true
  /-- The replies still to come; when there are none left, the service hangs up. -/
  replies : List Reply := []
  requests : List Request := []

namespace Connection

/-- Sends a request and takes the next reply, if there is one. -/
def send (connection : Connection) (request : Request) : Except ServiceError Reply × Connection :=
  if connection.isOpen then
    let connection := { connection with requests := connection.requests ++ [request] }
    match connection.replies with
    | reply :: replies => (.ok reply, { connection with replies })
    | [] => (.error .transport, connection)
  else (.error .transport, connection)

/-- The answer to a call, and the connection behind it. -/
def serve (call : ServiceCall) (connection : Connection) :
    Except ServiceError call.Answer × Connection :=
  let (reply, connection) := connection.send (connection.client.request call)
  (reply.bind (Reply.answer connection.precision call), connection)

/-- The service at the other end as a handler of calls. -/
def handler : Handler Connection := Handler.ofService serve

/-- Writes a document, and tells whether that was done. -/
def upsert (index id : String) (document : Members Json) (connection : Connection) :
    Except ServiceError Bool × Connection :=
  let (reply, connection) := connection.send (connection.client.upsert index id document)
  (reply.bind (Reply.upserted connection.precision), connection)

end Connection
end CatalogSearch.Rest
