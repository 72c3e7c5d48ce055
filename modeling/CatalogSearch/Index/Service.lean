/-
**The index service.**

* `ServiceCall` — what can be asked of the service that holds the indices; `ServiceCall.Answer` — what it
  answers to each call;
* `ServiceError` — why there is no answer, or none that can be used.
-/

import CatalogSearch.Error
import CatalogSearch.Request
import CatalogSearch.Url.Host

namespace CatalogSearch

/-- What can be asked of the service. -/
inductive ServiceCall where
  | indexExists (index : String)
  /-- The mapping of an index, as the service writes it. -/
  | getMapping (index : String)
  /-- The settings of an index with those it takes by default, as the service writes them. -/
  | getSettings (index : String)
  | createIndex (index : String)
  | putLimit (index : String) (limit : Nat)
  | putMapping (index : String) (mapping : Json)
  | search (request : SearchRequest)
deriving DecidableEq, Repr

namespace ServiceCall

/-- The answer to a call: for a mapping there may be none, and an added mapping is acknowledged or not. -/
def Answer : ServiceCall → Type
  | indexExists _ => Bool
  | getMapping _ => Option Json
  | getSettings _ => Json
  | createIndex _ => Unit
  | putLimit _ _ => Unit
  | putMapping _ _ => Bool
  | search _ => Json

/-- The name of a call. -/
def name : ServiceCall → String
  | indexExists _ => "index_exists"
  | getMapping _ => "get_mapping"
  | getSettings _ => "get_settings"
  | createIndex _ => "create_index"
  | putLimit _ _ => "put_limit"
  | putMapping _ _ => "put_mapping"
  | search _ => "search"

/-- The index that a call is about. -/
def index : ServiceCall → String
  | indexExists index | getMapping index | getSettings index | createIndex index => index
  | putLimit index _ | putMapping index _ => index
  | search request => request.index

/-- Whether a call changes an index. -/
def isWrite : ServiceCall → Bool
  | createIndex _ | putLimit _ _ | putMapping _ _ => true
  | indexExists _ | getMapping _ | getSettings _ | search _ => false

end ServiceCall

/-- Why there is no answer, or none that can be used. -/
inductive ServiceError where
  /-- No answer came, or none that can be read. -/
  | transport
  | status (code : Nat) (body : String)
  | indexNotFound (index : String)
  /-- The answer is not the mapping it should be. -/
  | malformedMapping
  | invalidUrl (fault : UrlFault)
  | unreadableField
  | refused (error : Error)
deriving DecidableEq, Repr

namespace ServiceError

/-- The short name of an error. -/
def kind : ServiceError → String
  | transport => "transport"
  | status _ _ => "status"
  | indexNotFound _ => "index_not_found"
  | malformedMapping => "malformed"
  | invalidUrl _ => "invalid_url"
  | unreadableField => "json"
  | refused error => error.kind

/-- The text of an error, if it has one of its own. -/
def message? : ServiceError → Option String
  | status code body => some ("Elasticsearch returned " ++ toString code ++ ": " ++ body)
  | indexNotFound index => some ("Index not found: " ++ index)
  | invalidUrl fault => some ("Invalid URL: " ++ fault.message)
  | refused error => some error.message
  | transport | malformedMapping | unreadableField => none

/-- The status that the service answered with, if it refused. -/
def statusCode? : ServiceError → Option Nat
  | status code _ => some code
  | _ => none

/-- Whether the error says that something is not there. -/
def isNotFound : ServiceError → Bool
  | indexNotFound _ => true
  | status code _ => code = 404
  | _ => false

end ServiceError
end CatalogSearch
