/-
**The index service over HTTP: requests.**

* `Base64.encode` — three bytes as four letters; one or two bytes at the end are filled up with signs of
  equality;
* `Client` — the address of the service and who asks;
* `Client.endpoint` — the address of a part of the service;
* `Client.request` — the request of a call; `Client.upsert` — the request that writes a document.
-/

import CatalogSearch.Index.Service
import CatalogSearch.Settings
import CatalogSearch.Url.Reader

/-! ### Bytes in sixty-four letters -/

namespace CatalogSearch.Base64

/-- The letters by their value. -/
def letters : List Char :=
  "ABCDEFGHIJKLMNOPQRSTUVWXYZabcdefghijklmnopqrstuvwxyz0123456789+/".toList

/-- The letter of a value below sixty-four. -/
def letter (n : Nat) : Char := letters.getD (n % 64) '='

/-- The four letters of a number of three bytes. -/
def group (n : Nat) : List Char := [262144, 4096, 64, 1].map fun unit => letter (n / unit)

/-- The letters of bytes. -/
def encode : List UInt8 → List Char
  | a :: b :: c :: rest => group (a.toNat * 65536 + b.toNat * 256 + c.toNat) ++ encode rest
  | [a, b] => (group (a.toNat * 65536 + b.toNat * 256)).take 3 ++ ['=']
  | [a] => (group (a.toNat * 65536)).take 2 ++ ['=', '=']
  | [] => []

/-- The letters of a text's bytes. -/
def ofText (s : String) : String := String.ofList (encode s.toUTF8.toList)

end CatalogSearch.Base64

/-! ### Requests -/

namespace CatalogSearch.Rest

/-- The methods that are used. -/
inductive Method where
  | head
  | get
  | put
  | post
deriving DecidableEq, Repr

/-- The name of a method. -/
def Method.text : Method → String
  | head => "HEAD"
  | get => "GET"
  | put => "PUT"
  | post => "POST"

/-- A request. -/
structure Request where
  method : Method
  url : Url
  authorization : Option String := none
  body : Option Json := none
deriving DecidableEq, Repr

/-- The type of what is sent along, if anything is. -/
def Request.contentType? (request : Request) : Option String :=
  request.body.map fun _ => "application/json"

/-- Who asks: a name, and a password if there is one. -/
structure Credentials where
  user : String
  password : Option String := none
deriving DecidableEq, Repr

/-- The credentials as they are written. -/
def Credentials.text (credentials : Credentials) : String :=
  "Basic " ++ Base64.ofText (credentials.user ++ ":" ++ credentials.password.getD "")

/-- The address of the service and who asks. -/
structure Client where
  base : Url
  credentials : Option Credentials := none
deriving DecidableEq, Repr

namespace Client

/-- The client of given settings, whose address must take segments. -/
def ofSettings (settings : ServiceSettings) : Except ServiceError Client :=
  match Url.read settings.url with
  | .ok base => .ok ⟨base, settings.username.map (⟨·, settings.password⟩)⟩
  | .error fault => .error (.invalidUrl fault)

/-- The address of a part of the service. -/
def endpoint (client : Client) (segments : List String) : Url := client.base.extend segments

/-- A request to a part of the service. -/
def requestTo (client : Client) (method : Method) (segments : List String) (body : Option Json) :
    Request :=
  ⟨method, client.endpoint segments, client.credentials.map Credentials.text, body⟩

/-- The request of a call. -/
def request (client : Client) : ServiceCall → Request
  | .indexExists index => client.requestTo .head [index] none
  | .getMapping index => client.requestTo .get [index, "_mapping"] none
  | .getSettings index =>
    let request := client.requestTo .get [index, "_settings"] none
    { request with url := request.url.addQuery "include_defaults" "true" }
  | .createIndex index => client.requestTo .put [index] none
  | .putLimit index limit =>
    client.requestTo .put [index, "_settings"] <| some <| .object
      [("index", .object
        [("mapping", .object [("total_fields", .object [("limit", .ofNat limit)])])])]
  | .putMapping index mapping => client.requestTo .put [index, "_mapping"] (some mapping)
  | .search search => client.requestTo .post [search.index, "_search"] (some (.object search.body))

/-- The request that changes a document, or writes it if there is none. -/
def upsert (client : Client) (index id : String) (document : Members Json) : Request :=
  client.requestTo .post [index, "_update", id] <| some <| .object
    [("doc", .object document), ("upsert", .object document)]

end Client
end CatalogSearch.Rest
