import DeployService.Error
import DeployService.Json.Printer
import DeployService.Text.Utf8

/-!
# Endpoints

One call of the service as it goes over the wire: what is asked for, where below the base path of a
channel, with which query and body.
-/

namespace DeployService

/-- The media type of JSON documents. -/
def jsonMedia : String := "application/json"

/-- The media type of plain text. -/
def textMedia : String := "text/plain"

/-- The media type of HTML documents. -/
def htmlMedia : String := "text/html"

/-- A call of the service. -/
structure Endpoint where
  /-- The name of the operation, for messages. -/
  id : String
  /-- The method of the request. -/
  method : String
  /-- The path below the base path. -/
  path : String
  /-- The pairs of the query. -/
  query : List (String × String)
  /-- The media type that is accepted. -/
  produces : String
  /-- The body, a JSON document. -/
  body : Option (List UInt8)
  deriving DecidableEq, Repr

namespace Endpoint

/-- A call without query and body that accepts JSON. -/
def of (method id path : String) : Endpoint :=
  { id, method, path, query := [], produces := jsonMedia, body := none }

/-- A call that reads something. -/
def get (id path : String) : Endpoint := of "GET" id path

/-- A call that changes something. -/
def post (id path : String) : Endpoint := of "POST" id path

/-- The call with a further pair in its query. -/
def withPair (e : Endpoint) (key value : String) : Endpoint :=
  { e with query := e.query ++ [(key, value)] }

/-- The call with a further pair in its query if there is a value for it. -/
def withPair? (e : Endpoint) (key : String) (value : Option String) : Endpoint :=
  match value with
  | some value => e.withPair key value
  | none => e

/-- The call with a pair of one key for each value. -/
def withPairs (e : Endpoint) (key : String) (values : List String) : Endpoint :=
  values.foldl (fun e value => e.withPair key value) e

/-- The call with an encoded body. -/
def withBody (e : Endpoint) (encoded : List UInt8) : Endpoint := { e with body := some encoded }

/-- The call with a body, unless the body has no encoding. -/
def withBody? (e : Endpoint) (encoded : Option (List UInt8)) : Except Error Endpoint :=
  match encoded with
  | some encoded => .ok (e.withBody encoded)
  | none => .error (.externalIn ("Failed to encode request body for " ++ e.id) .json)

/-- The call with a JSON value as its body. -/
def withJson (e : Endpoint) (value : Json) : Endpoint :=
  e.withBody (Text.Utf8.encode value.render)

end Endpoint

end DeployService
