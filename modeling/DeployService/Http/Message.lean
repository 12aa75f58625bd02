import DeployService.Http.Header
import DeployService.Http.Status
import DeployService.Url.Basic

/-!
# Requests and responses

What is sent and what comes back. The body of a request may be a stream, which can be read only
once; such a request cannot be copied (`Request.copy?`), and so nothing that works on a copy can
send it.

The body of a response comes after its status and its headers, and the connection may break off
before the end of it. Such a response has a status and headers, but no body that can be read.
-/

namespace DeployService.Http

/-- The body of a request. -/
inductive Body where
  | none
  /-- Bytes in memory. -/
  | bytes (content : List UInt8)
  /-- A stream that can be read once. -/
  | stream
  deriving DecidableEq, Repr

/-- A request. -/
structure Request where
  /-- What is asked for, such as `GET`. -/
  method : String
  /-- Where it is sent. -/
  url : Url
  headers : Headers
  body : Body
  deriving DecidableEq, Repr

/-- A request without headers and body. -/
def Request.plain (method : String) (url : Url) : Request :=
  { method, url, headers := [], body := .none }

/-- A copy of a request, unless its body is a stream. -/
def Request.copy? (r : Request) : Option Request :=
  if r.body = .stream then Option.none else some r

/-- A response. -/
structure Response where
  /-- The status code. -/
  status : Nat
  headers : Headers
  body : List UInt8
  /-- Why the body breaks off, if it does. -/
  cut : Option String := none
  deriving DecidableEq, Repr

end DeployService.Http
