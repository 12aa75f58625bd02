import DeployService.Channel.Reading
import DeployService.Transport.UserAgent
import DeployService.Url.Parser

/-!
# Channels

A channel knows the scheme, host and base path of a service and turns the calls of the service into
requests. The host may be given with a scheme; slashes where host, base path and path meet do not
matter. A channel sends its requests under a product name, with a credential and with the cookies of
the session, and takes in the cookies of every response.
-/

namespace DeployService

open DeployService.Http DeployService.Text

/-- Where a service is found. -/
structure Channel where
  /-- The scheme of the URLs. -/
  scheme : String
  /-- The host, possibly with user information, a port and the beginning of a path. -/
  host : String
  /-- The path below which the service is found. -/
  basePath : String
  /-- The path to be written in URLs in place of the base path. -/
  encodedBasePath : Option String
  /-- The product name under which requests are sent. -/
  userAgent : String
  deriving DecidableEq, Repr

namespace Channel

/-- The scheme of a host that is given without one. -/
def defaultScheme : String := "https"

/-- The scheme and the host in a text that may name a scheme. -/
def splitHost (host : String) : String × String :=
  match cutAt? "://" host with
  | some (scheme, rest) => (lowerAscii scheme, trimEndWhile (· == '/') rest)
  | none => (defaultScheme, trimEndWhile (· == '/') host)

/-- The channel to a host with the standard product name. -/
def of (host basePath : String) (encodedBasePath : Option String) : Channel :=
  { scheme := (splitHost host).1
    host := (splitHost host).2
    basePath
    encodedBasePath
    userAgent := UserAgent.build none }

/-- The text of the URL of a path, without a query. -/
def rawUrl (c : Channel) (path : String) : String :=
  let base := trimWhile (· == '/') (c.encodedBasePath.getD c.basePath)
  let path := trimStartWhile (· == '/') path
  c.scheme ++ "://" ++ c.host ++ "/" ++ base ++
    (if base = "" ∨ path = "" then "" else "/") ++ path

/-- The URL of a call. -/
def url (c : Channel) (e : Endpoint) : Except Error Url :=
  let raw := c.rawUrl e.path
  match Url.parse raw with
  | .ok url => .ok (url.appendPairs e.query)
  | .error fault => .error
      (.externalIn ("Invalid URL for operation " ++ e.id ++ ": " ++ raw) (.url fault))

/-- The headers of a call, before the product name is added. -/
def headers (e : Endpoint) (token : Token) (cookies : Option HeaderValue) :
    Except Error Headers := do
  let headers : Headers := [(accept, literalValue e.produces)]
  let headers := if e.body.isSome then headers.insert contentType (literalValue jsonMedia)
    else headers
  let headers ← token.authenticate headers
  return headers.insertSome cookie cookies

/-- The request of a call. -/
def request (c : Channel) (e : Endpoint) (token : Token) (s : Session) : Except Error Request := do
  let url ← c.url e
  let headers ← headers e token (s.cookies? url)
  let body := match e.body with
    | some bytes => Body.bytes bytes
    | none => Body.none
  return { method := e.method, url, headers, body }

/-- Sends a call with a credential and returns the response if its status is a success. -/
def submit (c : Channel) (base : Transport) (e : Endpoint) (token : Token) :
    Call Session Response := do
  let request ← fun s => (c.request e token s, s)
  let response ← Transport.named c.userAgent base request
  Call.modify (Session.storeCookies request.url response)
  Call.ofExcept (checkStatus e.id response)

end Channel

end DeployService
