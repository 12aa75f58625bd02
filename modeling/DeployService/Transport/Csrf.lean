import DeployService.Text.Blank
import DeployService.Text.Split
import DeployService.Transport.Basic

/-!
# Protection against forged requests

A request that changes something carries a token that the service handed out. The token is fetched
from the host of the request, kept for a while and used for all requests; when the service rejects
it, it is forgotten. If the service opens a new session with the token, the token is fetched once
more within that session.

Requests that only read are sent as they are. `updateToken` and `forget` are the two steps that
change the kept token: everything that happens between them is sending.
-/

namespace DeployService

open DeployService.Http DeployService.Text

namespace Csrf

/-- How a transport protects requests. -/
structure Guard where
  /-- For how many milliseconds a token is used again. -/
  timeout : Nat
  /-- The session cookies are kept in the jar; otherwise they are only kept with the token. -/
  usesJar : Bool
  deriving DecidableEq, Repr

/-- For how many milliseconds a token is usually used again. -/
def standardTimeout : Nat := 90000

/-- The header that a token is asked for and handed out in. -/
def tokenHeader : String := "x-csrf-token"

/-- The header that names the header in which the token is expected. -/
def nameHeader : String := "x-csrf-header"

/-- The value that asks for a token. -/
def fetchValue : String := "Fetch"

/-- The value that rejects a token. -/
def requiredValue : String := "Required"

/-- Where tokens are handed out. -/
def tokenPath : List String := ["api", "v1", "csrf-token"]

/-- The method changes something. -/
def isProtected (method : String) : Bool := !(["GET", "HEAD", "OPTIONS"].contains method)

/-- The response rejects the token of its request. -/
def isRejection (response : Response) : Bool :=
  response.status == 403 &&
    match response.headers.get? tokenHeader with
    | none => false
    | some value => lowerAscii (String.ofList (value.map fun b => Char.ofNat b.toNat)) ==
        lowerAscii requiredValue

/-- The token that a response hands out. It is sent in the header that the response names, if that
is a header name. -/
def tokenOf? (response : Response) (cookies : Option HeaderValue) (now : Int) : Option CsrfToken :=
  (response.headers.get? tokenHeader).map fun value =>
    { header := ((response.headers.text? nameHeader).bind fun s => headerName? (trim s)).getD
        tokenHeader
      value
      cookies
      fetchedAt := now }

/-- The headers with the token and the cookies of its session. -/
def apply (token : CsrfToken) (headers : Headers) : Headers :=
  (headers.insert token.header token.value).insertSome cookie token.cookies

/-- The token may not be used any more. -/
def isExpired (guard : Guard) (now : Int) (token : CsrfToken) : Bool :=
  guard.timeout < now - token.fetchedAt

/-- The request for a token on behalf of another request. It has the credential, product name and
cookies of that request. -/
def fetchRequest (request : Request) : Request :=
  let headers : Headers :=
    [(tokenHeader, literalValue fetchValue), (contentType, literalValue "application/json")]
  let headers := [authorization, userAgent, cookie].foldl
    (fun headers name => headers.insertSome name (request.headers.get? name)) headers
  { method := "GET", url := request.url.atPath tokenPath, headers, body := .none }

/-- The cookies in the `Set-Cookie` headers of a response, without their attributes. -/
def cookiePairs (values : List HeaderValue) : List String :=
  ((values.filterMap headerText?).map fun s => trim (before ';' s)).filter (· ≠ "")

/-- The cookie header of the session that a response opens, if it opens one. -/
def sessionCookies (guard : Guard) (url : Url) (response : Response) :
    Call Session (Option HeaderValue) := fun s =>
  match response.headers.getAll setCookie with
  | [] => (.ok none, s)
  | values =>
    if guard.usesJar then
      let s := s.storeCookies url response
      (.ok (s.cookies? url), s)
    else
      match cookiePairs values with
      | [] => (.ok none, s)
      | pairs => (.ok (headerValue? ("; ".intercalate pairs)), s)

/-- Asks for a token, a second time if a new session was opened. -/
def fetch (guard : Guard) (base : Transport) (request : Request) :
    Call Session (Option CsrfToken) := do
  let first := fetchRequest request
  let response ← (base first).within "Failed to fetch CSRF token"
  match ← sessionCookies guard first.url response with
  | none => return tokenOf? response none (← Call.read (·.clock))
  | some cookies =>
    let again := { first with headers := first.headers.insert cookie cookies }
    let response ← (base again).within "Failed to fetch CSRF token"
    return tokenOf? response (some cookies) (← Call.read (·.clock))

/-- The kept token, if it may still be used. -/
def valid? (guard : Guard) (s : Session) : Option CsrfToken :=
  s.csrf.filter fun token => !isExpired guard s.clock token

/-- The token for a request: the kept one, or else one that is fetched and then kept. If there is
none, none is kept. -/
def updateToken (guard : Guard) (base : Transport) (request : Request) :
    Call Session (Option CsrfToken) := fun s =>
  match valid? guard s with
  | some token => (.ok (some token), s)
  | none =>
    match fetch guard base request s with
    | (.ok token, s) => (.ok token, { s with csrf := token })
    | (.error e, s) => (.error e, s)

/-- Forgets the kept token. -/
def forget (s : Session) : Session := { s with csrf := none }

/-- The request with a token, if there is one. -/
def protectWith (token : Option CsrfToken) (request : Request) : Request :=
  match token with
  | some token => { request with headers := apply token request.headers }
  | none => request

end Csrf

/-- Sends requests that change something with a token. -/
def Transport.guarded (guard : Csrf.Guard) (base : Transport) : Transport := fun request =>
  if Csrf.isProtected request.method then do
    let copy ← Call.ofExcept (copyOf request)
    let token ← Csrf.updateToken guard base copy
    let response ← base (Csrf.protectWith token copy)
    if Csrf.isRejection response then Call.modify Csrf.forget
    return response
  else base request

end DeployService
