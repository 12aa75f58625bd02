import DeployService.Http.Jar
import DeployService.Http.Message
import DeployService.Token.Cache

/-!
# Sessions

What the calls of a client read and change. The wire (`Wire`) carries requests to the server: it has
a clock, the requests sent so far, and what becomes of each request, as a stream that is read one by
one. Around it, a session has the cookies, the token against forged requests, and the access token.

Time passes between the calls, where the clock may be set to anything, and in the pauses between the
attempts of a call. How long the client has paused is added up besides.
-/

namespace DeployService

open DeployService.Http

/-- The connection to the server. -/
structure Wire where
  /-- The time, in milliseconds since 1970. -/
  clock : Int
  /-- What becomes of the requests, from the first one on. -/
  answers : Nat → Except Error Response
  /-- The requests that were sent. -/
  sent : List Request
  /-- How long the client has paused, in milliseconds. -/
  paused : Nat

/-- The token that protects requests against being forged, and where it came from. -/
structure CsrfToken where
  /-- The header that it is sent in. -/
  header : String
  /-- The token itself. -/
  value : HeaderValue
  /-- The cookies of the session that it belongs to. -/
  cookies : Option HeaderValue
  /-- When it was fetched, in milliseconds since 1970. -/
  fetchedAt : Int
  deriving DecidableEq, Repr

/-- What the calls of a client read and change. -/
structure Session extends Wire where
  /-- The cookies. -/
  jar : Jar
  /-- The kept token against forged requests. -/
  csrf : Option CsrfToken
  /-- The access tokens. -/
  tokens : TokenState

/-- Sends a request as it is. -/
def Wire.send (request : Request) : Call Wire Response := fun w =>
  (w.answers w.sent.length, { w with sent := w.sent ++ [request] })

namespace Session

/-- Sends a request as it is. -/
def send (request : Request) : Call Session Response :=
  Call.on Session.toWire (fun s w => { s with toWire := w }) (Wire.send request)

/-- Pauses for some milliseconds. -/
def pause (milliseconds : Nat) (s : Session) : Session :=
  { s with clock := s.clock + milliseconds, paused := s.paused + milliseconds }

/-- The cookie header for a URL. -/
def cookies? (url : Url) (s : Session) : Option HeaderValue := s.jar.header? s.clock url

/-- Takes in the cookies that a response from a URL sets. -/
def storeCookies (url : Url) (response : Response) (s : Session) : Session :=
  { s with jar := s.jar.store s.clock url (response.headers.getAll setCookie) }

/-- The token of the next call. -/
def nextToken (supply : TokenSupply) : Call Session Token := fun s =>
  Call.on Session.tokens (fun s t => { s with tokens := t }) (supply.next (wholeSeconds s.clock)) s

end Session

/-- A way of sending requests. -/
abbrev Transport := Request → Call Session Response

end DeployService
