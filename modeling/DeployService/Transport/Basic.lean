import DeployService.Session

/-!
# Transports

A transport sends a request and returns the response. `Transport.direct` sends it as it is. A
transport that changes what is sent works on a copy of the request (`copyOf`), so that the caller's
request stays as it was; a request whose body is a stream cannot be copied.
-/

namespace DeployService

open DeployService.Http

/-- A copy of a request. -/
def copyOf (request : Request) : Except Error Request :=
  match request.copy? with
  | some copy => .ok copy
  | none => .error (.plain
      ("Request to " ++ request.url.text ++ " has a streaming body and cannot be cloned"))

namespace Transport

/-- Sends a request as it is. -/
def direct : Transport := Session.send

/-- Reaches no server: every request fails. -/
def unreachable : Transport := fun _ => Call.fail (.of (.external .http))

/-- The request with a header that accepts anything, unless it says what it accepts. -/
def acceptingAnything (request : Request) : Request :=
  match request.headers.get? accept with
  | some _ => request
  | none => { request with headers := request.headers.insert accept (literalValue "*/*") }

/-- Sends a copy of a request, and says so when that fails. A request that does not say what it
accepts accepts anything. -/
def platform (base : Transport) : Transport := fun request => do
  let copy ← Call.ofExcept (copyOf request)
  (base (acceptingAnything copy)).within "Failed to send request"

end Transport

end DeployService
