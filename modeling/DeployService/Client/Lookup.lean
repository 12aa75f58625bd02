import DeployService.Client.Network
import DeployService.Payload.Application
import DeployService.Url.Percent

/-!
# The lookup service

Finds deployed applications by name and namespace.
-/

namespace DeployService

open DeployService.Payload DeployService.Url

/-- The calls of the lookup service. -/
inductive LookupCall : Type → Type where
  /-- The applications in a space, perhaps only those of one name or namespace. -/
  | mtas (name namespaceName : Option String) (space : String) : LookupCall (List Mta)
  /-- The same for the space that the client works in. -/
  | mtasHere (name namespaceName : Option String) : LookupCall (List Mta)

/-- The base path of the lookup service. -/
def lookupBasePath : String := "api/v2"

/-- The call for the applications in a space. -/
def lookupEndpoint (name namespaceName : Option String) (space : String) : Endpoint :=
  ((Endpoint.get "GetMtasV2" ("/spaces/" ++ encodeArgument space ++ "/mtas")).withPair?
    "name" name).withPair? "namespace" namespaceName

/-- What goes over the wire for a call of a client that works in the space `own`, and how the
response is read. -/
def LookupCall.exchange (own : String) {α : Type} : LookupCall α → Exchange α
  | .mtas name namespaceName space => .json (lookupEndpoint name namespaceName space)
  | .mtasHere name namespaceName => .json (lookupEndpoint name namespaceName own)

/-- A client of the lookup service. -/
structure LookupClient where
  /-- The client in its network. -/
  opened : OpenClient
  /-- The space that it works in. -/
  space : String

namespace LookupClient

/-- Opens a client for a space. -/
def connect (c : Connection) (space : String) (n : Network) : LookupClient × Network :=
  let (opened, n) := c.connect lookupBasePath none n
  ({ opened, space }, n)

/-- The client with its calls retried under a policy. -/
def retrying (c : LookupClient) (p : RetryPolicy) : LookupClient :=
  { c with opened := c.opened.retrying p }

/-- What the client offers. -/
def service (c : LookupClient) : Service Network LookupCall := fun call =>
  c.opened.run (call.exchange c.space)

end LookupClient

end DeployService
