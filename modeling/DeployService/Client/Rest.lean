import DeployService.Client.Network
import DeployService.Payload.Application
import DeployService.Url.Percent

/-!
# The configuration service

What is deployed in a space of an organization, and the configuration entries that deployed
applications leave behind.
-/

namespace DeployService

open DeployService.Payload DeployService.Url

/-- The calls of the configuration service. -/
inductive RestCall : Type → Type where
  /-- Removes the configuration entries of deleted applications. -/
  | purgeConfiguration (org space : String) : RestCall Unit
  /-- The operations in the space, only the last ones and only those in some states. -/
  | operations (last : Option Nat) (states : List String) : RestCall (List Operation)
  /-- Everything deployed in the space. -/
  | components : RestCall Components
  /-- One deployed application. -/
  | mta (id : String) : RestCall Mta

/-- The space that a client of the configuration service works in. -/
structure RestScope where
  /-- The name of the organization. -/
  org : String
  /-- The name of the space. -/
  space : String
  deriving DecidableEq, Repr

/-- The base path of the configuration service. -/
def restBasePath : String := "rest"

/-- A path below the space. -/
def RestScope.path (scope : RestScope) (rest : String) : String :=
  "/" ++ encodeArgument scope.org ++ "/" ++ encodeArgument scope.space ++ rest

/-- What goes over the wire for a call, and how the response is read. -/
def RestCall.exchange (scope : RestScope) {α : Type} : RestCall α → Exchange α
  | .purgeConfiguration org space =>
    .empty (((Endpoint.post "PurgeConfiguration" "/configuration-entries/purge").withPair
      "org" org).withPair "space" space)
  | .operations last states =>
    .json (((Endpoint.get "GetOperations" (scope.path "/operations")).withPair?
      "last" (last.map Text.showNat)).withPairs "status" states)
  | .components => .json (.get "GetComponents" (scope.path "/components"))
  | .mta id => .json (.get "GetMta" (scope.path ("/components/" ++ encodeArgument id)))

/-- A client of the configuration service. -/
structure RestClient where
  /-- The client in its network. -/
  opened : OpenClient
  /-- The space it works in. -/
  scope : RestScope

namespace RestClient

/-- Opens a client for a space. -/
def connect (c : Connection) (org space : String) (n : Network) : RestClient × Network :=
  let (opened, n) := c.connect restBasePath none n
  ({ opened, scope := { org, space } }, n)

/-- The client with its calls retried under a policy. -/
def retrying (c : RestClient) (p : RetryPolicy) : RestClient :=
  { c with opened := c.opened.retrying p }

/-- What the client offers. -/
def service (c : RestClient) : Service Network RestCall := fun call =>
  c.opened.run (call.exchange c.scope)

end RestClient

end DeployService
