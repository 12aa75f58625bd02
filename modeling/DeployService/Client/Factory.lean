import DeployService.Client.Lookup
import DeployService.Client.Operations
import DeployService.Client.Process
import DeployService.Client.Rest

/-!
# The client factory

Hands out clients. Of each kind that is not bound to a process it opens one client, with the
arguments of the first request for that kind, and hands out that client ever after. The calls of all
clients are retried under the standard policy.
-/

namespace DeployService

/-- The clients that have been opened. -/
structure Factory where
  /-- The client of the configuration service. -/
  rest : Option RestClient
  /-- The client for the operations of a space. -/
  space : Option OperationsClient
  /-- The client for the operations service as a whole. -/
  general : Option OperationsClient
  /-- The client of the lookup service. -/
  lookup : Option LookupClient

namespace Factory

/-- A factory that has opened no client. -/
def empty : Factory := { rest := none, space := none, general := none, lookup := none }

/-- The client that was opened, or a new one. -/
def reuse {α : Type} (opened : Option α) (fresh : Network → α × Network) (n : Network) :
    α × Network :=
  match opened with
  | some client => (client, n)
  | none => fresh n

/-- The policy under which the calls of all clients are retried. -/
def policy : RetryPolicy := .standard

/-- The client of the configuration service. -/
def restClient (f : Factory) (c : Connection) (org space : String) (n : Network) :
    RestClient × Factory × Network :=
  let (client, n) := reuse f.rest (fun n =>
    let (client, n) := RestClient.connect c org space n
    (client.retrying policy, n)) n
  (client, { f with rest := some client }, n)

/-- The client for the operations of a space. -/
def spaceClient (f : Factory) (c : Connection) (space : String) (n : Network) :
    OperationsClient × Factory × Network :=
  let (client, n) := reuse f.space (fun n =>
    let (client, n) := OperationsClient.connect c space n
    (client.retrying policy, n)) n
  (client, { f with space := some client }, n)

/-- The client for the operations service as a whole. -/
def generalClient (f : Factory) (c : Connection) (n : Network) :
    OperationsClient × Factory × Network :=
  let (client, n) := reuse f.general (fun n =>
    let (client, n) := OperationsClient.connectGeneral c n
    (client.retrying policy, n)) n
  (client, { f with general := some client }, n)

/-- The client of the lookup service. -/
def lookupClient (f : Factory) (c : Connection) (space : String) (n : Network) :
    LookupClient × Factory × Network :=
  let (client, n) := reuse f.lookup (fun n =>
    let (client, n) := LookupClient.connect c space n
    (client.retrying policy, n)) n
  (client, { f with lookup := some client }, n)

/-- A new client for a process. -/
def processClient (f : Factory) (c : Connection) (org space service process : String)
    (n : Network) : ProcessClient × Factory × Network :=
  let (client, n) := ProcessClient.connect c org space service process n
  (client.retrying policy, f, n)

end Factory

end DeployService
