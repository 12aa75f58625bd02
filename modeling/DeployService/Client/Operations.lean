import DeployService.Client.Network
import DeployService.Payload.Application
import DeployService.Transport.Csrf
import DeployService.Url.Percent

/-!
# The operations service

The operations in a space: starting them, acting on them, reading their messages and logs. Some
calls do not concern a space; a client that is opened without one
(`OperationsClient.connectGeneral`) makes them.
-/

namespace DeployService

open DeployService.Payload DeployService.Url

/-- The calls of the operations service. -/
inductive OperationsCall : Type → Type where
  /-- Acts on an operation, and says where it is found. -/
  | executeAction (operation action : String) : OperationsCall (Option String)
  /-- One deployed application. -/
  | mta (id : String) : OperationsCall Mta
  /-- The uploaded files, perhaps of one namespace. -/
  | files (namespaceName : Option String) : OperationsCall (List FileMetadata)
  /-- An operation. The collections that `embed` names are included. -/
  | operation (id embed : String) : OperationsCall Operation
  /-- The logs of an operation, without their content. -/
  | logs (operation : String) : OperationsCall (List LogFile)
  /-- The operations of one application or all, only the last ones and only those in some states. -/
  | operations (mta : Option String) (last : Option Nat) (states : List String) :
    OperationsCall (List Operation)
  /-- The deployed applications. -/
  | mtas : OperationsCall (List Mta)
  /-- The actions that are possible for an operation. -/
  | actions (operation : String) : OperationsCall (List String)
  /-- Starts an operation, and says where it is found. -/
  | start (operation : Operation) : OperationsCall (Option String)
  | logContent (operation log : String) : OperationsCall String
  /-- What the service says about itself. -/
  | info : OperationsCall ServiceInfo
  /-- The token against forged requests, if the service hands one out. -/
  | csrfToken : OperationsCall (Option String)

/-- The base path of the operations service. -/
def operationsBasePath : String := "api/v1"

/-- The base path of the operations of a space. -/
def spaceBasePath (space : String) : String := operationsBasePath ++ "/spaces/" ++ space

/-- The path of an operation, or a path below it. -/
def operationPath (id rest : String) : String := "/operations/" ++ encodeArgument id ++ rest

/-- What goes over the wire for a call, and how the response is read. -/
def OperationsCall.exchange {α : Type} : OperationsCall α → Exchange α
  | .executeAction id action =>
    .location ((Endpoint.post "ExecuteOperationAction" (operationPath id "")).withPair
      "actionId" action)
  | .mta id => .json (.get "GetMta" ("/mtas/" ++ encodeArgument id))
  | .files namespaceName =>
    .json ((Endpoint.get "GetMtaFiles" "/files").withPair?
      "namespace" (namespaceName.filter (· ≠ "")))
  | .operation id embed =>
    .json ((Endpoint.get "GetMtaOperation" (operationPath id "")).withPair?
      "embed" ((some embed).filter (· ≠ "")))
  | .logs id => .json (.get "GetMtaOperationLogs" (operationPath id "/logs"))
  | .operations app last states =>
    .json ((((Endpoint.get "GetMtaOperations" "/operations").withPair? "mtaId" app).withPair?
      "last" (last.map Text.showNat)).withPairs "state" states)
  | .mtas => .json (.get "GetMtas" "/mtas")
  | .actions id => .json (.get "GetOperationActions" (operationPath id "/actions"))
  | .start request =>
    .location ((Endpoint.post "StartMtaOperation" "/operations").withJson (toJson request))
  | .logContent id log =>
    .text (.get "GetMtaOperationLogContent"
      (operationPath id ("/logs/" ++ encodeArgument log ++ "/content")))
  | .info => .json (.get "GetInfo" "/info")
  | .csrfToken => .header Csrf.tokenHeader (.get "GetCsrfToken" "/csrf-token")

/-- A client of the operations service. -/
structure OperationsClient where
  /-- The client in its network. -/
  opened : OpenClient

namespace OperationsClient

/-- Opens a client for the operations of a space. -/
def connect (c : Connection) (space : String) (n : Network) : OperationsClient × Network :=
  let (opened, n) := c.connect (spaceBasePath space) (some (spaceBasePath (encodeArgument space))) n
  ({ opened }, n)

/-- Opens a client for the calls that do not concern a space. -/
def connectGeneral (c : Connection) (n : Network) : OperationsClient × Network :=
  let (opened, n) := c.connect operationsBasePath none n
  ({ opened }, n)

/-- The client with its calls retried under a policy. -/
def retrying (c : OperationsClient) (p : RetryPolicy) : OperationsClient :=
  { c with opened := c.opened.retrying p }

/-- What the client offers. -/
def service (c : OperationsClient) : Service Network OperationsCall := fun call =>
  c.opened.run call.exchange

end OperationsClient

end DeployService
