import DeployService.Client.Network
import DeployService.Payload.LongRunning
import DeployService.Url.Percent

/-!
# The process service

Follows one long-running process: its tasks and logs, why it stopped, and what can be done with it.
-/

namespace DeployService

open DeployService.Payload.LongRunning DeployService.Url

/-- The calls of the process service. -/
inductive ProcessCall : Type → Type where
  /-- The service that runs the process. -/
  | metadata : ProcessCall Metadata
  /-- The logs of the process. -/
  | logs : ProcessCall (List Log)
  | logContent (log : String) : ProcessCall String
  /-- The tasks of the process. -/
  | tasks : ProcessCall (List Task)
  | task (id : String) : ProcessCall Task
  /-- Why the process stopped. -/
  | failure : ProcessCall Failure
  /-- Acts on the process. -/
  | executeAction (action : String) : ProcessCall Unit
  /-- What can be done with the process. -/
  | actions : ProcessCall (List Action)

/-- The base path of a process. -/
def processBasePath (org space service process : String) : String :=
  "slprot/" ++ org ++ "/" ++ space ++ "/slp/runs/" ++ service ++ "/" ++ process

/-- What goes over the wire for a call, and how the response is read. -/
def ProcessCall.exchange {α : Type} : ProcessCall α → Exchange α
  | .metadata => .json (.get "GetMetadata" "/metadata")
  | .logs => .json (.get "GetLogs" "/logs")
  | .logContent log =>
    .text (.get "GetLogContent" ("/logs/" ++ encodeArgument log ++ "/content"))
  | .tasks => .json (.get "GetTasklist" "/tasklist")
  | .task id => .json (.get "GetTasklistTask" ("/tasklist/" ++ encodeArgument id))
  | .failure => .json (.get "GetError" "/error")
  | .executeAction action =>
    .empty (.post "ExecuteAction" ("/actions/" ++ encodeArgument action))
  | .actions => .json (.get "GetActions" "/actions")

/-- A client of the process service. -/
structure ProcessClient where
  /-- The client in its network. -/
  opened : OpenClient
  /-- The id of the service that runs the process. It is known without asking. -/
  serviceId : String

namespace ProcessClient

/-- Opens a client for a process. -/
def connect (c : Connection) (org space service process : String) (n : Network) :
    ProcessClient × Network :=
  let (opened, n) := c.connect (processBasePath org space service process)
    (some (processBasePath (encodeArgument org) (encodeArgument space) (encodeArgument service)
      (encodeArgument process))) n
  ({ opened, serviceId := service }, n)

/-- The client with its calls retried under a policy. -/
def retrying (c : ProcessClient) (p : RetryPolicy) : ProcessClient :=
  { c with opened := c.opened.retrying p }

/-- What the client offers. -/
def service (c : ProcessClient) : Service Network ProcessCall := fun call =>
  c.opened.run call.exchange

end ProcessClient

end DeployService
