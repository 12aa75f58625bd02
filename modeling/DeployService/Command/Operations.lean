import DeployService.Client.Operations
import DeployService.Command.Console
import DeployService.Command.Table
import DeployService.Text.Quoted

/-!
# Commands about operations

Listing the operations in a space, printing the logs of one, and acting on one; and showing the
version of the service that has them.
-/

namespace DeployService.Command

open DeployService.Payload DeployService.Text

variable {σ : Type}

/-! ## Listing operations -/

/-- The states in which an operation still needs attention. -/
def activeStates : List String := ["RUNNING", "ERROR", "ACTION_REQUIRED"]

/-- What is said before the operations are listed. -/
def listingTitle (mta : Option String) (last : Option Nat) (all : Bool) : String :=
  match mta, last, all with
  | some id, _, _ => "Getting multi-target app operations for " ++ id ++ "..."
  | none, _, true => "Getting all multi-target app operations..."
  | none, some 1, _ => "Getting last multi-target app operation..."
  | none, some (n + 1), _ =>
    "Getting last " ++ showNat (n + 1) ++ " multi-target app operations..."
  | none, _, _ => "Getting active multi-target app operations..."

/-- Which operations are asked for: how many of the last ones, and in which states. Unless all or
the last ones are wanted, only the active ones are. -/
def listingFilter (last : Option Nat) (all : Bool) : Option Nat × List String :=
  if all then (none, [])
  else
    match last with
    | some (n + 1) => (some (n + 1), [])
    | _ => (none, activeStates)

/-- The cells of an operation in the list. -/
def operationRow (o : Operation) : List String :=
  [o.processId.getD "", o.processType.getD "", (o.mtaId.filter (· ≠ "")).getD "N/A",
    o.namespaceName.getD "", o.state.getD "", o.startedAt.getD "", o.user.getD ""]

/-- The header of the list of operations. -/
def operationHeader : List String :=
  ["id", "type", "mta id", "namespace", "status", "started at", "started by"]

/-- Lists operations. -/
def operations (service : Service σ OperationsCall) (mta : Option String) (last : Option Nat)
    (all : Bool) : Call (Console σ) Unit := do
  Console.say (listingTitle mta last all)
  let (last, states) := listingFilter last all
  let found ← (Console.ask (service (.operations mta last states))).within
    "Could not get multi-target app operations"
  Console.say "OK"
  if found.isEmpty then Console.say "No multi-target app operations found"
  else Table.print operationHeader (found.map operationRow)

/-! ## Printing logs -/

/-- Prints one log of an operation. -/
def printLog (service : Service σ OperationsCall) (operation log : String) :
    Call (Console σ) Unit := do
  let content ← (Console.ask (service (.logContent operation log))).within
    ("Could not get content of log " ++ log)
  Console.sayAll ["==> " ++ log ++ " <==", content]

/-- Prints logs of an operation, one after the other. -/
def printLogs (service : Service σ OperationsCall) (operation : String) :
    List String → Call (Console σ) Unit
  | [] => pure ()
  | log :: logs => do
    printLog service operation log
    printLogs service operation logs

/-- Prints all logs of an operation, or only the given one. -/
def logs (service : Service σ OperationsCall) (operation : String) (log : Option String) :
    Call (Console σ) Unit := do
  Console.say ("Getting logs of multi-target app operation with id " ++ operation ++ "...")
  let ids ←
    match log with
    | some id => pure [id]
    | none => do
      let found ← (Console.ask (service (.logs operation))).within "Could not get process logs"
      pure (found.map LogFile.id)
  printLogs service operation ids
  if ids.isEmpty then Console.say "No logs found"

/-! ## Acting on an operation -/

/-- What can be asked of an operation. -/
def knownActions : List String := ["abort", "retry", "resume"]

/-- The error for something that cannot be asked of any operation. -/
def invalidAction (action : String) : Error :=
  .plain ("Invalid action " ++ quoted action ++ ". Valid actions are: " ++
    ", ".intercalate knownActions)

/-- The error for something that the operation does not offer. -/
def impossibleAction (operation action : String) : Error :=
  .plain ("Action " ++ quoted action ++ " is not possible for operation " ++ operation)

/-- Acts on an operation, after checking that the operation offers the action. -/
def act (service : Service σ OperationsCall) (operation action : String) :
    Call (Console σ) Unit := do
  if !knownActions.contains action then Call.fail (invalidAction action)
  else do
    let offered ← (Console.ask (service (.actions operation))).within
      ("Could not get actions of operation " ++ operation)
    if !offered.contains action then Call.fail (impossibleAction operation action)
    else do
      Console.say ("Executing action " ++ quoted action ++ " on operation " ++ operation ++ "...")
      let _ ← (Console.ask (service (.executeAction operation action))).within
        ("Could not execute action " ++ quoted action ++ " on operation " ++ operation)
      Console.say "OK"

/-! ## The service -/

/-- Shows the version of the service's interface. -/
def info (service : Service σ OperationsCall) : Call (Console σ) Unit := do
  let found ← (Console.ask (service .info)).within "Could not get deploy service information"
  Console.say ("API version: " ++ Text.showInt found.apiVersion.toInt)

end DeployService.Command
