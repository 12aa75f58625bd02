import DeployService.Client.Lookup
import DeployService.Client.Rest
import DeployService.Command.Console
import DeployService.Command.Table

/-!
# Commands about applications

Listing the deployed applications of a space, showing one of them, and purging the configuration
entries of those that no longer exist.
-/

namespace DeployService.Command

open DeployService.Payload

variable {σ : Type}

/-- The version of an application, as far as it is known. -/
def versionOf (mta : Mta) : String :=
  if mta.metadata.version = "" ∨ mta.metadata.version = "0.0.0-unknown" then "?"
  else mta.metadata.version

/-- The header of the list of applications. -/
def mtaHeader : List String := ["mta id", "version", "namespace"]

/-- The cells of an application in the list. -/
def mtaRow (mta : Mta) : List String :=
  [mta.metadata.id, versionOf mta, mta.metadata.namespaceName.getD ""]

/-- Lists the applications. -/
def mtas (service : Service σ LookupCall) : Call (Console σ) Unit := do
  Console.say "Getting multi-target apps..."
  let found ← (Console.ask (service (.mtasHere none none))).within
    "Could not get deployed components"
  Console.say "OK"
  if found.isEmpty then Console.say "No multi-target apps found"
  else Table.print mtaHeader (found.map mtaRow)

/-- The error for an application that is not there. -/
def notFound (id : String) : Error := .plain ("Multi-target app " ++ id ++ " not found")

/-- An error of the call for one application. If the service does not know the application, that is
all there is to say. -/
def mtaError (id : String) (e : Error) : Error :=
  match e.cause with
  | .client 404 _ _ => notFound id
  | _ => e.within ("Could not get multi-target app " ++ id)

/-- The only application in a list. -/
def theOnly (id : String) : List Mta → Except Error Mta
  | [mta] => .ok mta
  | [] => .error (notFound id)
  | _ => .error (.plain ("Multiple multi-target apps exist for name " ++ id ++
      ", please enter namespace"))

/-- The header of the list of modules. -/
def moduleHeader : List String := ["name", "module", "urls"]

/-- The cells of a module. -/
def moduleRow (m : Payload.Module) : List String :=
  [m.appName, m.moduleName, ", ".intercalate m.uris]

/-- Prints what there is to know of an application. -/
def printMta (mta : Mta) : Call (Console σ) Unit := do
  Console.sayAll ["OK", "Version: " ++ versionOf mta,
    "Namespace: " ++ mta.metadata.namespaceName.getD "", "", "Apps:"]
  Table.print moduleHeader (mta.modules.map moduleRow)
  Console.sayAll (["", "Services:"] ++ mta.services)

/-- Shows the application of the given id, in a namespace if one is given. -/
def mta (service : Service σ LookupCall) (id : String) (namespaceName : Option String) :
    Call (Console σ) Unit := do
  Console.say ("Showing health and status for multi-target app " ++ id ++ "...")
  let found ← (Console.ask (service (.mtasHere (some id) namespaceName))).mapError (mtaError id)
  let mta ← Call.ofExcept (theOnly id found)
  printMta mta

/-- Removes the configuration entries of applications that no longer exist. -/
def purge (service : Service σ RestCall) (org space : String) : Call (Console σ) Unit := do
  Console.say ("Purging configuration entries in org " ++ org ++ " / space " ++ space)
  (Console.ask (service (.purgeConfiguration org space))).within "Could not purge configuration"
  Console.say "OK"

end DeployService.Command
