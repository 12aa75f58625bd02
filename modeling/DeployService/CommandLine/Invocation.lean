import DeployService.CommandLine.Level
import DeployService.Error
import DeployService.Settings.Basic
import DeployService.Text.Blank

/-!
# Invocations

What a command line asks for: a command with its own arguments, and the options that all commands
share. A shared option that is given both before and after the command has the later value. The
token may come from the environment instead, which is looked at on each level that has no token.
-/

namespace DeployService.CommandLine

/-- A command with its arguments. -/
inductive Command where
  /-- Removes configuration entries. -/
  | purge
  /-- Lists the applications. -/
  | mtas
  /-- Shows an application. -/
  | mta (id : String) (namespaceName : Option String)
  /-- Lists operations. -/
  | operations (mta : Option String) (last : Option Nat) (all : Bool)
  /-- Prints the logs of an operation. -/
  | logs (operation : String) (log : Option String)
  /-- Acts on an operation. -/
  | act (operation action : String)
  /-- Shows the version of the service. -/
  | info
  deriving DecidableEq, Repr

/-- What a command line asks for. -/
structure Invocation where
  /-- The deploy service. -/
  url : Option String
  /-- The interface of the platform. -/
  platform : Option String
  org : Option String
  space : Option String
  /-- The id of the space. -/
  spaceGuid : Option String
  /-- The access token. -/
  token : Option String
  command : Command
  deriving DecidableEq, Repr

/-- The variable of the environment that may hold the token. -/
def tokenVariable : String := "MULTIAPPS_ACCESS_TOKEN"

/-- The command of the given name, with what was read for it. -/
def commandOf (name : String) (r : Reading) : Command :=
  let text (name : String) : String := (r.value? name).getD ""
  match name with
  | "purge-mta-config" => .purge
  | "mtas" => .mtas
  | "mta" => .mta (text "mta-id") (r.value? "namespace")
  | "mta-ops" =>
    .operations (r.value? "mta") ((r.value? "last").bind readNumber?) (r.value? "all").isSome
  | "mta-op-logs" => .logs (text "operation-id") (r.value? "log")
  | "action" => .act (text "operation-id") (text "action")
  | _ => .info

/-- What was read before and after a command, as an invocation. -/
def invocationOf (outer inner : Reading) (name : String) (token : Option String) : Invocation :=
  let shared (name : String) : Option String := (inner.value? name).or (outer.value? name)
  { url := shared "url"
    platform := shared "cf-api"
    org := shared "org"
    space := shared "space"
    spaceGuid := shared "space-guid"
    token := (shared "token").or token
    command := commandOf name inner }

/-- The fault of a command line that asks for an explanation of a command. -/
def explain : List String → Fault
  | [] => .help
  | [name] => if program.commands.contains name then .help else .invalidCommand
  | _ => .invalidCommand

/-- The text of a variable. -/
def textOf : Variable → Option String
  | .text value => some value
  | _ => none

/-- Checks that the token of the environment is a text, on a level that has no token of its own. -/
def checkToken (r : Reading) (token : Variable) : Except Fault Unit :=
  if token = .unreadable ∧ r.value? "token" = none then .error .unreadable else .ok ()

/-- Reads the words after a command. -/
def readCommand (name : String) (words : List String) (token : Variable) :
    Except Fault Reading := do
  let g := command name
  let (r, _) ← readWords g (Reading.start g) words
  let r ← settle r
  checkToken r token
  check g r
  return r

/-- Reads a command line. The token is the one in the environment. -/
def parse (words : List String) (token : Variable) : Except Fault Invocation := do
  let (r, next) ← readWords program (Reading.start program) words
  match next with
  | none =>
    let r ← settle r
    checkToken r token
    throw (if r.found.isEmpty && token = .unset then .empty else .missingCommand)
  | some (name, words) =>
    if name = helpCommand then throw (explain words)
    else
      let inner ← readCommand name words token
      let outer ← settle r
      checkToken outer token
      return invocationOf outer inner name (textOf token)

/-- The value of an option that a command cannot do without. A blank one counts as missing. -/
def require (value : Option String) (option : String) : Except Error String :=
  match value.filter fun s => !Text.isBlankText s with
  | some value => .ok value
  | none => .error (.plain ("--" ++ option ++ " is required for this command"))

end DeployService.CommandLine
