/-!
# The grammar of the command line

The program has commands, and each level of the command line (the program itself and each command)
has options. An option has a long name and perhaps a short one; it takes a text, a number or no
value at all, or it asks for help or for the version. The options in `shared` may stand on either
level.
-/

namespace DeployService.CommandLine

/-- What an option is good for. -/
inductive OptionKind where
  /-- It takes a text. -/
  | text
  /-- It takes a number of 32 bits. -/
  | number
  /-- It is there or not. -/
  | flag
  /-- It asks for help. -/
  | help
  /-- It asks for the version. -/
  | version
  deriving DecidableEq, Repr

/-- An option. -/
structure OptionSpec where
  /-- Its long name, without hyphens. -/
  long : String
  /-- Its short name. -/
  short : Option Char
  /-- What it is good for. -/
  kind : OptionKind
  deriving DecidableEq, Repr

/-- The option takes a value. -/
def OptionSpec.takesValue (o : OptionSpec) : Bool := o.kind == .text || o.kind == .number

/-- What may stand on one level of the command line. -/
structure Grammar where
  options : List OptionSpec
  /-- The names of the arguments that are no options, in order. -/
  arguments : List String
  /-- The names of the commands. -/
  commands : List String
  /-- The arguments and options that must be there. -/
  required : List String
  /-- The options that exclude each other. -/
  exclusive : List (String × String)
  deriving DecidableEq, Repr

/-- The option that asks for help. -/
def helpOption : OptionSpec := ⟨"help", some 'h', .help⟩

/-- The options of both levels. -/
def shared : List OptionSpec :=
  [⟨"url", some 'u', .text⟩, ⟨"cf-api", none, .text⟩, ⟨"org", none, .text⟩, ⟨"space", none, .text⟩,
    ⟨"space-guid", none, .text⟩, ⟨"token", none, .text⟩, helpOption]

/-- The command that explains another one. -/
def helpCommand : String := "help"

/-- The names of the commands. -/
def commandNames : List String :=
  ["purge-mta-config", "mtas", "mta", "mta-ops", "mta-op-logs", "action", "info"]

/-- The grammar of the program itself. -/
def program : Grammar :=
  { options := shared ++ [⟨"version", some 'V', .version⟩]
    arguments := []
    commands := commandNames ++ [helpCommand]
    required := []
    exclusive := [] }

/-- The grammar of a command without options of its own. -/
def bare : Grammar :=
  { options := shared, arguments := [], commands := [], required := [], exclusive := [] }

/-- The name of the option for an operation. -/
def operationOption : OptionSpec := ⟨"operation-id", some 'i', .text⟩

/-- The grammar of a command. -/
def command (name : String) : Grammar :=
  match name with
  | "mta" =>
    { bare with
      options := shared ++ [⟨"namespace", none, .text⟩]
      arguments := ["mta-id"]
      required := ["mta-id"] }
  | "mta-ops" =>
    { bare with
      options := shared ++ [⟨"mta", none, .text⟩, ⟨"last", none, .number⟩, ⟨"all", none, .flag⟩]
      exclusive := [("all", "last")] }
  | "mta-op-logs" =>
    { bare with
      options := shared ++ [operationOption, ⟨"log", none, .text⟩]
      required := ["operation-id"] }
  | "action" =>
    { bare with
      options := shared ++ [operationOption, ⟨"action", some 'a', .text⟩]
      required := ["operation-id", "action"] }
  | _ => bare

end DeployService.CommandLine
