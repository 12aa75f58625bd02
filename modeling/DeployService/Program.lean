import DeployService.Client.Factory
import DeployService.Command.Applications
import DeployService.Command.Operations
import DeployService.CommandLine.Invocation
import DeployService.Settings.ServiceUrl
import DeployService.Transport.Csrf

/-!
# The program

Carries out a command line: it reads the settings, finds the deploy service, and runs the command
over a connection whose requests are protected and share one cookie jar. The access token is the
given one, or else one that the command line tool of the platform prints.

What is missing is noticed before anything is sent: the service first, then the options that the
command needs. A panic ends the program with an exit status of its own; what was printed before it
stays printed.
-/

namespace DeployService

open DeployService.Http DeployService.CommandLine

namespace Program

/-- What the program is started with. -/
structure Start where
  /-- The words of the command line. -/
  words : List String
  environment : Environment
  /-- What the program says about itself. -/
  build : UserAgent.Build := .standard
  /-- The time, in milliseconds since 1970. -/
  clock : Int
  /-- What the tool answers when it is asked for a token. -/
  toolAnswers : Nat → Except Error String
  /-- What becomes of the requests. -/
  answers : Nat → Except Error Response

/-- What came of the program. -/
structure Report where
  /-- The exit status. -/
  exit : Nat
  /-- What was printed. -/
  output : String
  /-- What was printed to the error output. -/
  errors : String
  /-- The requests that were sent. -/
  sent : List Request
  toolRuns : List (String × List String)

/-- The filter of the log, which the variable `DEBUG` may open. -/
def logFilter (debug : Variable) : String :=
  if debug = .text "1" then "trace" else "warn"

/-- The network before anything was sent. -/
def network (start : Start) : Network :=
  { clock := start.clock
    answers := start.answers
    sent := []
    paused := 0
    csrf := fun _ => none
    tokens := fun _ => { answers := start.toolAnswers, asked := 0, kept := none }
    jars := fun _ => Jar.empty
    nextJar := 1 }

/-- The connection to a deploy service. -/
def connection (host userAgent : String) (token : Option String) : Connection :=
  { host
    userAgent := some userAgent
    transport :=
      .guarded { timeout := Csrf.standardTimeout, usesJar := true } (.platform .direct)
    supply := match token with
      | some token => .fixed token
      | none => .kept .tool
    number := 0
    jar := some 0 }

/-- A command in the network, with what it prints. -/
abbrev Action := Call (Console Network) Unit

/-- A command on a client that the factory opens. -/
def withClient {α : Type} (handOut : Network → α × Factory × Network) (run : α → Action) : Action :=
  fun c =>
    let (client, _, n) := handOut c.state
    run client { c with state := n }

/-- What a command does over a connection. -/
def action (i : Invocation) (c : Connection) : Action :=
  let f := Factory.empty
  let guid : Except Error String := require i.spaceGuid "space-guid"
  match i.command with
  | .purge => do
    let org ← Call.ofExcept (require i.org "org")
    let space ← Call.ofExcept (require i.space "space")
    withClient (f.restClient c org space) fun client => Command.purge client.service org space
  | .mtas => do
    withClient (f.lookupClient c (← Call.ofExcept guid)) fun client => Command.mtas client.service
  | .mta id namespaceName => do
    withClient (f.lookupClient c (← Call.ofExcept guid)) fun client =>
      Command.mta client.service id (namespaceName.filter (· ≠ ""))
  | .operations mta last all => do
    withClient (f.spaceClient c (← Call.ofExcept guid)) fun client =>
      Command.operations client.service mta last all
  | .logs operation log => do
    withClient (f.spaceClient c (← Call.ofExcept guid)) fun client =>
      Command.logs client.service operation log
  | .act operation name => do
    withClient (f.spaceClient c (← Call.ofExcept guid)) fun client =>
      Command.act client.service operation name
  | .info => withClient (f.generalClient c) fun client => Command.info client.service

/-- What an invocation does. -/
def perform (i : Invocation) (settings : Settings) (b : UserAgent.Build) : Action := do
  let host ← Call.ofExcept (ServiceUrl.choose i.url settings i.platform)
  action i (connection host (settings.userAgent b) i.token)

/-! ## Reporting -/

/-- A text whose lines after the first one are indented. -/
def indented (indent s : String) : String := ("\n" ++ indent).intercalate (Text.splitOn '\n' s)

/-- A number in a column of five characters. -/
def numbered (n : Nat) : String :=
  let digits := Text.showNat n
  String.ofList (List.replicate (5 - digits.length) ' ') ++ digits ++ ": "

/-- An error with everything that led to it. Several causes are numbered. -/
def errorText (e : Error) : String :=
  match e.texts with
  | [] => ""
  | [message] => message
  | [message, cause] => message ++ "\n\nCaused by:\n    " ++ indented "    " cause
  | message :: causes =>
    message ++ "\n\nCaused by:" ++
      String.join (causes.zipIdx.map fun (cause, n) =>
        "\n" ++ numbered n ++ indented "       " cause)

/-- What is said when the program cannot go on, without the place in its source. -/
def panicText (message : String) : String := "thread 'main' panicked:\n" ++ message ++ "\n"

/-- The exit status of a program that fails, and what is printed to the error output. -/
def failure (e : Error) : Nat × String :=
  match e.cause with
  | .panic message => (101, panicText message)
  | _ => (1, "Error: " ++ errorText e ++ "\n")

/-- The name and the version of the program. -/
def versionText (b : UserAgent.Build) : String := "mta-client " ++ b.version

/-- How the program is used. -/
def usageText : String := "Usage: mta-client [OPTIONS] <COMMAND>"

/-- What comes of a command line that is not carried out. Only help and the version are no errors.
-/
def refuse (b : UserAgent.Build) (fault : Fault) : Report :=
  match fault with
  | .help =>
    { exit := 0, output := usageText ++ "\n", errors := "", sent := [], toolRuns := [] }
  | .version =>
    { exit := 0, output := versionText b ++ "\n", errors := "", sent := [], toolRuns := [] }
  | _ => { exit := 2, output := "", errors := usageText ++ "\n", sent := [], toolRuns := [] }

/-- Runs the program. -/
def run (start : Start) : Report :=
  match parse start.words (start.environment tokenVariable) with
  | .error fault => refuse start.build fault
  | .ok i =>
    let settings := (Settings.load start.environment).1
    let (result, c) := perform i settings start.build ⟨network start, []⟩
    let report : Report :=
      { exit := 0
        output := Console.text c.lines
        errors := ""
        sent := c.state.sent
        toolRuns := TokenSource.tool.toolRuns (c.state.tokens 0) }
    match result with
    | .ok () => report
    | .error e => { report with exit := (failure e).1, errors := (failure e).2 }

end Program

end DeployService
