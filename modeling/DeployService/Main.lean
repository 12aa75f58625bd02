import DeployService.Json.Decode
import DeployService.Program
import DeployService.Replay
import DeployService.Tool.Output

/-!
# The command line program

Runs the program on the words of its command line and the variables of its environment. It does not
connect to a server: what becomes of its requests is read from the standard input, one JSON object a
line. An object with a member `prints` is what the command line tool of the platform prints; without
one the tool cannot be started. Time is counted from the start of the machine.
-/

namespace DeployService.Main

open DeployService

/-- The lines of a stream. -/
partial def readLines (input : IO.FS.Stream) (lines : List String) : IO (List String) := do
  let line ← input.getLine
  if line.isEmpty then return lines.reverse else readLines input (line :: lines)

/-- The variables that the program looks at. -/
def variableNames : List String :=
  [Settings.controllerVariable, Settings.sequenceVariable, Settings.parallelVariable,
    Settings.progressVariable, Settings.suffixVariable, CommandLine.tokenVariable] ++
    Settings.chunkSizeVariables

/-- The variables of the environment. -/
def readEnvironment : IO Environment := do
  let values ← variableNames.mapM fun name => do return (name, ← IO.getEnv name)
  return fun name =>
    match (Json.lookup? name values).join with
    | some value => .text value
    | none => .unset

/-- What the tool prints. -/
def toolOutput (lines : List Json) : Tool.Run :=
  match lines.filterMap (Replay.text? · "prints") with
  | printed :: _ => .ended (.exited 0) (Text.Utf8.encode printed) []
  | [] => .unstartable "No such file or directory (os error 2)"

/-- Runs the program. -/
def run (words : List String) : IO UInt32 := do
  let lines := (← readLines (← IO.getStdin) []).filterMap Json.ofText?
  let prepared := lines.filter fun j => (Replay.text? j "prints").isNone
  let report := Program.run
    { words
      environment := ← readEnvironment
      clock := ← IO.monoMsNow
      toolAnswers := fun _ => Tool.outputOf TokenSource.toolName (toolOutput lines)
      answers := Replay.answers 0 prepared (.of (.external .http)) }
  IO.print report.output
  IO.eprint report.errors
  return UInt32.ofNat report.exit

end DeployService.Main

/-- Runs the program. -/
def main (words : List String) : IO UInt32 := DeployService.Main.run words
