import DeployService.Error
import DeployService.Text.Blank
import DeployService.Text.Utf8

/-!
# What a tool prints

The client runs tools and takes what they print. A tool that does not end well is an error that
shows what it wrote to its error output.
-/

namespace DeployService.Tool

open DeployService.Text

/-- How a tool ended. -/
inductive Ending where
  /-- It ended by itself, with a status. -/
  | exited (status : Nat)
  /-- It was ended by a signal. -/
  | signalled (signal : Nat)
  deriving DecidableEq, Repr

/-- What came of running a tool. -/
inductive Run where
  /-- The tool could not be started. -/
  | unstartable (reason : String)
  /-- The tool ran. -/
  | ended (ending : Ending) (output errors : List UInt8)
  deriving DecidableEq, Repr

/-- The names of the signals. -/
def signalName? : Nat → Option String
  | 1 => some "SIGHUP"
  | 2 => some "SIGINT"
  | 3 => some "SIGQUIT"
  | 4 => some "SIGILL"
  | 5 => some "SIGTRAP"
  | 6 => some "SIGABRT"
  | 7 => some "SIGBUS"
  | 8 => some "SIGFPE"
  | 9 => some "SIGKILL"
  | 10 => some "SIGUSR1"
  | 11 => some "SIGSEGV"
  | 12 => some "SIGUSR2"
  | 13 => some "SIGPIPE"
  | 14 => some "SIGALRM"
  | 15 => some "SIGTERM"
  | _ => none

/-- The text of an ending. -/
def Ending.text : Ending → String
  | .exited status => "exit status: " ++ showNat status
  | .signalled signal =>
    "signal: " ++ showNat signal ++
      match signalName? signal with
      | some name => " (" ++ name ++ ")"
      | none => ""

/-- What a tool printed, without blanks around it. -/
def outputOf (program : String) : Run → Except Error String
  | .unstartable reason => .error (.externalIn ("Failed to run " ++ program) (.io reason))
  | .ended (.exited 0) output _ => .ok (trim (Utf8.decodeLossy output))
  | .ended ending _ errors => .error (.plain
      (program ++ " exited with " ++ ending.text ++ ": " ++ trim (Utf8.decodeLossy errors)))

end DeployService.Tool
