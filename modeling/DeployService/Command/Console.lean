import DeployService.Call

/-!
# The console

What a command has printed so far, line by line, beside the state of the service that it uses.
-/

namespace DeployService

/-- The state of a command: that of the service, and the lines it has printed. -/
structure Console (σ : Type) where
  /-- The state of the service. -/
  state : σ
  /-- The lines, the first one first. -/
  lines : List String

namespace Console

variable {σ α : Type}

/-- Prints a line. -/
def say (line : String) : Call (Console σ) Unit :=
  Call.modify fun c => { c with lines := c.lines ++ [line] }

/-- Prints some lines. -/
def sayAll (lines : List String) : Call (Console σ) Unit :=
  Call.modify fun c => { c with lines := c.lines ++ lines }

/-- Makes a call of the service. -/
def ask (x : Call σ α) : Call (Console σ) α :=
  Call.on Console.state (fun c s => { c with state := s }) x

/-- What was printed. -/
def text (lines : List String) : String := String.join (lines.map (· ++ "\n"))

end Console

end DeployService
