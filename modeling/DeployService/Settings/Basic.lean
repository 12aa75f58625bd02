import DeployService.Text.Blank
import DeployService.Text.Digits
import DeployService.Text.Quoted
import DeployService.Transport.UserAgent

/-!
# Settings

The settings are read once from the environment. Each one has a default, and each is taken from the
first of its variables that is set to a text that is not blank; blanks around the text do not count.
A value that cannot be read is reported and the default is used; a value that is read is reported,
too. Nothing is reported about the User-Agent suffix.
-/

namespace DeployService

open DeployService.Text

/-- A variable of the environment. -/
inductive Variable where
  /-- The variable is not set. -/
  | unset
  /-- The variable is set to something that is no text. -/
  | unreadable
  /-- The variable is set to a text. -/
  | text (value : String)
  deriving DecidableEq, Repr

/-- The variables by their names. -/
abbrev Environment := String → Variable

/-- How serious a log entry is. -/
inductive Level where
  /-- Something to look at. -/
  | warning
  /-- Something to know. -/
  | info
  deriving DecidableEq, Repr

/-- An entry of the log. -/
structure LogEntry where
  /-- How serious it is. -/
  level : Level
  /-- What it says. -/
  text : String
  deriving DecidableEq, Repr

/-- The settings. -/
structure Settings where
  /-- The deploy service to use in place of the one that belongs to the platform. -/
  controllerUrl : Option String
  /-- The size of the chunks in which files are uploaded, in megabytes. -/
  chunkSize : Nat
  /-- Chunks are uploaded one after the other. -/
  chunksInSequence : Bool
  /-- Chunks are uploaded at the same time. -/
  chunksInParallel : Bool
  /-- No progress is shown. -/
  hidesProgress : Bool
  /-- What is added to the product name. -/
  userAgentSuffix : Option String
  deriving DecidableEq, Repr

namespace Settings

/-- The settings in an environment without any of the variables. -/
def standard : Settings :=
  { controllerUrl := none
    chunkSize := 45
    chunksInSequence := false
    chunksInParallel := false
    hidesProgress := false
    userAgentSuffix := none }

/-- The product name with the configured suffix. -/
def userAgent (s : Settings) (b : UserAgent.Build := .standard) : String :=
  UserAgent.build s.userAgentSuffix b

/-! ## Values -/

/-- Why the value of a variable cannot be used. -/
inductive ValueFault where
  /-- There is something that is no digit. -/
  | invalidDigit
  /-- The number has more than 64 bits. -/
  | tooLarge
  | zeroSize
  /-- The text is no truth value. -/
  | notBoolean
  deriving DecidableEq, Repr

/-- What is reported about a value that cannot be used. -/
def ValueFault.message : ValueFault → String
  | .invalidDigit => "invalid digit found in string"
  | .tooLarge => "number too large to fit in target type"
  | .zeroSize => "chunk size cannot be 0"
  | .notBoolean => "not a boolean"

/-- The greatest number of 64 bits. -/
def maxNumber : Nat := 18446744073709551615

/-- The number of 64 bits that digits denote after the number `n`. The first digit that is none, or
that makes the number too large, is the fault. -/
def readDigitsFrom (n : Nat) : List Char → Except ValueFault Nat
  | [] => .ok n
  | c :: rest =>
    match decimalValue? c with
    | none => .error .invalidDigit
    | some d =>
      if n * 10 + d ≤ maxNumber then readDigitsFrom (n * 10 + d) rest else .error .tooLarge

/-- A number of 64 bits, perhaps with a plus sign. -/
def readNumber : List Char → Except ValueFault Nat
  | [] => .error .invalidDigit
  | ['+'] => .error .invalidDigit
  | '+' :: digits => readDigitsFrom 0 digits
  | digits => readDigitsFrom 0 digits

/-- A chunk size: a number other than zero. -/
def readChunkSize (value : String) : Except ValueFault Nat := do
  let n ← readNumber value.toList
  if n = 0 then throw .zeroSize
  return n

/-- A truth value. -/
def readBool (value : String) : Except ValueFault Bool :=
  if ["1", "t", "T", "true", "TRUE", "True"].contains value then .ok true
  else if ["0", "f", "F", "false", "FALSE", "False"].contains value then .ok false
  else .error .notBoolean

/-! ## Variables -/

/-- The text of a variable without the blanks around it, unless it is blank. -/
def usable? : Variable → Option String
  | .text value => if isBlankText value then none else some (trim value)
  | _ => none

/-- The first of some variables that is set to a text that is not blank: its name and the text. -/
def find? (env : Environment) : List String → Option (String × String)
  | [] => none
  | name :: names =>
    match usable? (env name) with
    | some value => some (name, value)
    | none => find? env names

/-- A setting of a type with a text form, together with what is reported about it. -/
def property {α : Type} (env : Environment) (names : List String)
    (read : String → Except ValueFault α) (write : α → String) (default : α) :
    α × List LogEntry :=
  match find? env names with
  | none => (default, [])
  | some (name, raw) =>
    match read raw with
    | .ok value =>
      (value, [⟨.info, "Using " ++ write value ++ " from the environment variable " ++ name⟩])
    | .error fault =>
      (default, [⟨.warning, "Invalid value " ++ quoted raw ++ " for the environment variable " ++
        name ++ " (" ++ fault.message ++ "). Using the default " ++ write default ++ "."⟩])

/-- The variable for the deploy service. -/
def controllerVariable : String := "MULTIAPPS_CONTROLLER_URL"

/-- The variables for the chunk size. The second one is an old name. -/
def chunkSizeVariables : List String := ["MULTIAPPS_UPLOAD_CHUNK_SIZE", "CHUNK_SIZE_IN_MB"]

/-- The variable for uploading chunks one after the other. -/
def sequenceVariable : String := "MULTIAPPS_UPLOAD_CHUNKS_SEQUENTIALLY"

/-- The variable for uploading chunks at the same time. -/
def parallelVariable : String := "MULTIAPPS_UPLOAD_CHUNKS_IN_PARALLEL"

/-- The variable for hiding the progress. -/
def progressVariable : String := "MULTIAPPS_DISABLE_UPLOAD_PROGRESS_BAR"

/-- The variable for the User-Agent suffix. -/
def suffixVariable : String := "MULTIAPPS_USER_AGENT_SUFFIX"

/-- A truth value as it is reported. -/
def showBool (b : Bool) : String := if b then "true" else "false"

/-- The custom deploy service, together with what is reported about it. -/
def controller (env : Environment) : Option String × List LogEntry :=
  match find? env [controllerVariable] with
  | none => (none, [])
  | some (name, value) =>
    (some value, [⟨.warning, "Using the custom deploy service URL " ++ value ++ " from " ++ name ++
      ". It may run an outdated or modified service."⟩])

/-- Reads the settings, and says what is to be reported about them. -/
def load (env : Environment) : Settings × List LogEntry :=
  let (controllerUrl, log1) := controller env
  let (chunkSize, log2) :=
    property env chunkSizeVariables readChunkSize showNat standard.chunkSize
  let flag (name : String) (default : Bool) := property env [name] readBool showBool default
  let (chunksInSequence, log3) := flag sequenceVariable standard.chunksInSequence
  let (chunksInParallel, log4) := flag parallelVariable standard.chunksInParallel
  let (hidesProgress, log5) := flag progressVariable standard.hidesProgress
  let userAgentSuffix := (find? env [suffixVariable]).map (·.2)
  ({ controllerUrl, chunkSize, chunksInSequence, chunksInParallel, hidesProgress, userAgentSuffix },
    log1 ++ log2 ++ log3 ++ log4 ++ log5)

end Settings

end DeployService
