import DeployService.CommandLine.Grammar
import DeployService.Text.Digits
import DeployService.Text.Split

/-!
# Reading one level of the command line

The words of a command line are read from the left. A word that begins with two hyphens is a long
option, perhaps with a value after an equals sign; one that begins with one hyphen holds short
options, of which the last one may have its value attached. An option without an attached value
takes the next word, unless that one is an option itself. After the word `--` there are no options
any more.

An option is *pending* until it is known what follows it: only then its value is checked. So the
error of an earlier option may come after that of a later word.
-/

namespace DeployService.CommandLine

open DeployService.Text

/-- Why a command line is not carried out. -/
inductive Fault where
  /-- There is no such command. -/
  | invalidCommand
  /-- There is no such option, or an argument too many. -/
  | unknownArgument
  /-- An argument or option is missing. -/
  | missingRequired
  /-- An option is given twice, or two options exclude each other. -/
  | conflict
  /-- The value of an option cannot be read. -/
  | invalidNumber
  /-- A value in the environment is no text. -/
  | unreadable
  /-- An option has no value. -/
  | missingValue
  /-- An option that takes no value has one. -/
  | surplusValue
  /-- There is no command. -/
  | missingCommand
  /-- There is nothing at all. -/
  | empty
  /-- Help is asked for. -/
  | help
  /-- The version is asked for. -/
  | version
  deriving DecidableEq, Repr

/-- An option or argument whose value has not been checked yet. -/
structure Pending where
  /-- The option, or the text form of an argument under its name. -/
  option : OptionSpec
  /-- Its value, if it has been read. -/
  value : Option String
  deriving DecidableEq, Repr

/-- How far a level has been read. -/
structure Reading where
  /-- The values by the names of their options and arguments. -/
  found : List (String × String)
  /-- The option that was read last. -/
  pending : Option Pending
  /-- The names of the arguments that may still come. -/
  arguments : List String
  /-- There are no options any more. -/
  trailing : Bool
  deriving DecidableEq, Repr

namespace Reading

/-- Nothing has been read of a level. -/
def start (g : Grammar) : Reading :=
  { found := [], pending := none, arguments := g.arguments, trailing := false }

/-- The value that was found under a name. -/
def value? (r : Reading) (name : String) : Option String :=
  (r.found.find? (·.1 == name)).map (·.2)

/-- The option read last still waits for its value. -/
def isWaiting (r : Reading) : Bool :=
  match r.pending with
  | some p => p.value.isNone
  | none => false

end Reading

/-- The number of 32 bits that a text denotes. -/
def readNumber? (s : String) : Option Nat :=
  let digits := match s.toList with
    | '+' :: rest => rest
    | cs => cs
  match s.toList, readNat? digits with
  | '-' :: rest, _ => if readNat? rest = some 0 then some 0 else none
  | _, some n => if n ≤ 4294967295 then some n else none
  | _, none => none

/-- Adds a value that has been read. An option may be given only once on a level. -/
def accept (r : Reading) (o : OptionSpec) (value : Option String) : Except Fault Reading :=
  match value with
  | none => .error .missingValue
  | some value =>
    if (r.value? o.long).isSome then .error .conflict
    else if o.kind = .number ∧ readNumber? value = none then .error .invalidNumber
    else .ok { r with found := r.found ++ [(o.long, value)] }

/-- Checks the pending option. -/
def settle (r : Reading) : Except Fault Reading :=
  match r.pending with
  | none => .ok r
  | some p => accept { r with pending := none } p.option p.value

/-- Reads an option without an attached value. -/
def openOption (r : Reading) (o : OptionSpec) : Except Fault Reading := do
  let r ← settle r
  match o.kind with
  | .help => throw .help
  | .version => throw .version
  | .flag => accept r o (some "true")
  | _ => return { r with pending := some ⟨o, none⟩ }

/-- Reads an option with an attached value. -/
def attach (r : Reading) (o : OptionSpec) (value : String) : Except Fault Reading :=
  if o.takesValue then do accept (← settle r) o (some value)
  else .error .surplusValue

/-- Reads a long option. The characters are those after the hyphens. -/
def readLong (g : Grammar) (r : Reading) (cs : List Char) : Except Fault Reading :=
  let (name, value) :=
    match cutChars? '=' cs with
    | some (name, value) => (name, some (String.ofList value))
    | none => (cs, none)
  match g.options.find? (·.long == String.ofList name), value with
  | none, _ => .error .unknownArgument
  | some o, none => openOption r o
  | some o, some value => attach r o value

/-- Reads short options. The characters are those after the hyphen. -/
def readShort (g : Grammar) (r : Reading) : List Char → Except Fault Reading
  | [] => .ok r
  | c :: rest =>
    match g.options.find? (·.short == some c) with
    | none => .error .unknownArgument
    | some o =>
      if o.takesValue then
        match rest with
        | [] => openOption r o
        | '=' :: value => attach r o (String.ofList value)
        | value => attach r o (String.ofList value)
      else do readShort g (← openOption r o) rest

/-- The fault of an argument that the level does not take. -/
def surplusArgument (g : Grammar) (r : Reading) (word : String) : Fault :=
  if g.commands.isEmpty then .unknownArgument
  else if r.trailing && g.commands.contains word then .unknownArgument
  else .invalidCommand

/-- Reads an argument. -/
def readArgument (g : Grammar) (r : Reading) (word : String) : Except Fault Reading :=
  match r.arguments with
  | [] => .error (surplusArgument g r word)
  | name :: rest => do
    let r ← settle r
    return { r with pending := some ⟨⟨name, none, .text⟩, some word⟩, arguments := rest }

/-- Reads a word that is no command. -/
def readWord (g : Grammar) (r : Reading) (word : String) : Except Fault Reading :=
  if r.trailing then readArgument g r word
  else
    match word.toList with
    | ['-', '-'] => .ok { r with trailing := true }
    | '-' :: '-' :: cs => readLong g r cs
    | '-' :: c :: cs => readShort g r (c :: cs)
    | _ =>
      match r.pending with
      | some ⟨o, none⟩ => .ok { r with pending := some ⟨o, some word⟩ }
      | _ => readArgument g r word

/-- The word names a command. It does not where an option waits for its value. -/
def isCommand (g : Grammar) (r : Reading) (word : String) : Bool :=
  !r.trailing && !r.isWaiting && g.commands.contains word

/-- Reads words up to a command: what was read, the command, and the words after it. -/
def readWords (g : Grammar) : Reading → List String →
    Except Fault (Reading × Option (String × List String))
  | r, [] => .ok (r, none)
  | r, word :: words =>
    if isCommand g r word then .ok (r, some (word, words))
    else
      match readWord g r word with
      | .ok r => readWords g r words
      | .error fault => .error fault

/-- Checks that nothing is missing and that no options exclude each other. -/
def check (g : Grammar) (r : Reading) : Except Fault Unit :=
  if g.exclusive.any fun (a, b) => (r.value? a).isSome && (r.value? b).isSome then .error .conflict
  else if g.required.any fun name => (r.value? name).isNone then .error .missingRequired
  else .ok ()

end DeployService.CommandLine
