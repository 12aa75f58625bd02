import DeployService.Text.Blank
import DeployService.Text.Quoted
import DeployService.Transport.Basic

/-!
# The User-Agent

Every request names the product that sends it, with the version that the build has given to it and
the platform that it was built for. A suffix can be added to the name; it is first reduced to
characters that are safe in a header.
-/

namespace DeployService

open DeployService.Http

namespace UserAgent

/-- What a build of the program says about itself. -/
structure Build where
  /-- The version of the product. -/
  version : String
  /-- The operating system that it runs on. -/
  system : String
  /-- The processors that it runs on. -/
  architecture : String
  deriving DecidableEq, Repr

/-- The build of a working copy. -/
def Build.standard : Build :=
  { version := "0.0.0-dev", system := "linux", architecture := "x86_64" }

/-- The product, its version and the platform that it runs on. -/
def product (b : Build := .standard) : String :=
  "Multiapps-CF-plugin/" ++ b.version ++ " (" ++ b.system ++ " " ++ b.architecture ++ ") rust"

/-- How long a suffix may be. -/
def maxSuffixLength : Nat := 128

/-- The character may occur in a suffix. -/
def isSafe (c : Char) : Bool := c.isAlphanum || c == ' ' || c == '.' || c == '-' || c == '_'

/-- The characters of a suffix that are kept. A tab becomes a space. -/
def safeChars (cs : List Char) : List Char :=
  (cs.map fun c => if c = '\t' then ' ' else c).filter isSafe

/-- A suffix reduced to safe characters, without spaces around it, and cut off after
`maxSuffixLength` characters. -/
def sanitizeChars (cs : List Char) : List Char :=
  let kept := Text.trimChars (safeChars cs)
  if maxSuffixLength < kept.length then Text.trimChars (kept.take maxSuffixLength) else kept

/-- A suffix reduced to safe characters. -/
def sanitize (suffix : String) : String := String.ofList (sanitizeChars suffix.toList)

/-- The User-Agent with the given suffix, which is left out if nothing of it remains. -/
def build (suffix : Option String) (b : Build := .standard) : String :=
  match suffix.map sanitize with
  | none => product b
  | some "" => product b
  | some suffix => product b ++ " " ++ suffix

end UserAgent

/-- Sends requests under a product name in place of whatever name they have. -/
def Transport.named (userAgent : String) (base : Transport) : Transport := fun request => do
  let copy ← Call.ofExcept (copyOf request)
  match headerValue? userAgent with
  | none =>
    Call.fail (.externalIn ("Invalid User-Agent value " ++ Text.quoted userAgent) .header)
  | some value => base { copy with headers := copy.headers.insert Http.userAgent value }

end DeployService
