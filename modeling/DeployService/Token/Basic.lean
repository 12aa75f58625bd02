import DeployService.Error
import DeployService.Http.Header
import DeployService.Text.Blank
import DeployService.Text.Split

/-!
# Access tokens

A token is sent in the `Authorization` header of a request and is never shown. Tools print it with
its scheme before it; `Token.ofPrinted?` takes it out of such a text.
-/

namespace DeployService

/-- An access token. -/
structure Token where
  /-- The credential itself. -/
  value : String
  deriving DecidableEq

namespace Token

open DeployService.Http DeployService.Text

/-- What is shown in place of a token. -/
def redacted : String := "Token(***)"

/-- The header value that a token is sent as. -/
def header (t : Token) : Except Error HeaderValue :=
  match headerValue? ("Bearer " ++ t.value) with
  | some value => .ok value
  | none => .error
      (.externalIn "Access token contains characters not allowed in a header" .header)

/-- The headers with the token in place of any other credential. -/
def authenticate (t : Token) (headers : Headers) : Except Error Headers :=
  t.header.map fun value => headers.insert authorization value

/-- The credential in a printed token: the only word, or the one after the scheme. -/
def ofPrinted? (s : String) : Option String :=
  match words s with
  | [value] => some value
  | scheme :: value :: _ => if sameIgnoringCase scheme "bearer" then some value else none
  | [] => none

end Token

end DeployService
