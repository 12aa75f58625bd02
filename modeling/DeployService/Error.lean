import DeployService.Http.Status
import DeployService.Text.Digits
import DeployService.Url.Parser

/-!
# Errors

An error is a cause and the contexts around it, the outermost one first. A cause is a status that
the service answered with, in one of three forms, or something else that went wrong. Classifying an
error (`Error.classify`) brings the three forms into one, and a call is worth another attempt
(`shouldRetry`) unless it succeeded or the service said that it did.

A panic is a cause as well: it ends the whole program at once. No call of a service ends with one.
-/

namespace DeployService

/-- What went wrong outside the client. -/
inductive External where
  /-- A JSON document could not be read or written. -/
  | json
  /-- A text is no URL. -/
  | url (fault : Url.Fault)
  /-- Bytes are no text. -/
  | utf8
  /-- A program could not be started. -/
  | io (reason : String)
  /-- A text may not be a header value. -/
  | header
  /-- A request could not be sent. -/
  | http
  deriving DecidableEq, Repr

/-- The text of what went wrong outside the client. -/
def External.message : External → String
  | .json => "invalid JSON document"
  | .url fault => fault.message
  | .utf8 => "invalid utf-8 sequence"
  | .io reason => reason
  | .header => "failed to parse header value"
  | .http => "error sending request"

/-- What an error comes from. -/
inductive Cause where
  /-- A status that is no success, as the clients report it. -/
  | client (code : Nat) (status description : String)
  /-- A status that is no success, in an answer without a body. -/
  | bare (operation : String) (code : Nat) (status : String)
  /-- A status that is no success, in an answer whose body was kept. -/
  | answered (code : Nat) (status payload : String)
  /-- Something that the client noticed. -/
  | plain (message : String)
  /-- Something outside the client. -/
  | external (e : External)
  /-- The program cannot go on. -/
  | panic (message : String)
  deriving DecidableEq, Repr

/-- A status with its code and what is known about it. -/
def statusText (code : Nat) (status description : String) : String :=
  status ++ " (status " ++ Text.showNat code ++ "): " ++ description

/-- The text of a cause. -/
def Cause.message : Cause → String
  | .client code status description => statusText code status description
  | .bare operation code status =>
    operation ++ " failed with status " ++ Text.showNat code ++ ": " ++ status
  | .answered code status payload => statusText code status payload
  | .plain message => message
  | .external e => e.message
  | .panic message => message

/-- An error. -/
structure Error where
  /-- What was being done, from the outside to the inside. -/
  contexts : List String
  /-- What the error comes from. -/
  cause : Cause
  deriving DecidableEq, Repr

namespace Error

/-- An error without contexts. -/
def of (cause : Cause) : Error := { contexts := [], cause }

/-- An error with a text of its own. -/
def plain (message : String) : Error := of (.plain message)

/-- The end of the program. -/
def panic (message : String) : Error := of (.panic message)

/-- An error from outside the client, in one context. -/
def externalIn (context : String) (e : External) : Error :=
  { contexts := [context], cause := .external e }

/-- The error in a further context. -/
def within (context : String) (e : Error) : Error := { e with contexts := context :: e.contexts }

/-- The texts of an error, from the outermost context to the cause. -/
def texts (e : Error) : List String := e.contexts ++ [e.cause.message]

/-- The outermost text of an error. -/
def message (e : Error) : String := e.contexts.headD e.cause.message

/-- Brings a status into the form in which the clients report it. Contexts around it are dropped;
every other error stays as it is. -/
def classify (e : Error) : Error :=
  match e.cause with
  | .bare _ code status => of (.client code status status)
  | .answered code status payload => of (.client code status payload)
  | _ => e

/-- The error does not say that the call succeeded. -/
def isRetryable (e : Error) : Bool :=
  match e.cause with
  | .client code _ _ => !Http.isSuccess code
  | _ => true

end Error

/-- A call that ended with this error, or with none, is worth another attempt. -/
def shouldRetry : Option Error → Bool
  | none => false
  | some e => e.isRetryable

end DeployService
