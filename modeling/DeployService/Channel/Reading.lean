import DeployService.Channel.Endpoint
import DeployService.Http.Message
import DeployService.Payload.Codec
import DeployService.Text.Blank
import DeployService.Text.Split

/-!
# Reading responses

What the body of a response means depends on its media type. A response without a body stands for
the default value, whatever its media type. A response without a readable media type counts as JSON.

A response whose status is no success is an error: its body, if it has one that is not blank, says
what went wrong. A body that breaks off is no body then, and an error of its own otherwise.
-/

namespace DeployService

open DeployService.Http DeployService.Text

/-- How a body is read. -/
inductive Consumer where
  /-- As a JSON document. -/
  | json
  /-- As a text. -/
  | text
  deriving DecidableEq, Repr

/-- How a body of the given media type is read. -/
def Consumer.ofMedia? (media : String) : Option Consumer :=
  if media = jsonMedia then some .json
  else if media = textMedia ∨ media = htmlMedia then some .text
  else none

/-- The media type that a `Content-Type` header names, without its parameters. -/
def mediaOf (contentType : String) : String := lowerAscii (trim (before ';' contentType))

/-- The media type of a response. -/
def mediaType (headers : Headers) : String :=
  match (headers.text? contentType).map mediaOf with
  | none => jsonMedia
  | some "" => jsonMedia
  | some media => media

/-- How the body of a response is read. -/
def consumerOf (response : Response) : Except Error Consumer :=
  let media := mediaType response.headers
  match Consumer.ofMedia? media with
  | some consumer => .ok consumer
  | none => .error (.plain ("No consumer registered for media type " ++ media))

/-- The error of a body that breaks off. -/
def brokenOff (reason : String) : Error :=
  (Error.plain reason).within "Failed to read response body"

/-- The body of a response, once all of it has come. -/
def readBody (response : Response) : Except Error (List UInt8) :=
  match response.cut with
  | none => .ok response.body
  | some reason => .error (brokenOff reason)

theorem readBody_whole {response : Response} (h : response.cut = none) :
    readBody response = .ok response.body := by
  rw [readBody, h]

theorem readBody_cut {response : Response} {reason : String} (h : response.cut = some reason) :
    readBody response = .error (brokenOff reason) := by
  rw [readBody, h]

/-- The value in a JSON response. -/
def readJson {α : Type} [Payload α] (response : Response) : Except Error α := do
  let body ← readBody response
  if body.isEmpty then return Payload.empty
  else
    match ← consumerOf response with
    | .json =>
      match Payload.decode? body with
      | some value => return value
      | none => throw (.externalIn "Failed to parse JSON response" .json)
    | .text =>
      throw (.plain ("Expected a JSON response but received " ++ mediaType response.headers))

/-- The text in a response: its body, or the JSON string that its body holds. -/
def readText (response : Response) : Except Error String := do
  let body ← readBody response
  if body.isEmpty then return ""
  else
    match ← consumerOf response with
    | .text =>
      match Utf8.decode? body with
      | some text => return text
      | none => throw (.externalIn "Response body is not valid UTF-8" .utf8)
    | .json =>
      match Payload.decode? body with
      | some text => return text
      | none => throw (.externalIn "Failed to parse JSON string response" .json)

theorem readJson_whole {α : Type} [Payload α] {response : Response} (h : response.cut = none) :
    (readJson response : Except Error α) =
      if response.body.isEmpty then .ok Payload.empty
      else (consumerOf response).bind fun consumer =>
        match consumer with
        | .json =>
          match Payload.decode? response.body with
          | some value => .ok value
          | none => .error (.externalIn "Failed to parse JSON response" .json)
        | .text =>
          .error (.plain ("Expected a JSON response but received " ++
            mediaType response.headers)) := by
  rw [readJson, readBody_whole h]
  rfl

theorem readText_whole {response : Response} (h : response.cut = none) :
    readText response =
      if response.body.isEmpty then .ok ""
      else (consumerOf response).bind fun consumer =>
        match consumer with
        | .text =>
          match Utf8.decode? response.body with
          | some text => .ok text
          | none => .error (.externalIn "Response body is not valid UTF-8" .utf8)
        | .json =>
          match Payload.decode? response.body with
          | some text => .ok text
          | none => .error (.externalIn "Failed to parse JSON string response" .json) := by
  rw [readText, readBody_whole h]
  rfl

theorem readJson_cut {α : Type} [Payload α] {response : Response} {reason : String}
    (h : response.cut = some reason) :
    (readJson response : Except Error α) = .error (brokenOff reason) := by
  rw [readJson, readBody_cut h]
  rfl

theorem readText_cut {response : Response} {reason : String} (h : response.cut = some reason) :
    readText response = .error (brokenOff reason) := by
  rw [readText, readBody_cut h]
  rfl

/-- Where the response says that something is found. -/
def readLocation (response : Response) : Option String := response.headers.text? location

/-- The error that a response whose status is no success stands for. -/
def errorOf (operation : String) (response : Response) : Error :=
  match readBody response with
  | .ok bytes =>
    let body := Utf8.decodeLossy bytes
    if isBlankText body then .of (.bare operation response.status (reason response.status))
    else .of (.answered response.status (reason response.status) body)
  | .error _ => .of (.bare operation response.status (reason response.status))

/-- A response whose status is a success. -/
def checkStatus (operation : String) (response : Response) : Except Error Response :=
  if isSuccess response.status then .ok response else .error (errorOf operation response)

end DeployService
