import DeployService.Channel.Basic
import DeployService.Retry

/-!
# Clients

A client makes the calls of a service: it obtains a token, sends the call over its channel and reads
the response. An error that carries a status is brought into the form `Cause.client`.

What a service offers is a family of calls, indexed by the types of their results. A `Service`
answers each of them.
-/

namespace DeployService

open DeployService.Http

/-- A call of a service together with the way in which its response is read. -/
structure Exchange (α : Type) where
  /-- What goes over the wire. -/
  endpoint : Endpoint
  /-- How the response is read. -/
  read : Response → Except Error α

namespace Exchange

/-- A call whose response is a JSON document. -/
def json {α : Type} [Payload α] (endpoint : Endpoint) : Exchange α := ⟨endpoint, readJson⟩

/-- A call whose response is a text. -/
def text (endpoint : Endpoint) : Exchange String :=
  ⟨{ endpoint with produces := textMedia }, readText⟩

/-- A call whose response is not read. -/
def empty (endpoint : Endpoint) : Exchange Unit := ⟨endpoint, fun _ => .ok ()⟩

/-- A call whose response says where something is found. -/
def location (endpoint : Endpoint) : Exchange (Option String) :=
  ⟨endpoint, fun response => .ok (readLocation response)⟩

/-- A call whose response is read for one of its headers. -/
def header (name : String) (endpoint : Endpoint) : Exchange (Option String) :=
  ⟨endpoint, fun response => .ok (response.headers.text? name)⟩

end Exchange

/-- What a client needs to make calls. -/
structure Client where
  /-- Where the service is found. -/
  channel : Channel
  /-- How requests are sent. -/
  transport : Transport
  /-- Where the tokens come from. -/
  supply : TokenSupply

namespace Client

/-- Obtains a token and sends a call. Nothing is sent without a token. -/
def send (c : Client) (e : Endpoint) : Call Session Response := do
  let token ← (Session.nextToken c.supply).mapError Error.classify
  (c.channel.submit c.transport e token).mapError Error.classify

/-- Sends a call and reads its response. -/
def run {α : Type} (c : Client) (x : Exchange α) : Call Session α := do
  let response ← c.send x.endpoint
  Call.ofExcept (x.read response)

/-- Sends a call and reads its response, under a policy if there is one. Every attempt is a whole
call: it obtains a token of its own. -/
def runUnder {α : Type} (c : Client) (policy : Option RetryPolicy) (x : Exchange α) :
    Call Session α :=
  match policy with
  | some p => p.call Session.pause (c.run x)
  | none => c.run x

end Client

/-- Something that answers every call of a family. -/
abbrev Service (σ : Type) (F : Type → Type) := ∀ {α : Type}, F α → Call σ α

end DeployService
