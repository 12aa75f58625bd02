import DeployService.Client.Basic

/-!
# Connections

Several clients may share a connection, and with it the kept tokens and perhaps a cookie jar; a
client whose connection has no jar has one of its own. All of them use the same wire. The state of
all this is a `Network`; a client looks at it through the `Session` that is made of its parts.
-/

namespace DeployService

open DeployService.Http

/-- The state of all connections and clients. -/
structure Network extends Wire where
  /-- The tokens against forged requests, by the number of the connection. -/
  csrf : Nat → Option CsrfToken
  /-- The access tokens, by the number of the connection. -/
  tokens : Nat → TokenState
  /-- The jars by their numbers. -/
  jars : Nat → Jar
  /-- The number of the next jar. -/
  nextJar : Nat

/-- A function changed at one place. -/
def updateAt {α : Type} (f : Nat → α) (i : Nat) (a : α) : Nat → α := fun j =>
  if j = i then a else f j

/-- How and as whom a service is reached. -/
structure Connection where
  /-- The host of the service, perhaps with a scheme. -/
  host : String
  /-- The product name, if it is not the standard one. -/
  userAgent : Option String
  /-- How requests are sent. -/
  transport : Transport
  /-- Where the tokens come from. -/
  supply : TokenSupply
  /-- The number under which the tokens are kept. -/
  number : Nat
  /-- The jar that all clients of the connection share. -/
  jar : Option Nat

/-- A client in a network. -/
structure OpenClient where
  /-- What the client needs to make calls. -/
  client : Client
  /-- The number of its connection. -/
  connection : Nat
  /-- The number of its jar. -/
  jar : Nat
  /-- The policy under which its calls are retried, if they are. -/
  policy : Option RetryPolicy

/-- The channel of a connection to a base path. -/
def Connection.channel (c : Connection) (basePath : String) (encodedBasePath : Option String) :
    Channel :=
  let channel := Channel.of c.host basePath encodedBasePath
  { channel with userAgent := c.userAgent.getD channel.userAgent }

/-- Opens a client for a base path. Nothing is sent. -/
def Connection.connect (c : Connection) (basePath : String) (encodedBasePath : Option String)
    (n : Network) : OpenClient × Network :=
  let client : Client :=
    { channel := c.channel basePath encodedBasePath
      transport := c.transport
      supply := c.supply }
  match c.jar with
  | some jar => ({ client, connection := c.number, jar, policy := none }, n)
  | none =>
    ({ client, connection := c.number, jar := n.nextJar, policy := none },
      { n with jars := updateAt n.jars n.nextJar Jar.empty, nextJar := n.nextJar + 1 })

namespace Network

/-- The network as a client sees it. -/
def session (c : OpenClient) (n : Network) : Session :=
  { n.toWire with
    jar := n.jars c.jar
    csrf := n.csrf c.connection
    tokens := n.tokens c.connection }

/-- The network after a client has changed what it sees. -/
def update (c : OpenClient) (n : Network) (s : Session) : Network :=
  { n with
    toWire := s.toWire
    jars := updateAt n.jars c.jar s.jar
    csrf := updateAt n.csrf c.connection s.csrf
    tokens := updateAt n.tokens c.connection s.tokens }

end Network

namespace OpenClient

/-- The client with its calls retried under a policy. -/
def retrying (c : OpenClient) (p : RetryPolicy) : OpenClient := { c with policy := some p }

/-- Makes a call in the network. -/
def run {α : Type} (c : OpenClient) (x : Exchange α) : Call Network α :=
  Call.on (Network.session c) (Network.update c) (c.client.runUnder c.policy x)

end OpenClient

end DeployService
