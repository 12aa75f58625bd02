import DeployService.Call
import DeployService.Token.Basic
import DeployService.Token.Jwt

/-!
# Where tokens come from

A source answers with a printed token or fails; its answers are a stream that is read one by one
(`TokenState.answers`). A token obtained from it is kept and served again until half of its
remaining lifetime has passed (`served?`); then the source is asked again (`refresh`). A refresh
that fails leaves what was kept as it was.

`TokenSupply` is how a client gets the token of its next call: always the same one, a new one each
time, or one that is kept.
-/

namespace DeployService

/-- A token that is kept. -/
structure KeptToken where
  /-- The credential. -/
  value : String
  /-- When it was obtained, in seconds since 1970. -/
  fetchedAt : Int
  deriving DecidableEq, Repr

/-- The state of a source of tokens. -/
structure TokenState where
  /-- What the source answers, from the first time it is asked. -/
  answers : Nat → Except Error String
  /-- How often it has been asked. -/
  asked : Nat
  /-- The token that is kept. -/
  kept : Option KeptToken

/-- The kinds of sources. -/
inductive TokenSource where
  /-- Something that hands out tokens by itself. -/
  | direct
  /-- The command line tool in which the user is logged in. -/
  | tool
  deriving DecidableEq, Repr

namespace TokenSource

/-- The name of the tool. -/
def toolName : String := "cf"

/-- The arguments with which the tool prints a token. -/
def toolArguments : List String := ["oauth-token"]

/-- Asks the source. -/
def ask (source : TokenSource) : Call TokenState String := fun s =>
  let answer := s.answers s.asked
  let s := { s with asked := s.asked + 1 }
  match source with
  | .direct => (answer, s)
  | .tool => (answer.mapError (Error.within "Could not get access token"), s)

/-- The runs of the tool in a state. -/
def toolRuns (source : TokenSource) (s : TokenState) : List (String × List String) :=
  match source with
  | .direct => []
  | .tool => List.replicate s.asked (toolName, toolArguments)

end TokenSource

/-- The kept token, if it may be served at the time `now`: less than half of what was left of its
lifetime, counted from now, has passed since it was obtained. What is left is not held to the 64
bits that a time has; a token would have to have expired ages ago to need more. -/
def KeptToken.served? (kept : KeptToken) (now : Int) : Option String :=
  match Jwt.expiry? kept.value with
  | some expiry => if now - kept.fetchedAt < (expiry - now).tdiv 2 then some kept.value else none
  | none => none

namespace TokenState

/-- Asks the source and keeps the token that it answers with. -/
def refresh (source : TokenSource) (now : Int) : Call TokenState String := do
  let printed ← source.ask
  match Token.ofPrinted? printed with
  | none => Call.fail (.plain "Unexpected access token format")
  | some value => fun s => (.ok value, { s with kept := some ⟨value, now⟩ })

/-- The token for a call at the time `now`: the kept one while it may be served. -/
def current (source : TokenSource) (now : Int) : Call TokenState String := fun s =>
  match s.kept.bind (·.served? now) with
  | some value => (.ok value, s)
  | none => refresh source now s

end TokenState

/-- How a client gets the token of its next call. -/
inductive TokenSupply where
  /-- Always the same token. -/
  | fixed (value : String)
  /-- A new token each time. -/
  | each (source : TokenSource)
  /-- A token that is kept. -/
  | kept (source : TokenSource)
  deriving DecidableEq, Repr

/-- The token of the next call at the time `now`. -/
def TokenSupply.next (supply : TokenSupply) (now : Int) : Call TokenState Token :=
  Token.mk <$>
    match supply with
    | .fixed value => pure value
    | .each source => source.ask
    | .kept source => TokenState.current source now

/-- A time in milliseconds as seconds. A time before 1970 counts as zero. -/
def wholeSeconds (milliseconds : Int) : Int := max 0 (milliseconds / 1000)

end DeployService
