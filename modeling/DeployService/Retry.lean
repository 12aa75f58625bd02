import DeployService.Call

/-!
# Retrying

A call is attempted until its result is final, at most as often as a policy says, and then once more
whatever comes of it. So a policy of `n` retries makes at most `n + 1` attempts, and the last result
is returned even if it is an error. There is a pause between two attempts.
-/

namespace DeployService

/-- How often a call is retried. -/
structure RetryPolicy where
  /-- How many attempts are made before the last one. -/
  retries : Nat
  /-- The pause between two attempts, in milliseconds. -/
  interval : Nat
  deriving DecidableEq, Repr

namespace RetryPolicy

/-- Three retries with pauses of three seconds. -/
def standard : RetryPolicy := ⟨3, 3000⟩

/-- The greatest number of attempts. -/
def maxAttempts (p : RetryPolicy) : Nat := p.retries + 1

variable {σ α : Type}

/-- Attempts a call: `n` times as long as `again` asks for it, then once more. `again` may keep a
record of its own in the state; `pause` happens between two attempts. -/
def executeFrom (pause : σ → σ) (again : Except Error α → σ → Bool × σ) (call : Call σ α) :
    Nat → Call σ α
  | 0 => call
  | n + 1 => fun s =>
    let (result, s) := call s
    let (wanted, s) := again result s
    if wanted then executeFrom pause again call n (pause s) else (result, s)

/-- Attempts a call under a policy, as long as `again` asks for it. -/
def execute (p : RetryPolicy) (pause : Nat → σ → σ) (again : Except Error α → σ → Bool × σ)
    (call : Call σ α) : Call σ α :=
  executeFrom (pause p.interval) again call p.retries

/-- The error of a result. -/
def errorOf? : Except Error α → Option Error
  | .ok _ => none
  | .error e => some e

/-- Attempts a call under a policy until it succeeds, or is known to have succeeded. -/
def call (p : RetryPolicy) (pause : Nat → σ → σ) (x : Call σ α) : Call σ α :=
  p.execute pause (fun result s => (shouldRetry (errorOf? result), s)) x

end RetryPolicy

end DeployService
