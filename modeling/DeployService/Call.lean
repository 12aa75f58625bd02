import DeployService.Error

/-!
# Calls

A call reads and changes a state of type `σ` and ends with a value or an error. The state is kept
when it fails: what a failed call has sent stays sent.
-/

namespace DeployService

/-- A call on states of type `σ` with values of type `α`. -/
def Call (σ α : Type) : Type := σ → Except Error α × σ

namespace Call

variable {σ τ α β : Type}

/-- The call that does nothing. -/
protected def pure (a : α) : Call σ α := fun s => (.ok a, s)

/-- One call after another. A call that fails is the last one. -/
protected def bind (x : Call σ α) (f : α → Call σ β) : Call σ β := fun s =>
  match x s with
  | (.ok a, s) => f a s
  | (.error e, s) => (.error e, s)

instance : Monad (Call σ) where
  pure := Call.pure
  bind := Call.bind

/-- The call that fails. -/
def fail (e : Error) : Call σ α := fun s => (.error e, s)

/-- The call with the given result. -/
def ofExcept (r : Except Error α) : Call σ α := fun s => (r, s)

/-- A call that only looks at the state. -/
def read (f : σ → α) : Call σ α := fun s => (.ok (f s), s)

/-- A call that only changes the state. -/
def modify (f : σ → σ) : Call σ Unit := fun s => (.ok (), f s)

/-- The call with its error changed. -/
def mapError (f : Error → Error) (x : Call σ α) : Call σ α := fun s =>
  match x s with
  | (.ok a, s) => (.ok a, s)
  | (.error e, s) => (.error (f e), s)

/-- The call with its error in a further context. -/
def within (context : String) (x : Call σ α) : Call σ α := x.mapError (Error.within context)

/-- A call on a part of the state. -/
def on (get : τ → σ) (set : τ → σ → τ) (x : Call σ α) : Call τ α := fun t =>
  let (r, s) := x (get t)
  (r, set t s)

end Call

end DeployService
