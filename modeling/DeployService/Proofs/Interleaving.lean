import DeployService.Proofs.TokenHistory
import Mathlib.Logic.Function.Basic

/-!
# Calls at the same time

Several calls may use a guarded transport at the same time. A call gets its request ready, sends it,
and looks at the outcome; between these steps, anything can happen. Getting the request ready is one
step even if a token is fetched for it, because the kept token is locked until the fetch is over.
Forgetting the token is another one.

`Phase.step` is one step of a call. A call that nothing interferes with takes three of them and does
what the transport does (`alone_eq_guarded`). What can be seen of the steps of all calls are events;
those that have to do with the kept token are observations like those of a history of whole requests
(`tokenSteps`).
-/

namespace DeployService.Csrf

open DeployService.Http

/-! ## One call -/

/-- How far a call has come. -/
inductive Phase where
  /-- There is no such call yet. -/
  | idle
  /-- The call has been made. -/
  | started (request : Request)
  /-- The request is ready to be sent. -/
  | ready (own : Request)
  /-- The request has been sent. -/
  | answered (own : Request) (outcome : Except Error Response)
  /-- The call is over. -/
  | done (result : Except Error Response)

/-- What can be seen of a step. -/
inductive Event where
  /-- The step has nothing to do with the token. -/
  | quiet
  /-- A call has got its request ready, or failed to: what it has sent for that, and when. -/
  | updated (call : Nat) (request : Request) (clock : Int) (trips : List RoundTrip)
  /-- A call has sent its request. -/
  | sent (call : Nat) (trip : RoundTrip)
  /-- The token is forgotten. -/
  | forgotten (clock : Int)

namespace Phase

/-- How far a call has come when its request has been prepared. -/
def ofPrepared : Except Error Request → Phase
  | .error e => done (.error e)
  | .ok own => ready own

/-- The next step of a call, and the session after it. -/
def step (guard : Guard) : Phase → Session → Phase × Session
  | idle, s => (idle, s)
  | started request, s =>
    let (result, s) := prepare guard .direct request s
    (ofPrepared result, s)
  | ready own, s => (answered own s.next, s.sending own)
  | answered own outcome, s => (done outcome, settle own outcome s)
  | done result, s => (done result, s)

/-- What can be seen of the next step of a call. -/
def event (guard : Guard) (call : Nat) : Phase → Session → Event
  | started request, s =>
    .updated call request s.clock
      ((prepare guard .direct request s).2.traffic.drop s.traffic.length)
  | ready own, s => .sent call ⟨own, s.next⟩
  | answered own outcome, s =>
    if isProtected own.method && rejects outcome then .forgotten s.clock else .quiet
  | _, _ => .quiet

end Phase

/-! ## All calls -/

/-- The calls by their numbers, and the session that they share. -/
structure Shared where
  session : Session
  calls : Nat → Phase

/-- What can happen to calls that share a guarded transport. -/
inductive Move where
  /-- A call is made, if there is none with its number. -/
  | start (call : Nat) (request : Request)
  /-- A call takes its next step. -/
  | proceed (call : Nat)
  /-- Somebody else makes the token be forgotten. -/
  | forget
  /-- Somebody else changes the cookies. -/
  | cookies (jar : Jar)
  | wait (milliseconds : Nat)

namespace Move

/-- The calls and their session after a move. -/
def perform (guard : Guard) : Move → Shared → Shared
  | start call request, sh =>
    match sh.calls call with
    | .idle => { sh with calls := Function.update sh.calls call (.started request) }
    | _ => sh
  | proceed call, sh =>
    let (phase, s) := (sh.calls call).step guard sh.session
    { session := s, calls := Function.update sh.calls call phase }
  | forget, sh => { sh with session := Csrf.forget sh.session }
  | cookies jar, sh => { sh with session := { sh.session with jar := jar } }
  | wait milliseconds, sh =>
    { sh with session := { sh.session with clock := sh.session.clock + milliseconds } }

/-- What can be seen of a move. -/
def event (guard : Guard) : Move → Shared → Event
  | proceed call, sh => (sh.calls call).event guard call sh.session
  | forget, sh => .forgotten sh.session.clock
  | _, _ => .quiet

end Move

namespace Shared

/-- The session before any call. -/
def idle (s : Session) : Shared where
  session := s
  calls _ := .idle

/-- The calls and their session after some moves. -/
def after (guard : Guard) (moves : List Move) (sh : Shared) : Shared :=
  moves.foldl (fun sh move => move.perform guard sh) sh

/-- What can be seen of some moves, the first one first. -/
def events (guard : Guard) : List Move → Shared → List Event
  | [], _ => []
  | move :: moves, sh => move.event guard sh :: events guard moves (move.perform guard sh)

end Shared

/-- A call that nothing interferes with does in three steps what the guarded transport does, and no
other call takes notice. -/
theorem alone_eq_guarded (guard : Guard) {sh : Shared} {call : Nat} {request : Request}
    (h : sh.calls call = .started request) :
    Shared.after guard [.proceed call, .proceed call, .proceed call] sh =
      { session := (Transport.guarded guard .direct request sh.session).2
        calls := Function.update sh.calls call
          (.done (Transport.guarded guard .direct request sh.session).1) } := by
  rw [guarded_eq]
  rcases hp : prepare guard .direct request sh.session with ⟨e | own, s⟩ <;>
    simp [Shared.after, Move.perform, h, Phase.step, Phase.ofPrepared, hp]

/-! ## The history of the token -/

/-- What an event means for the kept token. -/
def Event.tokenStep? : Event → Option Observation
  | .updated _ request clock trips => some ⟨.send request, clock, trips, none⟩
  | .forgotten clock => some ⟨.forget, clock, [], none⟩
  | _ => none

/-- The events that have to do with the kept token, as a history of it. -/
def tokenSteps (events : List Event) : List Observation := events.filterMap Event.tokenStep?

/-- The event is that of the call getting its request ready. -/
def Event.isUpdateOf (call : Nat) : Event → Bool
  | .updated call' _ _ _ => call' == call
  | _ => false

end DeployService.Csrf
