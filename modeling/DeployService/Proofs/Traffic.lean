import DeployService.Client.Network

/-!
# What calls send

The wire remembers every request and knows what becomes of it, so what a call has sent can be read
off the states before and after it: the *traffic* of the wire has grown by a list of round trips.

`Call.Sends wire x P` says that the call `x` only adds to the traffic, and that `P` relates what it
adds to its result. It is closed under one call after another (`Sends.bind`), so that a property of
the traffic of a client follows from what its parts send. So is what can be said of a call in terms
of any other things that happen in it one after the other (`Call.Traces`).
-/

namespace DeployService

open DeployService.Http

/-- A request that was sent, and what became of it. -/
structure RoundTrip where
  request : Request
  outcome : Except Error Response

/-- The request was answered, and the answer says that it succeeded. -/
def RoundTrip.succeeded (trip : RoundTrip) : Bool :=
  match trip.outcome with
  | .ok response => isSuccess response.status
  | .error _ => false

namespace Wire

/-- What becomes of the next request. -/
def next (w : Wire) : Except Error Response := w.answers w.sent.length

/-- The requests that were sent and what became of them, the first one first. -/
def traffic (w : Wire) : List RoundTrip := w.sent.mapIdx fun i request => ⟨request, w.answers i⟩

/-- The wire after a further request. -/
def sending (request : Request) (w : Wire) : Wire := { w with sent := w.sent ++ [request] }

/-- The wire `w'` is the wire `w` after the round trips `t`. -/
def Grew (w : Wire) (t : List RoundTrip) (w' : Wire) : Prop :=
  w'.answers = w.answers ∧ w'.traffic = w.traffic ++ t

theorem Grew.refl (w : Wire) : w.Grew [] w := ⟨rfl, by simp⟩

theorem Grew.trans {w₁ w₂ w₃ : Wire} {t₁ t₂ : List RoundTrip} (h₁ : w₁.Grew t₁ w₂)
    (h₂ : w₂.Grew t₂ w₃) : w₁.Grew (t₁ ++ t₂) w₃ :=
  ⟨by rw [h₂.1, h₁.1], by rw [h₂.2, h₁.2, List.append_assoc]⟩

/-- The traffic depends on the script and the requests only. -/
theorem Grew.of_same {w w' : Wire} (ha : w'.answers = w.answers) (hs : w'.sent = w.sent) :
    w.Grew [] w' :=
  ⟨ha, by simp [traffic, ha, hs]⟩

theorem grew_sending (request : Request) (w : Wire) :
    w.Grew [⟨request, w.next⟩] (w.sending request) :=
  ⟨rfl, by simp [traffic, sending, next, List.mapIdx_append]⟩

/-- What a wire has grown by is determined by the two wires. -/
theorem Grew.drop {w w' : Wire} {t : List RoundTrip} (h : w.Grew t w') :
    w'.traffic.drop w.traffic.length = t := by
  rw [h.2, List.drop_left]

end Wire

namespace Call

universe u

variable {σ τ α β : Type}

theorem bind_ok {x : Call σ α} {f : α → Call σ β} {s s' : σ} {a : α} (h : x s = (.ok a, s')) :
    (x >>= f) s = f a s' := by
  show Call.bind x f s = f a s'
  simp only [Call.bind, h]

theorem bind_error {x : Call σ α} {f : α → Call σ β} {s s' : σ} {e : Error}
    (h : x s = (.error e, s')) : (x >>= f) s = (.error e, s') := by
  show Call.bind x f s = (.error e, s')
  simp only [Call.bind, h]

theorem ofExcept_eq (r : Except Error α) (s : σ) : ofExcept r s = (r, s) := rfl

theorem mapError_eq (f : Error → Error) (x : Call σ α) (s : σ) :
    x.mapError f s = ((x s).1.mapError f, (x s).2) := by
  unfold mapError
  rcases h : x s with ⟨e | a, s'⟩ <;> rfl

theorem bind_ofExcept_eq (x : Call σ α) (g : α → Except Error β) (s : σ) :
    (x >>= fun a => ofExcept (g a)) s = ((x s).1.bind g, (x s).2) := by
  rcases h : x s with ⟨e | a, s'⟩
  · exact bind_error h
  · exact bind_ok h

theorem within_ok {x : Call σ α} {s s' : σ} {a : α} (context : String)
    (h : x s = (.ok a, s')) : x.within context s = (.ok a, s') := by
  simp only [within, mapError, h]

theorem within_error {x : Call σ α} {s s' : σ} {e : Error} (context : String)
    (h : x s = (.error e, s')) : x.within context s = (.error (e.within context), s') := by
  simp only [within, mapError, h]

/-- `R` tells what may happen between two states. The call leads from each state to such another
one, and `P` relates what happens to its result. -/
def Traces {ε : Type u} (R : σ → List ε → σ → Prop) (x : Call σ α)
    (P : List ε → Except Error α → Prop) : Prop :=
  ∀ s, ∃ t, R s t (x s).2 ∧ P t (x s).1

section Traces

variable {ε : Type u} {R : σ → List ε → σ → Prop} {x : Call σ α}

theorem Traces.mono {P Q : List ε → Except Error α → Prop} (h : x.Traces R P)
    (hPQ : ∀ t r, P t r → Q t r) : x.Traces R Q := by
  intro s
  obtain ⟨t, hr, hp⟩ := h s
  exact ⟨t, hr, hPQ t _ hp⟩

/-- What happens in one call after another: nothing in the second one if the first one fails. -/
theorem Traces.bind {f : α → Call σ β} {P : List ε → Except Error α → Prop}
    {Q : α → List ε → Except Error β → Prop}
    (hR : ∀ {s₁ s₂ s₃ : σ} {t t' : List ε}, R s₁ t s₂ → R s₂ t' s₃ → R s₁ (t ++ t') s₃)
    (hx : x.Traces R P) (hf : ∀ a, (f a).Traces R (Q a)) :
    (x >>= f).Traces R fun t r =>
      (∃ e, P t (.error e) ∧ r = .error e) ∨
        ∃ t₁ t₂ a, t = t₁ ++ t₂ ∧ P t₁ (.ok a) ∧ Q a t₂ r := by
  intro s
  obtain ⟨t₁, h₁, hp⟩ := hx s
  rcases hr : x s with ⟨e | a, s₁⟩
  · rw [hr] at h₁ hp
    rw [bind_error hr]
    exact ⟨t₁, h₁, .inl ⟨e, hp, rfl⟩⟩
  · rw [hr] at h₁ hp
    obtain ⟨t₂, h₂, hq⟩ := hf a s₁
    rw [bind_ok hr]
    exact ⟨t₁ ++ t₂, hR h₁ h₂, .inr ⟨t₁, t₂, a, rfl, hp, hq⟩⟩

end Traces

/-- The call only adds to the traffic of the wire, and what it adds is related to its result. -/
def Sends (wire : σ → Wire) (x : Call σ α) (P : List RoundTrip → Except Error α → Prop) : Prop :=
  ∀ s, ∃ t, (wire s).Grew t (wire (x s).2) ∧ P t (x s).1

variable {wire : σ → Wire} {x : Call σ α}

theorem Sends.mono {P Q : List RoundTrip → Except Error α → Prop} (h : x.Sends wire P)
    (hPQ : ∀ t r, P t r → Q t r) : x.Sends wire Q :=
  Traces.mono (R := fun s t s' => (wire s).Grew t (wire s')) h hPQ

/-- A call that leaves the wire alone sends nothing. -/
theorem Sends.of_silent (h : ∀ s, wire (x s).2 = wire s) : x.Sends wire fun t _ => t = [] :=
  fun s => ⟨[], by rw [h s]; exact Wire.Grew.refl _, rfl⟩

/-- What one call after another sends: the second one sends nothing if the first one fails. -/
theorem Sends.bind {f : α → Call σ β} {P : List RoundTrip → Except Error α → Prop}
    {Q : α → List RoundTrip → Except Error β → Prop} (hx : x.Sends wire P)
    (hf : ∀ a, (f a).Sends wire (Q a)) :
    (x >>= f).Sends wire fun t r =>
      (∃ e, P t (.error e) ∧ r = .error e) ∨
        ∃ t₁ t₂ a, t = t₁ ++ t₂ ∧ P t₁ (.ok a) ∧ Q a t₂ r :=
  Traces.bind (R := fun s t s' => (wire s).Grew t (wire s')) Wire.Grew.trans hx hf

/-- A call that goes on to do something with the result of another one, but not with the wire,
sends what that one sends. -/
theorem Sends.map {y : Call σ β} {P : List RoundTrip → Except Error α → Prop}
    {Q : List RoundTrip → Except Error β → Prop} (g : Except Error α → Except Error β)
    (h : x.Sends wire P) (hy : ∀ s, (y s).1 = g (x s).1 ∧ wire (y s).2 = wire (x s).2)
    (hPQ : ∀ t r, P t r → Q t (g r)) : y.Sends wire Q := by
  intro s
  obtain ⟨t, hg, hp⟩ := h s
  refine ⟨t, ?_, ?_⟩
  · rw [(hy s).2]
    exact hg
  · rw [(hy s).1]
    exact hPQ t _ hp

theorem Sends.mapError {P Q : List RoundTrip → Except Error α → Prop} (h : x.Sends wire P)
    (f : Error → Error) (hPQ : ∀ t r, P t r → Q t (r.mapError f)) :
    (x.mapError f).Sends wire Q :=
  h.map (·.mapError f) (fun s => by simp [mapError_eq]) hPQ

theorem Sends.bind_ofExcept {P : List RoundTrip → Except Error α → Prop}
    {Q : List RoundTrip → Except Error β → Prop} (h : x.Sends wire P) (g : α → Except Error β)
    (hPQ : ∀ t r, P t r → Q t (r.bind g)) :
    (x >>= fun a => Call.ofExcept (g a)).Sends wire Q :=
  h.map (·.bind g) (fun s => by simp [bind_ofExcept_eq]) hPQ

/-- A call on a part of the state that has the wire in it sends what it sends there. -/
theorem Sends.on {get : τ → σ} {set : τ → σ → τ} {wire' : τ → Wire}
    {P : List RoundTrip → Except Error α → Prop} (h : x.Sends wire P)
    (hget : ∀ s, wire (get s) = wire' s) (hset : ∀ s p, wire' (set s p) = wire p) :
    (Call.on get set x).Sends wire' P := by
  intro s
  obtain ⟨t, hg, hp⟩ := h (get s)
  refine ⟨t, ?_, hp⟩
  show (wire' s).Grew t (wire' (set s (x (get s)).2))
  rw [hset, ← hget]
  exact hg

end Call

/-! ## The calls of a session -/

namespace Session

/-- The session after a further request. -/
def sending (request : Request) (s : Session) : Session :=
  { s with sent := s.sent ++ [request] }

theorem grew_sending (request : Request) (s : Session) :
    s.toWire.Grew [⟨request, s.next⟩] (s.sending request).toWire :=
  Wire.grew_sending request s.toWire

@[simp] theorem sending_clock (request : Request) (s : Session) :
    (s.sending request).clock = s.clock := rfl

@[simp] theorem sending_csrf (request : Request) (s : Session) :
    (s.sending request).csrf = s.csrf := rfl

/-- A session in which nothing has happened yet. Its requests get the given responses, as long as
there are any. -/
def replaying (responses : List Response) : Session where
  clock := 0
  answers i := (responses[i]?).elim (.error (.of (.external .http))) .ok
  sent := []
  paused := 0
  jar := .empty
  csrf := none
  tokens := { answers := fun _ => .ok "bearer token", asked := 0, kept := none }

/-- Getting a token does not touch the wire of the service. -/
theorem nextToken_silent (supply : TokenSupply) :
    (nextToken supply).Sends toWire fun t _ => t = [] :=
  Call.Sends.of_silent fun _ => rfl

end Session

theorem Transport.direct_eq (request : Request) (s : Session) :
    Transport.direct request s = (s.next, s.sending request) := rfl

/-- Every request can be copied, unless its body is a stream. -/
theorem copyOf_eq_ok {request : Request} (hb : request.body ≠ .stream) :
    copyOf request = .ok request := by
  simp [copyOf, Request.copy?, hb]

theorem copyOf_eq_error {request : Request} (hb : request.body = .stream) :
    ∃ e, copyOf request = .error e := by
  simp [copyOf, Request.copy?, hb]

/-- What a client sends in a network is what it sends in its session. -/
theorem Call.Sends.inNetwork {α : Type} {x : Call Session α}
    {P : List RoundTrip → Except Error α → Prop} (h : x.Sends Session.toWire P) (c : OpenClient) :
    (Call.on (Network.session c) (Network.update c) x).Sends Network.toWire P :=
  h.on (fun _ => rfl) fun _ _ => rfl

end DeployService
