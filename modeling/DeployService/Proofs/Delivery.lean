import DeployService.Proofs.Protection

/-!
# How a call reaches the service

What one attempt of a client sends, whether its transport is guarded or not. There may be requests
for a token, if the call changes something; after them there is the request of the call itself, at
most once and as the last one. The result of the attempt is then decided by what became of that
request (`Delivers`). A call that is retried is a sequence of such attempts (`Attempts`).
-/

namespace DeployService

open DeployService.Http

/-- The transport of a client over the one that sends a request as it is. -/
def Transport.wired (guard : Option Csrf.Guard) : Transport :=
  match guard with
  | none => .direct
  | some guard => .guarded guard .direct

/-- A round trip for a token on behalf of a request with the given method. -/
def RoundTrip.IsFetchFor (method : String) (trip : RoundTrip) : Prop :=
  Csrf.isProtected method = true ∧ trip.request.method = "GET"

theorem RoundTrip.IsFetchFor.method_ne {method : String} {trip : RoundTrip}
    (h : trip.IsFetchFor method) : trip.request.method ≠ method := by
  rintro rfl
  simp [RoundTrip.IsFetchFor, Csrf.isProtected] at h
  exact absurd h.2 h.1.1

/-- What an attempt to deliver a request sends, and its result: fetches, and then the request itself
unless the attempt has failed before. What became of that request is finished into the result. -/
inductive Delivers {α : Type} (method : String) (url : Except Error Url)
    (finish : Except Error Response → Except Error α) :
    List RoundTrip → Except Error α → Prop where
  /-- The request was not sent. -/
  | lost {t : List RoundTrip} {e : Error} (ht : ∀ trip ∈ t, trip.IsFetchFor method) :
    Delivers method url finish t (.error e)
  /-- The request was sent. -/
  | reached {t : List RoundTrip} {own : RoundTrip} (ht : ∀ trip ∈ t, trip.IsFetchFor method)
    (hm : own.request.method = method) (hu : url = .ok own.request.url) :
    Delivers method url finish (t ++ [own]) (finish own.outcome)

namespace Delivers

variable {α β : Type} {method : String} {url : Except Error Url}
  {finish : Except Error Response → Except Error α} {t : List RoundTrip} {r : Except Error α}

theorem lost_nil (e : Error) : Delivers method url finish [] (.error e) := .lost (by simp)

/-- The result may be finished further, as long as a failure remains one. -/
theorem map (h : Delivers method url finish t r) (g : Except Error α → Except Error β)
    (hg : ∀ e, ∃ e', g (.error e) = .error e') : Delivers method url (g ∘ finish) t (g r) := by
  cases h with
  | @lost _ e ht =>
    obtain ⟨e', he⟩ := hg e
    rw [he]
    exact .lost ht
  | @reached t own ht hm hu =>
    show Delivers method url (g ∘ finish) (t ++ [own]) ((g ∘ finish) own.outcome)
    exact .reached ht hm hu

/-- Every request of the attempt with the method of the call is sent to the URL of the call. -/
theorem url_eq (h : Delivers method url finish t r) {trip : RoundTrip} (ht : trip ∈ t)
    (hm : trip.request.method = method) : url = .ok trip.request.url := by
  cases h with
  | lost hf => exact absurd hm (hf trip ht).method_ne
  | reached hf _ hu =>
    rcases List.mem_append.mp ht with ht | ht
    · exact absurd hm (hf trip ht).method_ne
    · rw [List.mem_singleton.mp ht]
      exact hu

end Delivers

/-! ## One attempt -/

theorem Transport.wired_sends (guard : Option Csrf.Guard) (request : Request) :
    (Transport.wired guard request).Sends Session.toWire
      (Delivers request.method (.ok request.url) id) := by
  intro s
  cases guard with
  | none =>
    refine ⟨[⟨request, s.next⟩], Session.grew_sending request s, ?_⟩
    have hd : Delivers request.method (.ok request.url) id ([] ++ [⟨request, s.next⟩])
        (id s.next) := .reached (by simp) rfl rfl
    exact hd
  | some guard =>
    show ∃ t, s.toWire.Grew t (Transport.guarded guard .direct request s).2.toWire ∧
      Delivers _ _ _ t (Transport.guarded guard .direct request s).1
    obtain ⟨t, hp⟩ := Csrf.prepare_prepared guard request s
    rw [Csrf.guarded_eq]
    rcases hr : Csrf.prepare guard .direct request s with ⟨e | own, s'⟩ <;> rw [hr] at hp
    · exact ⟨t, hp.grew, .lost hp.fetches⟩
    · refine ⟨t ++ [⟨own, s'.next⟩], ?_, ?_⟩
      · simp only [Csrf.settle_toWire]
        exact hp.grew.trans (Session.grew_sending own s')
      · obtain ⟨hm, hu⟩ := hp.same_target
        have hd : Delivers request.method (.ok request.url) id (t ++ [⟨own, s'.next⟩])
            (id s'.next) := .reached hp.fetches hm (by rw [hu])
        exact hd

/-- A request that can be copied is sent under the product name, unless that is no header value. -/
theorem Transport.named_eq (agent : String) (base : Transport) {request : Request}
    (hb : request.body ≠ .stream) (s : Session) :
    Transport.named agent base request s =
      match headerValue? agent with
      | none =>
        (.error (.externalIn ("Invalid User-Agent value " ++ Text.quoted agent) .header), s)
      | some value =>
        base { request with headers := request.headers.insert userAgent value } s := by
  unfold Transport.named
  rw [copyOf_eq_ok hb, Call.bind_ok (Call.ofExcept_eq (.ok request) s)]
  cases headerValue? agent <;> rfl

namespace Channel

/-- What the request of a call consists of. -/
theorem request_parts {c : Channel} {e : Endpoint} {token : Token} {s : Session}
    {request : Request} (h : c.request e token s = .ok request) :
    request.method = e.method ∧ c.url e = .ok request.url ∧
      headers e token (s.cookies? request.url) = .ok request.headers ∧
      request.body ≠ .stream := by
  unfold Channel.request at h
  rcases hu : c.url e with fault | url
  · simp [hu, bind, Except.bind] at h
  · rcases hh : headers e token (s.cookies? url) with fault | headers
    · simp [hu, hh, bind, Except.bind] at h
    · simp only [hu, hh, bind, Except.bind, pure, Except.pure, Except.ok.injEq] at h
      subst h
      refine ⟨rfl, rfl, hh, ?_⟩
      cases e.body <;> simp

/-- The request of a call with the product name of the channel. -/
def ready (c : Channel) (e : Endpoint) (token : Token) (s : Session) : Except Error Request := do
  let request ← c.request e token s
  match headerValue? c.userAgent with
  | none => throw (.externalIn ("Invalid User-Agent value " ++ Text.quoted c.userAgent) .header)
  | some value => return { request with headers := request.headers.insert Http.userAgent value }

theorem ready_ok {c : Channel} {e : Endpoint} {token : Token} {s : Session} {request : Request}
    (h : c.ready e token s = .ok request) :
    ∃ plain value, c.request e token s = .ok plain ∧
      request = { plain with headers := plain.headers.insert Http.userAgent value } := by
  unfold ready at h
  rcases hr : c.request e token s with fault | plain
  · simp [hr, bind, Except.bind] at h
  · cases hv : headerValue? c.userAgent with
    | none => simp [hr, hv, bind, Except.bind, throw, throwThe, MonadExceptOf.throw] at h
    | some value =>
      simp only [hr, hv, bind, Except.bind, pure, Except.pure, Except.ok.injEq] at h
      exact ⟨plain, value, rfl, h.symm⟩

theorem ready_target {c : Channel} {e : Endpoint} {token : Token} {s : Session}
    {request : Request} (h : c.ready e token s = .ok request) :
    request.method = e.method ∧ c.url e = .ok request.url := by
  obtain ⟨plain, value, hr, rfl⟩ := ready_ok h
  obtain ⟨hm, hu, -⟩ := request_parts hr
  exact ⟨hm, hu⟩

/-- A call is made ready, sent over the transport, and its response is looked at. -/
theorem submit_eq (c : Channel) (base : Transport) (e : Endpoint) (token : Token) (s : Session) :
    c.submit base e token s =
      match c.ready e token s with
      | .error fault => (.error fault, s)
      | .ok request =>
        ((base request s).1.bind (checkStatus e.id),
          match base request s with
          | (.error _, s') => s'
          | (.ok response, s') => s'.storeCookies request.url response) := by
  rcases hr : c.request e token s with fault | request
  · have hready : c.ready e token s = .error fault := by
      unfold ready
      rw [hr]
      rfl
    rw [hready]
    exact Call.bind_error (x := fun s => (c.request e token s, s)) (by simp only [hr])
  · have hsubmit : c.submit base e token s =
        (Transport.named c.userAgent base request >>= fun response => do
          Call.modify (Session.storeCookies request.url response)
          Call.ofExcept (checkStatus e.id response)) s :=
      Call.bind_ok (x := fun s => (c.request e token s, s)) (by simp only [hr])
    have hnamed := Transport.named_eq c.userAgent base (request_parts hr).2.2.2 s
    unfold ready
    rw [hsubmit, hr]
    cases hv : headerValue? c.userAgent with
    | none =>
      rw [hv] at hnamed
      rw [Call.bind_error hnamed]
      rfl
    | some value =>
      rw [hv] at hnamed
      simp only [bind, Except.bind, pure, Except.pure]
      rcases hb : base { request with
        headers := request.headers.insert Http.userAgent value } s with ⟨fault | response, s'⟩
      · exact Call.bind_error (hnamed.trans hb)
      · exact Call.bind_ok (hnamed.trans hb)

theorem submit_sends (c : Channel) (guard : Option Csrf.Guard) (e : Endpoint) (token : Token) :
    (c.submit (.wired guard) e token).Sends Session.toWire
      (Delivers e.method (c.url e) fun outcome => outcome.bind (checkStatus e.id)) := by
  intro s
  rw [submit_eq]
  rcases hr : c.ready e token s with fault | request
  · exact ⟨[], .refl _, .lost_nil fault⟩
  · obtain ⟨hm, hu⟩ := ready_target hr
    rw [hu, ← hm]
    obtain ⟨t, hg, hd⟩ := Transport.wired_sends guard request s
    refine ⟨t, ?_, hd.map (·.bind (checkStatus e.id)) fun e => ⟨e, rfl⟩⟩
    rcases hb : Transport.wired guard request s with ⟨fault | response, s'⟩ <;> rw [hb] at hg
    · simp only [hb]
      exact hg
    · simp only [hb]
      exact hg

end Channel

/-- The result of a call, given what became of its request. -/
def Exchange.finish {α : Type} (x : Exchange α) (outcome : Except Error Response) :
    Except Error α :=
  ((outcome.bind (checkStatus x.endpoint.id)).mapError Error.classify).bind x.read

/-- One attempt at a call over a channel. -/
abbrev Channel.Attempt {α : Type} (c : Channel) (x : Exchange α) :
    List RoundTrip → Except Error α → Prop :=
  Delivers x.endpoint.method (c.url x.endpoint) x.finish

namespace Client

variable {α : Type}

theorem run_sends (c : Client) (guard : Option Csrf.Guard) (hc : c.transport = .wired guard)
    (x : Exchange α) : (c.run x).Sends Session.toWire (c.channel.Attempt x) := by
  have htoken : ((Session.nextToken c.supply).mapError Error.classify).Sends Session.toWire
      fun t _ => t = [] :=
    (Session.nextToken_silent c.supply).mapError _ fun _ _ h => h
  have hsubmit (token : Token) :
      ((c.channel.submit c.transport x.endpoint token).mapError Error.classify).Sends
        Session.toWire (Delivers x.endpoint.method (c.channel.url x.endpoint) fun outcome =>
          (outcome.bind (checkStatus x.endpoint.id)).mapError Error.classify) := by
    rw [hc]
    exact (c.channel.submit_sends guard x.endpoint token).mapError _ fun _ _ h =>
      h.map (·.mapError Error.classify) fun e => ⟨e.classify, rfl⟩
  refine (htoken.bind hsubmit).bind_ofExcept x.read ?_
  rintro t r (⟨e, rfl, rfl⟩ | ⟨t₁, t₂, token, rfl, rfl, h⟩)
  · exact .lost_nil e
  · exact h.map (·.bind x.read) fun e => ⟨e, rfl⟩

end Client

/-! ## Attempts under a policy -/

/-- Attempts at a call, each of which is one of `P`, with at most `n` retries: the traffic of all
attempts together, and the result of the last one. -/
inductive Attempts {α : Type} (P : List RoundTrip → Except Error α → Prop) :
    Nat → List RoundTrip → Except Error α → Prop where
  /-- The result is final, or there are no retries left. -/
  | last {n : Nat} {t : List RoundTrip} {r : Except Error α} (h : P t r)
    (hr : n = 0 ∨ shouldRetry (RetryPolicy.errorOf? r) = false) : Attempts P n t r
  /-- The call is attempted once more. -/
  | again {n : Nat} {t t' : List RoundTrip} {r r' : Except Error α} (h : P t r)
    (hr : shouldRetry (RetryPolicy.errorOf? r) = true) (hs : Attempts P n t' r') :
    Attempts P (n + 1) (t ++ t') r'

theorem RetryPolicy.call_succ {σ α : Type} (n interval : Nat) (pause : Nat → σ → σ) (x : Call σ α)
    (s : σ) :
    (RetryPolicy.mk (n + 1) interval).call pause x s =
      if shouldRetry (errorOf? (x s).1) then
        (RetryPolicy.mk n interval).call pause x (pause interval (x s).2)
      else x s := rfl

theorem RetryPolicy.call_sends {α : Type} {x : Call Session α}
    {P : List RoundTrip → Except Error α → Prop} (hx : x.Sends Session.toWire P)
    (p : RetryPolicy) : (p.call Session.pause x).Sends Session.toWire (Attempts P p.retries) := by
  obtain ⟨n, interval⟩ := p
  induction n with
  | zero =>
    intro s
    obtain ⟨t, hg, hp⟩ := hx s
    exact ⟨t, hg, .last hp (.inl rfl)⟩
  | succ n ih =>
    intro s
    obtain ⟨t, hg, hp⟩ := hx s
    rw [call_succ]
    cases hr : shouldRetry (errorOf? (x s).1) with
    | false =>
      rw [if_neg Bool.false_ne_true]
      exact ⟨t, hg, .last hp (.inr hr)⟩
    | true =>
      rw [if_pos rfl]
      obtain ⟨t', hg', ha⟩ := ih ((x s).2.pause interval)
      have hpause : (x s).2.toWire.Grew [] ((x s).2.pause interval).toWire := .of_same rfl rfl
      exact ⟨t ++ t', hg.trans (hpause.trans hg'), .again hp hr ha⟩

/-- The number of retries of a call that may be made under a policy. -/
def RetryPolicy.retriesOf (policy : Option RetryPolicy) : Nat := policy.elim 0 RetryPolicy.retries

/-- A call in a network is a sequence of attempts, whatever the network and the arguments. -/
theorem OpenClient.run_sends {α : Type} (c : OpenClient) (guard : Option Csrf.Guard)
    (hc : c.client.transport = .wired guard) (x : Exchange α) :
    (c.run x).Sends Network.toWire
      (Attempts (c.client.channel.Attempt x) (RetryPolicy.retriesOf c.policy)) := by
  have hrun := c.client.run_sends guard hc x
  refine Call.Sends.inNetwork ?_ c
  unfold Client.runUnder
  cases c.policy with
  | none => exact hrun.mono fun t r h => .last h (.inl rfl)
  | some p => exact RetryPolicy.call_sends hrun p

end DeployService
