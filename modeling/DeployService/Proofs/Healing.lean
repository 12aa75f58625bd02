import DeployService.Proofs.Identity
import DeployService.Proofs.Repetition
import DeployService.Proofs.ServedTokens
import Mathlib.Data.List.Chain

/-!
# Calls that get over rejected tokens

Retrying a call and forgetting a rejected token know nothing of each other: to the retries, a
rejection is a failure like any other, and the guarded transport sees single requests only. Together
they heal a call. What a retried call sends falls into rounds (`Round`), one for each attempt. The
token that may be used again after a round (`Round.left?`) decides how the next one begins
(`Round.Begins`), unless it becomes too old in the pause between the two (`Round.kept?`). One attempt
is one round (`Client.run_round`), and the rest is an induction on the number of retries
(`Client.attempts_heal`).

The service has to answer the requests for a token, and to accept the call once (`Recovers`).
Nothing is assumed about how often the call is sent, and about how old its tokens become.
-/

namespace DeployService

open DeployService.Http

variable {α : Type}

/-! ## Rounds -/

/-- What an attempt at a call sends: the requests for a token, if there are any, and then the
request of the call itself. -/
structure Round where
  /-- When it is sent, in milliseconds since 1970. -/
  time : Int
  fetches : List RoundTrip
  own : RoundTrip
  /-- The token that the call is sent with. -/
  token : CsrfToken

namespace Round

/-- Everything that is sent in the round. -/
def trips (r : Round) : List RoundTrip := r.fetches ++ [r.own]

/-- The token that may be used again after the round: none, if it is rejected. -/
def left? (r : Round) : Option CsrfToken :=
  if Csrf.rejects r.own.outcome then none else some r.token

/-- The token that is left by the round, if it is not too old at a later time. -/
def kept? (guard : Csrf.Guard) (later : Int) (r : Round) : Option CsrfToken :=
  r.left?.filter fun token => !Csrf.isExpired guard later token

/-- A token that may be used again is used, and nothing is fetched. Without one there is a fetch. -/
def Begins (kept : Option CsrfToken) (r : Round) : Prop :=
  match kept with
  | some token => r.fetches = [] ∧ r.token = token
  | none => r.fetches ≠ []

/-- The round is sent for a request. -/
structure IsOf (request : Request) (r : Round) : Prop where
  asks : ∀ trip ∈ r.fetches, Csrf.AsksFor request trip.request
  /-- A token that is fetched is the one that is carried. -/
  fetched : r.fetches ≠ [] → Csrf.Observation.handedOut? r.time r.fetches = some r.token
  carries : Csrf.Carries r.token request r.own.request

/-- The round is how a request goes from the session `s` to the session `s'`. -/
structure Takes (guard : Csrf.Guard) (request : Request) (s : Session) (r : Round) (s' : Session) :
    Prop where
  time : r.time = s.clock
  isOf : r.IsOf request
  begins : r.Begins (Csrf.valid? guard s)
  clock : s'.clock = s.clock
  left : Csrf.valid? guard s' = r.left?

end Round

/-- The request of the call itself, as often as it was sent. -/
def ownOf (method : String) (t : List RoundTrip) : List RoundTrip :=
  t.filter (·.request.method == method)

theorem Round.IsOf.ownOf_trips {r : Round} {request : Request} (h : r.IsOf request)
    (hm : Csrf.isProtected request.method = true) (t : List RoundTrip) :
    ownOf request.method (r.trips ++ t) = r.own :: ownOf request.method t := by
  have hown : r.own.request.method = request.method := h.carries.method
  have hfetches : r.fetches.filter (·.request.method == request.method) = [] := by
    rw [List.filter_eq_nil_iff]
    intro trip ht
    rw [(h.asks trip ht).method, beq_iff_eq]
    intro hget
    rw [← hget] at hm
    exact absurd hm (by decide)
  simp [ownOf, Round.trips, hfetches, hown]

/-! ## Services that recover -/

/-- The answer has a token in it. -/
def RoundTrip.handsOut (trip : RoundTrip) : Bool :=
  match trip.outcome with
  | .ok response => (response.headers.get? Csrf.tokenHeader).isSome
  | .error _ => false

/-- The request fails, and nothing says that it has succeeded nevertheless. -/
def RoundTrip.failed (trip : RoundTrip) : Bool :=
  match trip.outcome with
  | .ok response => !isSuccess response.status
  | .error e => e.classify.isRetryable

/-- Every fetch for a request with the given method yields a token. -/
structure Yields (method : String) (t : List RoundTrip) : Prop where
  answered : ∀ trip ∈ t, trip.request.method = "GET" → trip.outcome.isOk = true
  /-- The last answer before the request has a token in it. -/
  handsOut : t.IsChain fun trip next =>
    trip.request.method = "GET" → next.request.method = method → trip.handsOut = true

/-- The service recovers: every fetch yields a token, the first `k` requests of the call itself
fail, and the next one succeeds, if they are sent. -/
structure Recovers (method : String) (k : Nat) (t : List RoundTrip) : Prop where
  yields : Yields method t
  fails : ∀ trip ∈ (ownOf method t).take k, trip.failed = true
  succeeds : ∀ trip ∈ (ownOf method t)[k]?, trip.succeeded = true

instance (method : String) (t : List RoundTrip) : Decidable (Yields method t) :=
  decidable_of_iff ((∀ trip ∈ t, trip.request.method = "GET" → trip.outcome.isOk = true) ∧
    t.IsChain fun trip next =>
      trip.request.method = "GET" → next.request.method = method → trip.handsOut = true)
    ⟨fun h => ⟨h.1, h.2⟩, fun h => ⟨h.answered, h.handsOut⟩⟩

instance (method : String) (k : Nat) (t : List RoundTrip) : Decidable (Recovers method k t) :=
  decidable_of_iff (Yields method t ∧ (∀ trip ∈ (ownOf method t).take k, trip.failed = true) ∧
    ∀ trip ∈ (ownOf method t)[k]?, trip.succeeded = true)
    ⟨fun h => ⟨h.1, h.2.1, h.2.2⟩, fun h => ⟨h.yields, h.fails, h.succeeds⟩⟩

theorem Yields.append {method : String} {t t' : List RoundTrip} (h : Yields method (t ++ t')) :
    Yields method t ∧ Yields method t' := by
  obtain ⟨hchain, hchain', -⟩ := List.isChain_append.mp h.handsOut
  exact ⟨⟨fun trip ht => h.answered trip (List.mem_append_left _ ht), hchain⟩,
    ⟨fun trip ht => h.answered trip (List.mem_append_right _ ht), hchain'⟩⟩

section Recovers

variable {method : String} {r : Round} {request : Request} {t : List RoundTrip} {k : Nat}

theorem Recovers.succeeded (h : Recovers method 0 (r.trips ++ t)) (hr : r.IsOf request)
    (hmethod : request.method = method) (hm : Csrf.isProtected method = true) :
    r.own.succeeded = true := by
  subst hmethod
  have hlast := h.succeeds
  rw [hr.ownOf_trips hm] at hlast
  exact hlast r.own rfl

theorem Recovers.failed (h : Recovers method (k + 1) (r.trips ++ t)) (hr : r.IsOf request)
    (hmethod : request.method = method) (hm : Csrf.isProtected method = true) :
    r.own.failed = true ∧ Recovers method k t := by
  subst hmethod
  have hfails := h.fails
  have hlast := h.succeeds
  rw [hr.ownOf_trips hm] at hfails hlast
  refine ⟨hfails r.own (by simp), h.yields.append.2, fun trip ht => hfails trip ?_, hlast⟩
  rw [List.take_succ_cons]
  exact List.mem_cons_of_mem _ ht

end Recovers

/-! ## One request -/

namespace Csrf

variable {guard : Guard} {request : Request} {s s' : Session} {t : List RoundTrip}

theorem valid?_settle (guard : Guard) {own : Request} (hm : isProtected own.method = true)
    (outcome : Except Error Response) (s : Session) :
    valid? guard (settle own outcome (s.sending own)) =
      if rejects outcome then none else valid? guard s := by
  unfold settle
  cases hr : rejects outcome <;> simp only [hm, Bool.true_and, Bool.and_true] <;> rfl

/-- In a pause a token may become too old. It does not become newer. -/
theorem valid?_pause (guard : Guard) (milliseconds : Nat) (s : Session) :
    valid? guard (s.pause milliseconds) =
      (valid? guard s).filter fun token => !isExpired guard (s.clock + milliseconds) token := by
  unfold valid? Session.pause
  cases s.csrf with
  | none => rfl
  | some token =>
    by_cases hlater : isExpired guard (s.clock + milliseconds) token = true
    · cases hnow : isExpired guard s.clock token <;> simp [Option.filter, hnow, hlater]
    · have hnow : isExpired guard s.clock token = false := by
        simp only [isExpired, decide_eq_true_eq, decide_eq_false_iff_not] at hlater ⊢
        omega
      simp [Option.filter, hnow, hlater]

/-- A fetch whose last answer has a token in it hands out a token. -/
theorem Fetched.some_of_handsOut {token : Option CsrfToken}
    (h : Fetched guard request s t (.ok token) s')
    (hlast : ∀ trip ∈ t.getLast?, trip.handsOut = true) : ∃ csrf, token = some csrf := by
  have htoken {response : Response} {cookies : Option HeaderValue} {trip : RoundTrip}
      (ht : t.getLast? = some trip) (ho : trip.outcome = .ok response)
      (hr : tokenOf? response cookies s.clock = token) : ∃ csrf, token = some csrf := by
    have hout := hlast trip ht
    rw [RoundTrip.handsOut, ho] at hout
    obtain ⟨value, hvalue⟩ := Option.isSome_iff_exists.mp hout
    rw [tokenOf?, hvalue] at hr
    exact ⟨_, hr.symm⟩
  generalize hr : (Except.ok token : Except Error (Option CsrfToken)) = r at h
  cases h with
  | failed => cases hr
  | once => exact htoken rfl rfl (Except.ok.inj hr).symm
  | failedAgain => cases hr
  | twice => exact htoken rfl rfl (Except.ok.inj hr).symm

theorem Prepared.takes {own : Request} {s₁ : Session} (hm : isProtected request.method = true)
    (h : Prepared guard request s t (.ok own) s₁)
    (hy : Yields request.method (t ++ [⟨own, s₁.next⟩])) :
    ∃ token, (Round.mk s.clock t ⟨own, s₁.next⟩ token).Takes guard request s
      (settle own s₁.next (s₁.sending own)) := by
  have hasks := h.asksFor
  have hclock : (settle own s₁.next (s₁.sending own)).clock = s.clock := by
    rw [settle_toWire]
    exact h.clock
  have hmethod : own.method = request.method := h.same_target.1
  have hleft := valid?_settle guard (hmethod ▸ hm) s₁.next s₁
  cases h with
  | safe hsafe => rw [hsafe] at hm; cases hm
  | @kept token _ _ hv =>
    rw [hv] at hleft
    refine ⟨token, rfl, ⟨hasks, fun hne => absurd rfl hne, protectWith_carries token request⟩, ?_,
      hclock, hleft⟩
    rw [hv]
    exact ⟨rfl, rfl⟩
  | @fetched _ token s₂ _ _ hv hf =>
    -- the request follows on the last answer of the fetch, which therefore has a token in it
    have hlast : ∀ trip ∈ t.getLast?, trip.handsOut = true := fun trip ht =>
      (List.isChain_append.mp hy.handsOut).2.2 trip ht _ rfl
        (hasks trip (List.mem_of_getLast? ht)).method hmethod
    obtain ⟨token, rfl⟩ := hf.some_of_handsOut hlast
    have hhanded : Observation.handedOut? s.clock t = some token := hf.handedOut
    rw [hf.valid?_eq] at hleft
    refine ⟨token, rfl, ⟨hasks, fun _ => hhanded, protectWith_carries token request⟩, ?_, hclock,
      hleft⟩
    rw [hv]
    exact hf.ne_nil

/-- A request for which every fetch yields a token takes a round. -/
theorem guarded_takes (guard : Guard) (hm : isProtected request.method = true)
    (hb : request.body ≠ .stream) (s : Session) :
    ∃ t, s.toWire.Grew t (Transport.guarded guard .direct request s).2.toWire ∧
      (Yields request.method t → ∃ r : Round, t = r.trips ∧
        (Transport.guarded guard .direct request s).1 = r.own.outcome ∧
        r.Takes guard request s (Transport.guarded guard .direct request s).2) := by
  obtain ⟨t, hp⟩ := prepare_prepared guard request s
  rw [guarded_eq]
  rcases hr : prepare guard .direct request s with ⟨e | own, s'⟩ <;> rw [hr] at hp
  · refine ⟨t, hp.grew, fun hy => ?_⟩
    -- only a fetch can have failed, but all of its requests are answered
    have hasks := hp.asksFor
    cases hp with
    | streaming _ hb' => exact absurd hb' hb
    | unfetched _ _ _ hf =>
      obtain ⟨trip, e', hl, ho, -⟩ := hf.last_of_error
      have ht := List.mem_of_getLast? hl
      have hok := hy.answered trip ht (hasks trip ht).method
      rw [ho] at hok
      cases hok
  · have hgrew : s.toWire.Grew (t ++ [⟨own, s'.next⟩])
        (settle own s'.next (s'.sending own)).toWire := by
      rw [settle_toWire]
      exact hp.grew.trans (Session.grew_sending own s')
    refine ⟨_, hgrew, fun hy => ?_⟩
    obtain ⟨token, htakes⟩ := hp.takes hm hy
    exact ⟨_, rfl, rfl, htakes⟩

end Csrf

/-! ## One attempt -/

/-- The client can send the call at any time: its URL and its product name are what they should be,
and so is every token that it can get. -/
structure Client.CanSend (c : Client) (e : Endpoint) (tokens : TokenState) : Prop where
  url : (c.channel.url e).isOk = true
  agent : (headerValue? c.channel.userAgent).isSome = true
  token : ∀ clock now, ∃ token,
    (c.supply.next now (c.supply.after clock tokens)).1 = .ok token ∧ token.header.isOk = true

theorem Client.CanSend.next {c : Client} {e : Endpoint} {tokens : TokenState}
    (h : c.CanSend e tokens) (now : Int) : c.CanSend e (c.supply.next now tokens).2 :=
  ⟨h.url, h.agent, fun clock => h.token (now :: clock)⟩

theorem exists_of_isOk {ε β : Type} {r : Except ε β} (h : r.isOk = true) : ∃ b, r = .ok b := by
  cases r with
  | error => cases h
  | ok b => exact ⟨b, rfl⟩

theorem Channel.ready_of_valid {c : Channel} {e : Endpoint} {token : Token}
    (hu : (c.url e).isOk = true) (ht : token.header.isOk = true)
    (ha : (headerValue? c.userAgent).isSome = true) (s : Session) :
    ∃ request, c.ready e token s = .ok request := by
  obtain ⟨url, hu⟩ := exists_of_isOk hu
  obtain ⟨value, ht⟩ := exists_of_isOk ht
  obtain ⟨agent, ha⟩ := Option.isSome_iff_exists.mp ha
  unfold Channel.ready Channel.request Channel.headers Token.authenticate
  simp [hu, ht, ha, bind, Except.bind, Except.map, pure, Except.pure]

/-- An attempt for which every fetch yields a token takes a round, and its result is what becomes of
the request of the call itself. -/
theorem Client.run_round {c : Client} {guard : Csrf.Guard} (hc : c.transport = .wired (some guard))
    {x : Exchange α} (hm : Csrf.isProtected x.endpoint.method = true) {s : Session}
    (hs : c.CanSend x.endpoint s.tokens) :
    ∃ t, s.toWire.Grew t (c.run x s).2.toWire ∧
      (Yields x.endpoint.method t → ∃ (r : Round) (request : Request),
        c.channel.IsRequest x.endpoint request ∧ t = r.trips ∧
        (c.run x s).1 = x.finish r.own.outcome ∧ r.Takes guard request s (c.run x s).2) := by
  obtain ⟨token, htoken, hheader⟩ := hs.token [] (wholeSeconds s.clock)
  have hruns := c.run_runs x s
  generalize (c.run x s).1 = result at hruns
  generalize (c.run x s).2 = s₁ at hruns
  have hnext : (Session.nextToken c.supply s).1 = .ok token := htoken
  cases hruns with
  | tokenless ht =>
    rw [ht] at hnext
    cases hnext
  | unready ht h =>
    rw [ht] at hnext
    cases hnext
    obtain ⟨request, hready⟩ := Channel.ready_of_valid hs.url hheader hs.agent _
    rw [hready] at h
    cases h
  | @sent _ s' _ request jar ht h hs₁ =>
    have hsame : s' = (Session.nextToken c.supply s).2 := by rw [ht]
    have hrequest := Channel.ready_isRequest h
    have hb : request.body ≠ .stream := by
      rw [hrequest.body]
      cases x.endpoint.body <;> simp
    obtain ⟨t, hg, htakes⟩ := Csrf.guarded_takes guard (hrequest.method ▸ hm) hb s'
    rw [hs₁, hsame, hc]
    rw [hsame] at hg htakes
    refine ⟨t, hg, fun hy => ?_⟩
    obtain ⟨r, rfl, hr, htakes⟩ := htakes (hrequest.method ▸ hy)
    refine ⟨r, request, hrequest, rfl, congrArg x.finish hr, ?_⟩
    -- neither getting a token nor taking in the cookies has to do with the guard
    exact ⟨htakes.time, htakes.isOf, htakes.begins, htakes.clock, htakes.left⟩

theorem Client.CanSend.run {c : Client} {x : Exchange α} {s : Session}
    (h : c.CanSend x.endpoint s.tokens) {guard : Option Csrf.Guard}
    (hc : c.transport = .wired guard) : c.CanSend x.endpoint (c.run x s).2.tokens := by
  rw [(c.run_runs x s).tokens hc]
  exact h.next _

/-- A request that fails is worth another attempt. -/
theorem Exchange.finish_failed (x : Exchange α) {trip : RoundTrip} (h : trip.failed = true) :
    shouldRetry (RetryPolicy.errorOf? (x.finish trip.outcome)) = true := by
  unfold RoundTrip.failed at h
  rcases ho : trip.outcome with e | response <;> simp only [ho] at h
  · rw [x.finish_error]
    exact h
  · have hrefused : isSuccess response.status = false := by simpa using h
    rw [x.finish_refused hrefused, errorOf_classify]
    exact h

/-- A request that succeeds is not. -/
theorem Exchange.IsCommand.finish_succeeded {x : Exchange α} (hx : x.IsCommand) {trip : RoundTrip}
    (h : trip.succeeded = true) : ∃ a, x.finish trip.outcome = .ok a := by
  unfold RoundTrip.succeeded at h
  rcases ho : trip.outcome with e | response <;> simp only [ho] at h
  · cases h
  · rw [x.finish_accepted h]
    exact hx.read response

/-! ## All attempts -/

/-- The rounds of a call, one after another, with a pause of `interval` milliseconds between two. -/
structure Rounds (c : Channel) (e : Endpoint) (guard : Csrf.Guard) (interval : Nat) (now : Int)
    (kept : Option CsrfToken) (rounds : List Round) : Prop where
  each : ∀ r ∈ rounds, ∃ request, c.IsRequest e request ∧ r.IsOf request
  /-- The first round begins with the token that is kept before the call. -/
  first : ∀ r ∈ rounds.head?, r.time = now ∧ r.Begins kept
  /-- Every other one begins with the token that is left by the round before it, unless that has
  become too old in the pause. -/
  next : rounds.IsChain fun (last next : Round) =>
    next.time = last.time + interval ∧ next.Begins (last.kept? guard next.time)

/-- What is sent for a call are `k + 1` rounds, and it returns a value. -/
structure Heals (c : Channel) (e : Endpoint) (guard : Csrf.Guard) (interval : Nat) (now : Int)
    (kept : Option CsrfToken) (k : Nat) (t : List RoundTrip) (result : Except Error α) :
    Prop where
  rounds : ∃ rounds, t = rounds.flatMap Round.trips ∧ rounds.length = k + 1 ∧
    Rounds c e guard interval now kept rounds
  value : ∃ a, result = .ok a

section Heals

variable {c : Channel} {e : Endpoint} {k interval : Nat} {r : Round} {t : List RoundTrip}
  {guard : Csrf.Guard} {request : Request} {s s' : Session} {result : Except Error α}

theorem Heals.last (hr : c.IsRequest e request) (h : r.Takes guard request s s')
    (hv : ∃ a, result = .ok a) :
    Heals c e guard interval s.clock (Csrf.valid? guard s) 0 r.trips result where
  rounds := ⟨[r], by simp, rfl, by simpa using ⟨request, hr, h.isOf⟩,
    by simpa using ⟨h.time, h.begins⟩, .singleton r⟩
  value := hv

theorem Heals.again (hr : c.IsRequest e request) (h : r.Takes guard request s s')
    (hrest : Heals c e guard interval (s'.pause interval).clock
      (Csrf.valid? guard (s'.pause interval)) k t result) :
    Heals c e guard interval s.clock (Csrf.valid? guard s) (k + 1) (r.trips ++ t) result where
  rounds := by
    obtain ⟨rounds, rfl, hlength, heach, hfirst, hnext⟩ := hrest.rounds
    have hlater : (s'.pause interval).clock = r.time + interval := by
      rw [h.time, ← h.clock]
      rfl
    have hkept : Csrf.valid? guard (s'.pause interval) = r.kept? guard (r.time + interval) := by
      rw [Csrf.valid?_pause, h.left, h.clock, ← h.time]
      rfl
    rw [hlater, hkept] at hfirst
    refine ⟨r :: rounds, by simp, by simp [hlength],
      by simpa using ⟨⟨request, hr, h.isOf⟩, heach⟩, by simpa using ⟨h.time, h.begins⟩,
      List.isChain_cons.mpr ⟨fun next hn => ?_, hnext⟩⟩
    obtain ⟨htime, hbegins⟩ := hfirst next hn
    exact ⟨htime, htime ▸ hbegins⟩
  value := hrest.value

end Heals

/-- Attempts at a call of a service that recovers: a round for every request that the service
refuses, and one more. -/
theorem Client.attempts_heal {c : Client} {guard : Csrf.Guard}
    (hc : c.transport = .wired (some guard)) {x : Exchange α} (hx : x.IsCommand) (n interval : Nat)
    {k : Nat} (hk : k ≤ n) {s : Session} (hs : c.CanSend x.endpoint s.tokens) :
    ∃ t, s.toWire.Grew t
        ((RetryPolicy.mk n interval).call Session.pause (c.run x) s).2.toWire ∧
      (Recovers x.endpoint.method k t →
        Heals c.channel x.endpoint guard interval s.clock (Csrf.valid? guard s) k t
          ((RetryPolicy.mk n interval).call Session.pause (c.run x) s).1) := by
  have hm : Csrf.isProtected x.endpoint.method = true := by
    rw [hx.method]
    rfl
  induction n generalizing k s with
  | zero =>
    obtain rfl : k = 0 := Nat.le_zero.mp hk
    obtain ⟨t, hg, hround⟩ := c.run_round hc hm hs
    refine ⟨t, hg, fun hrec => ?_⟩
    obtain ⟨r, request, hrequest, rfl, hresult, htakes⟩ := hround hrec.yields
    refine .last hrequest htakes (hresult ▸ hx.finish_succeeded ?_)
    exact (r.trips.append_nil.symm ▸ hrec).succeeded htakes.isOf hrequest.method hm
  | succ n ih =>
    obtain ⟨t, hg, hround⟩ := c.run_round hc hm hs
    rw [RetryPolicy.call_succ]
    cases hagain : shouldRetry (RetryPolicy.errorOf? (c.run x s).1) with
    | false =>
      rw [if_neg Bool.false_ne_true]
      refine ⟨t, hg, fun hrec => ?_⟩
      obtain ⟨r, request, hrequest, rfl, hresult, htakes⟩ := hround hrec.yields
      rw [← r.trips.append_nil] at hrec
      cases k with
      | zero =>
        refine .last hrequest htakes (hresult ▸ hx.finish_succeeded ?_)
        exact hrec.succeeded htakes.isOf hrequest.method hm
      | succ k =>
        -- the request fails, so this would not be the last attempt
        obtain ⟨hfailed, -⟩ := hrec.failed htakes.isOf hrequest.method hm
        rw [hresult, x.finish_failed hfailed] at hagain
        cases hagain
    | true =>
      rw [if_pos rfl]
      obtain ⟨t', hg', hrest⟩ := ih (k := k - 1) (by omega)
        (s := (c.run x s).2.pause interval) (hs.run hc)
      have hpause : (c.run x s).2.toWire.Grew [] ((c.run x s).2.pause interval).toWire :=
        .of_same rfl rfl
      refine ⟨t ++ t', hg.trans (hpause.trans hg'), fun hrec => ?_⟩
      obtain ⟨r, request, hrequest, rfl, hresult, htakes⟩ := hround hrec.yields.append.1
      cases k with
      | zero =>
        obtain ⟨a, ha⟩ :=
          hx.finish_succeeded (hrec.succeeded htakes.isOf hrequest.method hm)
        rw [hresult, ha] at hagain
        cases hagain
      | succ k =>
        exact .again hrequest htakes (hrest (hrec.failed htakes.isOf hrequest.method hm).2)

/-! ## The calls that change something -/

/-- A retried call `x` of a client with a guarded transport, in a network: if the client can send it
and the service refuses it at most as often as it is retried, the call heals. -/
def OpenClient.HealsIn (c : OpenClient) (guard : Csrf.Guard) (p : RetryPolicy) (x : Exchange α)
    (retried : Call Network α) (n : Network) : Prop :=
  c.client.CanSend x.endpoint (n.tokens c.connection) → ∀ k ≤ p.retries,
    ∃ t, n.toWire.Grew t (retried n).2.toWire ∧
      (Recovers x.endpoint.method k t →
        Heals c.client.channel x.endpoint guard p.interval n.clock
          (Csrf.valid? guard (Network.session c n)) k t (retried n).1)

theorem OpenClient.run_healsIn (c : OpenClient) (guard : Csrf.Guard) (p : RetryPolicy)
    {x : Exchange α} (hx : x.IsCommand) (n : Network) :
    c.HealsIn guard p x (((c.once (some guard)).retrying p).run x) n := by
  intro hs k hk
  have hs' : (c.once (some guard)).client.CanSend x.endpoint
      (Network.session (c.once (some guard)) n).tokens := ⟨hs.url, hs.agent, hs.token⟩
  exact (c.once (some guard)).client.attempts_heal rfl hx p.retries p.interval hk hs'

/-- **A retried call gets over rejected tokens.** Every call that changes something, of whatever
client with a guarded transport, under every policy, in every network and so with every token that
is kept before the call. -/
theorem rejected_calls_heal (c : OpenClient) (guard : Csrf.Guard) (p : RetryPolicy) (n : Network) :
    (∀ scope org space, c.HealsIn guard p (RestCall.exchange scope (.purgeConfiguration org space))
      (((RestClient.mk (c.once (some guard)) scope).retrying p).service
        (.purgeConfiguration org space)) n) ∧
    (∀ operation action, c.HealsIn guard p
      (OperationsCall.exchange (.executeAction operation action))
      (((OperationsClient.mk (c.once (some guard))).retrying p).service
        (.executeAction operation action)) n) ∧
    (∀ operation, c.HealsIn guard p (OperationsCall.exchange (.start operation))
      (((OperationsClient.mk (c.once (some guard))).retrying p).service (.start operation)) n) ∧
    (∀ serviceId action, c.HealsIn guard p (ProcessCall.exchange (.executeAction action))
      (((ProcessClient.mk (c.once (some guard)) serviceId).retrying p).service
        (.executeAction action)) n) :=
  ⟨fun _ _ _ => c.run_healsIn guard p (Exchange.empty_isCommand rfl) n,
    fun _ _ => c.run_healsIn guard p (Exchange.location_isCommand rfl) n,
    fun _ => c.run_healsIn guard p (Exchange.location_isCommand rfl) n,
    fun _ _ => c.run_healsIn guard p (Exchange.empty_isCommand rfl) n⟩

/-- A service that does not accept a token at first, and is then not available for a while. -/
def recoveringResponses : List Response :=
  [{ status := 200, headers := [(Csrf.tokenHeader, literalValue "old")], body := [] },
    { status := 403, headers := [(Csrf.tokenHeader, literalValue "required")], body := [] },
    { status := 200, headers := [(Csrf.tokenHeader, literalValue "new")], body := [] },
    { status := 503, headers := [], body := [] },
    { status := 202, headers := [], body := [] }]

/-- A call that is sent a third time, with a new token from the second time on. -/
theorem call_heals_after_rejection :
    let c := OpenClient.toHost "example.com" operationsBasePath
    let guard : Csrf.Guard := ⟨Csrf.standardTimeout, false⟩
    let x := OperationsCall.exchange (.executeAction "1" "retry")
    let call := ((OperationsClient.mk (c.once (some guard))).retrying .standard).service
      (.executeAction "1" "retry")
    let n := Network.replaying recoveringResponses
    c.client.CanSend x.endpoint (n.tokens 0) ∧
      ∃ t, n.toWire.Grew t (call n).2.toWire ∧ Recovers "POST" 2 t ∧
        Heals c.client.channel x.endpoint guard 3000 0 none 2 t (call n).1 := by
  intro c guard x call n
  have hs : c.client.CanSend x.endpoint (n.tokens 0) :=
    ⟨by decide +kernel, by decide +kernel, fun _ _ => ⟨⟨"token"⟩, rfl, by decide +kernel⟩⟩
  have hcall : c.HealsIn guard .standard x call n :=
    (rejected_calls_heal c guard .standard n).2.1 "1" "retry"
  obtain ⟨t, hg, hheals⟩ := hcall hs 2 (by decide)
  have hrec : Recovers "POST" 2 t := by
    rw [← hg.drop]
    decide +kernel
  exact ⟨hs, t, hg, hrec, hheals hrec⟩

/-- A token that becomes too old in the pause is not used again, although it was not rejected. -/
example :
    let c := OpenClient.toHost "example.com" operationsBasePath
    let call := ((OperationsClient.mk (c.once (some ⟨Csrf.standardTimeout, false⟩))).retrying
      ⟨1, 91000⟩).service (.executeAction "1" "retry")
    (call (Network.replaying
      [{ status := 200, headers := [(Csrf.tokenHeader, literalValue "old")], body := [] },
        { status := 503, headers := [], body := [] },
        { status := 200, headers := [(Csrf.tokenHeader, literalValue "new")], body := [] },
        { status := 202, headers := [], body := [] }])).2.sent.map (·.method) =
      ["GET", "POST", "GET", "POST"] := by
  decide +kernel

/-- A service that rejects the token of its first session. It opens another one, and expects the
token of that in the cookie header. -/
def reopeningResponses : List Response :=
  [{ status := 200, headers := [(Csrf.tokenHeader, literalValue "old")], body := [] },
    { status := 403, headers := [(Csrf.tokenHeader, literalValue "required")], body := [] },
    { status := 200, headers := [(setCookie, literalValue "s=1")], body := [] },
    { status := 200
      headers := [(Csrf.nameHeader, literalValue "Cookie"), (Csrf.tokenHeader, literalValue "new")]
      body := [] },
    { status := 202, headers := [], body := [] }]

/-- The token that is fetched after a rejection is not sent if it is expected in the cookie header
and belongs to a session. -/
theorem refetched_token_not_sent :
    let c := OpenClient.toHost "example.com" operationsBasePath
    let call := ((OperationsClient.mk (c.once (some ⟨Csrf.standardTimeout, false⟩))).retrying
      .standard).service (.executeAction "1" "retry")
    let t := (call (Network.replaying reopeningResponses)).2.traffic
    let token : CsrfToken := ⟨cookie, literalValue "new", some (literalValue "s=1"), 3000⟩
    Recovers "POST" 1 t ∧ Csrf.Observation.handedOut? 3000 ((t.drop 2).take 2) = some token ∧
      ∃ own ∈ (ownOf "POST" t).drop 1, token.value ∉ own.request.headers.map Prod.snd := by
  decide +kernel

end DeployService
