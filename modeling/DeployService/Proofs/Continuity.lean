import DeployService.Proofs.Endings
import DeployService.Proofs.StoredCookies

/-!
# Sessions over failing attempts

Channels that send over no guarded transport. A service may open a session with any answer, also one
that says that a call has failed, and the next attempt has to belong to it. `Continues` relates the
jars before and after some answers: each request has the cookies that the answers before it have
left. A request that is sent extends this by one answer (`Proceeds.answered`), and everything else
that calls do leaves the jar as it is.

Cookies expire, so it matters when a request is sent. An attempt takes no time, but there is a pause
before the next one: the answers of a retried call are listed attempt by attempt
(`Call.retriedArrivals`).
-/

namespace DeployService

open DeployService.Http

/-! ## Requests and the cookies in between -/

/-- The request that was sent has the cookies that the jar yields for it. -/
def Http.Jar.Serves (jar : Jar) (a : Arrival) : Prop :=
  a.trip.request.headers.getAll cookie = (jar.header? a.clock a.trip.request.url).toList

/-- The jar becomes another one by the answers, and serves each of the requests when it is sent. -/
inductive Continues : Jar → List Arrival → Jar → Prop where
  | nil (jar : Jar) : Continues jar [] jar
  | cons {jar jar' : Jar} {a : Arrival} {as : List Arrival} (hc : jar.Serves a)
    (h : Continues (jar.takeIn a) as jar') : Continues jar (a :: as) jar'

namespace Continues

variable {jar jar' jar'' : Jar} {as bs : List Arrival}

theorem append (h : Continues jar as jar') (h' : Continues jar' bs jar'') :
    Continues jar (as ++ bs) jar'' := by
  induction h with
  | nil => exact h'
  | cons hc _ ih => exact .cons hc (ih h')

theorem jar_eq (h : Continues jar as jar') : jar' = as.foldl Jar.takeIn jar := by
  induction h with
  | nil => rfl
  | cons _ _ ih => exact ih

theorem serves (h : Continues jar as jar') {before later : List Arrival} {a : Arrival}
    (ha : as = before ++ a :: later) : (before.foldl Jar.takeIn jar).Serves a := by
  induction h generalizing before with
  | nil => simp at ha
  | cons hc _ ih =>
    cases before with
    | nil =>
      obtain ⟨rfl, -⟩ := List.cons.inj ha
      exact hc
    | cons b before =>
      obtain ⟨rfl, hrest⟩ := List.cons.inj ha
      exact ih hrest

end Continues

namespace Call

variable {α : Type}

/-- What has come of the requests of a call that takes no time, and when. -/
def arrivals (x : Call Session α) (s : Session) : List Arrival :=
  arriving s.clock ((x s).2.traffic.drop s.traffic.length)

/-- What has come of the requests of the attempts at a call, of which there are `n + 1` at most, and
when. -/
def retriedArrivals (x : Call Session α) (interval : Nat) : Nat → Session → List Arrival
  | 0, s => x.arrivals s
  | n + 1, s =>
    x.arrivals s ++
      if shouldRetry (RetryPolicy.errorOf? (x s).1) then
        x.retriedArrivals interval n ((x s).2.pause interval)
      else []

/-- What has come of the requests of a call under a policy, if there is one, and when. -/
def arrivalsUnder (x : Call Session α) : Option RetryPolicy → Session → List Arrival
  | none, s => x.arrivals s
  | some p, s => x.retriedArrivals p.interval p.retries s

end Call

/-- What happens from the session `s` on: these answers come in, and the cookies stay up to date. -/
structure Session.Proceeds (s : Session) (as : List Arrival) (s' : Session) : Prop where
  grew : s.toWire.Grew (as.map Arrival.trip) s'.toWire
  cookies : Continues s.jar as s'.jar

theorem arriving_trips (clock : Int) (t : List RoundTrip) :
    (arriving clock t).map Arrival.trip = t := by
  rw [arriving, List.map_map]
  exact List.map_id _

namespace Session.Proceeds

variable {s s' s'' : Session} {as bs : List Arrival}

theorem refl (s : Session) : s.Proceeds [] s := ⟨.refl _, .nil _⟩

theorem trans (h : s.Proceeds as s') (h' : s'.Proceeds bs s'') : s.Proceeds (as ++ bs) s'' where
  grew := by
    rw [List.map_append]
    exact h.grew.trans h'.grew
  cookies := h.cookies.append h'.cookies

theorem pause (milliseconds : Nat) (s : Session) : s.Proceeds [] (s.pause milliseconds) :=
  ⟨.of_same rfl rfl, .nil _⟩

theorem nextToken (supply : TokenSupply) (s : Session) :
    s.Proceeds [] (Session.nextToken supply s).2 :=
  ⟨.of_same rfl rfl, .nil _⟩

/-- A request with the cookies of the session is sent, and its answer is taken in. -/
theorem answered {request : Request}
    (hc : request.headers.getAll cookie = (s.cookies? request.url).toList) :
    s.Proceeds (arriving s.clock [⟨request, s.next⟩])
      (match Transport.direct request s with
        | (.error _, s') => s'
        | (.ok response, s') => s'.storeCookies request.url response) := by
  have hsend := Transport.direct_eq request s
  have hgrew := Session.grew_sending request s
  rcases hn : s.next with fault | response <;> rw [hn] at hsend hgrew <;> simp only [hsend]
  · exact ⟨hgrew, .cons hc (.nil _)⟩
  · exact ⟨hgrew, .cons hc (.nil _)⟩

/-- The answers are all that a call has got, if they came in when it was made. -/
theorem arrivals {α : Type} {x : Call Session α} {t : List RoundTrip}
    (h : s.Proceeds (arriving s.clock t) (x s).2) : s.Proceeds (x.arrivals s) (x s).2 := by
  have hgrew := h.grew
  rw [arriving_trips] at hgrew
  rwa [Call.arrivals, hgrew.drop]

end Session.Proceeds

/-! ## One call -/

theorem Channel.submit_proceeds (c : Channel) (e : Endpoint) (token : Token) (s : Session) :
    s.Proceeds ((c.submit .direct e token).arrivals s) (c.submit .direct e token s).2 := by
  have hsubmit : ∃ t, s.Proceeds (arriving s.clock t) (c.submit .direct e token s).2 := by
    rw [submit_eq]
    rcases hr : c.ready e token s with fault | request
    · exact ⟨[], .refl s⟩
    · exact ⟨_, .answered (ready_cookies hr)⟩
  obtain ⟨t, h⟩ := hsubmit
  exact h.arrivals

namespace Client

variable {α : Type}

theorem run_proceeds (c : Client) (hc : c.transport = .direct) (x : Exchange α) (s : Session) :
    s.Proceeds ((c.run x).arrivals s) (c.run x s).2 := by
  have hrun : ∃ t, s.Proceeds (arriving s.clock t) (c.run x s).2 := by
    have htoken := Session.Proceeds.nextToken c.supply s
    have hclock : (Session.nextToken c.supply s).2.clock = s.clock := rfl
    rw [run_eq, hc]
    rcases ht : Session.nextToken c.supply s with ⟨e | token, s'⟩ <;> rw [ht] at htoken hclock
    · exact ⟨[], htoken⟩
    · rcases hr : c.channel.ready x.endpoint token s' with fault | request
      · simp only [hr]
        exact ⟨[], htoken⟩
      · simp only [hr]
        rw [← hclock]
        exact ⟨_, htoken.trans (.answered (Channel.ready_cookies hr))⟩
  obtain ⟨t, h⟩ := hrun
  exact h.arrivals

/-- Retries send more requests, and in the pause before one of them nothing happens to the cookies,
but that some may expire. -/
theorem runUnder_proceeds (c : Client) (hc : c.transport = .direct) (policy : Option RetryPolicy)
    (x : Exchange α) (s : Session) :
    s.Proceeds ((c.run x).arrivalsUnder policy s) (c.runUnder policy x s).2 := by
  cases policy with
  | none => exact c.run_proceeds hc x s
  | some p =>
    obtain ⟨n, interval⟩ := p
    show s.Proceeds ((c.run x).retriedArrivals interval n s)
      ((RetryPolicy.mk n interval).call Session.pause (c.run x) s).2
    induction n generalizing s with
    | zero => exact c.run_proceeds hc x s
    | succ n ih =>
      have hrun := c.run_proceeds hc x s
      rw [RetryPolicy.call_succ, Call.retriedArrivals]
      split
      · have hrest := (Session.Proceeds.pause interval _).trans (ih ((c.run x s).2.pause interval))
        exact hrun.trans hrest
      · rwa [List.append_nil]

end Client

/-! ## Calls whose requests are never ready -/

/-- No request can be made: there is no URL for the call, or the credential is no header value. -/
def Channel.Refuses (c : Channel) (e : Endpoint) (token : Token) : Prop :=
  (∃ fault, c.url e = .error fault) ∨ ∃ fault, token.header = .error fault

/-- What a client gets when it asks for a token once more than `i` times, the first time when the
clock shows `clock`, and with a pause of `interval` milliseconds before every other time. -/
def TokenSupply.nth (supply : TokenSupply) (interval : Nat) (clock : Int) (tokens : TokenState) :
    Nat → Except Error Token
  | 0 => (supply.next (wholeSeconds clock) tokens).1
  | i + 1 =>
    supply.nth interval (clock + interval) (supply.next (wholeSeconds clock) tokens).2 i

/-- The pause before another attempt at a call that may be made under a policy. -/
def RetryPolicy.intervalOf (policy : Option RetryPolicy) : Nat :=
  policy.elim 0 RetryPolicy.interval

theorem Channel.Refuses.unready {c : Channel} {e : Endpoint} {token : Token}
    (h : c.Refuses e token) (s : Session) : ∃ fault, c.ready e token s = .error fault := by
  rcases hu : c.url e with fault | url
  · exact ⟨fault, ready_eq_error_iff.mpr (.inl hu)⟩
  · rcases h with ⟨fault, hfault⟩ | ⟨fault, hfault⟩
    · rw [hu] at hfault
      cases hfault
    · exact ⟨fault, ready_eq_error_iff.mpr (.inr (.inl ⟨url, hu, hfault⟩))⟩

theorem Channel.Refuses.submit {c : Channel} {e : Endpoint} {token : Token}
    (h : c.Refuses e token) (base : Transport) (s : Session) :
    (c.submit base e token s).2 = s := by
  obtain ⟨fault, hr⟩ := h.unready s
  rw [submit_eq, hr]

namespace Client

variable {α : Type}

theorem run_unready {c : Client} {x : Exchange α} {interval : Nat} {s : Session}
    (h : ∀ token, c.supply.nth interval s.clock s.tokens 0 = .ok token →
      c.channel.Refuses x.endpoint token) :
    (c.run x s).2 = (Session.nextToken c.supply s).2 := by
  rw [run_eq]
  rcases ht : Session.nextToken c.supply s with ⟨e | token, s'⟩
  · rfl
  · have hnext : c.supply.nth interval s.clock s.tokens 0 = .ok token := congrArg Prod.fst ht
    obtain ⟨fault, hr⟩ := (h token hnext).unready s'
    simp only [hr]

/-- If each attempt gets a token that it cannot use, or none, nothing is sent. -/
theorem runUnder_unready (c : Client) {policy : Option RetryPolicy} {x : Exchange α} {s : Session}
    (h : ∀ i ≤ RetryPolicy.retriesOf policy, ∀ token,
      c.supply.nth (RetryPolicy.intervalOf policy) s.clock s.tokens i = .ok token →
        c.channel.Refuses x.endpoint token) :
    (c.runUnder policy x s).2.jar = s.jar ∧ (c.runUnder policy x s).2.sent = s.sent := by
  have hattempt {interval : Nat} {s : Session} (h : ∀ token,
      c.supply.nth interval s.clock s.tokens 0 = .ok token →
        c.channel.Refuses x.endpoint token) :
      (c.run x s).2.jar = s.jar ∧ (c.run x s).2.sent = s.sent := by
    rw [run_unready h]
    exact ⟨rfl, rfl⟩
  cases policy with
  | none => exact hattempt (h 0 (Nat.zero_le _))
  | some p =>
    obtain ⟨n, interval⟩ := p
    show ((RetryPolicy.mk n interval).call Session.pause (c.run x) s).2.jar = s.jar ∧
      ((RetryPolicy.mk n interval).call Session.pause (c.run x) s).2.sent = s.sent
    induction n generalizing s with
    | zero => exact hattempt (h 0 (Nat.zero_le _))
    | succ n ih =>
      have hfirst := h 0 (Nat.zero_le _)
      obtain ⟨hjar, hsent⟩ := hattempt hfirst
      rw [RetryPolicy.call_succ]
      split
      · -- the next attempt asks for the next token
        have hlater : ∀ i ≤ n, ∀ token,
            c.supply.nth interval ((c.run x s).2.pause interval).clock
              ((c.run x s).2.pause interval).tokens i = .ok token →
                c.channel.Refuses x.endpoint token := by
          rw [run_unready hfirst]
          exact fun i hi token hnext => h (i + 1) (Nat.succ_le_succ hi) token hnext
        have hrest := ih hlater
        exact ⟨hrest.1.trans hjar, hrest.2.trans hsent⟩
      · exact ⟨hjar, hsent⟩

end Client

/-! ## Runs -/

namespace Session

/-- What can happen to a jar that channels share: a call is submitted with a token, a client makes a
call, retried or not, or time passes. -/
inductive Step : Type 1 where
  | submit (c : Channel) (e : Endpoint) (token : Token)
  | call {α : Type} (c : Channel) (supply : TokenSupply) (policy : Option RetryPolicy)
    (x : Exchange α)
  | wait (milliseconds : Nat)

namespace Step

/-- The session after a step. -/
def perform : Step → Session → Session
  | .submit c e token, s => (c.submit .direct e token s).2
  | .call c supply policy x, s => (Client.runUnder ⟨c, .direct, supply⟩ policy x s).2
  | .wait milliseconds, s => { s with clock := s.clock + milliseconds }

/-- What has come of the requests that were sent in a step, and when. -/
def arrivals : Step → Session → List Arrival
  | .submit c e token, s => (c.submit .direct e token).arrivals s
  | .call c supply policy x, s => (Client.run ⟨c, .direct, supply⟩ x).arrivalsUnder policy s
  | .wait _, _ => []

/-- None of the requests of a step can be made. -/
def Unready (s : Session) : Step → Prop
  | .submit c e token => c.Refuses e token
  | .call c supply policy x => ∀ i ≤ RetryPolicy.retriesOf policy, ∀ token,
    supply.nth (RetryPolicy.intervalOf policy) s.clock s.tokens i = .ok token →
      c.Refuses x.endpoint token
  | .wait _ => True

end Step

/-- The session after some steps. -/
def after (steps : List Step) (s : Session) : Session :=
  steps.foldl (fun s step => step.perform s) s

/-- What has come of the requests that were sent in some steps, and when. -/
def arrivals : List Step → Session → List Arrival
  | [], _ => []
  | step :: steps, s => step.arrivals s ++ arrivals steps (step.perform s)

theorem Step.perform_proceeds (step : Step) (s : Session) :
    s.Proceeds (step.arrivals s) (step.perform s) := by
  cases step with
  | submit c e token => exact c.submit_proceeds e token s
  | call c supply policy x =>
    exact Client.runUnder_proceeds ⟨c, .direct, supply⟩ rfl policy x s
  | wait milliseconds => exact ⟨.of_same rfl rfl, .nil _⟩

theorem run_proceeds (steps : List Step) (s : Session) :
    s.Proceeds (arrivals steps s) (after steps s) := by
  induction steps generalizing s with
  | nil => exact .refl s
  | cons step steps ih => exact (step.perform_proceeds s).trans (ih (step.perform s))

/-- What holds of a run: all that has been sent is known, every answer was taken in, whatever its
status, and every request had the cookies that the answers before it had left. -/
structure Unbroken (steps : List Step) (s : Session) : Prop where
  grew : s.toWire.Grew ((arrivals steps s).map Arrival.trip) (after steps s).toWire
  jar : (after steps s).jar = (arrivals steps s).foldl Jar.takeIn s.jar
  cookies : ∀ before a later, arrivals steps s = before ++ a :: later →
    (before.foldl Jar.takeIn s.jar).Serves a

/-- What does not change the jar. -/
structure Spares (s : Session) : Prop where
  /-- A step in which no request is answered. -/
  unanswered : ∀ step : Step,
    (∀ a ∈ step.arrivals s, ∃ fault, a.trip.outcome = .error fault) →
      (step.perform s).jar = s.jar
  /-- A step in which no request can be made. Then none is sent. -/
  unready : ∀ step : Step, step.Unready s →
    (step.perform s).jar = s.jar ∧ (step.perform s).sent = s.sent

theorem spares (s : Session) : s.Spares := by
  constructor
  · intro step hfailed
    have hnone : ∀ a ∈ step.arrivals s, a.trip.cookiesSet = [] := by
      intro a ha
      obtain ⟨fault, hf⟩ := hfailed a ha
      rw [RoundTrip.cookiesSet, hf]
    rw [(step.perform_proceeds s).cookies.jar_eq, foldl_takeIn_of_none hnone]
  · intro step hunready
    cases step with
    | submit c e token =>
      have hsame : (Step.submit c e token).perform s = s :=
        Channel.Refuses.submit hunready .direct s
      rw [hsame]
      exact ⟨rfl, rfl⟩
    | call c supply policy x => exact Client.runUnder_unready ⟨c, .direct, supply⟩ hunready
    | wait milliseconds => exact ⟨rfl, rfl⟩

/-- **Sessions go on.** After every run of calls over the transport that sends every request as it
is, retried or not, and with every outcome: the jar has taken in every answer, each request had the
cookies that the jar yielded when it was sent, and a failure before there is an answer does not
change the jar, whatever call comes next. -/
theorem sessions_go_on (steps : List Step) (s : Session) :
    Unbroken steps s ∧ (after steps s).Spares := by
  have hproceeds := run_proceeds steps s
  refine ⟨⟨hproceeds.grew, hproceeds.cookies.jar_eq, ?_⟩, spares _⟩
  intro before a later ha
  exact hproceeds.cookies.serves ha

-- a refusal opens a session, and the second attempt belongs to it, unless it comes too late
example :
    let opening (attributes : String) : List Response :=
      [{ status := 503, headers := [(setCookie, literalValue ("a=1" ++ attributes))], body := [] },
        { status := 200, headers := [], body := [] }]
    let c : Client := ⟨.of "h" "api/v1" none, .direct, .fixed "token"⟩
    let sent (attributes : String) := ((c.runUnder (some .standard)
      (.empty (.get "GetInfo" "/info")) (.replaying (opening attributes))).2.sent.map
        (·.headers.getAll cookie))
    sent "; Path=/" = [[], [literalValue "a=1"]] ∧ sent "; Path=/; Max-Age=2" = [[], []] := by
  decide +kernel

end Session

end DeployService
