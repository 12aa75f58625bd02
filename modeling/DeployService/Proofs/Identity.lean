import DeployService.Proofs.Attempt
import DeployService.Proofs.SentCookies

/-!
# Who a request is from

A channel puts two headers into a request that say who sends it: the credential and the product
name. Below the channel, a guarded transport copies both into the requests for a token, and then
sets the header in which the service expects the token. The service may name any header for that,
so a token can take the place of either of the two.

`Csrf.standing` says what becomes of a header when a request is sent with a token. Everything that
a submitted call can do is listed by `Channel.Course`. That the service itself has handed out the
token that takes the place is an invariant of the kept token (`Csrf.KeptReceived`).
-/

namespace DeployService

open DeployService.Http

/-! ## The headers of a request for a token -/

namespace Csrf

theorem getAll_fetchRequest (request : Request) {name : String}
    (h : name = authorization ∨ name = userAgent) :
    (fetchRequest request).headers.getAll name = (request.headers.get? name).toList := by
  show (((Headers.insertSome authorization (request.headers.get? authorization)
    [(tokenHeader, literalValue fetchValue),
      (contentType, literalValue "application/json")]).insertSome
        userAgent (request.headers.get? userAgent)).insertSome
          cookie (request.headers.get? cookie)).getAll name = _
  rcases h with rfl | rfl
  · rw [Headers.getAll_insertSome_of_ne _ (by decide),
      Headers.getAll_insertSome_of_ne _ (by decide), Headers.getAll_insertSome_self]
    cases request.headers.get? authorization <;> rfl
  · rw [Headers.getAll_insertSome_of_ne _ (by decide), Headers.getAll_insertSome_self]
    cases request.headers.get? userAgent with
    | some => rfl
    | none =>
      rw [Headers.getAll_insertSome_of_ne _ (by decide)]
      rfl

theorem getAll_tokenHeader_fetchRequest (request : Request) :
    (fetchRequest request).headers.getAll tokenHeader = [literalValue fetchValue] := by
  show (((Headers.insertSome authorization (request.headers.get? authorization)
    [(tokenHeader, literalValue fetchValue),
      (contentType, literalValue "application/json")]).insertSome
        userAgent (request.headers.get? userAgent)).insertSome
          cookie (request.headers.get? cookie)).getAll tokenHeader = _
  rw [Headers.getAll_insertSome_of_ne _ (by decide), Headers.getAll_insertSome_of_ne _ (by decide),
    Headers.getAll_insertSome_of_ne _ (by decide)]
  rfl

/-- The request asks for a token, on behalf of another request. -/
structure AsksFor (request fetch : Request) : Prop where
  method : fetch.method = "GET"
  value : fetch.headers.getAll tokenHeader = [literalValue fetchValue]
  /-- It is sent by the same sender. -/
  sender : ∀ name, name = authorization ∨ name = userAgent →
    fetch.headers.getAll name = (request.headers.get? name).toList

theorem fetchRequest_asksFor (request : Request) : AsksFor request (fetchRequest request) :=
  ⟨rfl, getAll_tokenHeader_fetchRequest request, fun _ h => getAll_fetchRequest request h⟩

theorem fetchAgain_asksFor (request : Request) (cookies : HeaderValue) :
    AsksFor request (fetchAgain request cookies) := by
  have hother : ∀ name, name ≠ cookie → (fetchAgain request cookies).headers.getAll name =
      (fetchRequest request).headers.getAll name :=
    fun name h => Headers.getAll_insert_of_ne _ _ h
  refine ⟨rfl, ?_, fun name h => ?_⟩
  · rw [hother _ (by decide)]
    exact getAll_tokenHeader_fetchRequest request
  · have hname : name ≠ cookie := by rcases h with rfl | rfl <;> decide
    rw [hother _ hname]
    exact getAll_fetchRequest request h

variable {guard : Guard} {request : Request} {s s' : Session} {t : List RoundTrip}

theorem Fetched.asksFor {r : Except Error (Option CsrfToken)}
    (h : Fetched guard request s t r s') : ∀ trip ∈ t, AsksFor request trip.request := by
  cases h <;> simp [fetchRequest_asksFor, fetchAgain_asksFor]

theorem Prepared.asksFor {r : Except Error Request} (h : Prepared guard request s t r s') :
    ∀ trip ∈ t, AsksFor request trip.request := by
  cases h with
  | safe => simp
  | streaming => simp
  | kept => simp
  | unfetched _ _ _ hf => exact hf.asksFor
  | fetched _ _ _ hf => exact hf.asksFor

/-! ## Where a token comes from -/

/-- The token came with an answer to a request for a token. -/
def Received (traffic : List RoundTrip) (token : CsrfToken) : Prop :=
  ∃ trip ∈ traffic, (∃ request, AsksFor request trip.request) ∧
    ∃ response cookies, trip.outcome = .ok response ∧
      tokenOf? response cookies token.fetchedAt = some token

/-- The kept token came with one of the answers so far. -/
def KeptReceived (s : Session) : Prop := ∀ token, s.csrf = some token → Received s.traffic token

theorem Received.mono {traffic : List RoundTrip} {token : CsrfToken} (h : Received traffic token)
    (later : List RoundTrip) : Received (traffic ++ later) token := by
  obtain ⟨trip, ht, hreceived⟩ := h
  exact ⟨trip, List.mem_append_left _ ht, hreceived⟩

theorem KeptReceived.of_csrf (h : KeptReceived s) (hg : s.toWire.Grew t s'.toWire)
    (hc : s'.csrf = none ∨ s'.csrf = s.csrf) : KeptReceived s' := by
  intro token hk
  rcases hc with hc | hc
  · rw [hc] at hk
    cases hk
  · rw [hg.2]
    exact (h token (hc ▸ hk)).mono t

theorem Fetched.received {token : CsrfToken}
    (h : Fetched guard request s t (.ok (some token)) s') : Received t token := by
  have hat : token.fetchedAt = s.clock := h.fetchedAt rfl
  unfold Received
  rw [hat]
  generalize hr : (Except.ok (some token) : Except Error (Option CsrfToken)) = r at h
  cases h with
  | failed => cases hr
  | failedAgain => cases hr
  | @once response _ _ _ _ =>
    exact ⟨_, List.mem_singleton_self _, ⟨request, fetchRequest_asksFor request⟩, response, none,
      rfl, (Except.ok.inj hr).symm⟩
  | @twice _ last cookies _ _ _ _ _ =>
    exact ⟨_, List.mem_cons_of_mem _ (List.mem_singleton_self _),
      ⟨request, fetchAgain_asksFor request cookies⟩, last, some cookies, rfl,
      (Except.ok.inj hr).symm⟩

theorem Prepared.keptReceived {r : Except Error Request} (h : Prepared guard request s t r s')
    (hk : KeptReceived s) : KeptReceived s' := by
  have hg := h.grew
  cases h with
  | safe => exact hk
  | streaming => exact hk
  | kept => exact hk
  | unfetched _ _ _ hf => exact hk.of_csrf hg (.inr hf.csrf)
  | fetched _ _ _ hf =>
    rintro token rfl
    show Received (Wire.traffic _) token
    rw [hg.2]
    obtain ⟨trip, ht, hreceived⟩ := hf.received
    exact ⟨trip, List.mem_append_right _ ht, hreceived⟩

/-! ## What becomes of a header -/

/-- The token that a request with the given method is sent with, if one is kept. -/
def carried (method : String) (token : Option CsrfToken) : Option CsrfToken :=
  if isProtected method then token else none

/-- What stands in a header after a request has got its token. -/
def standing (token : Option CsrfToken) (name : String) (value : HeaderValue) : HeaderValue :=
  match token with
  | some token => if token.header = name then token.value else value
  | none => value

/-- A request is sent with the token that is kept in the session in which it is sent. -/
theorem Prepared.eq_protectWith {own : Request} (h : Prepared guard request s t (.ok own) s') :
    own = protectWith (carried request.method s'.csrf) request := by
  cases h with
  | safe hm => simp [carried, hm, protectWith]
  | kept hm _ hv => rw [carried, if_pos hm, (Option.filter_eq_some_iff.mp hv).1]
  | fetched hm => rw [carried, if_pos hm]

theorem getAll_protectWith {name : String} {value : HeaderValue} (token : Option CsrfToken)
    (hn : name ≠ cookie) (hv : request.headers.getAll name = [value]) :
    (protectWith token request).headers.getAll name = [standing token name value] := by
  cases token with
  | none => exact hv
  | some token =>
    have hcarries := protectWith_carries token request
    by_cases hname : token.header = name
    · rw [standing, if_pos hname, ← hname]
      exact hcarries.value (.inl (hname ▸ hn))
    · rw [standing, if_neg hname, ← hv]
      exact hcarries.others name (Ne.symm hname) (.inl hn)

end Csrf

/-! ## Submitting a call -/

namespace Channel

/-- What becomes of a call that is submitted in the session `s`: what is sent, and the session after
it. -/
inductive Course (guard : Csrf.Guard) (c : Channel) (e : Endpoint) (token : Token) (s : Session) :
    List RoundTrip → Session → Prop where
  /-- The request cannot be made ready. -/
  | unready {fault : Error} (h : c.ready e token s = .error fault) : Course guard c e token s [] s
  /-- A fetch for the request fails. -/
  | unprepared {request : Request} {t : List RoundTrip} {fault : Error} {s' : Session}
    (h : c.ready e token s = .ok request) (hp : Csrf.Prepared guard request s t (.error fault) s') :
    Course guard c e token s t s'
  /-- The request is sent, and the cookies of the answer are taken in. -/
  | sent {request own : Request} {t : List RoundTrip} {s₁ s' : Session}
    (h : c.ready e token s = .ok request) (hp : Csrf.Prepared guard request s t (.ok own) s₁)
    (hs : ∃ jar, s' = { Csrf.settle own s₁.next (s₁.sending own) with jar := jar }) :
    Course guard c e token s (t ++ [⟨own, s₁.next⟩]) s'

theorem submit_course (guard : Csrf.Guard) (c : Channel) (e : Endpoint) (token : Token)
    (s : Session) :
    ∃ t, c.Course guard e token s t (c.submit (.guarded guard .direct) e token s).2 := by
  have hsubmit := c.submit_eq (.guarded guard .direct) e token s
  rcases hr : c.ready e token s with fault | request
  · rw [hsubmit, hr]
    exact ⟨[], .unready hr⟩
  · simp only [hr] at hsubmit
    obtain ⟨t, hp⟩ := Csrf.prepare_prepared guard request s
    have hg := Csrf.guarded_eq guard request s
    rcases hprep : Csrf.prepare guard .direct request s with ⟨fault | own, s'⟩ <;>
      simp only [hprep] at hp hg
    · rw [hsubmit, hg]
      exact ⟨t, .unprepared hr hp⟩
    · refine ⟨t ++ [⟨own, s'.next⟩],
        .sent hr hp ⟨(c.submit (.guarded guard .direct) e token s).2.jar, ?_⟩⟩
      rw [hsubmit, hg]
      cases s'.next <;> rfl

namespace Course

variable {guard : Csrf.Guard} {c : Channel} {e : Endpoint} {token : Token} {s s' : Session}
  {t : List RoundTrip}

theorem grew (h : c.Course guard e token s t s') : s.toWire.Grew t s'.toWire := by
  cases h with
  | unready => exact .refl _
  | unprepared _ hp => exact hp.grew
  | @sent request own t s₁ _ _ hp hs =>
    obtain ⟨jar, rfl⟩ := hs
    show s.toWire.Grew _ (Csrf.settle own s₁.next (s₁.sending own)).toWire
    rw [Csrf.settle_toWire]
    exact hp.grew.trans (Session.grew_sending own s₁)

theorem keptReceived (h : c.Course guard e token s t s') (hk : Csrf.KeptReceived s) :
    Csrf.KeptReceived s' := by
  cases h with
  | unready => exact hk
  | unprepared _ hp => exact hp.keptReceived hk
  | @sent request own t s₁ _ _ hp hs =>
    obtain ⟨jar, rfl⟩ := hs
    have hgrew : s₁.toWire.Grew [⟨own, s₁.next⟩]
        (Csrf.settle own s₁.next (s₁.sending own)).toWire := by
      rw [Csrf.settle_toWire]
      exact Session.grew_sending own s₁
    refine (hp.keptReceived hk).of_csrf hgrew ?_
    show (Csrf.settle own s₁.next (s₁.sending own)).csrf = none ∨ _
    rw [Csrf.settle_csrf rfl]
    split
    · exact .inl rfl
    · exact .inr rfl

end Course

theorem after_keptReceived (guard : Csrf.Guard) (steps : List Step) {s : Session}
    (hk : Csrf.KeptReceived s) : Csrf.KeptReceived (after guard steps s) := by
  induction steps generalizing s with
  | nil => exact hk
  | cons step steps ih =>
    refine ih ?_
    cases step with
    | submit c e token =>
      obtain ⟨t, hcourse⟩ := submit_course guard c e token s
      exact hcourse.keptReceived hk
    | wait milliseconds => exact hk.of_csrf (.of_same rfl rfl) (.inr rfl)

/-! ## The sender of a request -/

/-- What a request says about its sender: each of the two headers occurs once. It has the value that
the client puts there, unless the token that the request is sent with stands in its place. -/
structure Identified (c : Channel) (token : Token) (kept : Option CsrfToken) (request : Request) :
    Prop where
  credential : ∃ value, headerValue? ("Bearer " ++ token.value) = some value ∧
    request.headers.getAll authorization = [Csrf.standing kept authorization value]
  agent : ∃ value, headerValue? c.userAgent = some value ∧
    request.headers.getAll Http.userAgent = [Csrf.standing kept Http.userAgent value]

theorem headers_credential {e : Endpoint} {token : Token} {cookies : Option HeaderValue}
    {headers : Headers} (h : Channel.headers e token cookies = .ok headers) :
    ∃ value, headerValue? ("Bearer " ++ token.value) = some value ∧
      headers.getAll authorization = [value] := by
  unfold Channel.headers Token.authenticate Token.header at h
  cases hv : headerValue? ("Bearer " ++ token.value) with
  | none => simp [hv, bind, Except.bind, Except.map] at h
  | some value =>
    simp only [hv, bind, Except.bind, Except.map, pure, Except.pure, Except.ok.injEq] at h
    refine ⟨value, rfl, ?_⟩
    rw [← h, Headers.getAll_insertSome_of_ne _ (by decide), Headers.getAll_insert_self]

theorem ready_identified {c : Channel} {e : Endpoint} {token : Token} {s : Session}
    {request : Request} (h : c.ready e token s = .ok request) :
    c.Identified token none request := by
  refine ⟨?_, (ready_isRequest h).agent⟩
  obtain ⟨plain, agent, hplain, rfl⟩ := ready_ok h
  obtain ⟨-, -, hheaders, -⟩ := request_parts hplain
  obtain ⟨value, hvalue, hcredential⟩ := headers_credential hheaders
  refine ⟨value, hvalue, ?_⟩
  show (plain.headers.insert Http.userAgent agent).getAll authorization = [value]
  rw [Headers.getAll_insert_of_ne _ _ (by decide), hcredential]

variable {c : Channel} {token : Token} {request : Request}

/-- A request for a token has the sender of the request that it is sent for. -/
theorem Identified.asksFor (h : c.Identified token none request) {fetch : Request}
    (hf : Csrf.AsksFor request fetch) : c.Identified token none fetch := by
  obtain ⟨⟨value, hvalue, hcredential⟩, agent, hagent, hname⟩ := h
  refine ⟨⟨value, hvalue, ?_⟩, agent, hagent, ?_⟩
  · rw [hf.sender _ (.inl rfl), Headers.get?, hcredential]
    rfl
  · rw [hf.sender _ (.inr rfl), Headers.get?, hname]
    rfl

theorem Identified.protectWith (h : c.Identified token none request) (kept : Option CsrfToken) :
    c.Identified token kept (Csrf.protectWith kept request) := by
  obtain ⟨⟨value, hvalue, hcredential⟩, agent, hagent, hname⟩ := h
  exact ⟨⟨value, hvalue, Csrf.getAll_protectWith kept (by decide) hcredential⟩,
    agent, hagent, Csrf.getAll_protectWith kept (by decide) hname⟩

/-- The requests that are sent for a call, after some traffic: those for a token come from the
client, and so does the request of the call itself, but for a token that the service has handed out
in this traffic or in answer to one of them. -/
structure SendsAs (c : Channel) (e : Endpoint) (token : Token)
    (traffic fetches own : List RoundTrip) : Prop where
  asked : ∀ trip ∈ fetches, trip.IsFetchFor e.method ∧ c.Identified token none trip.request
  once : own.length ≤ 1
  own : ∀ trip ∈ own, trip.request.method = e.method ∧
    ∃ kept : Option CsrfToken, c.Identified token kept trip.request ∧
      ∀ csrf, kept = some csrf →
        Csrf.isProtected e.method = true ∧ Csrf.Received (traffic ++ fetches) csrf

/-- What is sent before a request that has been made ready is sent by its sender. -/
theorem ready_fetches {guard : Csrf.Guard} {e : Endpoint} {s s₁ s' : Session} {t : List RoundTrip}
    {r : Except Error Request} (hr : c.ready e token s = .ok request)
    (hp : Csrf.Prepared guard request s₁ t r s') :
    ∀ trip ∈ t, trip.IsFetchFor e.method ∧ c.Identified token none trip.request := by
  intro trip ht
  have hfetch := hp.fetches trip ht
  rw [(ready_target hr).1] at hfetch
  exact ⟨hfetch, (ready_identified hr).asksFor (hp.asksFor trip ht)⟩

theorem Course.sendsAs {guard : Csrf.Guard} {e : Endpoint} {s s' : Session} {t : List RoundTrip}
    (h : c.Course guard e token s t s') (hk : Csrf.KeptReceived s) :
    ∃ fetches own, t = fetches ++ own ∧ c.SendsAs e token s.traffic fetches own := by
  cases h with
  | unready =>
    exact ⟨[], [], rfl, by simp, by simp, by simp⟩
  | @unprepared request t _ _ hr hp =>
    exact ⟨t, [], by simp, ready_fetches hr hp, by simp, by simp⟩
  | @sent request own t s₁ _ hr hp _ =>
    have hm := (ready_target hr).1
    refine ⟨t, [⟨own, s₁.next⟩], rfl, ready_fetches hr hp, by simp, fun trip ht => ?_⟩
    obtain rfl := List.mem_singleton.mp ht
    refine ⟨hp.same_target.1.trans hm, Csrf.carried request.method s₁.csrf, ?_, fun csrf hc => ?_⟩
    · show c.Identified token _ own
      rw [hp.eq_protectWith]
      exact (ready_identified hr).protectWith _
    · unfold Csrf.carried at hc
      split at hc
      · next hprotected =>
        have hreceived := hp.keptReceived hk csrf hc
        rw [hp.grew.2] at hreceived
        exact ⟨hm ▸ hprotected, hreceived⟩
      · cases hc

/-- **Who a request is from.** After every run of channels over a guarded transport, whatever the
service has answered: every request that is sent for a call has one credential and one product name.
They are those of the client in every request for a token, and in the request of the call itself,
unless that is protected by a token which the service expects in the place of one of them. -/
theorem identity_of_requests (guard : Csrf.Guard) (s : Session) (steps : List Step) (c : Channel)
    (e : Endpoint) (token : Token) :
    ∃ fetches own, (after guard steps (Csrf.forget s)).toWire.Grew (fetches ++ own)
        (c.submit (.guarded guard .direct) e token (after guard steps (Csrf.forget s))).2.toWire ∧
      c.SendsAs e token (after guard steps (Csrf.forget s)).traffic fetches own := by
  have hstart : Csrf.KeptReceived (Csrf.forget s) := fun token h => by cases h
  have hkept := after_keptReceived guard steps hstart
  obtain ⟨t, hcourse⟩ := submit_course guard c e token (after guard steps (Csrf.forget s))
  obtain ⟨fetches, own, rfl, hsends⟩ := hcourse.sendsAs hkept
  exact ⟨fetches, own, hcourse.grew, hsends⟩

/-- A service that expects its token in the header of the given name. -/
def tokenExpectedIn (name : String) : List Response :=
  [{ status := 200
     headers := [(Csrf.nameHeader, literalValue name), (Csrf.tokenHeader, literalValue "other")]
     body := [] }]

/-- The credential and the product name are not those of the client, if the service expects its
token in their place. -/
theorem identity_replaced :
    let guard : Csrf.Guard := ⟨Csrf.standardTimeout, false⟩
    let c := Channel.of "h" "api/v1" none
    let e := Endpoint.post "StartMtaOperation" "/operations"
    let sent (name : String) : List (List HeaderValue) :=
      (c.submit (.guarded guard .direct) e ⟨"t"⟩
        (Csrf.forget (.replaying (tokenExpectedIn name)))).2.sent.map (·.headers.getAll name)
    sent Http.authorization = [[literalValue "Bearer t"], [literalValue "other"]] ∧
      sent Http.userAgent = [[literalValue c.userAgent], [literalValue "other"]] := by
  decide +kernel

end Channel

end DeployService
