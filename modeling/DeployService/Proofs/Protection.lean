import DeployService.Proofs.Traffic
import DeployService.Transport.Csrf

/-!
# What a guarded transport does

One lemma for each step of a transport that protects requests, over the transport that sends a
request as it is: everything that a fetch can do (`Fetched`), and everything that can happen up to
the moment at which the caller's own request is handed to the transport below (`Prepared`). What
follows is the same for every request: it is sent, and a rejection makes the token be forgotten.
-/

namespace DeployService.Csrf

open DeployService.Http

/-! ## Fetching -/

/-- The cookie header of the session that the response opens. -/
def captured (guard : Guard) (url : Url) (response : Response) (s : Session) :
    Option HeaderValue :=
  match response.headers.getAll setCookie with
  | [] => none
  | values =>
    if guard.usesJar then (s.storeCookies url response).cookies? url
    else
      match cookiePairs values with
      | [] => none
      | pairs => headerValue? ("; ".intercalate pairs)

/-- The session after the first answer to a fetch. -/
def opened (guard : Guard) (url : Url) (response : Response) (s : Session) : Session :=
  if guard.usesJar then s.storeCookies url response else s

/-- The second request of a fetch, within the session that was opened. -/
def fetchAgain (request : Request) (cookies : HeaderValue) : Request :=
  { fetchRequest request with headers := (fetchRequest request).headers.insert cookie cookies }

theorem storeCookies_of_none {url : Url} {response : Response} {s : Session}
    (h : response.headers.getAll setCookie = []) : s.storeCookies url response = s := by
  simp [Session.storeCookies, h, Jar.store]

theorem sessionCookies_eq (guard : Guard) (url : Url) (response : Response) (s : Session) :
    sessionCookies guard url response s =
      (.ok (captured guard url response s), opened guard url response s) := by
  unfold sessionCookies captured opened
  rcases h : response.headers.getAll setCookie with _ | ⟨value, values⟩
  · simp [storeCookies_of_none h]
  · cases guard.usesJar with
    | true => simp
    | false => cases hp : cookiePairs (value :: values) <;> simp [hp]

@[simp] theorem opened_toWire (guard : Guard) (url : Url) (response : Response) (s : Session) :
    (opened guard url response s).toWire = s.toWire := by
  unfold opened
  split <;> rfl

@[simp] theorem opened_csrf (guard : Guard) (url : Url) (response : Response) (s : Session) :
    (opened guard url response s).csrf = s.csrf := by
  unfold opened
  split <;> rfl

/-- How a fetch for a request goes from the session `s`: what is sent, what comes of it, and the
session after it. -/
inductive Fetched (guard : Guard) (request : Request) (s : Session) :
    List RoundTrip → Except Error (Option CsrfToken) → Session → Prop where
  /-- The first request fails. -/
  | failed {e : Error} (h : s.next = .error e) :
    Fetched guard request s [⟨fetchRequest request, .error e⟩]
      (.error (e.within "Failed to fetch CSRF token")) (s.sending (fetchRequest request))
  /-- No session is opened. -/
  | once {response : Response} {s' : Session} (h : s.next = .ok response)
    (hs : s' = opened guard (fetchRequest request).url response (s.sending (fetchRequest request)))
    (hc : captured guard (fetchRequest request).url response
      (s.sending (fetchRequest request)) = none) :
    Fetched guard request s [⟨fetchRequest request, .ok response⟩]
      (.ok (tokenOf? response none s.clock)) s'
  /-- The second request fails. -/
  | failedAgain {response : Response} {cookies : HeaderValue} {s' : Session} {e : Error}
    (h : s.next = .ok response)
    (hs : s' = opened guard (fetchRequest request).url response (s.sending (fetchRequest request)))
    (hc : captured guard (fetchRequest request).url response
      (s.sending (fetchRequest request)) = some cookies)
    (h' : s'.next = .error e) :
    Fetched guard request s
      [⟨fetchRequest request, .ok response⟩, ⟨fetchAgain request cookies, .error e⟩]
      (.error (e.within "Failed to fetch CSRF token")) (s'.sending (fetchAgain request cookies))
  /-- A token is asked for twice. -/
  | twice {response last : Response} {cookies : HeaderValue} {s' : Session}
    (h : s.next = .ok response)
    (hs : s' = opened guard (fetchRequest request).url response (s.sending (fetchRequest request)))
    (hc : captured guard (fetchRequest request).url response
      (s.sending (fetchRequest request)) = some cookies)
    (h' : s'.next = .ok last) :
    Fetched guard request s
      [⟨fetchRequest request, .ok response⟩, ⟨fetchAgain request cookies, .ok last⟩]
      (.ok (tokenOf? last (some cookies) s.clock)) (s'.sending (fetchAgain request cookies))

theorem fetch_fetched (guard : Guard) (request : Request) (s : Session) :
    ∃ t, Fetched guard request s t (fetch guard .direct request s).1
      (fetch guard .direct request s).2 := by
  have hfirst := Transport.direct_eq (fetchRequest request) s
  unfold fetch
  rcases h : s.next with e | response
  · rw [h] at hfirst
    rw [Call.bind_error (Call.within_error _ hfirst)]
    exact ⟨_, .failed h⟩
  · rw [h] at hfirst
    obtain ⟨s', hs⟩ : ∃ s', s' = opened guard (fetchRequest request).url response
        (s.sending (fetchRequest request)) := ⟨_, rfl⟩
    have hclock : s'.clock = s.clock := by rw [hs, opened_toWire]; rfl
    have hcookies := sessionCookies_eq guard (fetchRequest request).url response
      (s.sending (fetchRequest request))
    rw [Call.bind_ok (Call.within_ok _ hfirst), Call.bind_ok hcookies, ← hs]
    rcases hc : captured guard (fetchRequest request).url response
        (s.sending (fetchRequest request)) with _ | cookies
    · simp only [Call.bind_ok (show Call.read (·.clock) s' = (.ok s'.clock, s') from rfl), hclock]
      exact ⟨_, .once h hs hc⟩
    · have hagain := Transport.direct_eq (fetchAgain request cookies) s'
      simp only
      rcases h' : s'.next with e | last
      · rw [h'] at hagain
        have hwithin := Call.within_error "Failed to fetch CSRF token" hagain
        -- `fetch` has the second request written out
        unfold fetchAgain at hwithin
        rw [Call.bind_error hwithin]
        exact ⟨_, .failedAgain h hs hc h'⟩
      · rw [h'] at hagain
        have hwithin := Call.within_ok "Failed to fetch CSRF token" hagain
        unfold fetchAgain at hwithin
        rw [Call.bind_ok hwithin]
        have htwice := Fetched.twice h hs hc h'
        rw [← hclock] at htwice
        exact ⟨_, htwice⟩

namespace Fetched

variable {guard : Guard} {request : Request} {s s' : Session} {t : List RoundTrip}
  {r : Except Error (Option CsrfToken)}

theorem grew (h : Fetched guard request s t r s') : s.toWire.Grew t s'.toWire := by
  have hfirst {response : Response} {s₁ : Session} (hn : s.next = .ok response)
      (hs : s₁ = opened guard (fetchRequest request).url response
        (s.sending (fetchRequest request))) :
      s.toWire.Grew [⟨fetchRequest request, .ok response⟩] s₁.toWire := by
    rw [hs, opened_toWire, ← hn]
    exact Session.grew_sending _ s
  cases h with
  | failed h => rw [← h]; exact Session.grew_sending _ s
  | once h hs _ => exact hfirst h hs
  | @failedAgain response cookies s₁ e h hs _ h' =>
    have hlast := Session.grew_sending (fetchAgain request cookies) s₁
    rw [h'] at hlast
    exact (hfirst h hs).trans hlast
  | @twice response last cookies s₁ h hs _ h' =>
    have hlast := Session.grew_sending (fetchAgain request cookies) s₁
    rw [h'] at hlast
    exact (hfirst h hs).trans hlast

theorem csrf (h : Fetched guard request s t r s') : s'.csrf = s.csrf := by
  cases h with
  | failed => rfl
  | once _ hs _ => rw [hs, opened_csrf]; rfl
  | failedAgain _ hs _ _ => rw [Session.sending_csrf, hs, opened_csrf]; rfl
  | twice _ hs _ _ => rw [Session.sending_csrf, hs, opened_csrf]; rfl

theorem clock (h : Fetched guard request s t r s') : s'.clock = s.clock := by
  cases h with
  | failed => rfl
  | once _ hs _ => rw [hs, opened_toWire]; rfl
  | failedAgain _ hs _ _ => rw [Session.sending_clock, hs, opened_toWire]; rfl
  | twice _ hs _ _ => rw [Session.sending_clock, hs, opened_toWire]; rfl

/-- A fetch only asks for something. -/
theorem method (h : Fetched guard request s t r s') : ∀ trip ∈ t, trip.request.method = "GET" := by
  cases h <;> simp [fetchRequest, fetchAgain]

theorem ne_nil (h : Fetched guard request s t r s') : t ≠ [] := by
  cases h <;> simp

end Fetched

/-! ## Preparing a request -/

/-- What a guarded transport does before the request itself is sent. Its result is the request as it
is to be sent. -/
def prepare (guard : Guard) (base : Transport) (request : Request) : Call Session Request :=
  if isProtected request.method then do
    let copy ← Call.ofExcept (copyOf request)
    let token ← updateToken guard base copy
    return protectWith token copy
  else return request

/-- The outcome rejects the token of its request. -/
def rejects (outcome : Except Error Response) : Bool :=
  match outcome with
  | .ok response => isRejection response
  | .error _ => false

/-- The session after the outcome of a request that has been sent. -/
def settle (request : Request) (outcome : Except Error Response) (s : Session) : Session :=
  if isProtected request.method && rejects outcome then forget s else s

@[simp] theorem settle_toWire (request : Request) (outcome : Except Error Response) (s : Session) :
    (settle request outcome s).toWire = s.toWire := by
  unfold settle
  split <;> rfl

theorem settle_csrf {request own : Request} (h : own.method = request.method)
    (outcome : Except Error Response) (s : Session) :
    (settle own outcome s).csrf =
      if isProtected request.method && rejects outcome then none else s.csrf := by
  unfold settle
  rw [h]
  split <;> rfl

@[simp] theorem protectWith_method (token : Option CsrfToken) (request : Request) :
    (protectWith token request).method = request.method := by
  cases token <;> rfl

@[simp] theorem protectWith_url (token : Option CsrfToken) (request : Request) :
    (protectWith token request).url = request.url := by
  cases token <;> rfl

/-- How the preparation of a request goes from the session `s`: what is sent, what comes of it, and
the session after it. -/
inductive Prepared (guard : Guard) (request : Request) (s : Session) :
    List RoundTrip → Except Error Request → Session → Prop where
  /-- A request that only reads stays as it is. -/
  | safe (h : isProtected request.method = false) : Prepared guard request s [] (.ok request) s
  /-- A stream cannot be copied. -/
  | streaming {e : Error} (h : isProtected request.method = true) (hb : request.body = .stream) :
    Prepared guard request s [] (.error e) s
  /-- The kept token is used again. -/
  | kept {token : CsrfToken} (h : isProtected request.method = true) (hb : request.body ≠ .stream)
    (hv : valid? guard s = some token) :
    Prepared guard request s [] (.ok (protectWith (some token) request)) s
  /-- There is no token that may be used again, and the fetch fails. -/
  | unfetched {t : List RoundTrip} {e : Error} {s' : Session}
    (h : isProtected request.method = true) (hb : request.body ≠ .stream)
    (hv : valid? guard s = none) (hf : Fetched guard request s t (.error e) s') :
    Prepared guard request s t (.error e) s'
  /-- There is no token that may be used again, and the fetch succeeds, with or without one. -/
  | fetched {t : List RoundTrip} {token : Option CsrfToken} {s' : Session}
    (h : isProtected request.method = true) (hb : request.body ≠ .stream)
    (hv : valid? guard s = none) (hf : Fetched guard request s t (.ok token) s') :
    Prepared guard request s t (.ok (protectWith token request)) { s' with csrf := token }

theorem prepare_prepared (guard : Guard) (request : Request) (s : Session) :
    ∃ t, Prepared guard request s t (prepare guard .direct request s).1
      (prepare guard .direct request s).2 := by
  cases h : isProtected request.method with
  | false =>
    have hp : prepare guard .direct request s = (.ok request, s) := by
      simp [prepare, h, pure, Call.pure]
    rw [hp]
    exact ⟨[], .safe h⟩
  | true =>
    by_cases hb : request.body = .stream
    · obtain ⟨e, hcopy⟩ := copyOf_eq_error hb
      have hp : prepare guard .direct request s = (.error e, s) := by
        rw [prepare, if_pos h, hcopy, Call.bind_error (Call.ofExcept_eq (.error e) s)]
      rw [hp]
      exact ⟨[], .streaming h hb⟩
    · have hp : prepare guard .direct request s =
          (updateToken guard .direct request >>= fun token =>
            pure (protectWith token request)) s := by
        rw [prepare, if_pos h, copyOf_eq_ok hb,
          Call.bind_ok (Call.ofExcept_eq (.ok request) s)]
      cases hv : valid? guard s with
      | some token =>
        have hu : updateToken guard .direct request s = (.ok (some token), s) := by
          simp [updateToken, hv]
        rw [hp, Call.bind_ok hu]
        exact ⟨[], .kept h hb hv⟩
      | none =>
        obtain ⟨t, hf⟩ := fetch_fetched guard request s
        rcases hr : fetch guard .direct request s with ⟨e | token, s'⟩ <;> rw [hr] at hf
        · have hu : updateToken guard .direct request s = (.error e, s') := by
            simp [updateToken, hv, hr]
          rw [hp, Call.bind_error hu]
          exact ⟨t, .unfetched h hb hv hf⟩
        · have hu : updateToken guard .direct request s =
              (.ok token, { s' with csrf := token }) := by
            simp [updateToken, hv, hr]
          rw [hp, Call.bind_ok hu]
          exact ⟨t, .fetched h hb hv hf⟩

namespace Prepared

variable {guard : Guard} {request : Request} {s s' : Session} {t : List RoundTrip}
  {r : Except Error Request}

theorem grew (h : Prepared guard request s t r s') : s.toWire.Grew t s'.toWire := by
  cases h with
  | safe => exact Wire.Grew.refl _
  | streaming => exact Wire.Grew.refl _
  | kept => exact Wire.Grew.refl _
  | unfetched _ _ _ hf => exact hf.grew
  | fetched _ _ _ hf => exact hf.grew

theorem clock (h : Prepared guard request s t r s') : s'.clock = s.clock := by
  cases h with
  | safe => rfl
  | streaming => rfl
  | kept => rfl
  | unfetched _ _ _ hf => exact hf.clock
  | fetched _ _ _ hf => exact hf.clock

/-- Whatever is sent before a request is a fetch, and only a request that changes something needs
one. -/
theorem fetches (h : Prepared guard request s t r s') :
    ∀ trip ∈ t, isProtected request.method = true ∧ trip.request.method = "GET" := by
  cases h with
  | safe => simp
  | streaming => simp
  | kept => simp
  | unfetched hp _ _ hf => exact fun trip ht => ⟨hp, hf.method trip ht⟩
  | fetched hp _ _ hf => exact fun trip ht => ⟨hp, hf.method trip ht⟩

/-- Nothing happens before a request that only reads. -/
theorem of_safe (hm : isProtected request.method = false) (h : Prepared guard request s t r s') :
    t = [] ∧ r = .ok request ∧ s' = s := by
  cases h with
  | safe => exact ⟨rfl, rfl, rfl⟩
  | streaming hp => rw [hm] at hp; cases hp
  | kept hp => rw [hm] at hp; cases hp
  | unfetched hp => rw [hm] at hp; cases hp
  | fetched hp => rw [hm] at hp; cases hp

/-- A request that is prepared still asks for the same thing. -/
theorem same_target {own : Request} (h : Prepared guard request s t (.ok own) s') :
    own.method = request.method ∧ own.url = request.url := by
  cases h <;> simp

end Prepared

/-- A guarded transport prepares the request, sends it, and then looks at the outcome. -/
theorem guarded_eq (guard : Guard) (request : Request) (s : Session) :
    Transport.guarded guard .direct request s =
      match prepare guard .direct request s with
      | (.error e, s') => (.error e, s')
      | (.ok own, s') => (s'.next, settle own s'.next (s'.sending own)) := by
  unfold Transport.guarded prepare settle
  cases h : isProtected request.method with
  | false => simp [h, pure, Call.pure, Transport.direct_eq]
  | true =>
    by_cases hb : request.body = .stream
    · obtain ⟨e, hcopy⟩ := copyOf_eq_error hb
      simp only [if_true, hcopy, Call.bind_error (Call.ofExcept_eq (.error e) s)]
    · simp only [if_true, copyOf_eq_ok hb, Call.bind_ok (Call.ofExcept_eq (.ok request) s)]
      rcases hu : updateToken guard .direct request s with ⟨e | token, s'⟩
      · rw [Call.bind_error hu, Call.bind_error hu]
      · rw [Call.bind_ok hu, Call.bind_ok hu]
        have hsend := Transport.direct_eq (protectWith token request) s'
        rcases hn : s'.next with e | response
        · rw [hn] at hsend
          rw [Call.bind_error hsend]
          simp [pure, Call.pure, rejects, hn]
        · rw [hn] at hsend
          rw [Call.bind_ok hsend]
          cases hr : isRejection response <;>
            simp [pure, Call.pure, bind, Call.bind, Call.modify, rejects, hn, h, hr]

end DeployService.Csrf
