import DeployService.Proofs.Futures

/-!
# Which token a request carries

What becomes of a request in a guarded transport, in terms of the history of the transport
(`Conforms`). A request that only reads passes through and has no consequences. Any other request
carries the token that was fetched last, and there is a fetch for it exactly when no token may be
used again.
-/

namespace DeployService.Csrf

open DeployService.Http

/-- The request is sent with a token. The cookies of the token's session are set after the token, so
that they prevail if the token is expected in the cookie header. -/
structure Carries (token : CsrfToken) (request sent : Request) : Prop where
  method : sent.method = request.method
  url : sent.url = request.url
  body : sent.body = request.body
  /-- The cookies of the token's session are the only ones. -/
  cookies : ∀ value, token.cookies = some value → sent.headers.getAll cookie = [value]
  /-- The token is the only one in its header. -/
  value : token.header ≠ cookie ∨ token.cookies = none →
    sent.headers.getAll token.header = [token.value]
  others : ∀ name, name ≠ token.header → name ≠ cookie ∨ token.cookies = none →
    sent.headers.getAll name = request.headers.getAll name

theorem protectWith_carries (token : CsrfToken) (request : Request) :
    Carries token request (protectWith (some token) request) := by
  have hheaders : (protectWith (some token) request).headers = apply token request.headers := rfl
  refine ⟨rfl, rfl, rfl, ?_, ?_, ?_⟩
  · intro value hc
    rw [hheaders, apply, hc]
    exact Headers.getAll_insert_self _ _ _
  · intro hne
    rw [hheaders, apply]
    cases hc : token.cookies with
    | none => exact Headers.getAll_insert_self _ _ _
    | some cookies =>
      have hname : token.header ≠ cookie := by simpa [hc] using hne
      show ((request.headers.insert token.header token.value).insert cookie cookies).getAll
        token.header = _
      rw [Headers.getAll_insert_of_ne _ _ hname, Headers.getAll_insert_self]
  · intro name hn hne
    rw [hheaders, apply]
    cases hc : token.cookies with
    | none => exact Headers.getAll_insert_of_ne _ _ hn
    | some cookies =>
      have hname : name ≠ cookie := by simpa [hc] using hne
      show ((request.headers.insert token.header token.value).insert cookie cookies).getAll
        name = _
      rw [Headers.getAll_insert_of_ne _ _ hname, Headers.getAll_insert_of_ne _ _ hn]

/-- A request that changes something, seen against the past. -/
structure Protects (guard : Guard) (past : List Observation) (request : Request)
    (o : Observation) : Prop where
  /-- First the requests for a token are sent, then the request itself. -/
  parts : o.trips = o.fetches ++ o.own
  /-- A token is fetched if there is none that may be used again, and only then. -/
  fetches_iff : o.fetches ≠ [] ↔ ¬∃ token, Valid guard past o.clock token
  /-- A token that may be used again is the one that was fetched last, and it is used. -/
  kept : ∀ token, Valid guard past o.clock token →
    latest? past = some token ∧ ∀ own ∈ o.own, Carries token request own.request
  /-- A token that has just been fetched is used. -/
  fetched : ∀ token, o.yield? = some token → ∀ own ∈ o.own, Carries token request own.request
  /-- Without a token, the request is sent as it is. -/
  without : o.fetches ≠ [] → o.yield? = none → ∀ own ∈ o.own, own.request = request
  /-- The result is what became of the request. It is not sent if the fetch fails. -/
  result : (∃ own, o.own = [own] ∧ o.result = some own.outcome) ∨
    o.own = [] ∧ ∃ trip e, o.fetches.getLast? = some trip ∧ trip.outcome = .error e ∧
      o.result = some (.error (e.within "Failed to fetch CSRF token"))

/-- What becomes of a request in a session with a past. -/
structure Conforms (guard : Guard) (past : List Observation) (s : Session) (request : Request) :
    Prop where
  /-- A request that only reads is sent once, as it is. What follows it is as it would be if neither
  the request nor its outcome had ever been. -/
  safe : isProtected request.method = false →
    observe guard (.send request) s =
      ⟨.send request, s.clock, [⟨request, s.next⟩], some s.next⟩ ∧
    ∀ later, observations guard later ((Step.send request).perform guard s).2 =
      observations guard later s.skipping
  /-- Any other request is protected, unless its body is a stream. -/
  protects : isProtected request.method = true → request.body ≠ .stream →
    Protects guard past request (observe guard (.send request) s)

theorem Fetched.last_of_error {guard : Guard} {request : Request} {s s' : Session}
    {t : List RoundTrip} {e : Error} (h : Fetched guard request s t (.error e) s') :
    ∃ trip e', t.getLast? = some trip ∧ trip.outcome = .error e' ∧
      e = e'.within "Failed to fetch CSRF token" := by
  cases h with
  | failed h => exact ⟨_, _, rfl, rfl, rfl⟩
  | failedAgain h hs hc h' => exact ⟨_, _, rfl, rfl, rfl⟩

theorem Tracks.protects {guard : Guard} {past : List Observation} {s s' : Session}
    {request : Request} {o : Observation} (h : Tracks guard past s)
    (hm : isProtected request.method = true) (hb : request.body ≠ .stream)
    (hs : Sent guard request s o s') : Protects guard past request o := by
  have hy : o.yield? = Observation.handedOut? s.clock o.fetches := by
    rw [Observation.yield?, hs.clock]
  have hnone := h.valid_none_iff
  rw [← hs.clock] at hnone
  generalize hf : o.fetches = t at hy
  rcases hs.course with ⟨e, hp, ho, hr⟩ | ⟨own, s₁, hp, ho, hr, -⟩ <;> rw [hf] at hp
  · cases hp with
    | streaming _ hb' => exact absurd hb' hb
    | unfetched _ _ hv hfetch =>
      obtain ⟨trip, e', hl, hte, rfl⟩ := hfetch.last_of_error
      exact
        { parts := hs.trips
          fetches_iff := by simp [hf, hfetch.ne_nil, ← hnone, hv]
          kept := fun token hvalid => absurd ⟨token, hvalid⟩ (hnone.mp hv)
          fetched := by simp [ho]
          without := by simp [ho]
          result := .inr ⟨ho, trip, e', by rw [hf]; exact hl, hte, hr⟩ }
  · cases hp with
    | safe hm' => rw [hm] at hm'; cases hm'
    | @kept token _ _ hv =>
      have hlast := (h.kept token (Option.filter_eq_some_iff.mp hv).1).2
      have hnot : o.yield? = none := hy
      exact
        { parts := hs.trips
          fetches_iff := by simp [hf, ← hnone, hv]
          kept := by
            intro token' hv'
            rw [hs.clock, ← h.valid_iff, hv] at hv'
            obtain rfl : token = token' := by simpa using hv'
            exact ⟨hlast, by simpa [ho] using protectWith_carries token request⟩
          fetched := by simp [hnot]
          without := fun hne => absurd hf hne
          result := .inl ⟨_, ho, hr⟩ }
    | @fetched _ token s₂ _ _ hv hfetch =>
      have hyield : o.yield? = token := hy.trans hfetch.handedOut
      exact
        { parts := hs.trips
          fetches_iff := by simp [hf, hfetch.ne_nil, ← hnone, hv]
          kept := fun token hvalid => absurd ⟨token, hvalid⟩ (hnone.mp hv)
          fetched := by
            intro token' hy'
            obtain rfl : token = some token' := hyield.symm.trans hy'
            simpa [ho] using protectWith_carries token' request
          without := by
            intro _ hy'
            obtain rfl : token = none := hyield.symm.trans hy'
            simp [ho, protectWith]
          result := .inl ⟨_, ho, hr⟩ }

/-- A request that only reads. -/
theorem Sent.of_safe {guard : Guard} {request : Request} {s s' : Session} {o : Observation}
    (hm : isProtected request.method = false) (h : Sent guard request s o s') :
    o = ⟨.send request, s.clock, [⟨request, s.next⟩], some s.next⟩ ∧ s' = s.sending request := by
  have ht := h.trips
  rcases h.course with ⟨e, hp, -⟩ | ⟨own, s₁, hp, ho, hr, hs'⟩
  · obtain ⟨-, hne, -⟩ := hp.of_safe hm
    cases hne
  · obtain ⟨hf, hown, hs⟩ := hp.of_safe hm
    obtain rfl : own = request := by simpa using hown
    subst hs
    constructor
    · rw [hf, ho, List.nil_append] at ht
      rw [← h.step, ← h.clock, ← ht, ← hr]
    · rw [hs', settle, hm]
      rfl

/-- **Which token a request carries.** Every request after every run of a guarded transport conforms
to what the run says about tokens. -/
theorem requests_conform (guard : Guard) (s : Session) (steps : List Step) (request : Request) :
    Conforms guard (observations guard steps (forget s)) (after guard steps (forget s))
      request := by
  have htracks := (Tracks.of_forget guard s).run steps
  have hsent := send_sent guard request (after guard steps (forget s))
  rw [List.nil_append] at htracks
  refine ⟨fun hm => ?_, fun hm hb => htracks.protects hm hb hsent⟩
  obtain ⟨ho, hs⟩ := hsent.of_safe hm
  refine ⟨ho, fun later => ?_⟩
  rw [hs]
  exact observations_eq guard later (Session.sending_sameFuture_skipping request _)

/-- A service that opens a session and expects the token in the cookie header. -/
def cookieTokenResponses : List Response :=
  [{ status := 200, headers := [(setCookie, literalValue "s=1")], body := [] },
    { status := 200
      headers := [(nameHeader, literalValue "Cookie"), (tokenHeader, literalValue "abc")]
      body := [] },
    { status := 204, headers := [], body := [] }]

/-- A request to change something at such a service. -/
def cookieTokenRequest : Request :=
  .plain "POST"
    { scheme := "https", username := "", password := none, host := some (.name "h"), port := none
      path := .segments ["x"], query := none, fragment := none }

/-- A token that is expected in the cookie header is not sent if it belongs to a session: the
cookies of the session stand in its place. -/
theorem token_in_cookie_header_lost :
    let o := observe ⟨standardTimeout, false⟩ (.send cookieTokenRequest)
      (after ⟨standardTimeout, false⟩ [] (forget (.replaying cookieTokenResponses)))
    let token : CsrfToken := ⟨cookie, literalValue "abc", some (literalValue "s=1"), 0⟩
    o.yield? = some token ∧
      ∃ own ∈ o.own, own.request.headers.getAll token.header ≠ [token.value] := by
  decide +kernel

end DeployService.Csrf
