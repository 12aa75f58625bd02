import DeployService.Proofs.TokenUse

/-!
# Requests that fail, and the kept token

A request that needs a token can fail in three places: when a token is asked for, when it is asked
for again within a new session, and when the request itself is sent. A failure of the first two
kinds ends the call. The request is not sent, and the kept token is what it was before, so that the
next request asks again. After a failure of the third kind the token stays with the transport, and
the next request gets it.

What lies between two requests that need a token does not matter for this (`after_idle`): time
passes, and requests are sent that only read.
-/

namespace DeployService.Csrf

open DeployService.Http

variable {guard : Guard} {s s' : Session} {request : Request} {o : Observation}

/-- The step sends a request that needs a token: one that changes something and can be copied. -/
def Step.NeedsToken : Step → Prop
  | .send request => isProtected request.method = true ∧ request.body ≠ .stream
  | .forget => False
  | .wait _ => False

/-! ## Between two requests that need a token -/

/-- A request that needs no token does not touch the kept one. -/
theorem Sent.of_idle (h : Sent guard request s o s') (hi : ¬(Step.send request).NeedsToken) :
    s'.csrf = s.csrf ∧ s'.clock = s.clock := by
  cases hm : isProtected request.method with
  | false =>
    obtain ⟨-, rfl⟩ := h.of_safe hm
    exact ⟨rfl, rfl⟩
  | true =>
    have hb : request.body = .stream := Decidable.of_not_not fun hb => hi ⟨hm, hb⟩
    rcases h.course with ⟨e, hp, -, -⟩ | ⟨own, s₁, hp, -, -, -⟩
    · generalize o.fetches = t at hp
      cases hp with
      | streaming => exact ⟨rfl, rfl⟩
      | unfetched _ hb' => exact absurd hb hb'
    · generalize o.fetches = t at hp
      cases hp with
      | safe hm' => rw [hm] at hm'; cases hm'
      | kept _ hb' => exact absurd hb hb'
      | fetched _ hb' => exact absurd hb hb'

theorem perform_idle (guard : Guard) (s : Session) {step : Step} (h : ¬step.NeedsToken) :
    s.clock ≤ (step.perform guard s).2.clock ∧
      ((step.perform guard s).2.csrf = s.csrf ∨
        step = .forget ∧ (step.perform guard s).2.csrf = none) := by
  cases step with
  | send request =>
    obtain ⟨hcsrf, hclock⟩ := (send_sent guard request s).of_idle h
    exact ⟨Int.le_of_eq hclock.symm, .inl hcsrf⟩
  | forget => exact ⟨Int.le_refl _, .inr ⟨rfl, rfl⟩⟩
  | wait milliseconds =>
    refine ⟨?_, .inl rfl⟩
    show s.clock ≤ s.clock + milliseconds
    omega

/-- A token that may not be used any more can never be used again. -/
theorem valid?_none_of_later (hv : valid? guard s = none) (hclock : s.clock ≤ s'.clock)
    (hcsrf : s'.csrf = s.csrf ∨ s'.csrf = none) : valid? guard s' = none := by
  unfold valid? at hv ⊢
  rcases hcsrf with hcsrf | hcsrf
  · rw [hcsrf, Option.filter_eq_none_iff]
    rw [Option.filter_eq_none_iff] at hv
    intro token hk
    have hexpired := hv token hk
    simp only [isExpired, Bool.not_eq_true', Bool.not_eq_false, decide_eq_true_eq] at hexpired ⊢
    omega
  · rw [hcsrf]
    rfl

/-- Steps that need no token do not provide one. -/
theorem valid?_none_after_idle {steps : List Step} (h : ∀ step ∈ steps, ¬step.NeedsToken)
    (hv : valid? guard s = none) : valid? guard (after guard steps s) = none := by
  induction steps generalizing s with
  | nil => exact hv
  | cons step steps ih =>
    obtain ⟨hclock, hcsrf⟩ := perform_idle guard s (h step List.mem_cons_self)
    have hnext : valid? guard (step.perform guard s).2 = none := by
      refine valid?_none_of_later hv hclock ?_
      rcases hcsrf with hcsrf | ⟨-, hcsrf⟩
      · exact .inl hcsrf
      · exact .inr hcsrf
    exact ih (fun step' hmem => h step' (List.mem_cons_of_mem _ hmem)) hnext

/-- Steps that need no token keep the one that there is, unless it is forgotten. -/
theorem csrf_after_idle {steps : List Step}
    (h : ∀ step ∈ steps, ¬step.NeedsToken ∧ step ≠ .forget) :
    (after guard steps s).csrf = s.csrf := by
  induction steps generalizing s with
  | nil => rfl
  | cons step steps ih =>
    obtain ⟨hidle, hne⟩ := h step List.mem_cons_self
    have hstep : (step.perform guard s).2.csrf = s.csrf := by
      rcases (perform_idle guard s hidle).2 with hcsrf | ⟨hforget, -⟩
      · exact hcsrf
      · exact absurd hforget hne
    have hrest := ih (s := (step.perform guard s).2)
      fun step' hmem => h step' (List.mem_cons_of_mem _ hmem)
    exact hrest.trans hstep

/-! ## One request -/

theorem Fetched.of_failed_trip {t : List RoundTrip} {r : Except Error (Option CsrfToken)}
    (h : Fetched guard request s t r s') {trip : RoundTrip} (ht : trip ∈ t) {e : Error}
    (he : trip.outcome = .error e) : r = .error (e.within "Failed to fetch CSRF token") := by
  cases h with
  | failed =>
    obtain rfl := List.mem_singleton.mp ht
    cases he
    rfl
  | once =>
    obtain rfl := List.mem_singleton.mp ht
    cases he
  | failedAgain =>
    simp only [List.mem_cons, List.not_mem_nil, or_false] at ht
    rcases ht with rfl | rfl
    · cases he
    · cases he
      rfl
  | twice =>
    simp only [List.mem_cons, List.not_mem_nil, or_false] at ht
    rcases ht with rfl | rfl
    · cases he
    · cases he

/-- A request that needs a token fails with the fetch of one. -/
structure Unfetched (guard : Guard) (request : Request) (s : Session) (o : Observation)
    (s' : Session) (e : Error) : Prop where
  invalid : valid? guard s = none
  fetch : Fetched guard request s o.fetches (.error e) s'
  own : o.own = []
  result : o.result = some (.error e)

/-- A request is sent with the token that there is for it, the one in the session `s₁` just before
that. -/
structure SentWith (guard : Guard) (request : Request) (s : Session) (o : Observation)
    (s' : Session) (s₁ : Session) : Prop where
  token : s₁.csrf = o.yield?.or (valid? guard s)
  clock : s₁.clock = s.clock
  answered : ∀ trip ∈ o.fetches, ∀ e, trip.outcome ≠ .error e
  fetches_iff : o.fetches = [] ↔ valid? guard s ≠ none
  own : o.own = [⟨protectWith s₁.csrf request, s₁.next⟩]
  result : o.result = some s₁.next
  after : s' = settle (protectWith s₁.csrf request) s₁.next
    (s₁.sending (protectWith s₁.csrf request))

/-- How a request goes that needs a token. -/
theorem Sent.of_needs (h : Sent guard request s o s') (hn : (Step.send request).NeedsToken) :
    (∃ e, Unfetched guard request s o s' e) ∨ ∃ s₁, SentWith guard request s o s' s₁ := by
  obtain ⟨hm, hb⟩ := hn
  have hyield : o.yield? = Observation.handedOut? s.clock o.fetches := by
    rw [Observation.yield?, h.clock]
  rcases h.course with ⟨e, hp, ho, hr⟩ | ⟨own, s₁, hp, ho, hr, hs'⟩
  · generalize hf : o.fetches = t at hp
    cases hp with
    | streaming _ hb' => exact absurd hb' hb
    | unfetched _ _ hv hfetch =>
      rw [← hf] at hfetch
      exact .inl ⟨e, hv, hfetch, ho, hr⟩
  · right
    generalize hf : o.fetches = t at hp hyield
    cases hp with
    | safe hm' => rw [hm] at hm'; cases hm'
    | @kept token _ _ hv =>
      have hcsrf : s.csrf = some token := (Option.filter_eq_some_iff.mp hv).1
      have hnone : o.yield? = none := hyield
      refine ⟨s, ?_, rfl, by simp [hf], by simp [hf, hv], ?_, hr, ?_⟩
      · rw [hcsrf, hnone, hv]
        rfl
      · rw [hcsrf]
        exact ho
      · rw [hcsrf]
        exact hs'
    | @fetched _ token s₂ _ _ hv hfetch =>
      have htoken : o.yield? = token := hyield.trans hfetch.handedOut
      refine ⟨{ s₂ with csrf := token }, ?_, hfetch.clock, ?_, ?_, ho, hr, hs'⟩
      · rw [htoken, hv, Option.or_none]
      · intro trip ht e he
        rw [hf] at ht
        cases hfetch.of_failed_trip ht he
      · simp [hf, hv, hfetch.ne_nil]

/-- Without a token that may be used, one is asked for. -/
theorem Sent.fetches_of_invalid (h : Sent guard request s o s')
    (hn : (Step.send request).NeedsToken) (hv : valid? guard s = none) : o.fetches ≠ [] := by
  rcases h.of_needs hn with ⟨e, hu⟩ | ⟨s₁, hw⟩
  · exact hu.fetch.ne_nil
  · intro hnil
    exact hw.fetches_iff.mp hnil hv

/-- A token that may be used is used. -/
theorem Sent.uses_valid (h : Sent guard request s o s') (hn : (Step.send request).NeedsToken)
    {token : CsrfToken} (hv : valid? guard s = some token) :
    o.fetches = [] ∧ ∃ outcome, o.own = [⟨protectWith (some token) request, outcome⟩] := by
  rcases h.of_needs hn with ⟨e, hu⟩ | ⟨s₁, hw⟩
  · have hnone := hu.invalid
    rw [hv] at hnone
    cases hnone
  · have hnil : o.fetches = [] := hw.fetches_iff.mpr (by simp [hv])
    have htoken : s₁.csrf = some token := by
      have hyield : o.yield? = none := by
        rw [Observation.yield?, hnil]
        rfl
      rw [hw.token, hyield, hv]
      rfl
    refine ⟨hnil, s₁.next, ?_⟩
    rw [← htoken]
    exact hw.own

/-- What a failure comes to, for a request that needs a token and is sent from the session `s`. -/
structure KeepsToken (guard : Guard) (s : Session) (request : Request) (o : Observation)
    (s' : Session) : Prop where
  /-- If a request for a token fails, the call fails with it. Nothing else is sent, and the kept
  token is what it was. -/
  unfetched : ∀ trip ∈ o.fetches, ∀ e, trip.outcome = .error e →
    o.result = some (.error (e.within "Failed to fetch CSRF token")) ∧ o.trips = o.fetches ∧
      o.own = [] ∧ s'.csrf = s.csrf
  /-- So the next request that needs a token asks for one. -/
  refetched : ∀ trip ∈ o.fetches, ∀ e, trip.outcome = .error e →
    ∀ between, (∀ step ∈ between, ¬step.NeedsToken) → ∀ next, (Step.send next).NeedsToken →
      (observe guard (.send next) (after guard between s')).fetches ≠ []
  /-- If the request itself fails, the call fails in the same way. The token that has been fetched
  for it, or else the one that it was sent with, is kept. -/
  unsent : ∀ trip ∈ o.own, ∀ e, trip.outcome = .error e →
    o.result = some (.error e) ∧ s'.csrf = o.yield?.or (valid? guard s)
  /-- So the next request that needs a token is sent with this one, if it is not forgotten or too
  old by then. -/
  reused : ∀ trip ∈ o.own, ∀ e, trip.outcome = .error e →
    ∀ token, o.yield?.or (valid? guard s) = some token →
    ∀ between, (∀ step ∈ between, ¬step.NeedsToken ∧ step ≠ .forget) →
      (after guard between s').clock - token.fetchedAt ≤ guard.timeout →
        ∀ next, (Step.send next).NeedsToken →
          let later := observe guard (.send next) (after guard between s')
          later.fetches = [] ∧
            ∃ outcome, later.own = [⟨protectWith (some token) next, outcome⟩]

theorem Sent.unfetched (h : Sent guard request s o s') (hn : (Step.send request).NeedsToken)
    {trip : RoundTrip} (ht : trip ∈ o.fetches) {e : Error} (he : trip.outcome = .error e) :
    Unfetched guard request s o s' (e.within "Failed to fetch CSRF token") := by
  rcases h.of_needs hn with ⟨e', hu⟩ | ⟨s₁, hw⟩
  · have herror := hu.fetch.of_failed_trip ht he
    obtain rfl : e' = e.within "Failed to fetch CSRF token" := by simpa using herror
    exact hu
  · exact absurd he (hw.answered trip ht e)

/-- A request that has failed keeps the token that it was sent with. -/
theorem Sent.unsent (h : Sent guard request s o s') (hn : (Step.send request).NeedsToken)
    {trip : RoundTrip} (ht : trip ∈ o.own) {e : Error} (he : trip.outcome = .error e) :
    o.result = some (.error e) ∧ s'.csrf = o.yield?.or (valid? guard s) := by
  rcases h.of_needs hn with ⟨e', hu⟩ | ⟨s₁, hw⟩
  · rw [hu.own] at ht
    cases ht
  · have hnext : s₁.next = .error e := by
      rw [hw.own, List.mem_singleton] at ht
      rw [ht] at he
      exact he
    have hcsrf := settle_csrf (protectWith_method s₁.csrf request) s₁.next
      (s₁.sending (protectWith s₁.csrf request))
    rw [← hw.after, hnext] at hcsrf
    refine ⟨by rw [hw.result, hnext], ?_⟩
    rw [hcsrf, ← hw.token]
    simp [rejects]

theorem Sent.keepsToken (h : Sent guard request s o s') (hn : (Step.send request).NeedsToken) :
    KeepsToken guard s request o s' where
  unfetched := by
    intro trip ht e he
    have hu := h.unfetched hn ht he
    refine ⟨hu.result, ?_, hu.own, hu.fetch.csrf⟩
    rw [h.trips, hu.own, List.append_nil]
  refetched := by
    intro trip ht e he between hidle next hnext
    have hu := h.unfetched hn ht he
    have hv : valid? guard s' = none :=
      valid?_none_of_later hu.invalid (Int.le_of_eq hu.fetch.clock.symm) (.inl hu.fetch.csrf)
    have hlater := valid?_none_after_idle hidle hv
    exact (send_sent guard next (after guard between s')).fetches_of_invalid hnext hlater
  unsent := fun trip ht e he => h.unsent hn ht he
  reused := by
    intro trip ht e he token htoken between hidle hage next hnext
    have hcsrf : (after guard between s').csrf = some token := by
      rw [csrf_after_idle hidle, (h.unsent hn ht he).2, htoken]
    have hv : valid? guard (after guard between s') = some token := by
      rw [valid?, hcsrf, Option.filter_some, if_pos]
      simpa [isExpired] using hage
    exact (send_sent guard next (after guard between s')).uses_valid hnext hv

/-- **Failures keep the token.** Whatever is kept and whatever becomes of the requests: a request
that needs a token and fails leaves the kept token as it was if it could not get one, and leaves the
one that it got. -/
theorem failures_keep_token (guard : Guard) (s : Session) (request : Request)
    (hn : (Step.send request).NeedsToken) :
    KeepsToken guard s request (observe guard (.send request) s)
      ((Step.send request).perform guard s).2 :=
  (send_sent guard request s).keepsToken hn

/-- A session is opened, but then the service does not answer any more. -/
def silentService (kept : CsrfToken) (clock : Int) : Session :=
  { Session.replaying (cookieTokenResponses.take 1) with csrf := some kept, clock }

/-- A token is too old, and a new one cannot be got, since the service does not answer any more. The
old token is still kept, and the next request asks again. -/
theorem unanswered_fetch_keeps_token :
    let guard : Guard := ⟨standardTimeout, false⟩
    let old : CsrfToken := ⟨tokenHeader, literalValue "old", none, 0⟩
    let o := observe guard (.send cookieTokenRequest) (silentService old 90001)
    let s' := ((Step.send cookieTokenRequest).perform guard (silentService old 90001)).2
    (Step.send cookieTokenRequest).NeedsToken ∧ o.fetches.map (·.outcome.isOk) = [true, false] ∧
      s'.csrf = some old ∧ (observe guard (.send cookieTokenRequest) s').fetches ≠ [] := by
  intro guard old o s'
  have hn : (Step.send cookieTokenRequest).NeedsToken := ⟨by decide, by decide⟩
  have houtcomes : o.fetches.map (·.outcome.isOk) = [true, false] := by decide +kernel
  have hkeeps := failures_keep_token guard (silentService old 90001) cookieTokenRequest hn
  obtain ⟨trip, ht, hfailed⟩ : ∃ trip ∈ o.fetches, trip.outcome.isOk = false := by
    have hmem : false ∈ o.fetches.map (·.outcome.isOk) := by
      rw [houtcomes]
      decide
    exact List.mem_map.mp hmem
  cases he : trip.outcome with
  | ok response => rw [he] at hfailed; cases hfailed
  | error e =>
    obtain ⟨-, -, -, hcsrf⟩ := hkeeps.unfetched trip ht e he
    have hagain := hkeeps.refetched trip ht e he [] (by simp) cookieTokenRequest hn
    exact ⟨hn, houtcomes, hcsrf, hagain⟩

end DeployService.Csrf
