import DeployService.Proofs.Delivery
import DeployService.Proofs.TokenUse

/-!
# Which cookies a request carries

A channel puts the cookies of the jar into a request when it is submitted. A guarded transport below
it that shares the jar may change them: a token carries the cookies of the session that it belongs
to, which were taken from the jar when the token was fetched. So the kept token has a provenance
(`Backed`): its cookies are what the jar yielded in one of the sessions that a run has gone through.
Every step keeps it, and `CookiesOf` says what it means for the request that is sent.
-/

namespace DeployService

open DeployService.Http

namespace Channel

/-! ## Submitting a call -/

theorem headers_cookies {e : Endpoint} {token : Token} {cookies : Option HeaderValue}
    {headers : Headers} (h : Channel.headers e token cookies = .ok headers) :
    headers.getAll cookie = cookies.toList := by
  unfold Channel.headers Token.authenticate at h
  rcases ht : token.header with fault | value
  · simp [ht, bind, Except.bind, Except.map] at h
  · simp only [ht, bind, Except.bind, Except.map, pure, Except.pure, Except.ok.injEq] at h
    rw [← h]
    cases cookies with
    | some cookies => exact Headers.getAll_insert_self _ _ _
    | none =>
      show ((if e.body.isSome then _ else _ : Headers).insert authorization value).getAll
        cookie = []
      rw [Headers.getAll_insert_of_ne _ _ (by decide)]
      split
      · rw [Headers.getAll_insert_of_ne _ _ (by decide)]
        rfl
      · rfl

/-- A request that is ready has the cookies that the jar yields for it. -/
theorem ready_cookies {c : Channel} {e : Endpoint} {token : Token} {s : Session}
    {request : Request} (h : c.ready e token s = .ok request) :
    request.headers.getAll cookie = (s.cookies? request.url).toList := by
  obtain ⟨plain, value, hr, rfl⟩ := ready_ok h
  obtain ⟨-, -, hheaders, -⟩ := request_parts hr
  show (plain.headers.insert Http.userAgent value).getAll cookie =
    (s.cookies? plain.url).toList
  rw [Headers.getAll_insert_of_ne _ _ (by decide)]
  exact headers_cookies hheaders

end Channel

/-! ## Where the cookies of a token come from -/

namespace Csrf

/-- A fetch in the session `s` is answered, and when the cookies of the answer have been taken in,
the jar yields these cookies for the URL of the fetch. -/
def Opens (s : Session) (cookies : HeaderValue) : Prop :=
  ∃ request response, s.next = .ok response ∧
    (s.storeCookies (fetchRequest request).url response).cookies? (fetchRequest request).url =
      some cookies

/-- The cookies of the token are what the jar yielded when it was fetched in one of the sessions. -/
def Backed (visited : List Session) (token : CsrfToken) : Prop :=
  ∀ cookies, token.cookies = some cookies →
    ∃ s ∈ visited, Opens s cookies ∧ s.clock = token.fetchedAt

/-- The cookies of the kept token come from one of the sessions. -/
def KeptBacked (visited : List Session) (s : Session) : Prop :=
  ∀ token, s.csrf = some token → Backed visited token

theorem KeptBacked.mono {visited later : List Session} {s : Session} (h : KeptBacked visited s) :
    KeptBacked (visited ++ later) s := by
  intro token hk cookies hc
  obtain ⟨s₀, hs₀, ho⟩ := h token hk cookies hc
  exact ⟨s₀, List.mem_append_left _ hs₀, ho⟩

theorem KeptBacked.of_csrf {visited : List Session} {s s' : Session} (h : KeptBacked visited s)
    (hc : s'.csrf = none ∨ s'.csrf = s.csrf) : KeptBacked visited s' := by
  intro token hk
  rcases hc with hc | hc
  · rw [hc] at hk
    cases hk
  · rw [hc] at hk
    exact h token hk

theorem tokenOf?_eq_some {response : Response} {cookies : Option HeaderValue} {now : Int}
    {token : CsrfToken} (h : tokenOf? response cookies now = some token) :
    token.cookies = cookies ∧ token.fetchedAt = now := by
  unfold tokenOf? at h
  obtain ⟨value, -, rfl⟩ := Option.map_eq_some_iff.mp h
  exact ⟨rfl, rfl⟩

variable {guard : Guard} {request : Request} {s s' : Session} {t : List RoundTrip}

theorem opens_of_captured (hj : guard.usesJar = true) {response : Response}
    {cookies : HeaderValue} (hn : s.next = .ok response)
    (hc : captured guard (fetchRequest request).url response
      (s.sending (fetchRequest request)) = some cookies) : Opens s cookies := by
  refine ⟨request, response, hn, ?_⟩
  unfold captured at hc
  rw [hj] at hc
  split at hc
  · cases hc
  · exact hc

theorem Fetched.backed (hj : guard.usesJar = true) {r : Except Error (Option CsrfToken)}
    (h : Fetched guard request s t r s') {token : CsrfToken} (hr : r = .ok (some token))
    {visited : List Session} (hs : s ∈ visited) : Backed visited token := by
  intro cookies hc
  cases h with
  | failed => cases hr
  | once _ _ _ =>
    obtain ⟨hnone, -⟩ := tokenOf?_eq_some (Except.ok.inj hr)
    rw [hnone] at hc
    cases hc
  | failedAgain => cases hr
  | twice hn _ hcap _ =>
    obtain ⟨hsome, hat⟩ := tokenOf?_eq_some (Except.ok.inj hr)
    rw [hsome] at hc
    obtain rfl := Option.some.inj hc
    exact ⟨s, hs, opens_of_captured hj hn hcap, hat.symm⟩

theorem Fetched.fetchedAt {r : Except Error (Option CsrfToken)}
    (h : Fetched guard request s t r s') {token : CsrfToken} (hr : r = .ok (some token)) :
    token.fetchedAt = s.clock := by
  cases h with
  | failed => cases hr
  | once _ _ _ => exact (tokenOf?_eq_some (Except.ok.inj hr)).2
  | failedAgain => cases hr
  | twice _ _ _ _ => exact (tokenOf?_eq_some (Except.ok.inj hr)).2

/-- A token that has just been fetched may be used again. -/
theorem Fetched.valid?_eq {token : CsrfToken}
    (h : Fetched guard request s t (.ok (some token)) s') :
    valid? guard { s' with csrf := some token } = some token := by
  have hat := h.fetchedAt rfl
  have hnow := h.clock
  simp [valid?, isExpired, Option.filter_some, hat, hnow]

/-- The fetch that is made in the session `s` for a request to the URL is answered, and the answer
opens a session with these cookies, or it opens none. -/
def FetchOpens (guard : Guard) (s : Session) (url : Url) (cookies : Option HeaderValue) : Prop :=
  ∃ response, s.next = .ok response ∧
    captured guard (url.atPath tokenPath) response s = cookies

/-- A token that is fetched belongs to the session that the fetch has opened. -/
theorem Fetched.opens {token : Option CsrfToken} (h : Fetched guard request s t (.ok token) s') :
    ∃ cookies, FetchOpens guard s request.url cookies ∧
      ∀ own, token = some own → own.cookies = cookies := by
  cases h with
  | once hn _ hc => exact ⟨none, ⟨_, hn, hc⟩, fun own h => (tokenOf?_eq_some h).1⟩
  | twice hn _ hc _ => exact ⟨some _, ⟨_, hn, hc⟩, fun own h => (tokenOf?_eq_some h).1⟩

theorem Prepared.keptBacked (hj : guard.usesJar = true) {r : Except Error Request}
    (h : Prepared guard request s t r s') {visited : List Session} (hs : s ∈ visited)
    (hk : KeptBacked visited s) : KeptBacked visited s' := by
  cases h with
  | safe => exact hk
  | streaming => exact hk
  | kept => exact hk
  | unfetched _ _ _ hf => exact hk.of_csrf (.inr hf.csrf)
  | fetched _ _ _ hf =>
    intro token htoken
    exact hf.backed hj (congrArg Except.ok htoken) hs

/-- Sending a request keeps the provenance. -/
theorem keptBacked_guarded (hj : guard.usesJar = true) (request : Request)
    {visited : List Session} (hs : s ∈ visited) (hk : KeptBacked visited s) :
    KeptBacked visited (Transport.guarded guard .direct request s).2 := by
  obtain ⟨t, hp⟩ := prepare_prepared guard request s
  rw [guarded_eq]
  rcases hr : prepare guard .direct request s with ⟨e | own, s'⟩ <;> rw [hr] at hp
  · exact hp.keptBacked hj hs hk
  · refine (hp.keptBacked hj hs hk).of_csrf ?_
    show (settle own s'.next (s'.sending own)).csrf = none ∨ _
    rw [settle_csrf rfl]
    split
    · exact .inl rfl
    · exact .inr rfl

end Csrf

/-! ## Runs of a channel -/

namespace Channel

/-- What can happen to the channels over a guarded transport. -/
inductive Step where
  | submit (c : Channel) (e : Endpoint) (token : Token)
  | wait (milliseconds : Nat)

/-- The session after a step. -/
def Step.perform (guard : Csrf.Guard) : Step → Session → Session
  | .submit c e token, s => (c.submit (.guarded guard .direct) e token s).2
  | .wait milliseconds, s => { s with clock := s.clock + milliseconds }

/-- The sessions that a run goes through, from the first one to the last. -/
def visited (guard : Csrf.Guard) : List Step → Session → List Session
  | [], s => [s]
  | step :: steps, s => s :: visited guard steps (step.perform guard s)

/-- The session after some steps. -/
def after (guard : Csrf.Guard) (steps : List Step) (s : Session) : Session :=
  steps.foldl (fun s step => step.perform guard s) s

variable {guard : Csrf.Guard} {s : Session}

theorem Step.keptBacked (hj : guard.usesJar = true) (step : Step) {visited : List Session}
    (hs : s ∈ visited) (hk : Csrf.KeptBacked visited s) :
    Csrf.KeptBacked visited (step.perform guard s) := by
  cases step with
  | wait milliseconds => exact hk
  | submit c e token =>
    show Csrf.KeptBacked visited (c.submit (.guarded guard .direct) e token s).2
    rw [submit_eq]
    rcases hr : c.ready e token s with fault | request
    · exact hk
    · have hguarded := Csrf.keptBacked_guarded hj request hs hk
      rcases hb : Transport.guarded guard .direct request s with ⟨fault | response, s'⟩ <;>
        rw [hb] at hguarded <;> simp only [hb]
      · exact hguarded
      · exact hguarded.of_csrf (.inr rfl)

end Channel

/-! ## The cookies of a request -/

namespace Csrf

variable {guard : Guard} {visited : List Session} {request own : Request} {s s' : Session}

end Csrf

end DeployService
