import DeployService.Proofs.Provenance
import DeployService.Proofs.StoredCookies

/-!
# Tokens and origins

A guarded transport keeps one token for the requests to all origins. A token is asked for at the
origin of the request that needs it, and from then on every request gets it, wherever it goes.

The session cookies that come with a token are those of the answer to its fetch, or with a jar what
the jar yields for the URL of the fetch. So the jar has a provenance too: a cookie that a run has
put there was set by an answer to one of its fetches (`StoredCookie.SetBy`), and it stays within the
host or the domain that it was set for, whatever the scheme and the port.
-/

namespace DeployService

open DeployService.Http

/-! ## Origins -/

/-- Where a URL leads to, but for the path. -/
structure Origin where
  scheme : String
  host : Option Url.Host
  port : Option Nat
  deriving DecidableEq

/-- The origin of a URL. -/
def Url.origin (u : Url) : Origin := ⟨u.scheme, u.host, u.port⟩

@[simp] theorem Url.atPath_origin (u : Url) (segments : List String) :
    (u.atPath segments).origin = u.origin := rfl

/-! ## Which answer has set a cookie -/

namespace Http

/-- The answer asks to store the cookie. -/
def StoredCookie.SetBy (c : StoredCookie) (a : Arrival) : Prop :=
  ∃ header ∈ a.trip.cookiesSet, ∃ written,
    (Text.Utf8.decode? header).bind SetCookie.ofText? = some written ∧
      StoredCookie.ofSetCookie? written a.clock a.trip.request.url = some c

theorem CookieScope.host_admits {url : Url} {name : String} (h : url.hostText? = some name) :
    (CookieScope.host name).admits url = true := by
  simp [CookieScope.admits, h]

theorem scopeOf?_admits {written : SetCookie} {url : Url} {scope : CookieScope}
    (h : scopeOf? written url = some scope) : scope.admits url = true := by
  have hown : url.hostText?.map CookieScope.host = some scope → scope.admits url = true := by
    intro hmap
    obtain ⟨name, hname, rfl⟩ := Option.map_eq_some_iff.mp hmap
    exact CookieScope.host_admits hname
  unfold scopeOf? at h
  split at h
  · exact hown h
  · split at h
    · cases h
    · exact hown h
    · exact hown h
    · simp only at h
      split at h
      · obtain rfl := Option.some.inj h
        assumption
      · cases h

/-- An answer can set cookies only for where it comes from. -/
theorem StoredCookie.SetBy.admits {c : StoredCookie} {a : Arrival} (h : c.SetBy a) :
    c.scope.admits a.trip.request.url = true := by
  obtain ⟨_, _, written, _, hstored⟩ := h
  unfold StoredCookie.ofSetCookie? at hstored
  split at hstored
  · cases hstored
  · obtain ⟨scope, hscope, rfl⟩ := Option.map_eq_some_iff.mp hstored
    exact scopeOf?_admits hscope

theorem Jar.mem_insert {jar : Jar} {c d : StoredCookie} {now : Int} {url : Url}
    (h : d ∈ (jar.insert c now url).cookies) : d ∈ jar.cookies ∨ d = c := by
  unfold Jar.insert at h
  simp only at h
  split at h
  · exact .inl h
  · split at h
    · split at h
      · exact .inl ((List.mem_filter.mp h).1)
      · rcases List.mem_append.mp h with h | h
        · exact .inl ((List.mem_filter.mp h).1)
        · exact .inr (List.mem_singleton.mp h)
    · rcases List.mem_append.mp h with h | h
      · exact .inl ((List.mem_filter.mp h).1)
      · exact .inr (List.mem_singleton.mp h)

theorem Jar.mem_storeOne {jar : Jar} {header : HeaderValue} {d : StoredCookie} {now : Int}
    {url : Url} (h : d ∈ (jar.storeOne now url header).cookies) :
    d ∈ jar.cookies ∨ ∃ written, (Text.Utf8.decode? header).bind SetCookie.ofText? = some written ∧
      StoredCookie.ofSetCookie? written now url = some d := by
  unfold Jar.storeOne at h
  split at h
  · exact .inl h
  · next written hwritten =>
    split at h
    · exact .inl h
    · next stored hstored =>
      rcases Jar.mem_insert h with h | rfl
      · exact .inl h
      · exact .inr ⟨written, hwritten, hstored⟩

theorem Jar.mem_takeIn {jar : Jar} {a : Arrival} {d : StoredCookie}
    (h : d ∈ (jar.takeIn a).cookies) : d ∈ jar.cookies ∨ d.SetBy a := by
  have hstore : ∀ (headers : List HeaderValue) (jar : Jar),
      d ∈ (jar.store a.clock a.trip.request.url headers).cookies →
        d ∈ jar.cookies ∨ ∃ header ∈ headers, ∃ written,
          (Text.Utf8.decode? header).bind SetCookie.ofText? = some written ∧
            StoredCookie.ofSetCookie? written a.clock a.trip.request.url = some d := by
    intro headers
    induction headers with
    | nil => exact fun _ h => .inl h
    | cons header headers ih =>
      intro jar h
      rcases ih _ h with h | ⟨header', hmem, hset⟩
      · rcases Jar.mem_storeOne h with h | hset
        · exact .inl h
        · exact .inr ⟨header, List.mem_cons_self, hset⟩
      · exact .inr ⟨header', List.mem_cons_of_mem _ hmem, hset⟩
  exact hstore a.trip.cookiesSet jar h

theorem Jar.mem_foldl_takeIn {as : List Arrival} {jar : Jar} {d : StoredCookie}
    (h : d ∈ (as.foldl Jar.takeIn jar).cookies) :
    d ∈ jar.cookies ∨ ∃ a ∈ as, d.SetBy a := by
  induction as generalizing jar with
  | nil => exact .inl h
  | cons a as ih =>
    rcases ih h with h | ⟨a', ha', hset⟩
    · rcases Jar.mem_takeIn h with h | hset
      · exact .inl h
      · exact .inr ⟨a, List.mem_cons_self, hset⟩
    · exact .inr ⟨a', List.mem_cons_of_mem _ ha', hset⟩

end Http

namespace Csrf

/-! ## The jar of a run -/

/-- The answer that a step's fetch begins with, which is the one that opens a session. -/
def Observation.opening (o : Observation) : List Arrival := arriving o.clock (o.fetches.take 1)

variable {guard : Guard} {s s' : Session} {request : Request} {o : Observation}

theorem Sent.jar (hj : guard.usesJar = true) (h : Sent guard request s o s') :
    s'.jar = o.opening.foldl Jar.takeIn s.jar := by
  unfold Observation.opening
  rw [h.clock]
  rcases h.course with ⟨e, hp, -, -⟩ | ⟨own, s₁, hp, -, -, rfl⟩
  · exact hp.jar hj
  · rw [settle_jar]
    exact (hp.jar hj :)

theorem perform_jar (hj : guard.usesJar = true) (step : Step) (s : Session) :
    (step.perform guard s).2.jar = (observe guard step s).opening.foldl Jar.takeIn s.jar := by
  cases step with
  | send request => exact (send_sent guard request s).jar hj
  | forget => rfl
  | wait milliseconds => rfl

/-- Nothing but the answers to fetches gets into the jar. -/
theorem after_jar (hj : guard.usesJar = true) (steps : List Step) (s : Session) :
    (after guard steps s).jar =
      ((observations guard steps s).flatMap Observation.opening).foldl Jar.takeIn s.jar := by
  induction steps generalizing s with
  | nil => rfl
  | cons step steps ih =>
    rw [observations, List.flatMap_cons, List.foldl_append, ← perform_jar hj]
    exact ih _

/-! ## Where the cookies of a token are from -/

/-- Where the cookies are from that belong to a token, if the jar before all steps was `jar`. The
token was fetched in the step `o` after `past`. -/
inductive CookiesFrom (guard : Guard) (jar : Jar) (past : List Observation) (o : Observation)
    (url : Url) (cookies : HeaderValue) : Prop where
  /-- Without a jar they are the ones that the first answer to the fetch sets. -/
  | answer {first : RoundTrip} (hj : guard.usesJar = false) (hf : o.fetches.head? = some first)
    (h : headerValue? ("; ".intercalate (cookiePairs first.cookiesSet)) = some cookies)
  /-- With a jar they are cookies for the URL of the fetch. Each of them was in the jar before all
  steps, or an answer to a fetch has set it, whose URL lies in the cookie's scope as well. -/
  | jar {list : List StoredCookie} (hj : guard.usesJar = true)
    (h : headerValue? ("; ".intercalate (list.map StoredCookie.text)) = some cookies)
    (hl : ∀ c ∈ list, c.scope.admits url = true ∧ (c ∈ jar.cookies ∨
      ∃ a ∈ (past ++ [o]).flatMap Observation.opening, c.SetBy a ∧
        c.scope.admits a.trip.request.url = true))

theorem header?_eq_some {jar : Jar} {now : Int} {url : Url} {cookies : HeaderValue}
    (h : jar.header? now url = some cookies) :
    ∃ list : List StoredCookie,
      headerValue? ("; ".intercalate (list.map StoredCookie.text)) = some cookies ∧
        ∀ c ∈ list, c ∈ jar.cookies ∧ c.admits now url = true := by
  unfold Jar.header? at h
  split at h
  · cases h
  · refine ⟨jar.cookies.filter (·.admits now url), h, fun c hc => ?_⟩
    simpa using List.mem_filter.mp hc

theorem StoredCookie.admits_scope {c : StoredCookie} {now : Int} {url : Url}
    (h : c.admits now url = true) : c.scope.admits url = true := by
  unfold StoredCookie.admits at h
  simp only [Bool.and_eq_true] at h
  exact h.1.1.1.2

theorem captured_of_pairs (hj : guard.usesJar = false) {url : Url} {response : Response}
    {cookies : HeaderValue} (h : captured guard url response s = some cookies) :
    headerValue? ("; ".intercalate (cookiePairs (response.headers.getAll setCookie))) =
      some cookies := by
  unfold captured at h
  rw [hj] at h
  split at h
  · cases h
  · simp only [Bool.false_eq_true, if_false] at h
    split at h
    · cases h
    · exact h

/-- The cookies of a token are captured from the first answer to its fetch. -/
theorem Fetched.captured {t : List RoundTrip} {token : CsrfToken}
    (h : Fetched guard request s t (.ok (some token)) s') {cookies : HeaderValue}
    (hc : token.cookies = some cookies) :
    ∃ response, t.head? = some ⟨fetchRequest request, .ok response⟩ ∧
      captured guard (fetchRequest request).url response (s.sending (fetchRequest request)) =
        some cookies := by
  generalize hr : (Except.ok (some token) : Except Error (Option CsrfToken)) = r at h
  cases h with
  | failed => cases hr
  | failedAgain => cases hr
  | once _ _ _ =>
    obtain ⟨hnone, -⟩ := tokenOf?_eq_some (Except.ok.inj hr).symm
    rw [hnone] at hc
    cases hc
  | @twice response _ _ _ _ _ hcaptured _ =>
    obtain ⟨hsome, -⟩ := tokenOf?_eq_some (Except.ok.inj hr).symm
    rw [hsome] at hc
    obtain rfl := Option.some.inj hc
    exact ⟨response, rfl, hcaptured⟩

theorem Sent.cookiesFrom {steps : List Step} {jar : Jar} (hjar : s.jar = jar)
    (h : Sent guard request (after guard steps s) o s') {token : CsrfToken}
    (hy : o.yield? = some token) {cookies : HeaderValue} (hc : token.cookies = some cookies) :
    CookiesFrom guard jar (observations guard steps s) o (request.url.atPath tokenPath)
      cookies := by
  obtain ⟨-, -, s₁, hf⟩ := h.of_yield hy
  obtain ⟨response, hfirst, hcaptured⟩ := hf.captured hc
  cases hj : guard.usesJar with
  | false => exact .answer hj hfirst (captured_of_pairs hj hcaptured)
  | true =>
    -- the jar has just taken in the first answer to the fetch
    have htaken : (((observations guard steps s) ++ [o]).flatMap Observation.opening).foldl
        Jar.takeIn jar = (after guard steps s).jar.takeIn
          ⟨(after guard steps s).clock, ⟨fetchRequest request, .ok response⟩⟩ := by
      have hopening : o.opening =
          [⟨(after guard steps s).clock, ⟨fetchRequest request, .ok response⟩⟩] := by
        obtain ⟨rest, hrest⟩ := List.head?_eq_some_iff.mp hfirst
        rw [Observation.opening, hrest, h.clock]
        rfl
      rw [List.flatMap_append, List.foldl_append, ← hjar, ← after_jar hj, List.flatMap_singleton,
        hopening]
      rfl
    have hyields : ((after guard steps s).jar.takeIn ⟨(after guard steps s).clock,
        ⟨fetchRequest request, .ok response⟩⟩).header? (after guard steps s).clock
          (request.url.atPath tokenPath) = some cookies := by
      unfold Csrf.captured at hcaptured
      rw [hj] at hcaptured
      split at hcaptured
      · cases hcaptured
      · exact hcaptured
    rw [← htaken] at hyields
    obtain ⟨list, hlist, hmem⟩ := header?_eq_some hyields
    refine .jar hj hlist fun c hcookie => ?_
    obtain ⟨hstored, hadmits⟩ := hmem c hcookie
    refine ⟨StoredCookie.admits_scope hadmits, ?_⟩
    rcases Jar.mem_foldl_takeIn hstored with hinitial | ⟨a, ha, hset⟩
    · exact .inl hinitial
    · exact .inr ⟨a, ha, hset, hset.admits⟩

/-! ## Runs -/

/-- A fetch of the history for the request `source` has handed out the token: the requests of the
fetch go to the origin of `source`, and the cookies of the token come with it. -/
def FetchedFor (guard : Guard) (jar : Jar) (history : List Observation) (source : Request)
    (token : CsrfToken) : Prop :=
  ∃ before o after answer, history = before ++ o :: after ∧ HandsOut o source token answer ∧
    (∀ trip ∈ o.fetches, trip.request.url.origin = source.url.origin) ∧
    ∀ cookies, token.cookies = some cookies →
      CookiesFrom guard jar before o (source.url.atPath tokenPath) cookies

theorem Source.fetchedFor {steps : List Step} {past later : List Observation}
    (h : observations guard steps s = past ++ o :: later) {source : Request} {token : CsrfToken}
    {answer : Response} (hs : Source guard past o source token answer) :
    FetchedFor guard s.jar (past ++ [o]) source token := by
  obtain ⟨o', ho', hhands⟩ := hs.handsOut
  obtain ⟨before, after, hcut⟩ := List.append_of_mem ho'
  have hwhole : observations guard steps s = before ++ o' :: (after ++ later) := by
    have hpast : past ++ o :: later = (past ++ [o]) ++ later := by simp
    rw [h, hpast, hcut]
    simp
  obtain ⟨steps', step, -, -, hbefore, hobserve⟩ := observations_cut hwhole
  obtain rfl : step = .send source := by
    have hstep := hhands.step
    rw [hobserve] at hstep
    exact hstep
  have hsent := send_sent guard source (Csrf.after guard steps' s)
  rw [← hobserve] at hsent
  refine ⟨before, o', after, answer, hcut, hhands, fun trip ht => ?_, fun cookies hc => ?_⟩
  · rw [(hhands.asked trip ht).2, Url.atPath_origin]
  · rw [hbefore]
    exact hsent.cookiesFrom rfl hhands.yield hc

/-- **Where tokens and session cookies go.** In every run of a guarded transport, over requests to
any origins: what is added to a request is the token that was fetched last, for this request or for
an earlier one, at the origin of the request that it was fetched for, together with the cookies that
came with it. So in a run over one origin all tokens are from there. -/
theorem tokens_fetched_at_origin_of_source (guard : Guard) (s : Session) (steps : List Step) :
    (∀ past o later, observations guard steps (forget s) = past ++ o :: later →
      (∀ request, o.step = .send request → isProtected request.method = true →
        request.body ≠ .stream → ∀ own ∈ o.own, Adds guard past o request own.request) ∧
      ∀ source token answer, Source guard past o source token answer →
        FetchedFor guard s.jar (past ++ [o]) source token) ∧
    ∀ origin, (∀ o ∈ observations guard steps (forget s), ∀ request, o.step = .send request →
        isProtected request.method = true → request.url.origin = origin) →
      ∀ past o later, observations guard steps (forget s) = past ++ o :: later →
        ∀ source token answer, Source guard past o source token answer →
          source.url.origin = origin := by
  refine ⟨fun past o later h => ⟨fun request ho hm hb => step_adds h ho hm hb,
    fun source token answer hs => Source.fetchedFor (s := forget s) h hs⟩, ?_⟩
  intro origin hone past o later h source token answer hs
  obtain ⟨o', ho', hhands⟩ := hs.handsOut
  refine hone o' ?_ source hhands.step hhands.changes
  have hpast : past ++ o :: later = (past ++ [o]) ++ later := by simp
  rw [h, hpast]
  exact List.mem_append_left _ ho'

/-- A request to change something at an origin. -/
def changeAt (host : String) (port : Option Nat) : Request :=
  .plain "POST"
    { scheme := "https", username := "", password := none, host := some (.name host), port
      path := .segments ["x"], query := none, fragment := none }

/-- A service that opens a session with a cookie for the whole host and hands out a token. -/
def sessionResponses (pair token : String) : List Response :=
  [{ status := 200, headers := [(setCookie, literalValue (pair ++ "; Path=/"))], body := [] },
    { status := 200, headers := [(tokenHeader, literalValue token)], body := [] },
    { status := 204, headers := [], body := [] }]

/-- Two runs in which something crosses origins. The token and the cookies that one host has handed
out are sent to another one, which has not been asked for any. And with a jar, a cookie that came
with a token is sent along with the next token to another port of the host. -/
theorem tokens_cross_origins :
    let asked (guard : Guard) (steps : List Step) (responses : List Response) : List Origin :=
      (observations guard steps (forget (.replaying responses))).flatMap fun o =>
        o.fetches.map (·.request.url.origin)
    let own (guard : Guard) (steps : List Step) (responses : List Response) :
        List (Origin × List HeaderValue × List HeaderValue) :=
      (observations guard steps (forget (.replaying responses))).flatMap fun o =>
        o.own.map fun trip =>
          (trip.request.url.origin, trip.request.headers.getAll tokenHeader,
            trip.request.headers.getAll cookie)
    let first := changeAt "a" none
    let other := changeAt "b" none
    let port := changeAt "a" (some 8443)
    let session := sessionResponses "s=1" "t"
    let sessions := session ++ sessionResponses "r=2" "u"
    (asked ⟨standardTimeout, false⟩ [.send first, .send other] session =
        [first.url.origin, first.url.origin] ∧
      own ⟨standardTimeout, false⟩ [.send first, .send other] session =
        [(first.url.origin, [literalValue "t"], [literalValue "s=1"]),
          (other.url.origin, [literalValue "t"], [literalValue "s=1"])]) ∧
      asked ⟨standardTimeout, true⟩ [.send first, .forget, .send port] sessions =
        [first.url.origin, first.url.origin, port.url.origin, port.url.origin] ∧
      own ⟨standardTimeout, true⟩ [.send first, .forget, .send port] sessions =
        [(first.url.origin, [literalValue "t"], [literalValue "s=1"]),
          (port.url.origin, [literalValue "u"], [literalValue "s=1; r=2"])] := by
  decide +kernel

end Csrf

end DeployService
