import DeployService.Proofs.TokenUse

/-!
# Where a token comes from

A guarded transport keeps a token without a word about the fetch that it came with. The history
still knows: the token that a request carries is from the last fetch that has handed one out, either
the one made for this very request (`Source.fetched`) or one of an earlier step (`Source.kept`).

`step_adds` says that this is all that a step can add to its request. It holds for each step of a
run, because a run can be cut at any of its observations (`observations_cut`).
-/

namespace DeployService.Csrf

open DeployService.Http

variable {guard : Guard}

/-! ## Cutting a run -/

/-- An observation in a run is that of a step from the session after the steps before it. -/
theorem observations_cut {steps : List Step} {s : Session} {past later : List Observation}
    {o : Observation} (h : observations guard steps s = past ++ o :: later) :
    ∃ before step rest, steps = before ++ step :: rest ∧ past = observations guard before s ∧
      o = observe guard step (after guard before s) := by
  induction steps generalizing s past with
  | nil => simp [observations] at h
  | cons step steps ih =>
    rw [observations] at h
    cases past with
    | nil =>
      obtain ⟨rfl, -⟩ := List.cons.inj h
      exact ⟨[], step, steps, rfl, rfl, rfl⟩
    | cons first past =>
      obtain ⟨rfl, hrest⟩ := List.cons.inj h
      obtain ⟨before, step', rest, rfl, rfl, ho⟩ := ih hrest
      exact ⟨step :: before, step', rest, rfl, rfl, ho⟩

/-! ## Fetches that hand out a token -/

/-- The answer to the last one of some requests, if there is an answer. -/
def lastAnswer? (t : List RoundTrip) : Option Response :=
  t.getLast?.bind fun trip => trip.outcome.toOption

/-- The answer that ends the fetch of a step. -/
def Observation.answer? (o : Observation) : Option Response := lastAnswer? o.fetches

/-- In the step `o`, which sends `request`, a token is fetched for it, and `answer` hands it out. -/
structure HandsOut (o : Observation) (request : Request) (token : CsrfToken) (answer : Response) :
    Prop where
  step : o.step = .send request
  changes : isProtected request.method = true
  yield : o.yield? = some token
  answered : o.answer? = some answer
  value : answer.headers.get? tokenHeader = some token.value
  /-- The token is asked for where the request goes. -/
  asked : ∀ trip ∈ o.fetches, trip.request.method = "GET" ∧
    trip.request.url = request.url.atPath tokenPath

theorem value_of_tokenOf? {response : Response} {cookies : Option HeaderValue} {now : Int}
    {token : CsrfToken} (h : tokenOf? response cookies now = some token) :
    response.headers.get? tokenHeader = some token.value := by
  obtain ⟨value, hvalue, rfl⟩ := Option.map_eq_some_iff.mp h
  exact hvalue

theorem isSome_tokenOf? {response : Response}
    (h : (response.headers.get? tokenHeader).isSome = true) (cookies : Option HeaderValue)
    (now : Int) : ∃ token, tokenOf? response cookies now = some token := by
  obtain ⟨value, hvalue⟩ := Option.isSome_iff_exists.mp h
  exact ⟨_, Option.map_eq_some_iff.mpr ⟨value, hvalue, rfl⟩⟩

variable {request : Request} {s s' : Session} {t : List RoundTrip}

theorem Fetched.asked {r : Except Error (Option CsrfToken)} (h : Fetched guard request s t r s') :
    ∀ trip ∈ t, trip.request.method = "GET" ∧ trip.request.url = request.url.atPath tokenPath := by
  cases h <;> simp [fetchRequest, fetchAgain]

theorem Fetched.answered {token : CsrfToken}
    (h : Fetched guard request s t (.ok (some token)) s') :
    ∃ answer, lastAnswer? t = some answer ∧
      answer.headers.get? tokenHeader = some token.value := by
  generalize hr : (Except.ok (some token) : Except Error (Option CsrfToken)) = r at h
  cases h with
  | failed => cases hr
  | failedAgain => cases hr
  | @once response _ _ _ _ =>
    exact ⟨response, rfl, value_of_tokenOf? (Except.ok.inj hr).symm⟩
  | @twice _ last _ _ _ _ _ _ =>
    exact ⟨last, rfl, value_of_tokenOf? (Except.ok.inj hr).symm⟩

/-- Whatever its status is, the last answer to a fetch hands out a token if it has one. -/
theorem Fetched.hands_out {r : Except Error (Option CsrfToken)}
    (h : Fetched guard request s t r s') {answer : Response} (ha : lastAnswer? t = some answer)
    (hv : (answer.headers.get? tokenHeader).isSome = true) :
    ∃ token, r = .ok (some token) := by
  cases h with
  | failed => cases ha
  | failedAgain => cases ha
  | once _ _ _ =>
    obtain rfl := Option.some.inj ha
    obtain ⟨token, htoken⟩ := isSome_tokenOf? hv none s.clock
    exact ⟨token, congrArg Except.ok htoken⟩
  | @twice _ _ cookies _ _ _ _ _ =>
    obtain rfl := Option.some.inj ha
    obtain ⟨token, htoken⟩ := isSome_tokenOf? hv (some cookies) s.clock
    exact ⟨token, congrArg Except.ok htoken⟩

variable {o : Observation}

/-- A request for which a token is fetched is sent afterwards. -/
theorem Sent.of_yield (h : Sent guard request s o s') {token : CsrfToken}
    (hy : o.yield? = some token) :
    isProtected request.method = true ∧ o.own ≠ [] ∧
      ∃ s₁, Fetched guard request s o.fetches (.ok (some token)) s₁ := by
  have hfetches : Observation.handedOut? s.clock o.fetches = some token := by
    rw [← hy, Observation.yield?, h.clock]
  rcases h.course with ⟨e, hp, -, -⟩ | ⟨own, s₁, hp, ho, -, -⟩
  · generalize o.fetches = t at hp hfetches
    cases hp with
    | streaming => cases hfetches
    | unfetched _ _ _ hf =>
      have hnone := hf.handedOut
      rw [hfetches] at hnone
      cases hnone
  · generalize hr : (Except.ok own : Except Error Request) = r at hp
    generalize o.fetches = t at hp hfetches
    cases hp with
    | safe => cases hfetches
    | kept => cases hfetches
    | streaming => cases hr
    | unfetched => cases hr
    | @fetched _ token' s₂ hm _ _ hf =>
      have hsome := hf.handedOut
      rw [hfetches] at hsome
      obtain rfl : some token = token' := hsome
      exact ⟨hm, by simp [ho], s₂, hf⟩

theorem Sent.handsOut (h : Sent guard request s o s') {token : CsrfToken}
    (hy : o.yield? = some token) : ∃ answer, HandsOut o request token answer := by
  obtain ⟨hm, -, s₁, hf⟩ := h.of_yield hy
  obtain ⟨answer, ha, hv⟩ := hf.answered
  exact ⟨answer, h.step, hm, hy, ha, hv, hf.asked⟩

theorem Sent.yields (h : Sent guard request s o s') {answer : Response}
    (ha : o.answer? = some answer) (hv : (answer.headers.get? tokenHeader).isSome = true) :
    ∃ token, o.yield? = some token := by
  have hyield : o.yield? = Observation.handedOut? s.clock o.fetches := by
    rw [Observation.yield?, h.clock]
  have hlast : lastAnswer? o.fetches = some answer := ha
  have hfetched : ∀ {r : Except Error (Option CsrfToken)} {s₁ : Session},
      Fetched guard request s o.fetches r s₁ → ∃ token, o.yield? = some token := by
    intro r s₁ hf
    obtain ⟨token, rfl⟩ := hf.hands_out hlast hv
    exact ⟨token, hyield.trans hf.handedOut⟩
  have hne : o.fetches ≠ [] := by
    intro hnil
    rw [hnil] at hlast
    cases hlast
  rcases h.course with ⟨e, hp, -, -⟩ | ⟨own, s₁, hp, -, -, -⟩
  · generalize o.fetches = t at hp hfetched hne
    cases hp with
    | streaming => exact absurd rfl hne
    | unfetched _ _ _ hf => exact hfetched hf
  · generalize o.fetches = t at hp hfetched hne
    cases hp with
    | safe => exact absurd rfl hne
    | kept => exact absurd rfl hne
    | fetched _ _ _ hf => exact hfetched hf

/-- Only the sending of a request can have to do with a token. -/
theorem observe_sent {step : Step} (h : (observe guard step s).fetches ≠ []) :
    ∃ request s', step = .send request ∧ Sent guard request s (observe guard step s) s' := by
  cases step with
  | send request => exact ⟨request, _, rfl, send_sent guard request s⟩
  | forget => exact absurd rfl h
  | wait milliseconds => exact absurd rfl h

theorem fetches_ne_nil_of_yield {token : CsrfToken} (h : o.yield? = some token) :
    o.fetches ≠ [] := by
  intro hnil
  rw [Observation.yield?, hnil] at h
  cases h

/-! ## The last fetch that has handed out a token -/

/-- The last token of a history was fetched for `source` and handed out by `answer`. -/
def LastHandedOut (past : List Observation) (source : Request) (token : CsrfToken)
    (answer : Response) : Prop :=
  ∃ before o after, past = before ++ o :: after ∧ HandsOut o source token answer ∧
    ∀ o' ∈ after, o'.yield? = none

theorem LastHandedOut.of_latest {steps : List Step} {token : CsrfToken}
    (h : latest? (observations guard steps s) = some token) :
    ∃ source answer, LastHandedOut (observations guard steps s) source token answer := by
  obtain ⟨before, o, after, hcut, hy, hafter⟩ := latest_cut h
  obtain ⟨steps', step, -, -, -, ho⟩ := observations_cut hcut
  have hfetches := fetches_ne_nil_of_yield hy
  rw [ho] at hfetches
  obtain ⟨source, s', -, hsent⟩ := observe_sent hfetches
  rw [← ho] at hsent
  obtain ⟨answer, hhands⟩ := hsent.handsOut hy
  exact ⟨source, answer, before, o, after, hcut, hhands, hafter⟩

/-- Where the token is from that may be added in the step `o` to a request: it was fetched for
`source`, and `answer` handed it out. -/
inductive Source (guard : Guard) (past : List Observation) (o : Observation) :
    Request → CsrfToken → Response → Prop where
  /-- It is fetched in this step. -/
  | fetched {source : Request} {token : CsrfToken} {answer : Response}
    (h : HandsOut o source token answer) : Source guard past o source token answer
  /-- It may be used again, and was fetched last. -/
  | kept {source : Request} {token : CsrfToken} {answer : Response}
    (hv : Valid guard past o.clock token) (h : LastHandedOut past source token answer) :
    Source guard past o source token answer

theorem Source.handsOut {past : List Observation} {source : Request} {token : CsrfToken}
    {answer : Response} (h : Source guard past o source token answer) :
    ∃ o' ∈ past ++ [o], HandsOut o' source token answer := by
  cases h with
  | fetched h => exact ⟨o, by simp, h⟩
  | kept _ h =>
    obtain ⟨before, o', after, rfl, hhands, -⟩ := h
    exact ⟨o', by simp, hhands⟩

/-- What a step adds to the request that it sends: nothing if there is no token for it, and
otherwise the token. -/
inductive Adds (guard : Guard) (past : List Observation) (o : Observation) (request : Request) :
    Request → Prop where
  | nothing (h : ∀ source token answer, ¬Source guard past o source token answer) :
    Adds guard past o request request
  | token {own source : Request} {token : CsrfToken} {answer : Response}
    (h : Source guard past o source token answer) (hc : Carries token request own) :
    Adds guard past o request own

/-- What each step of a run adds to its request. -/
theorem step_adds {steps : List Step} {past later : List Observation}
    (h : observations guard steps (forget s) = past ++ o :: later) (ho : o.step = .send request)
    (hm : isProtected request.method = true) (hb : request.body ≠ .stream) :
    ∀ own ∈ o.own, Adds guard past o request own.request := by
  obtain ⟨before, step, -, -, hpast, hobserve⟩ := observations_cut h
  obtain rfl : step = .send request := by
    rw [hobserve] at ho
    exact ho
  have htracks := (Tracks.of_forget guard s).run before
  rw [List.nil_append, ← hpast] at htracks
  have hsent := send_sent guard request (after guard before (forget s))
  rw [← hobserve] at hsent
  have hprotects := htracks.protects hm hb hsent
  intro own hown
  by_cases hvalid : ∃ token, Valid guard past o.clock token
  · obtain ⟨token, hvalid⟩ := hvalid
    obtain ⟨hlatest, hcarries⟩ := hprotects.kept token hvalid
    rw [hpast] at hlatest
    obtain ⟨source, answer, hlast⟩ := LastHandedOut.of_latest hlatest
    rw [← hpast] at hlast
    exact .token (.kept hvalid hlast) (hcarries own hown)
  · have hfetches := hprotects.fetches_iff.mpr hvalid
    cases hy : o.yield? with
    | some token =>
      obtain ⟨answer, hhands⟩ := hsent.handsOut hy
      exact .token (.fetched hhands) (hprotects.fetched token hy own hown)
    | none =>
      rw [hprotects.without hfetches hy own hown]
      refine .nothing fun source token answer hsource => ?_
      cases hsource with
      | fetched hhands =>
        have hyield := hhands.yield
        rw [hy] at hyield
        cases hyield
      | kept hv _ => exact hvalid ⟨token, hv⟩

end DeployService.Csrf
