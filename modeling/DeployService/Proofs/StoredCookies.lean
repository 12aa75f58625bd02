import DeployService.Proofs.SentCookies

/-!
# Which cookies are stored

Answers come in at three places: the first request for a token, the repeated one, and the request of
a call itself. What the jar holds after a run is told by the answers alone: it is the first jar with
their cookies taken in, one answer after the other (`jar_of_calls`). One kind of answer is left out.
When a token is asked for a second time within a session, the cookies of that answer are lost.
-/

namespace DeployService

open DeployService.Http

/-! ## Answers -/

/-- The `Set-Cookie` headers of the answer to a request, if there is an answer. -/
def RoundTrip.cookiesSet (trip : RoundTrip) : List HeaderValue :=
  match trip.outcome with
  | .ok response => response.headers.getAll setCookie
  | .error _ => []

/-- A round trip that was over at some time. -/
structure Arrival where
  clock : Int
  trip : RoundTrip

/-- The jar with the cookies of an answer taken in, under the URL of its request. -/
def Http.Jar.takeIn (jar : Jar) (a : Arrival) : Jar :=
  jar.store a.clock a.trip.request.url a.trip.cookiesSet

/-- The round trips were all over at the same time. -/
def arriving (clock : Int) (t : List RoundTrip) : List Arrival := t.map (Arrival.mk clock)

theorem arriving_append (clock : Int) (t t' : List RoundTrip) :
    arriving clock (t ++ t') = arriving clock t ++ arriving clock t' := List.map_append

theorem takeIn_answered (s : Session) (request : Request) (response : Response) :
    (s.storeCookies request.url response).jar =
      s.jar.takeIn ⟨s.clock, ⟨request, .ok response⟩⟩ := rfl

/-- Answers that set no cookies change nothing. -/
theorem foldl_takeIn_of_none {as : List Arrival} (h : ∀ a ∈ as, a.trip.cookiesSet = []) (jar : Jar) :
    as.foldl Jar.takeIn jar = jar := by
  induction as generalizing jar with
  | nil => rfl
  | cons a as ih =>
    have hfirst : jar.takeIn a = jar := by
      rw [Jar.takeIn, h a List.mem_cons_self]
      rfl
    rw [List.foldl_cons, hfirst]
    exact ih (fun b hb => h b (List.mem_cons_of_mem _ hb)) jar

instance (method : String) : DecidablePred (RoundTrip.IsFetchFor method) :=
  fun _ => inferInstanceAs (Decidable (_ ∧ _))

/-! ## One call -/

namespace Csrf

variable {guard : Guard} {request : Request} {s s' : Session} {t : List RoundTrip}

theorem opened_jar (hj : guard.usesJar = true) (request : Request) (response : Response)
    (s : Session) :
    (opened guard request.url response (s.sending request)).jar =
      s.jar.takeIn ⟨s.clock, ⟨request, .ok response⟩⟩ := by
  rw [opened, if_pos hj]
  rfl

/-- Of a fetch, the first answer is taken in, and no other one. -/
theorem Fetched.jar (hj : guard.usesJar = true) {r : Except Error (Option CsrfToken)}
    (h : Fetched guard request s t r s') :
    s'.jar = (arriving s.clock (t.take 1)).foldl Jar.takeIn s.jar := by
  have hfirst {response : Response} {s₁ : Session}
      (hs : s₁ = opened guard (fetchRequest request).url response
        (s.sending (fetchRequest request))) :
      s₁.jar = s.jar.takeIn ⟨s.clock, ⟨fetchRequest request, .ok response⟩⟩ := by
    rw [hs]
    exact opened_jar hj _ _ s
  cases h with
  | failed _ => rfl
  | once _ hs _ => exact hfirst hs
  -- the second request is only recorded as sent, whatever becomes of it
  | failedAgain _ hs _ _ => exact (hfirst hs :)
  | twice _ hs _ _ => exact (hfirst hs :)

theorem Fetched.length_le {r : Except Error (Option CsrfToken)}
    (h : Fetched guard request s t r s') : t.length ≤ 2 := by
  cases h <;> simp

theorem Prepared.jar (hj : guard.usesJar = true) {r : Except Error Request}
    (h : Prepared guard request s t r s') :
    s'.jar = (arriving s.clock (t.take 1)).foldl Jar.takeIn s.jar := by
  cases h with
  | safe => rfl
  | streaming => rfl
  | kept => rfl
  | unfetched _ _ _ hf => exact hf.jar hj
  | fetched _ _ _ hf => exact (hf.jar hj :)

theorem Prepared.length_le {r : Except Error Request} (h : Prepared guard request s t r s') :
    t.length ≤ 2 := by
  cases h with
  | safe => simp
  | streaming => simp
  | kept => simp
  | unfetched _ _ _ hf => exact hf.length_le
  | fetched _ _ _ hf => exact hf.length_le

theorem settle_jar (own : Request) (outcome : Except Error Response) (s : Session) :
    (settle own outcome s).jar = s.jar := by
  unfold settle
  split <;> rfl

end Csrf

namespace Channel

/-- What a call does that is submitted in the session `s`: it sends requests for a token, and then
its own request, unless something has failed before. -/
structure Stores (e : Endpoint) (s : Session) (fetches own : List RoundTrip) (s' : Session) :
    Prop where
  grew : s.toWire.Grew (fetches ++ own) s'.toWire
  asks : ∀ trip ∈ fetches, trip.IsFetchFor e.method
  asksNot : ∀ trip ∈ own, ¬trip.IsFetchFor e.method
  twice : fetches.length ≤ 2
  once : own.length ≤ 1
  jar : s'.jar = (arriving s.clock (fetches.take 1 ++ own)).foldl Jar.takeIn s.jar

theorem submit_stores {guard : Csrf.Guard} (hj : guard.usesJar = true) (c : Channel) (e : Endpoint)
    (token : Token) (s : Session) :
    ∃ fetches own, Stores e s fetches own (c.submit (.guarded guard .direct) e token s).2 := by
  have hsubmit := c.submit_eq (.guarded guard .direct) e token s
  rcases hr : c.ready e token s with fault | request
  · rw [hr] at hsubmit
    rw [hsubmit]
    exact ⟨[], [], .refl _, by simp, by simp, by simp, by simp, rfl⟩
  · simp only [hr] at hsubmit
    rw [hsubmit]
    obtain ⟨hm, -⟩ := ready_target hr
    obtain ⟨t, hp⟩ := Csrf.prepare_prepared guard request s
    have hg := Csrf.guarded_eq guard request s
    rcases hprep : Csrf.prepare guard .direct request s with ⟨fault | own, s₁⟩ <;>
      rw [hprep] at hp hg <;> simp only [hg]
    · have hfetches : ∀ trip ∈ t, trip.IsFetchFor e.method := fun trip ht => hm ▸ hp.fetches trip ht
      refine ⟨t, [], ?_, hfetches, by simp, hp.length_le, by simp, ?_⟩
      · rw [List.append_nil]
        exact hp.grew
      · rw [List.append_nil]
        exact hp.jar hj
    · have hfetches : ∀ trip ∈ t, trip.IsFetchFor e.method := fun trip ht => hm ▸ hp.fetches trip ht
      have hown : ¬RoundTrip.IsFetchFor e.method ⟨own, s₁.next⟩ := by
        intro hfetch
        exact hfetch.method_ne (hp.same_target.1.trans hm)
      have hgrew := hp.grew.trans (Session.grew_sending own s₁)
      -- the cookies of the answer are stored under the URL of the call, that of the request
      have hurl : own.url = request.url := hp.same_target.2
      have hclock : s₁.clock = s.clock := hp.clock
      have hjar := hp.jar hj
      refine ⟨t, [⟨own, s₁.next⟩], ?_, hfetches, by simpa using hown, hp.length_le, by simp, ?_⟩
      · rcases hn : s₁.next with fault | response <;> rw [hn] at hgrew
        · simp only [Csrf.settle_toWire]
          exact hgrew
        · show s.toWire.Grew _ (Csrf.settle own (.ok response) (s₁.sending own)).toWire
          rw [Csrf.settle_toWire]
          exact hgrew
      · rw [arriving_append, List.foldl_append, ← hjar]
        rcases hn : s₁.next with fault | response
        · simp only [Csrf.settle_jar]
          rfl
        · rw [← hurl, takeIn_answered, Csrf.settle_jar, Csrf.settle_toWire, ← hclock]
          rfl

end Channel

/-! ## Runs -/

/-- What has been sent for a call, and when. -/
structure Submission where
  clock : Int
  method : String
  trips : List RoundTrip

namespace Submission

/-- What has been sent between two sessions for a call that was submitted in the first one. -/
def between (e : Endpoint) (s s' : Session) : Submission :=
  ⟨s.clock, e.method, s'.traffic.drop s.traffic.length⟩

/-- The requests for a token. -/
def fetches (o : Submission) : List RoundTrip := o.trips.filter fun trip => trip.IsFetchFor o.method

/-- The request of the call itself, if it was sent. -/
def own (o : Submission) : List RoundTrip := o.trips.filter fun trip => ¬trip.IsFetchFor o.method

/-- All answers. -/
def arrivals (o : Submission) : List Arrival := arriving o.clock o.trips

/-- The answers but for the one to a repeated request for a token. -/
def stored (o : Submission) : List Arrival := arriving o.clock (o.fetches.take 1 ++ o.own)

end Submission

namespace Channel

/-- What the calls of a run have sent, the first one first. -/
def submissions (guard : Csrf.Guard) : List Step → Session → List Submission
  | [], _ => []
  | .submit c e token :: steps, s =>
    let s' := (Step.submit c e token).perform guard s
    .between e s s' :: submissions guard steps s'
  | .wait milliseconds :: steps, s =>
    submissions guard steps ((Step.wait milliseconds).perform guard s)

/-- What a run has done to the jar. -/
structure KeepsCookies (guard : Csrf.Guard) (steps : List Step) (s : Session) : Prop where
  /-- Everything that has been sent has been sent for one of the calls. -/
  grew : s.toWire.Grew ((submissions guard steps s).flatMap Submission.trips)
    (after guard steps s).toWire
  /-- First there is a request for a token, perhaps a repeated one, and then the call's own. -/
  parts : ∀ o ∈ submissions guard steps s,
    o.trips = o.fetches ++ o.own ∧ o.fetches.length ≤ 2 ∧ o.own.length ≤ 1
  jar : (after guard steps s).jar =
    ((submissions guard steps s).flatMap Submission.stored).foldl Jar.takeIn s.jar

theorem Stores.between {e : Endpoint} {s s' : Session} {fetches own : List RoundTrip}
    (h : Stores e s fetches own s') :
    (Submission.between e s s').trips = fetches ++ own ∧
      (Submission.between e s s').fetches = fetches ∧ (Submission.between e s s').own = own := by
  have htrips : (Submission.between e s s').trips = fetches ++ own := h.grew.drop
  have hasks : fetches.filter (fun trip => trip.IsFetchFor e.method) = fetches := by
    simpa using h.asks
  have hnone : own.filter (fun trip => trip.IsFetchFor e.method) = [] := by simpa using h.asksNot
  have hown : own.filter (fun trip => ¬trip.IsFetchFor e.method) = own := by simpa using h.asksNot
  have hrest : fetches.filter (fun trip => ¬trip.IsFetchFor e.method) = [] := by
    simpa using h.asks
  refine ⟨htrips, ?_, ?_⟩
  · show (Submission.between e s s').trips.filter (fun trip => trip.IsFetchFor e.method) = fetches
    rw [htrips, List.filter_append, hasks, hnone, List.append_nil]
  · show (Submission.between e s s').trips.filter (fun trip => ¬trip.IsFetchFor e.method) = own
    rw [htrips, List.filter_append, hrest, hown, List.nil_append]

theorem after_cons (guard : Csrf.Guard) (step : Step) (steps : List Step) (s : Session) :
    after guard (step :: steps) s = after guard steps (step.perform guard s) := rfl

theorem run_keepsCookies {guard : Csrf.Guard} (hj : guard.usesJar = true) (steps : List Step)
    (s : Session) : KeepsCookies guard steps s := by
  induction steps generalizing s with
  | nil => exact ⟨.refl _, by simp [submissions], rfl⟩
  | cons step steps ih =>
    cases step with
    | wait milliseconds =>
      have hrest := ih ((Step.wait milliseconds).perform guard s)
      have hwait : s.toWire.Grew [] ((Step.wait milliseconds).perform guard s).toWire :=
        .of_same rfl rfl
      exact ⟨hwait.trans hrest.grew, hrest.parts, hrest.jar⟩
    | submit c e token =>
      have hperform : (Step.submit c e token).perform guard s =
          (c.submit (.guarded guard .direct) e token s).2 := rfl
      have hsubmissions : submissions guard (.submit c e token :: steps) s =
          .between e s (c.submit (.guarded guard .direct) e token s).2 ::
            submissions guard steps (c.submit (.guarded guard .direct) e token s).2 := rfl
      have hrest := ih (c.submit (.guarded guard .direct) e token s).2
      obtain ⟨fetches, own, hstores⟩ := submit_stores hj c e token s
      obtain ⟨htrips, hfetches, hown⟩ := hstores.between
      have hafter := after_cons guard (.submit c e token) steps s
      rw [hperform] at hafter
      generalize (c.submit (.guarded guard .direct) e token s).2 = s' at *
      have hstored : (Submission.between e s s').stored =
          arriving s.clock (fetches.take 1 ++ own) := by
        rw [Submission.stored, hfetches, hown]
        rfl
      constructor
      · rw [hafter, hsubmissions, List.flatMap_cons, htrips]
        exact hstores.grew.trans hrest.grew
      · intro o ho
        rw [hsubmissions] at ho
        rcases List.mem_cons.mp ho with rfl | ho
        · rw [htrips, hfetches, hown]
          exact ⟨rfl, hstores.twice, hstores.once⟩
        · exact hrest.parts o ho
      · rw [hafter, hrest.jar, hstores.jar, hsubmissions, List.flatMap_cons, List.foldl_append,
          hstored]

/-- Without cookies in the answers that are not stored, it does not matter that they are not. -/
theorem foldl_stored_eq {all : List Submission} (hparts : ∀ o ∈ all, o.trips = o.fetches ++ o.own)
    (h : ∀ o ∈ all, ∀ trip ∈ o.fetches.drop 1, trip.cookiesSet = []) (jar : Jar) :
    (all.flatMap Submission.stored).foldl Jar.takeIn jar =
      (all.flatMap Submission.arrivals).foldl Jar.takeIn jar := by
  induction all generalizing jar with
  | nil => rfl
  | cons o all ih =>
    have hfirst : o.stored.foldl Jar.takeIn jar = o.arrivals.foldl Jar.takeIn jar := by
      have hsplit : o.trips = o.fetches.take 1 ++ (o.fetches.drop 1 ++ o.own) := by
        rw [← List.append_assoc, List.take_append_drop]
        exact hparts o List.mem_cons_self
      have hnone : ∀ a ∈ arriving o.clock (o.fetches.drop 1), a.trip.cookiesSet = [] :=
        List.forall_mem_map.mpr (h o List.mem_cons_self)
      rw [Submission.stored, Submission.arrivals, hsplit]
      simp only [arriving_append, List.foldl_append, foldl_takeIn_of_none hnone]
    rw [List.flatMap_cons, List.flatMap_cons, List.foldl_append, List.foldl_append, hfirst]
    exact ih (fun o ho => hparts o (List.mem_cons_of_mem _ ho))
      (fun o ho => h o (List.mem_cons_of_mem _ ho)) _

/-- **What the jar holds.** After every run over a jar that channels and transport share, and with
every outcome of the calls: the jar is the first one with the cookies of the answers taken in, in
the order in which they came, but for the answers to repeated requests for a token. If none of these
sets a cookie, no cookie is lost. -/
theorem jar_of_calls (timeout : Nat) (s : Session) (steps : List Step) :
    KeepsCookies ⟨timeout, true⟩ steps s ∧
      ((∀ o ∈ submissions ⟨timeout, true⟩ steps s, ∀ trip ∈ o.fetches.drop 1,
          trip.cookiesSet = []) →
        (after ⟨timeout, true⟩ steps s).jar =
          ((submissions ⟨timeout, true⟩ steps s).flatMap Submission.arrivals).foldl
            Jar.takeIn s.jar) := by
  have hkeeps := run_keepsCookies (show Csrf.Guard.usesJar ⟨timeout, true⟩ = true from rfl) steps s
  refine ⟨hkeeps, fun hsets => ?_⟩
  rw [hkeeps.jar]
  exact foldl_stored_eq (fun o ho => (hkeeps.parts o ho).1) hsets s.jar

/-- A service that opens a session with one cookie, and sets another one in the answer that has the
token. -/
def secondCookieResponses : List Response :=
  [{ status := 200, headers := [(setCookie, literalValue "a=1; Path=/")], body := [] },
    { status := 200
      headers := [(setCookie, literalValue "b=2; Path=/"), (Csrf.tokenHeader, literalValue "t")]
      body := [] },
    { status := 202, headers := [], body := [] }]

/-- The cookie that is set together with the token is lost. -/
theorem cookie_with_token_lost :
    let guard : Csrf.Guard := ⟨Csrf.standardTimeout, true⟩
    let c := Channel.of "h" "api/v1" none
    let steps : List Step := [.submit c (.post "StartMtaOperation" "/operations") ⟨"t"⟩]
    let s := Csrf.forget (.replaying secondCookieResponses)
    let received := (submissions guard steps s).flatMap Submission.arrivals
    (after guard steps s).jar ≠ received.foldl Jar.takeIn s.jar ∧
      (after guard steps s).jar.cookies.map StoredCookie.text = ["a=1"] ∧
      (received.foldl Jar.takeIn s.jar).cookies.map StoredCookie.text = ["a=1", "b=2"] := by
  decide +kernel

end Channel

end DeployService
