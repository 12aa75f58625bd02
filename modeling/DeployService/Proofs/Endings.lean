import DeployService.Proofs.Acknowledgement
import DeployService.Proofs.Failures
import DeployService.Proofs.TokenUse

/-!
# How a call ends

One call obtains a token, makes its request ready, sends it after what is fetched for it, and
finishes the outcome (`Client.Runs`). `Client.Ends` lists how that can end, with what has been sent
until then, and whatever the sources of tokens and the wire do. What was sent tells the endings
apart.
-/

namespace DeployService

open DeployService.Http DeployService.Text

/-! ## Requests over the wire -/

theorem Wire.Grew.outcome_eq {w w' : Wire} {t : List RoundTrip} (h : w.Grew t w')
    {trip : RoundTrip} (ht : trip ∈ t) : ∃ i, trip.outcome = w.answers i := by
  obtain ⟨ha, htraffic⟩ := h
  have hmem : trip ∈ w'.traffic := by
    rw [htraffic]
    exact List.mem_append_right _ ht
  rw [Wire.traffic, List.mem_mapIdx] at hmem
  obtain ⟨i, hi, rfl⟩ := hmem
  exact ⟨i, by rw [ha]⟩

/-- What comes of a request that can be copied: the failure of a fetch for it, or what became of
the request itself. -/
theorem Transport.wired_cases (guard : Option Csrf.Guard) (request : Request)
    (hb : request.body ≠ .stream) (s : Session) :
    ∃ t, s.toWire.Grew t (Transport.wired guard request s).2.toWire ∧
      ((∃ trip e, (∀ trip ∈ t, trip.IsFetchFor request.method) ∧ t.getLast? = some trip ∧
          trip.outcome = .error e ∧
          (Transport.wired guard request s).1 =
            .error (e.within "Failed to fetch CSRF token")) ∨
        ∃ fetches own, t = fetches ++ [own] ∧ (∀ trip ∈ fetches, trip.IsFetchFor request.method) ∧
          own.request.method = request.method ∧
          (Transport.wired guard request s).1 = own.outcome) := by
  cases guard with
  | none =>
    refine ⟨[⟨request, s.next⟩], Session.grew_sending request s, .inr ?_⟩
    exact ⟨[], ⟨request, s.next⟩, rfl, by simp, rfl, rfl⟩
  | some guard =>
    show ∃ t, s.toWire.Grew t (Transport.guarded guard .direct request s).2.toWire ∧
      ((∃ trip e, _ ∧ _ ∧ _ ∧ (Transport.guarded guard .direct request s).1 = _) ∨
        ∃ fetches own, _ ∧ _ ∧ _ ∧ (Transport.guarded guard .direct request s).1 = _)
    obtain ⟨t, hp⟩ := Csrf.prepare_prepared guard request s
    rw [Csrf.guarded_eq]
    rcases hr : Csrf.prepare guard .direct request s with ⟨e | own, s'⟩ <;> rw [hr] at hp
    · refine ⟨t, hp.grew, .inl ?_⟩
      have hfetches := hp.fetches
      cases hp with
      | streaming _ hb' => exact absurd hb' hb
      | unfetched _ _ _ hf =>
        obtain ⟨trip, e', hl, ho, rfl⟩ := hf.last_of_error
        exact ⟨trip, e', hfetches, hl, ho, rfl⟩
    · refine ⟨t ++ [⟨own, s'.next⟩], ?_, .inr ?_⟩
      · simp only [Csrf.settle_toWire]
        exact hp.grew.trans (Session.grew_sending own s')
      · exact ⟨t, ⟨own, s'.next⟩, rfl, hp.fetches, hp.same_target.1, rfl⟩

theorem Exchange.finish_error {α : Type} (x : Exchange α) (e : Error) :
    x.finish (.error e) = .error e.classify := rfl

/-! ## The endings of a call -/

namespace Client

variable {α : Type}

/-- Whatever fails outside a client during a call, fails with such an error: the source of its token
and the wire. -/
structure FailsWith (P : Error → Prop) (c : Client) (s : Session) (t : List RoundTrip) :
    Prop where
  token : ∀ e, (Session.nextToken c.supply s).1 = .error e → P e
  trips : ∀ trip ∈ t, ∀ e, trip.outcome = .error e → P e

/-- A call obtains a token, makes its request ready, and sends it; the outcome is finished. -/
theorem run_eq (c : Client) (x : Exchange α) (s : Session) :
    c.run x s =
      match Session.nextToken c.supply s with
      | (.error e, s') => (.error e.classify, s')
      | (.ok token, s') =>
        match c.channel.ready x.endpoint token s' with
        | .error fault => (.error fault.classify, s')
        | .ok request =>
          (x.finish (c.transport request s').1,
            match c.transport request s' with
            | (.error _, s'') => s''
            | (.ok response, s'') => s''.storeCookies request.url response) := by
  unfold Client.run
  rw [Call.bind_ofExcept_eq]
  unfold Client.send
  rcases ht : Session.nextToken c.supply s with ⟨e | token, s'⟩
  · have herror : (Session.nextToken c.supply).mapError Error.classify s =
        (.error e.classify, s') := by
      rw [Call.mapError_eq, ht]
      rfl
    rw [Call.bind_error herror]
    rfl
  · have hok : (Session.nextToken c.supply).mapError Error.classify s = (.ok token, s') := by
      rw [Call.mapError_eq, ht]
      rfl
    rw [Call.bind_ok hok, Call.mapError_eq, Channel.submit_eq]
    rcases hr : c.channel.ready x.endpoint token s' with fault | request <;> simp only [hr] <;> rfl

/-- How a call goes in the session `s`: its result, and the session after it. When the transport is
done, only the cookies change. -/
inductive Runs (c : Client) (x : Exchange α) (s : Session) : Except Error α → Session → Prop where
  /-- There is no token. -/
  | tokenless {e : Error} {s' : Session} (ht : Session.nextToken c.supply s = (.error e, s')) :
    Runs c x s (.error e.classify) s'
  /-- The request cannot be made ready. -/
  | unready {token : Token} {s' : Session} {e : Error}
    (ht : Session.nextToken c.supply s = (.ok token, s'))
    (h : c.channel.ready x.endpoint token s' = .error e) : Runs c x s (.error e.classify) s'
  /-- The request is handed to the transport. -/
  | sent {token : Token} {s' s'' : Session} {request : Request} {jar : Jar}
    (ht : Session.nextToken c.supply s = (.ok token, s'))
    (h : c.channel.ready x.endpoint token s' = .ok request)
    (hs : s'' = { (c.transport request s').2 with jar := jar }) :
    Runs c x s (x.finish (c.transport request s').1) s''

theorem run_runs (c : Client) (x : Exchange α) (s : Session) :
    c.Runs x s (c.run x s).1 (c.run x s).2 := by
  rw [run_eq]
  rcases ht : Session.nextToken c.supply s with ⟨e | token, s'⟩
  · exact .tokenless ht
  · rcases hr : c.channel.ready x.endpoint token s' with fault | request
    · simp only [hr]
      exact .unready ht hr
    · simp only [hr]
      rcases ho : c.transport request s' with ⟨e | response, s''⟩
      · have hsame : s'' = { (c.transport request s').2 with jar := s''.jar } := by rw [ho]
        have hrun := Runs.sent ht hr hsame
        rw [ho] at hrun
        exact hrun
      · have hstored : s''.storeCookies request.url response =
            { (c.transport request s').2 with
              jar := (s''.storeCookies request.url response).jar } := by
          rw [ho]
          rfl
        have hrun := Runs.sent ht hr hstored
        rw [ho] at hrun
        exact hrun

/-- How a call can end in the session `s`: what is sent for it, and its result. -/
inductive Ends (c : Client) (x : Exchange α) (s : Session) :
    List RoundTrip → Except Error α → Prop where
  /-- There is no token. -/
  | tokenless {e : Error} (h : (Session.nextToken c.supply s).1 = .error e) :
    Ends c x s [] (.error e.classify)
  /-- The request cannot be made ready. -/
  | unready {token : Token} {s' : Session} {e : Error}
    (ht : Session.nextToken c.supply s = (.ok token, s'))
    (h : c.channel.ready x.endpoint token s' = .error e) : Ends c x s [] (.error e.classify)
  /-- A fetch for the request fails. -/
  | unfetched {token : Token} {s' : Session} {request : Request} {t : List RoundTrip}
    {trip : RoundTrip} {e : Error} (ht : Session.nextToken c.supply s = (.ok token, s'))
    (h : c.channel.ready x.endpoint token s' = .ok request)
    (hf : ∀ trip ∈ t, trip.IsFetchFor x.endpoint.method) (hl : t.getLast? = some trip)
    (ho : trip.outcome = .error e) :
    Ends c x s t (.error (e.within "Failed to fetch CSRF token").classify)
  /-- The request is sent, after what is fetched for it. -/
  | sent {token : Token} {s' : Session} {request : Request} {t : List RoundTrip} {own : RoundTrip}
    (ht : Session.nextToken c.supply s = (.ok token, s'))
    (h : c.channel.ready x.endpoint token s' = .ok request)
    (hf : ∀ trip ∈ t, trip.IsFetchFor x.endpoint.method)
    (hm : own.request.method = x.endpoint.method) : Ends c x s (t ++ [own]) (x.finish own.outcome)

theorem Runs.ends {c : Client} {x : Exchange α} {s s₁ : Session} {r : Except Error α}
    (h : c.Runs x s r s₁) {guard : Option Csrf.Guard} (hc : c.transport = .wired guard) :
    ∃ t, s.toWire.Grew t s₁.toWire ∧ c.Ends x s t r := by
  have hwire : (Session.nextToken c.supply s).2.toWire = s.toWire := rfl
  rw [← hwire]
  cases h with
  | tokenless ht =>
    rw [ht]
    exact ⟨[], .refl _, .tokenless (by rw [ht])⟩
  | unready ht hr =>
    rw [ht]
    exact ⟨[], .refl _, .unready ht hr⟩
  | @sent token s' _ request jar ht hr hs =>
    obtain ⟨plain, value, hplain, rfl⟩ := Channel.ready_ok hr
    obtain ⟨hm, -, -, hb⟩ := Channel.request_parts hplain
    obtain ⟨t, hg, hcases⟩ := Transport.wired_cases guard
      { plain with headers := plain.headers.insert Http.userAgent value } hb s'
    rw [← hc] at hg hcases
    rw [ht, hs]
    refine ⟨t, hg, ?_⟩
    rcases hcases with ⟨trip, e, hf, hl, ho, hres⟩ | ⟨fetches, own, rfl, hf, hmo, hres⟩
    · rw [hres]
      exact .unfetched ht hr (fun trip h => hm ▸ hf trip h) hl ho
    · rw [hres]
      exact .sent ht hr (fun trip h => hm ▸ hf trip h) (hmo.trans hm)

theorem run_ends (c : Client) (guard : Option Csrf.Guard) (hc : c.transport = .wired guard)
    (x : Exchange α) (s : Session) :
    ∃ t, s.toWire.Grew t (c.run x s).2.toWire ∧ c.Ends x s t (c.run x s).1 :=
  (c.run_runs x s).ends hc

namespace Ends

variable {c : Client} {x : Exchange α} {s : Session} {t : List RoundTrip} {r : Except Error α}
  {trip : RoundTrip} {e : Error}

theorem of_token_error (h : c.Ends x s t r) (ht : (Session.nextToken c.supply s).1 = .error e) :
    t = [] ∧ r = .error e.classify := by
  cases h with
  | tokenless h =>
    rw [h] at ht
    cases ht
    exact ⟨rfl, rfl⟩
  | unready ht' => simp [ht'] at ht
  | unfetched ht' => simp [ht'] at ht
  | sent ht' => simp [ht'] at ht

theorem of_ready_error (h : c.Ends x s t r) {token : Token}
    (ht : (Session.nextToken c.supply s).1 = .ok token)
    (hr : ∀ s', c.channel.ready x.endpoint token s' = .error e) :
    t = [] ∧ r = .error e.classify := by
  cases h with
  | tokenless h => simp [h] at ht
  | unready ht' h =>
    rw [ht'] at ht
    cases ht
    rw [hr] at h
    cases h
    exact ⟨rfl, rfl⟩
  | unfetched ht' h =>
    rw [ht'] at ht
    cases ht
    rw [hr] at h
    cases h
  | sent ht' h =>
    rw [ht'] at ht
    cases ht
    rw [hr] at h
    cases h

theorem of_fetch_error (h : c.Ends x s t r) (hl : t.getLast? = some trip)
    (hf : trip.IsFetchFor x.endpoint.method) (ho : trip.outcome = .error e) :
    r = .error (e.within "Failed to fetch CSRF token").classify := by
  cases h with
  | tokenless => simp at hl
  | unready => simp at hl
  | unfetched _ _ _ hl' ho' =>
    rw [hl'] at hl
    cases hl
    rw [ho'] at ho
    cases ho
    rfl
  | sent _ _ _ hm =>
    rw [List.getLast?_concat] at hl
    cases hl
    exact absurd hm hf.method_ne

/-- The result of a call whose own request was sent. -/
theorem of_own (h : c.Ends x s t r) (ht : trip ∈ t)
    (hm : trip.request.method = x.endpoint.method) : r = x.finish trip.outcome := by
  cases h with
  | tokenless => simp at ht
  | unready => simp at ht
  | unfetched _ _ hf => exact absurd hm (hf trip ht).method_ne
  | sent _ _ hf =>
    rcases List.mem_append.mp ht with ht | ht
    · exact absurd hm (hf trip ht).method_ne
    · rw [List.mem_singleton.mp ht]

/-- A call fails for good only if something outside the client says that it has succeeded. -/
theorem isRetryable (h : c.Ends x s t (.error e)) (hx : x.ReadsPlainly)
    (hf : c.FailsWith (·.classify.isRetryable = true) s t) : e.isRetryable = true := by
  generalize hr : (Except.error e : Except Error α) = r at h
  cases h with
  | tokenless h =>
    cases hr
    exact hf.token _ h
  | unready _ h =>
    cases hr
    have hplain := Channel.ready_plain h
    rw [hplain.classify_eq]
    exact hplain.isRetryable
  | unfetched _ _ _ hl ho =>
    cases hr
    rw [Error.isRetryable_within]
    exact hf.trips _ (List.mem_of_getLast? hl) _ ho
  | @sent _ _ _ _ own _ _ _ _ =>
    rcases ho : own.outcome with fault | response
    · rw [ho, x.finish_error] at hr
      cases hr
      exact hf.trips own (by simp) fault ho
    · rw [ho] at hr
      cases hs : isSuccess response.status with
      | true =>
        rw [x.finish_accepted hs] at hr
        exact (hx response e hr.symm).isRetryable
      | false =>
        rw [x.finish_refused hs, errorOf_classify] at hr
        cases hr
        simp [Error.isRetryable, Error.of, hs]

end Ends

end Client

/-! ## Failures of a network -/

/-- Whatever fails outside the clients, fails with such an error: the sources of tokens and the
wire. -/
structure Network.FailsWith (P : Error → Prop) (n : Network) : Prop where
  wire : ∀ i e, n.answers i = .error e → P e
  tokens : ∀ j i e, (n.tokens j).answers i = .error e → P e

theorem Network.FailsWith.client {P : Error → Prop} {n : Network} (hn : n.FailsWith P)
    (hwithin : ∀ context e, P e → P (e.within context)) (hplain : ∀ message, P (.plain message))
    (c : OpenClient) {t : List RoundTrip} {w : Wire} (hg : n.toWire.Grew t w) :
    c.client.FailsWith P (Network.session c n) t := by
  constructor
  · intro e h
    rcases TokenSupply.next_error h with ⟨i, fault, ha, rfl | rfl⟩ | rfl
    · exact hn.tokens _ i _ ha
    · exact hwithin _ _ (hn.tokens _ i _ ha)
    · exact hplain _
  · intro trip ht e ho
    obtain ⟨i, hi⟩ := hg.outcome_eq ht
    exact hn.wire i e (hi.symm.trans ho)

end DeployService
