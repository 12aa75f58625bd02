import DeployService.Proofs.Endings
import DeployService.Proofs.HeaderFields

/-!
# What an attempt asks for and sends

An attempt at a call asks for a token once, whatever comes of it, and nothing else in it has to do
with the sources of tokens. Without a token nothing is sent. Over the transport that sends every
request as it is, at most one request is sent, and apart from its credential and its cookies it is
decided by the channel and the call (`Channel.IsRequest`).
-/

namespace DeployService

open DeployService.Http

variable {α : Type}

/-! ## The sources of tokens -/

theorem Csrf.opened_tokens (guard : Csrf.Guard) (url : Url) (response : Response) (s : Session) :
    (Csrf.opened guard url response s).tokens = s.tokens := by
  unfold Csrf.opened
  split <;> rfl

theorem Csrf.Fetched.tokens {guard : Csrf.Guard} {request : Request} {s s' : Session}
    {t : List RoundTrip} {r : Except Error (Option CsrfToken)}
    (h : Csrf.Fetched guard request s t r s') : s'.tokens = s.tokens := by
  cases h with
  | failed => rfl
  | once _ hs _ =>
    rw [hs, Csrf.opened_tokens]
    rfl
  | @failedAgain response cookies s₁ e _ hs _ _ =>
    have hfirst : s₁.tokens = s.tokens := by
      rw [hs, Csrf.opened_tokens]
      rfl
    exact hfirst
  | @twice response last cookies s₁ _ hs _ _ =>
    have hfirst : s₁.tokens = s.tokens := by
      rw [hs, Csrf.opened_tokens]
      rfl
    exact hfirst

/-- No transport has anything to do with the access tokens. -/
theorem Transport.wired_tokens (guard : Option Csrf.Guard) (request : Request) (s : Session) :
    (Transport.wired guard request s).2.tokens = s.tokens := by
  cases guard with
  | none => rfl
  | some guard =>
    show (Transport.guarded guard .direct request s).2.tokens = s.tokens
    have hsettle : ∀ (own : Request) (outcome : Except Error Response) (s' : Session),
        (Csrf.settle own outcome s').tokens = s'.tokens := by
      intro own outcome s'
      unfold Csrf.settle
      split <;> rfl
    obtain ⟨t, hp⟩ := Csrf.prepare_prepared guard request s
    have hprepare : (Csrf.prepare guard .direct request s).2.tokens = s.tokens := by
      generalize Csrf.prepare guard .direct request s = r at hp
      obtain ⟨r, s'⟩ := r
      cases hp with
      | safe => rfl
      | streaming => rfl
      | kept => rfl
      | unfetched _ _ _ hf => exact hf.tokens
      | fetched _ _ _ hf => exact hf.tokens
    rw [Csrf.guarded_eq]
    rcases hr : Csrf.prepare guard .direct request s with ⟨e | own, s'⟩ <;> rw [hr] at hprepare
    · exact hprepare
    · simp only [hsettle]
      exact hprepare

theorem TokenSource.ask_answers (source : TokenSource) (s : TokenState) :
    (source.ask s).2.answers = s.answers := by
  cases source <;> rfl

theorem TokenSource.ask_asked (source : TokenSource) (s : TokenState) :
    (source.ask s).2.asked = s.asked + 1 := by
  cases source <;> rfl

theorem TokenState.current_answers (source : TokenSource) (now : Int) (s : TokenState) :
    (TokenState.current source now s).2.answers = s.answers := by
  unfold TokenState.current
  split
  · rfl
  · have hask := source.ask_answers s
    unfold TokenState.refresh
    rcases ha : source.ask s with ⟨e | printed, s'⟩ <;> rw [ha] at hask
    · rw [Call.bind_error ha]
      exact hask
    · rw [Call.bind_ok ha]
      cases Token.ofPrinted? printed <;> exact hask

theorem TokenSupply.next_answers (supply : TokenSupply) (now : Int) (s : TokenState) :
    (supply.next now s).2.answers = s.answers := by
  unfold TokenSupply.next
  rw [Call.map_eq]
  cases supply with
  | fixed => rfl
  | each source => exact source.ask_answers s
  | kept source => exact TokenState.current_answers source now s

namespace Client.Runs

variable {c : Client} {x : Exchange α} {s s₁ : Session} {r : Except Error α}

/-- The token of a call is asked for once, and nothing else in the call has to do with it. -/
theorem tokens (h : c.Runs x s r s₁) {guard : Option Csrf.Guard} (hc : c.transport = .wired guard) :
    s₁.tokens = (c.supply.next (wholeSeconds s.clock) s.tokens).2 := by
  have hnext : (Session.nextToken c.supply s).2.tokens =
      (c.supply.next (wholeSeconds s.clock) s.tokens).2 := rfl
  rw [← hnext]
  cases h with
  | tokenless ht => rw [ht]
  | unready ht _ => rw [ht]
  | @sent token s' _ request jar ht _ hs =>
    have hsent := Transport.wired_tokens guard request s'
    rw [ht, hs, hc]
    exact hsent

/-- Nothing is sent without a token. -/
theorem without_token (h : c.Runs x s r s₁) {e : Error}
    (ht : (c.supply.next (wholeSeconds s.clock) s.tokens).1 = .error e) :
    r = .error e.classify ∧ s₁.toWire = s.toWire := by
  have hnext : (Session.nextToken c.supply s).1 = .error e := ht
  have hwire : (Session.nextToken c.supply s).2.toWire = s.toWire := rfl
  cases h with
  | tokenless h =>
    rw [h] at hnext hwire
    cases hnext
    exact ⟨rfl, hwire⟩
  | unready h _ =>
    rw [h] at hnext
    cases hnext
  | sent h _ _ =>
    rw [h] at hnext
    cases hnext

end Client.Runs

/-! ## The requests of a call -/

/-- The request that a channel makes for a call, as far as neither the credential nor the cookies
decide about it. -/
structure Channel.IsRequest (c : Channel) (e : Endpoint) (request : Request) : Prop where
  method : request.method = e.method
  url : c.url e = .ok request.url
  accepted : request.headers.getAll Http.accept = [literalValue e.produces]
  contentType : request.headers.getAll Http.contentType =
    if e.body.isSome then [literalValue jsonMedia] else []
  agent : ∃ value, headerValue? c.userAgent = some value ∧
    request.headers.getAll Http.userAgent = [value]
  body : request.body = e.body.elim .none .bytes

theorem Channel.ready_isRequest {c : Channel} {e : Endpoint} {token : Token} {s : Session}
    {request : Request} (h : c.ready e token s = .ok request) : c.IsRequest e request := by
  unfold Channel.ready Channel.request Channel.headers Token.authenticate at h
  rcases hu : c.url e with fault | url
  · simp [hu, bind, Except.bind] at h
  rcases ht : token.header with fault | value
  · simp [hu, ht, bind, Except.bind, Except.map] at h
  rcases ha : headerValue? c.userAgent with _ | agent
  · simp [hu, ht, ha, bind, Except.bind, Except.map, pure, Except.pure, throw, throwThe,
      MonadExceptOf.throw] at h
  simp only [hu, ht, ha, bind, Except.bind, Except.map, pure, Except.pure, Except.ok.injEq] at h
  -- the credential, the cookies and the product name do not change the other headers
  have hother : ∀ name, name ≠ Http.userAgent → name ≠ cookie → name ≠ authorization →
      request.headers.getAll name =
        Headers.getAll name (if e.body.isSome then
          Headers.insert Http.contentType (literalValue jsonMedia)
            [(Http.accept, literalValue e.produces)]
          else [(Http.accept, literalValue e.produces)]) := by
    intro name hagent hcookie hauthorization
    rw [← h]
    simp only
    rw [Headers.getAll_insert_of_ne _ _ hagent]
    cases s.cookies? url with
    | none => exact Headers.getAll_insert_of_ne _ _ hauthorization
    | some cookies =>
      show ((Headers.insert authorization value _).insert cookie cookies).getAll name = _
      rw [Headers.getAll_insert_of_ne _ _ hcookie, Headers.getAll_insert_of_ne _ _ hauthorization]
  constructor
  · rw [← h]
  · rw [← h]
    exact hu
  · rw [hother _ (by decide) (by decide) (by decide)]
    split
    · rw [Headers.getAll_insert_of_ne _ _ (by decide)]
      rfl
    · rfl
  · rw [hother _ (by decide) (by decide) (by decide)]
    split
    · rw [Headers.getAll_insert_self]
    · rfl
  · refine ⟨agent, ha, ?_⟩
    rw [← h]
    exact Headers.getAll_insert_self _ _ _
  · rw [← h]
    cases e.body <;> rfl

/-- What a call sends over the transport that sends every request as it is. -/
theorem Client.Runs.sends_once {c : Client} (hc : c.transport = .wired none) {x : Exchange α}
    {s s₁ : Session} {r : Except Error α} (h : c.Runs x s r s₁) :
    ∃ t, s.toWire.Grew t s₁.toWire ∧ t.length ≤ 1 ∧
      ∀ trip ∈ t, c.channel.IsRequest x.endpoint trip.request := by
  have hwire : (Session.nextToken c.supply s).2.toWire = s.toWire := rfl
  rw [← hwire]
  cases h with
  | tokenless ht =>
    rw [ht]
    exact ⟨[], .refl _, by simp⟩
  | unready ht _ =>
    rw [ht]
    exact ⟨[], .refl _, by simp⟩
  | @sent token s' _ request jar ht hr hs =>
    rw [ht, hs, hc]
    refine ⟨[⟨request, s'.next⟩], Session.grew_sending request s', by simp, ?_⟩
    intro trip htrip
    rw [List.mem_singleton.mp htrip]
    exact Channel.ready_isRequest hr

/-- What attempts at a call send, if each of them sends one request of a kind at most. -/
theorem Attempts.length_le {P : List RoundTrip → Except Error α → Prop} {Q : RoundTrip → Prop}
    (hP : ∀ t r, P t r → t.length ≤ 1 ∧ ∀ trip ∈ t, Q trip) {n : Nat} {t : List RoundTrip}
    {r : Except Error α} (h : Attempts P n t r) : t.length ≤ n + 1 ∧ ∀ trip ∈ t, Q trip := by
  induction h with
  | last h _ =>
    obtain ⟨hlength, hkind⟩ := hP _ _ h
    exact ⟨by omega, hkind⟩
  | again h _ _ ih =>
    obtain ⟨hlength, hkind⟩ := hP _ _ h
    obtain ⟨hlength', hkind'⟩ := ih
    refine ⟨by rw [List.length_append]; omega, fun trip ht => ?_⟩
    rcases List.mem_append.mp ht with ht | ht
    · exact hkind trip ht
    · exact hkind' trip ht

end DeployService
