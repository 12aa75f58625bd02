import DeployService.Proofs.HeaderFields
import DeployService.Proofs.Reports

/-!
# What a credential decides about

Two runs of the same call with two credentials. The requests that they send differ in the values of
the `Authorization` headers at most, and nothing else differs: neither results nor errors, neither
cookies nor tokens against forged requests.

`Request.Alike` and `Session.Alike` say what may differ. A transport is blind (`Transport.Blind`) if
it does alike things with alike requests. Everything that a client is made of is, up to the texts of
its errors, so that no message can show a credential.
-/

namespace DeployService

open DeployService.Http DeployService.Text

/-! ## Headers without secrets -/

namespace Http.Headers

/-- A header field, without its value if that is secret. -/
def maskedField (field : String × HeaderValue) : String × HeaderValue :=
  if isSecret field.1 then (field.1, []) else field

@[simp] theorem maskedField_fst (field : String × HeaderValue) :
    (maskedField field).1 = field.1 := by
  unfold maskedField
  split <;> rfl

/-- The headers with the values of the secret ones left out. -/
def masked (headers : Headers) : Headers := headers.map maskedField

variable {name : String} {value value' : HeaderValue} {headers headers' : Headers}

theorem filter_masked (p : String → Bool) (headers : Headers) :
    headers.masked.filter (fun field => p field.1) =
      Headers.masked (headers.filter fun field => p field.1) := by
  have hname : (fun field : String × HeaderValue => p field.1) ∘ maskedField =
      fun field => p field.1 := by
    funext field
    simp
  rw [masked, List.filter_map, hname]
  rfl

/-- Headers that are chosen by their names from alike headers. -/
theorem masked_filter (h : headers.masked = headers'.masked) (p : String → Bool) :
    Headers.masked (headers.filter fun field => p field.1) =
      Headers.masked (headers'.filter fun field => p field.1) := by
  rw [← filter_masked, ← filter_masked, h]

/-- Alike headers are alike after a header has been set, to the same value unless it is secret. -/
theorem masked_insert (name : String) (h : headers.masked = headers'.masked)
    (hv : isSecret name = false → value = value') :
    (headers.insert name value).masked = (headers'.insert name value').masked := by
  have hothers := masked_filter h fun other => decide (other ≠ name)
  have hlast : Headers.masked [(name, value)] = Headers.masked [(name, value')] := by
    cases hs : isSecret name with
    | true => simp [masked, maskedField, hs]
    | false => rw [hv hs]
  have happend : ∀ fields fields' : Headers, Headers.masked (fields ++ fields') =
      Headers.masked fields ++ Headers.masked fields' := fun _ _ => List.map_append
  unfold insert
  rw [happend, happend, hothers, hlast]

/-- The values of a header that is not secret can be seen. -/
theorem getAll_eq_of_masked (h : headers.masked = headers'.masked) (hn : isSecret name = false) :
    headers.getAll name = headers'.getAll name := by
  have hseen : ∀ fields : Headers, fields.getAll name =
      (Headers.masked (fields.filter fun field => decide (field.1 = name))).map (·.2) := by
    intro fields
    rw [getAll, masked, List.map_map]
    refine List.map_congr_left fun field hf => ?_
    have hname : field.1 = name := by simpa using (List.mem_filter.mp hf).2
    simp [maskedField, hname, hn]
  rw [hseen, hseen, masked_filter h fun other => decide (other = name)]

/-- Whether a header has a value can always be seen. -/
theorem isSome_get?_of_masked (h : headers.masked = headers'.masked) (name : String) :
    (headers.get? name).isSome = (headers'.get? name).isSome := by
  have hlength : ∀ fields : Headers, (fields.getAll name).length =
      (Headers.masked (fields.filter fun field => decide (field.1 = name))).length := by
    intro fields
    rw [getAll, masked, List.length_map, List.length_map]
  have hsame : (headers.getAll name).length = (headers'.getAll name).length := by
    rw [hlength, hlength, masked_filter h fun other => decide (other = name)]
  unfold get?
  cases hh : headers.getAll name <;> cases hh' : headers'.getAll name <;>
    simp [hh, hh'] at hsame ⊢

/-- A header that is copied from alike headers. -/
theorem masked_insertSome_get? {copied copied' : Headers} (h : headers.masked = headers'.masked)
    (hc : copied.masked = copied'.masked) (name : String) :
    (copied.insertSome name (headers.get? name)).masked =
      (copied'.insertSome name (headers'.get? name)).masked := by
  have hsome := isSome_get?_of_masked h name
  have hvalue : isSecret name = false → headers.get? name = headers'.get? name := by
    intro hn
    rw [get?, get?, getAll_eq_of_masked h hn]
  rcases hg : headers.get? name with _ | value <;>
    rcases hg' : headers'.get? name with _ | value' <;>
    rw [hg, hg'] at hsome hvalue
  · exact hc
  · cases hsome
  · cases hsome
  · exact masked_insert name hc fun hn => Option.some.inj (hvalue hn)

end Http.Headers

/-! ## What may differ -/

/-- The request with its secrets left out. -/
def Http.Request.masked (request : Request) : Request :=
  { request with headers := request.headers.masked }

/-- The requests differ in their secrets at most. -/
def Http.Request.Alike (request request' : Request) : Prop := request.masked = request'.masked

/-- The sessions are the same, but for secrets in the requests that have been sent. -/
def Session.Alike (s s' : Session) : Prop :=
  ∃ sent, s' = { s with sent := sent } ∧ sent.map Request.masked = s.sent.map Request.masked

/-- The networks are the same, but for secrets in the requests that have been sent. -/
def Network.Alike (n n' : Network) : Prop :=
  ∃ sent, n' = { n with sent := sent } ∧ sent.map Request.masked = n.sent.map Request.masked

theorem Network.Alike.refl (n : Network) : n.Alike n := ⟨n.sent, rfl, rfl⟩

namespace Http.Request.Alike

variable {request request' : Request}

theorem headers (h : request.Alike request') : request.headers.masked = request'.headers.masked :=
  congrArg Request.headers h

theorem same_target (h : request.Alike request') :
    request'.method = request.method ∧ request'.url = request.url ∧
      request'.body = request.body := by
  have hm := congrArg Request.method h
  have hu := congrArg Request.url h
  have hb := congrArg Request.body h
  exact ⟨hm.symm, hu.symm, hb.symm⟩

/-- Requests are alike if they ask for the same thing with alike headers. -/
theorem of_headers {method : String} {url : Url} {headers headers' : Headers} {body : Body}
    (h : headers.masked = headers'.masked) :
    Request.Alike ⟨method, url, headers, body⟩ ⟨method, url, headers', body⟩ := by
  rw [Request.Alike, masked, masked, h]

/-- Alike requests stay alike when the same header is set. -/
theorem insert (h : request.Alike request') (name : String) (value : HeaderValue) :
    Request.Alike { request with headers := request.headers.insert name value }
      { request' with headers := request'.headers.insert name value } := by
  obtain ⟨hm, hu, hb⟩ := h.same_target
  rw [hm, hu, hb]
  exact of_headers (Headers.masked_insert name h.headers fun _ => rfl)

end Http.Request.Alike

/-! ## Calls that do alike things -/

namespace Call

variable {σ τ α β : Type} {R : σ → σ → Prop} {x x' : Call σ α}

/-- In related states the two calls have the same result, and the states after them are related. -/
def Related (R : σ → σ → Prop) (x x' : Call σ α) : Prop :=
  ∀ s s', R s s' → (x s).1 = (x' s').1 ∧ R (x s).2 (x' s').2

theorem Related.ofExcept (r : Except Error α) : Related R (Call.ofExcept r) (Call.ofExcept r) :=
  fun _ _ h => ⟨rfl, h⟩

theorem Related.pure (a : α) : Related R (Pure.pure a) (Pure.pure a) := fun _ _ h => ⟨rfl, h⟩

theorem Related.bind {f f' : α → Call σ β} (hx : Related R x x')
    (hf : ∀ a, Related R (f a) (f' a)) : Related R (x >>= f) (x' >>= f') := by
  intro s s' h
  obtain ⟨hr, hs⟩ := hx s s' h
  rcases h₁ : x s with ⟨e | a, s₁⟩ <;> rcases h₂ : x' s' with ⟨e' | a', s₂⟩ <;>
    simp only [h₁, h₂] at hr hs
  · rw [bind_error h₁, bind_error h₂]
    exact ⟨by simpa using hr, hs⟩
  · cases hr
  · cases hr
  · obtain rfl : a = a' := by simpa using hr
    rw [bind_ok h₁, bind_ok h₂]
    exact hf a s₁ s₂ hs

theorem Related.mapError (hx : Related R x x') (f : Error → Error) :
    Related R (x.mapError f) (x'.mapError f) := by
  intro s s' h
  obtain ⟨hr, hs⟩ := hx s s' h
  simp only [mapError_eq]
  exact ⟨by rw [hr], hs⟩

theorem Related.within (hx : Related R x x') (context : String) :
    Related R (x.within context) (x'.within context) := hx.mapError _

/-- Related calls are related when they are retried: they are retried equally often. -/
theorem Related.retried {pause : Nat → σ → σ} (hx : Related R x x')
    (hp : ∀ ms s s', R s s' → R (pause ms s) (pause ms s')) (p : RetryPolicy) :
    Related R (p.call pause x) (p.call pause x') := by
  obtain ⟨n, interval⟩ := p
  induction n with
  | zero => exact hx
  | succ n ih =>
    intro s s' h
    obtain ⟨hr, hs⟩ := hx s s' h
    rw [RetryPolicy.call_succ, RetryPolicy.call_succ, ← hr]
    split
    · exact ih _ _ (hp interval _ _ hs)
    · exact ⟨hr, hs⟩

/-- A call that has nothing to do with what was sent. -/
theorem Related.of_unsent {x : Call Session α}
    (h : ∀ s sent, x { s with sent := sent } = ((x s).1, { (x s).2 with sent := sent })) :
    Related Session.Alike x x := by
  rintro s s' ⟨sent, rfl, hsent⟩
  have hkeeps : (x s).2.sent = s.sent := by
    have hs := h s s.sent
    exact congrArg (fun r => r.2.sent) hs
  rw [h s sent]
  refine ⟨rfl, sent, rfl, ?_⟩
  rw [hkeeps]
  exact hsent

end Call

/-- The transport does alike things with alike requests. -/
def Transport.Blind (base : Transport) : Prop :=
  ∀ request request' : Request, request.Alike request' →
    Call.Related Session.Alike (base request) (base request')

theorem Transport.direct_blind : Transport.Blind .direct := by
  rintro request request' hr s s' ⟨sent, rfl, hsent⟩
  have hlength : sent.length = s.sent.length := by
    have hmapped := congrArg List.length hsent
    simpa using hmapped
  have hnext : ({ s with sent := sent } : Session).next = s.next := by
    show s.answers sent.length = s.answers s.sent.length
    rw [hlength]
  rw [direct_eq, direct_eq, hnext]
  refine ⟨rfl, sent ++ [request'], rfl, ?_⟩
  show (sent ++ [request']).map Request.masked = (s.sent ++ [request]).map Request.masked
  rw [List.map_append, List.map_append, hsent, List.map_singleton, List.map_singleton, hr]

/-! ## Transports -/

namespace Csrf

variable {base : Transport} {request request' : Request}

theorem fetchRequest_alike (h : request.Alike request') :
    (fetchRequest request).Alike (fetchRequest request') := by
  let asked : Headers :=
    [(tokenHeader, literalValue fetchValue), (contentType, literalValue "application/json")]
  have hasked : asked.masked = asked.masked := rfl
  have hcredential := Headers.masked_insertSome_get? h.headers hasked authorization
  have hagent := Headers.masked_insertSome_get? h.headers hcredential userAgent
  have hcopied := Headers.masked_insertSome_get? h.headers hagent cookie
  unfold fetchRequest
  rw [h.same_target.2.1]
  exact .of_headers hcopied

theorem protectWith_alike (token : Option CsrfToken) (h : request.Alike request') :
    (protectWith token request).Alike (protectWith token request') := by
  cases token with
  | none => exact h
  | some token =>
    have htoken := h.insert token.header token.value
    cases hc : token.cookies with
    | none =>
      simp only [protectWith, apply, hc]
      exact htoken
    | some cookies =>
      simp only [protectWith, apply, hc]
      exact htoken.insert cookie cookies

theorem sessionCookies_related (guard : Guard) (url : Url) (response : Response) :
    Call.Related Session.Alike (sessionCookies guard url response)
      (sessionCookies guard url response) := by
  refine .of_unsent fun s sent => ?_
  rw [sessionCookies_eq, sessionCookies_eq]
  unfold opened
  split <;> rfl

theorem fetch_related (guard : Guard) (hb : base.Blind) (h : request.Alike request') :
    Call.Related Session.Alike (fetch guard base request) (fetch guard base request') := by
  have hfetch := fetchRequest_alike h
  have hurl : (fetchRequest request').url = (fetchRequest request).url := hfetch.same_target.2.1
  have hclock : Call.Related Session.Alike (Call.read (·.clock)) (Call.read (·.clock)) :=
    .of_unsent fun _ _ => rfl
  unfold fetch
  refine Call.Related.bind ((hb _ _ hfetch).within _) fun response => ?_
  rw [hurl]
  refine (sessionCookies_related guard _ response).bind fun cookies => ?_
  cases cookies with
  | none => exact hclock.bind fun now => .pure _
  | some cookies =>
    have hagain := hfetch.insert cookie cookies
    rw [hurl] at hagain
    exact Call.Related.bind ((hb _ _ hagain).within _) fun response =>
      hclock.bind fun now => .pure _

/-- Keeps a token. -/
def keep (token : Option CsrfToken) : Call Session (Option CsrfToken) := fun s =>
  (.ok token, { s with csrf := token })

theorem updateToken_of_valid {guard : Guard} {s : Session} {token : CsrfToken}
    (h : valid? guard s = some token) (base : Transport) (request : Request) :
    updateToken guard base request s = (.ok (some token), s) := by
  rw [updateToken, h]

theorem updateToken_of_none {guard : Guard} {s : Session} (h : valid? guard s = none)
    (base : Transport) (request : Request) :
    updateToken guard base request s = (fetch guard base request >>= keep) s := by
  unfold updateToken
  rw [h]
  rcases hf : fetch guard base request s with ⟨e | token, s₁⟩
  · rw [Call.bind_error hf]
  · rw [Call.bind_ok hf]
    rfl

theorem updateToken_related (guard : Guard) (hb : base.Blind) (h : request.Alike request') :
    Call.Related Session.Alike (updateToken guard base request)
      (updateToken guard base request') := by
  intro s s' hs
  have hvalid : valid? guard s' = valid? guard s := by
    obtain ⟨sent, rfl, -⟩ := hs
    rfl
  cases hv : valid? guard s with
  | some token =>
    rw [updateToken_of_valid hv, updateToken_of_valid (hvalid.trans hv)]
    exact ⟨rfl, hs⟩
  | none =>
    have hkeep : ∀ token, Call.Related Session.Alike (keep token) (keep token) :=
      fun token => .of_unsent fun _ _ => rfl
    rw [updateToken_of_none hv, updateToken_of_none (hvalid.trans hv)]
    exact Call.Related.bind (fetch_related guard hb h) hkeep s s' hs

end Csrf

theorem Transport.guarded_blind (guard : Csrf.Guard) {base : Transport} (hb : base.Blind) :
    (Transport.guarded guard base).Blind := by
  intro request request' h
  have hforget : Call.Related Session.Alike (Call.modify Csrf.forget) (Call.modify Csrf.forget) :=
    .of_unsent fun _ _ => rfl
  obtain ⟨hmethod, hurl, hbody⟩ := h.same_target
  unfold Transport.guarded
  rw [hmethod]
  split
  · -- a stream cannot be copied, and the error says so without looking at the headers
    by_cases hs : request.body = .stream
    · have hcopy : copyOf request' = copyOf request := by
        simp [copyOf, Request.copy?, hbody, hs, hurl]
      have hfailed : ∃ e, copyOf request = .error e := copyOf_eq_error hs
      obtain ⟨e, he⟩ := hfailed
      rw [hcopy, he]
      exact fun s s' hs => ⟨rfl, hs⟩
    · rw [copyOf_eq_ok hs, copyOf_eq_ok (hbody ▸ hs)]
      intro s s' hs
      rw [Call.bind_ok (Call.ofExcept_eq _ _), Call.bind_ok (Call.ofExcept_eq _ _)]
      refine Call.Related.bind (Csrf.updateToken_related guard hb h) (fun token => ?_) s s' hs
      refine Call.Related.bind (hb _ _ (Csrf.protectWith_alike token h)) fun response => ?_
      split
      · exact hforget.bind fun _ => .pure _
      · exact .pure _
  · exact hb _ _ h

theorem Transport.wired_blind (guard : Option Csrf.Guard) : (Transport.wired guard).Blind := by
  cases guard with
  | none => exact direct_blind
  | some guard => exact guarded_blind guard direct_blind

/-! ## Channels and clients -/

/-- Either both credentials may be header values, or none of them. -/
def Token.SameForm (token token' : Token) : Prop :=
  (headerValue? token.value).isSome = (headerValue? token'.value).isSome

theorem isSome_headerValue?_append (a b : String) :
    (headerValue? (a ++ b)).isSome =
      ((headerValue? a).isSome && (headerValue? b).isSome) := by
  have hbytes : Utf8.encode (a ++ b) = Utf8.encode a ++ Utf8.encode b := by
    simp [Utf8.encode, Utf8.encodeChars]
  have hallowed : ∀ s : String, (headerValue? s).isSome = (Utf8.encode s).all isValueByte := by
    intro s
    unfold headerValue?
    cases h : (Utf8.encode s).all isValueByte <;> simp [h]
  rw [hallowed, hallowed, hallowed, hbytes, List.all_append]

/-- What is said about a credential that is no header value does not depend on it. -/
theorem Token.SameForm.header {token token' : Token} (h : token.SameForm token') :
    (∃ value value', token.header = .ok value ∧ token'.header = .ok value') ∨
      ∃ fault, token.header = .error fault ∧ token'.header = .error fault := by
  have hscheme : (headerValue? ("Bearer " ++ token.value)).isSome =
      (headerValue? ("Bearer " ++ token'.value)).isSome := by
    rw [isSome_headerValue?_append, isSome_headerValue?_append, h]
  unfold Token.header
  rcases hv : headerValue? ("Bearer " ++ token.value) with _ | value <;>
    rcases hv' : headerValue? ("Bearer " ++ token'.value) with _ | value' <;>
    rw [hv, hv'] at hscheme
  · exact .inr ⟨_, rfl, rfl⟩
  · cases hscheme
  · cases hscheme
  · exact .inl ⟨value, value', rfl, rfl⟩

namespace Channel

variable {c : Channel} {e : Endpoint} {token token' : Token} {s : Session}

theorem headers_alike (h : token.SameForm token') (e : Endpoint) (cookies : Option HeaderValue) :
    (∃ hs hs' : Headers, headers e token cookies = .ok hs ∧
        headers e token' cookies = .ok hs' ∧ hs.masked = hs'.masked) ∨
      ∃ fault, headers e token cookies = .error fault ∧
        headers e token' cookies = .error fault := by
  unfold Channel.headers Token.authenticate
  rcases h.header with ⟨value, value', hv, hv'⟩ | ⟨fault, hv, hv'⟩
  · rw [hv, hv']
    refine .inl ⟨_, _, rfl, rfl, ?_⟩
    have hcredential : ∀ hs : Headers,
        (hs.insert authorization value).masked = (hs.insert authorization value').masked :=
      fun hs => Headers.masked_insert authorization rfl fun hn => by cases hn
    cases cookies with
    | none => exact hcredential _
    | some cookies => exact Headers.masked_insert cookie (hcredential _) fun _ => rfl
  · rw [hv, hv']
    exact .inr ⟨fault, rfl, rfl⟩

theorem ready_alike (h : token.SameForm token') (c : Channel) (e : Endpoint) (s : Session) :
    (∃ request request', c.ready e token s = .ok request ∧ c.ready e token' s = .ok request' ∧
        request.Alike request') ∨
      ∃ fault, c.ready e token s = .error fault ∧ c.ready e token' s = .error fault := by
  unfold ready Channel.request
  rcases hu : c.url e with fault | url
  · exact .inr ⟨fault, rfl, rfl⟩
  · rcases headers_alike h e (s.cookies? url) with ⟨hs, hs', hh, hh', hmasked⟩ | ⟨fault, hh, hh'⟩
    · simp only [hh, hh', bind, Except.bind, pure, Except.pure]
      cases headerValue? c.userAgent with
      | none => exact .inr ⟨_, rfl, rfl⟩
      | some agent =>
        refine .inl ⟨_, _, rfl, rfl, ?_⟩
        exact .of_headers (Headers.masked_insert Http.userAgent hmasked fun _ => rfl)
    · simp only [hh, hh', bind, Except.bind]
      exact .inr ⟨fault, rfl, rfl⟩

/-- A request that is ready is sent, and what comes of it is looked at. -/
theorem submit_of_ready {base : Transport} {request : Request}
    (hr : c.ready e token s = .ok request) :
    c.submit base e token s =
      (base request >>= fun response => do
        Call.modify (Session.storeCookies request.url response)
        Call.ofExcept (checkStatus e.id response)) s := by
  rw [submit_eq, hr]
  rcases hb : base request s with ⟨fault | response, s₁⟩ <;> simp only [hb]
  · rw [Call.bind_error hb]
    rfl
  · rw [Call.bind_ok hb]
    rfl

theorem submit_related {base : Transport} (hb : base.Blind) (h : token.SameForm token')
    (c : Channel) (e : Endpoint) :
    Call.Related Session.Alike (c.submit base e token) (c.submit base e token') := by
  intro s s' hs
  have hsame : c.ready e token' s' = c.ready e token' s := by
    obtain ⟨sent, rfl, -⟩ := hs
    rfl
  rcases ready_alike h c e s with ⟨request, request', hr, hr', halike⟩ | ⟨fault, hr, hr'⟩
  · have hstore : ∀ response, Call.Related Session.Alike
        (Call.modify (Session.storeCookies request.url response))
        (Call.modify (Session.storeCookies request.url response)) :=
      fun response => .of_unsent fun _ _ => rfl
    rw [submit_of_ready hr, submit_of_ready (hsame.trans hr'), halike.same_target.2.1]
    refine Call.Related.bind (hb _ _ halike) (fun response => ?_) s s' hs
    exact (hstore response).bind fun _ => .ofExcept _
  · rw [submit_eq, submit_eq, hsame, hr, hr']
    exact ⟨rfl, hs⟩

end Channel

/-- The client with a credential of its own. -/
def Client.carrying (c : Client) (value : String) : Client := { c with supply := .fixed value }

/-- The client with a credential of its own. -/
def OpenClient.carrying (c : OpenClient) (value : String) : OpenClient :=
  { c with client := c.client.carrying value }

variable {α : Type} {value value' : String}

theorem Client.run_carrying (c : Client) (value : String) (x : Exchange α) :
    (c.carrying value).run x =
      ((c.channel.submit c.transport x.endpoint ⟨value⟩).mapError Error.classify >>=
        fun response => Call.ofExcept (x.read response)) := by
  have hsend : (c.carrying value).send x.endpoint =
      (c.channel.submit c.transport x.endpoint ⟨value⟩).mapError Error.classify := by
    funext s
    have htoken : (Session.nextToken (.fixed value)).mapError Error.classify s =
        (.ok ⟨value⟩, s) := rfl
    exact Call.bind_ok htoken
  unfold Client.run
  rw [hsend]

theorem Client.runUnder_related (c : Client) (hb : c.transport.Blind)
    (h : Token.SameForm ⟨value⟩ ⟨value'⟩) (policy : Option RetryPolicy) (x : Exchange α) :
    Call.Related Session.Alike ((c.carrying value).runUnder policy x)
      ((c.carrying value').runUnder policy x) := by
  have hrun :
      Call.Related Session.Alike ((c.carrying value).run x) ((c.carrying value').run x) := by
    rw [run_carrying, run_carrying]
    exact ((Channel.submit_related hb h c.channel x.endpoint).mapError _).bind fun response =>
      .ofExcept _
  cases policy with
  | none => exact hrun
  | some p =>
    refine hrun.retried ?_ p
    rintro ms s s' ⟨sent, rfl, hsent⟩
    exact ⟨sent, rfl, hsent⟩

theorem OpenClient.run_related (c : OpenClient) (guard : Option Csrf.Guard)
    (h : Token.SameForm ⟨value⟩ ⟨value'⟩) (x : Exchange α) :
    Call.Related Network.Alike (((c.wired guard).carrying value).run x)
      (((c.wired guard).carrying value').run x) := by
  rintro n n' ⟨sent, rfl, hsent⟩
  have hsession : Session.Alike (Network.session c n) (Network.session c { n with sent := sent }) :=
    ⟨sent, rfl, hsent⟩
  obtain ⟨hr, later, hs, hlater⟩ := (c.wired guard).client.runUnder_related
    (Transport.wired_blind guard) h c.policy x _ _ hsession
  refine ⟨hr, later, ?_, hlater⟩
  have hrun : (((c.wired guard).carrying value').run x { n with sent := sent }).2 =
      Network.update c { n with sent := sent }
        (((c.wired guard).client.carrying value').runUnder c.policy x
          (Network.session c { n with sent := sent })).2 := rfl
  rw [hrun, hs]
  rfl

/-- **A credential decides about nothing else.** Every call of the four services, with whatever
arguments, retried or not and whether the transport is guarded or not, made with two credentials of
the same form in networks that differ in secrets at most: the results are the same, and the networks
after the calls differ in secrets at most. -/
theorem credentials_stay_secret (c : OpenClient) (guard : Option Csrf.Guard) (value value' : String)
    (h : (headerValue? value).isSome = (headerValue? value').isSome) :
    let client := (c.wired guard).carrying value
    let client' := (c.wired guard).carrying value'
    (∀ (scope : RestScope) {α : Type} (call : RestCall α), Call.Related Network.Alike
      ((RestClient.mk client scope).service call) ((RestClient.mk client' scope).service call)) ∧
    (∀ {α : Type} (call : OperationsCall α), Call.Related Network.Alike
      ((OperationsClient.mk client).service call) ((OperationsClient.mk client').service call)) ∧
    (∀ (space : String) {α : Type} (call : LookupCall α), Call.Related Network.Alike
      ((LookupClient.mk client space).service call)
      ((LookupClient.mk client' space).service call)) ∧
    ∀ (serviceId : String) {α : Type} (call : ProcessCall α), Call.Related Network.Alike
      ((ProcessClient.mk client serviceId).service call)
      ((ProcessClient.mk client' serviceId).service call) :=
  ⟨fun scope _ call => c.run_related guard h (call.exchange scope),
    fun call => c.run_related guard h call.exchange,
    fun space _ call => c.run_related guard h (call.exchange space),
    fun _ _ call => c.run_related guard h call.exchange⟩

/-- A retried call over a guarded transport, with a credential. -/
def purgingWith (value : String) : Call Network Unit :=
  let c := (OpenClient.toHost "example.com" restBasePath).retrying .standard
  (RestClient.mk ((c.wired (some ⟨Csrf.standardTimeout, true⟩)).carrying value)
    ⟨"org", "dev"⟩).service (.purgeConfiguration "org" "dev")

/-- A service that hands out a token, and is not available at first. -/
def unavailableAtFirst : Network :=
  .replaying
    [{ status := 200, headers := [(Csrf.tokenHeader, literalValue "t")], body := [] },
      { status := 503, headers := [], body := [] }, { status := 204, headers := [], body := [] }]

/-- Each of the three requests shows whose call it was, and nothing else does. -/
theorem attempts_with_two_credentials :
    (headerValue? "one").isSome = (headerValue? "another").isSome ∧
      Call.Related Network.Alike (purgingWith "one") (purgingWith "another") ∧
      (purgingWith "one" unavailableAtFirst).1 = (purgingWith "another" unavailableAtFirst).1 ∧
      (purgingWith "one" unavailableAtFirst).2.sent.map (·.headers.getAll authorization) =
        List.replicate 3 [literalValue "Bearer one"] ∧
      (purgingWith "another" unavailableAtFirst).2.sent.map (·.headers.getAll authorization) =
        List.replicate 3 [literalValue "Bearer another"] := by
  have hform : (headerValue? "one").isSome = (headerValue? "another").isSome := by decide +kernel
  have hrelated : Call.Related Network.Alike (purgingWith "one") (purgingWith "another") :=
    (credentials_stay_secret ((OpenClient.toHost "example.com" restBasePath).retrying .standard)
      (some ⟨Csrf.standardTimeout, true⟩) "one" "another" hform).1 ⟨"org", "dev"⟩
      (.purgeConfiguration "org" "dev")
  obtain ⟨hresult, -⟩ := hrelated unavailableAtFirst unavailableAtFirst (.refl _)
  refine ⟨hform, hrelated, hresult, ?_, ?_⟩
  · decide +kernel
  · decide +kernel

end DeployService
