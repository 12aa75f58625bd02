import DeployService.Client.Lookup
import DeployService.Client.Operations
import DeployService.Client.Process
import DeployService.Client.Rest
import DeployService.Proofs.Delivery

/-!
# What can fail in a call

An error has a status in the form in which the clients report it (`Error.HasStatus`), or it is plain
(`Error.IsPlain`): everything that the client itself notices is plain. One lemma for each part of a
call says how it can fail: getting a token, making a request ready, and reading an answer. The
answer that is no success is the only one that makes an error with a status, and what it says
(`description`) is never blank.
-/

namespace DeployService

open DeployService.Http DeployService.Text DeployService.Payload

/-! ## Errors with and without a status -/

namespace Error

/-- The error has a status, in the form in which the clients report it. -/
def HasStatus (e : Error) : Prop :=
  ∃ code status description, e.cause = .client code status description

/-- The error is something that was noticed by the client or outside it, and has no status. -/
def IsPlain (e : Error) : Prop :=
  (∃ message, e.cause = .plain message) ∨ ∃ fault, e.cause = .external fault

variable {e : Error}

theorem isPlain_plain (message : String) : (Error.plain message).IsPlain := .inl ⟨message, rfl⟩

theorem isPlain_externalIn (context : String) (fault : External) :
    (externalIn context fault).IsPlain := .inr ⟨fault, rfl⟩

theorem IsPlain.within (h : e.IsPlain) (context : String) : (e.within context).IsPlain := h

theorem IsPlain.classify_eq (h : e.IsPlain) : e.classify = e := by
  rcases h with ⟨message, h⟩ | ⟨fault, h⟩ <;> simp [classify, h]

theorem IsPlain.not_hasStatus (h : e.IsPlain) : ¬e.HasStatus := by
  rintro ⟨code, status, description, hc⟩
  rcases h with ⟨message, h⟩ | ⟨fault, h⟩ <;> simp [h] at hc

theorem IsPlain.isRetryable (h : e.IsPlain) : e.isRetryable = true := by
  rcases h with ⟨message, h⟩ | ⟨fault, h⟩ <;> simp [Error.isRetryable, h]

theorem IsPlain.classify_isRetryable (h : e.IsPlain) : e.classify.isRetryable = true := by
  rw [h.classify_eq]
  exact h.isRetryable

theorem isRetryable_within (context : String) (e : Error) :
    (e.within context).classify.isRetryable = e.classify.isRetryable := by
  obtain ⟨contexts, cause⟩ := e
  cases cause <;> rfl

end Error

/-! ## What an answer that is no success says -/

/-- The body of an answer that is no success, if there is something to be read in it, or else the
text of its status. -/
def description (response : Response) : String :=
  match readBody response with
  | .ok body =>
    if (Utf8.decodeLossy body).toList.any (!isBlank ·) then Utf8.decodeLossy body
    else reason response.status
  | .error _ => reason response.status

theorem reason_not_blank (code : Nat) : isBlankText (reason code) = false := by
  unfold reason reason?
  split <;> decide

theorem description_not_blank (response : Response) :
    isBlankText (description response) = false := by
  unfold description
  split
  · split
    · next h =>
      rw [isBlankText, List.all_eq_false]
      simpa using h
    · exact reason_not_blank response.status
  · exact reason_not_blank response.status

theorem errorOf_classify (operation : String) (response : Response) :
    (errorOf operation response).classify =
      .of (.client response.status (reason response.status) (description response)) := by
  unfold errorOf description
  rcases readBody response with _ | body
  · rfl
  · cases hb : isBlankText (Utf8.decodeLossy body) with
    | true =>
      have hany : (Utf8.decodeLossy body).toList.any (!isBlank ·) = false := by
        rw [List.any_eq_false]
        simpa [isBlankText] using hb
      simp [hb, hany, Error.classify, Error.of]
    | false =>
      have hany : (Utf8.decodeLossy body).toList.any (!isBlank ·) = true := by
        rw [List.any_eq_true]
        simpa [isBlankText] using hb
      simp [hb, hany, Error.classify, Error.of]

/-! ## Failures of making a request ready -/

theorem Channel.url_plain {c : Channel} {e : Endpoint} {fault : Error}
    (h : c.url e = .error fault) : fault.IsPlain := by
  unfold Channel.url at h
  simp only at h
  split at h
  · cases h
  · cases h
    exact Error.isPlain_externalIn _ _

theorem Token.header_plain {token : Token} {fault : Error} (h : token.header = .error fault) :
    fault.IsPlain := by
  unfold Token.header at h
  split at h
  · cases h
  · cases h
    exact Error.isPlain_externalIn _ _

/-- The failure of a product name that is no header value. -/
def unnamed (agent : String) : Error :=
  .externalIn ("Invalid User-Agent value " ++ Text.quoted agent) .header

/-- Why a request cannot be made ready: its URL, its credential or its product name, in this order. -/
theorem Channel.ready_eq_error_iff {c : Channel} {e : Endpoint} {token : Token} {s : Session}
    {fault : Error} :
    c.ready e token s = .error fault ↔
      c.url e = .error fault ∨
      (∃ url, c.url e = .ok url ∧ token.header = .error fault) ∨
      ∃ url value, c.url e = .ok url ∧ token.header = .ok value ∧
        headerValue? c.userAgent = none ∧ fault = unnamed c.userAgent := by
  unfold Channel.ready Channel.request Channel.headers Token.authenticate unnamed
  rcases hu : c.url e with f | url
  · simp [bind, Except.bind]
  · rcases ht : token.header with f | value
    · simp [bind, Except.bind, Except.map]
    · cases hv : headerValue? c.userAgent with
      | some agent => simp [bind, Except.bind, Except.map, pure, Except.pure]
      | none =>
        simp only [bind, Except.bind, Except.map, pure, Except.pure, throw, throwThe,
          MonadExceptOf.throw]
        constructor
        · rintro h
          cases h
          exact .inr (.inr ⟨url, value, rfl, rfl, trivial, rfl⟩)
        · rintro (h | ⟨_, _, h⟩ | ⟨_, _, _, _, _, rfl⟩)
          · cases h
          · cases h
          · rfl

theorem Channel.ready_plain {c : Channel} {e : Endpoint} {token : Token} {s : Session}
    {fault : Error} (h : c.ready e token s = .error fault) : fault.IsPlain := by
  rcases Channel.ready_eq_error_iff.mp h with hu | ⟨_, _, hh⟩ | ⟨_, _, _, _, _, rfl⟩
  · exact Channel.url_plain hu
  · exact Token.header_plain hh
  · exact Error.isPlain_externalIn _ _

/-! ## Failures of the sources of tokens -/

theorem Call.map_eq {σ α β : Type} (f : α → β) (x : Call σ α) (s : σ) :
    (f <$> x) s = ((x s).1.map f, (x s).2) := by
  show Call.bind x (fun a => Call.pure (f a)) s = _
  unfold Call.bind
  rcases x s with ⟨e | a, s'⟩ <;> rfl

/-- A failure to get a token is one of the source, perhaps in a context, or the token has no known
form. -/
def TokenState.HasFailure (s : TokenState) (e : Error) : Prop :=
  (∃ i fault, s.answers i = .error fault ∧
      (e = fault ∨ e = fault.within "Could not get access token")) ∨
    e = .plain "Unexpected access token format"

theorem TokenSource.ask_error {source : TokenSource} {s : TokenState} {e : Error}
    (h : (source.ask s).1 = .error e) : s.HasFailure e := by
  rcases ha : s.answers s.asked with fault | printed
  · cases source with
    | direct =>
      have hask : (TokenSource.direct.ask s).1 = .error fault := ha
      rw [hask] at h
      cases h
      exact .inl ⟨_, _, ha, .inl rfl⟩
    | tool =>
      have hask : (TokenSource.tool.ask s).1 =
          .error (fault.within "Could not get access token") := by
        show (s.answers s.asked).mapError (Error.within "Could not get access token") = _
        rw [ha]
        rfl
      rw [hask] at h
      cases h
      exact .inl ⟨_, _, ha, .inr rfl⟩
  · have hask : (source.ask s).1 = .ok printed := by
      cases source with
      | direct => exact ha
      | tool =>
        show (s.answers s.asked).mapError (Error.within "Could not get access token") = _
        rw [ha]
        rfl
    rw [hask] at h
    cases h

theorem TokenState.current_error {source : TokenSource} {now : Int} {s : TokenState} {e : Error}
    (h : (TokenState.current source now s).1 = .error e) : s.HasFailure e := by
  unfold TokenState.current at h
  split at h
  · cases h
  · unfold TokenState.refresh at h
    rcases ha : source.ask s with ⟨fault | printed, s'⟩
    · rw [Call.bind_error ha] at h
      exact TokenSource.ask_error (by rw [ha]; exact h)
    · rw [Call.bind_ok ha] at h
      cases hp : Token.ofPrinted? printed with
      | none =>
        rw [hp] at h
        cases h
        exact .inr rfl
      | some value =>
        rw [hp] at h
        cases h

theorem TokenSupply.next_error {supply : TokenSupply} {now : Int} {s : TokenState} {e : Error}
    (h : (supply.next now s).1 = .error e) : s.HasFailure e := by
  unfold TokenSupply.next at h
  rw [Call.map_eq] at h
  have hmap : ∀ r : Except Error String, r.map Token.mk = .error e → r = .error e := by
    rintro (fault | value) hr
    · cases hr
      rfl
    · cases hr
  have hcall := hmap _ h
  cases supply with
  | fixed value => cases hcall
  | each source => exact TokenSource.ask_error hcall
  | kept source => exact TokenState.current_error hcall

/-! ## Failures of reading -/

theorem consumerOf_plain {response : Response} {e : Error} (h : consumerOf response = .error e) :
    e.IsPlain := by
  unfold consumerOf at h
  simp only at h
  split at h
  · cases h
  · cases h
    exact Error.isPlain_plain _

/-- A response is read by its consumer, or not at all. -/
theorem consumed_plain {α : Type} {response : Response} {read : Consumer → Except Error α}
    (hr : ∀ consumer e, read consumer = .error e → e.IsPlain) {e : Error}
    (h : (consumerOf response).bind read = .error e) : e.IsPlain := by
  rcases hc : consumerOf response with fault | consumer
  · rw [hc] at h
    cases h
    exact consumerOf_plain hc
  · rw [hc] at h
    exact hr consumer e h

theorem brokenOff_plain (reason : String) : (brokenOff reason).IsPlain :=
  (Error.isPlain_plain reason).within _

theorem readJson_plain {α : Type} [Payload α] {response : Response} {e : Error}
    (h : (readJson response : Except Error α) = .error e) : e.IsPlain := by
  rcases Option.eq_none_or_eq_some response.cut with hwhole | ⟨reason, hcut⟩
  · rw [readJson_whole hwhole] at h
    split at h
    · cases h
    · refine consumed_plain (fun consumer e h => ?_) h
      cases consumer with
      | json =>
        simp only at h
        split at h
        · cases h
        · cases h
          exact Error.isPlain_externalIn _ _
      | text =>
        cases h
        exact Error.isPlain_plain _
  · rw [readJson_cut hcut] at h
    cases h
    exact brokenOff_plain reason

theorem readText_plain {response : Response} {e : Error} (h : readText response = .error e) :
    e.IsPlain := by
  rcases Option.eq_none_or_eq_some response.cut with hwhole | ⟨reason, hcut⟩
  · rw [readText_whole hwhole] at h
    split at h
    · cases h
    · refine consumed_plain (fun consumer e h => ?_) h
      -- both ways of reading fail in one case only
      cases consumer <;>
      · simp only at h
        split at h
        · cases h
        · cases h
          exact Error.isPlain_externalIn _ _
  · rw [readText_cut hcut] at h
    cases h
    exact brokenOff_plain reason

/-- How a service reads its answers: it gets a value, or it fails plainly. -/
def Exchange.ReadsPlainly {α : Type} (x : Exchange α) : Prop :=
  ∀ response e, x.read response = .error e → e.IsPlain

section Reading

variable {α : Type}

theorem Exchange.json_readsPlainly [Payload α] (e : Endpoint) :
    (Exchange.json e : Exchange α).ReadsPlainly := fun _ _ => readJson_plain

theorem Exchange.text_readsPlainly (e : Endpoint) : (Exchange.text e).ReadsPlainly :=
  fun _ _ => readText_plain

theorem Exchange.empty_readsPlainly (e : Endpoint) : (Exchange.empty e).ReadsPlainly := nofun

theorem Exchange.location_readsPlainly (e : Endpoint) : (Exchange.location e).ReadsPlainly := nofun

theorem Exchange.header_readsPlainly (name : String) (e : Endpoint) :
    (Exchange.header name e).ReadsPlainly := nofun

theorem RestCall.exchange_readsPlainly (scope : RestScope) (call : RestCall α) :
    (call.exchange scope).ReadsPlainly := by
  cases call with
  | purgeConfiguration => exact Exchange.empty_readsPlainly _
  | operations => exact Exchange.json_readsPlainly _
  | components => exact Exchange.json_readsPlainly _
  | mta => exact Exchange.json_readsPlainly _

theorem OperationsCall.exchange_readsPlainly (call : OperationsCall α) :
    call.exchange.ReadsPlainly := by
  cases call with
  | executeAction => exact Exchange.location_readsPlainly _
  | start => exact Exchange.location_readsPlainly _
  | logContent => exact Exchange.text_readsPlainly _
  | csrfToken => exact Exchange.header_readsPlainly _ _
  | _ => exact Exchange.json_readsPlainly _

theorem LookupCall.exchange_readsPlainly (own : String) (call : LookupCall α) :
    (call.exchange own).ReadsPlainly := by
  cases call <;> exact Exchange.json_readsPlainly _

theorem ProcessCall.exchange_readsPlainly (call : ProcessCall α) :
    call.exchange.ReadsPlainly := by
  cases call with
  | logContent => exact Exchange.text_readsPlainly _
  | executeAction => exact Exchange.empty_readsPlainly _
  | _ => exact Exchange.json_readsPlainly _

end Reading

end DeployService
