import DeployService.Proofs.Interleaving
import DeployService.Proofs.SentCookies

/-!
# One token for calls at the same time

Calls at the same time share the kept token. What a call does with it is decided in one step of the
call, by the steps of all calls before that one. So the history of the token consists of the steps
in which a request is made ready or the token is forgotten (`tokenSteps`), in whatever order the
calls take them. `Moved` lists what a move can do, and `Consistent` is what every move preserves:
the kept token belongs to the history, a token is only fetched if the one before it cannot be used
any more, and a request that is ready to be sent has been made ready in one earlier step of its
call.
-/

namespace DeployService.Csrf

open DeployService.Http

/-! ## Moves -/

/-- Nothing has been done for the call yet. -/
def Phase.IsNew (phase : Phase) : Prop := phase = .idle ∨ ∃ request, phase = .started request

/-- No request has become ready, and no call is undone. -/
structure Keeps (calls calls' : Nat → Phase) : Prop where
  ready : ∀ call own, calls' call = .ready own → calls call = .ready own
  new : ∀ call, (calls' call).IsNew → (calls call).IsNew

theorem Keeps.refl (calls : Nat → Phase) : Keeps calls calls := ⟨fun _ _ h => h, fun _ h => h⟩

theorem Keeps.update {calls : Nat → Phase} {call : Nat} {phase : Phase}
    (hr : ∀ own, phase = .ready own → calls call = .ready own)
    (hn : phase.IsNew → (calls call).IsNew) : Keeps calls (Function.update calls call phase) := by
  constructor
  · intro call' own h
    by_cases hc : call' = call
    · subst hc
      rw [Function.update_self] at h
      exact hr own h
    · rwa [Function.update_of_ne hc] at h
  · intro call' h
    by_cases hc : call' = call
    · subst hc
      rw [Function.update_self] at h
      exact hn h
    · rwa [Function.update_of_ne hc] at h

/-- Everything that a move can do. -/
inductive Moved (guard : Guard) (sh : Shared) : Event → Shared → Prop where
  /-- Nothing happens to the token. -/
  | quiet {sh' : Shared} (hk : Keeps sh.calls sh'.calls) (hc : sh'.session.csrf = sh.session.csrf)
    (ht : sh.session.clock ≤ sh'.session.clock) : Moved guard sh .quiet sh'
  /-- A request is made ready, or that fails. -/
  | updated {call : Nat} {request : Request} {t : List RoundTrip} {r : Except Error Request}
    {s' : Session} (h : sh.calls call = .started request)
    (hp : Prepared guard request sh.session t r s') :
    Moved guard sh (.updated call request sh.session.clock t)
      { session := s'
        calls := Function.update sh.calls call (.ofPrepared r) }
  /-- A request is sent. -/
  | sent {call : Nat} {own : Request} (h : sh.calls call = .ready own) :
    Moved guard sh (.sent call ⟨own, sh.session.next⟩)
      { session := sh.session.sending own
        calls := Function.update sh.calls call (.answered own sh.session.next) }
  /-- The token is forgotten. -/
  | forgotten {sh' : Shared} (hk : Keeps sh.calls sh'.calls) (hc : sh'.session.csrf = none) :
    Moved guard sh (.forgotten sh.session.clock) sh'

theorem proceed_moved (guard : Guard) (call : Nat) (sh : Shared) :
    Moved guard sh ((Move.proceed call).event guard sh) ((Move.proceed call).perform guard sh) := by
  cases h : sh.calls call with
  | idle =>
    simp only [Move.event, Move.perform, h, Phase.step, Phase.event]
    exact .quiet (.update (by simp) (by simp [h])) rfl (Int.le_refl _)
  | started request =>
    obtain ⟨t, hp⟩ := prepare_prepared guard request sh.session
    simp only [Move.event, Move.perform, h, Phase.step, Phase.event, hp.grew.drop]
    exact .updated h hp
  | ready own =>
    simp only [Move.event, Move.perform, h, Phase.step, Phase.event]
    exact .sent h
  | answered own outcome =>
    have hkeeps : Keeps sh.calls (Function.update sh.calls call (.done outcome)) :=
      .update (by simp) (by simp [Phase.IsNew])
    have hcsrf := settle_csrf (rfl : own.method = own.method) outcome sh.session
    simp only [Move.event, Move.perform, h, Phase.step, Phase.event]
    split
    · next hr =>
      rw [hr] at hcsrf
      exact .forgotten hkeeps hcsrf
    · next hr =>
      rw [Bool.not_eq_true] at hr
      rw [hr] at hcsrf
      refine .quiet hkeeps hcsrf (Int.le_of_eq ?_)
      rw [settle_toWire]
  | done result =>
    simp only [Move.event, Move.perform, h, Phase.step, Phase.event]
    exact .quiet (.update (by simp) (by simp [h])) rfl (Int.le_refl _)

theorem perform_moved (guard : Guard) (move : Move) (sh : Shared) :
    Moved guard sh (move.event guard sh) (move.perform guard sh) := by
  cases move with
  | start call request =>
    simp only [Move.event, Move.perform]
    split
    · next h =>
      exact .quiet (.update (by simp) (by simp [h, Phase.IsNew])) rfl (Int.le_refl _)
    · exact .quiet (.refl _) rfl (Int.le_refl _)
  | proceed call => exact proceed_moved guard call sh
  | forget => exact .forgotten (.refl _) rfl
  | cookies jar => exact .quiet (.refl _) rfl (Int.le_refl _)
  | wait milliseconds =>
    refine .quiet (.refl _) rfl ?_
    show sh.session.clock ≤ sh.session.clock + milliseconds
    omega

/-! ## Fetches -/

/-- Between two fetches that yield a token, the token is forgotten or becomes too old: it is when
the second one is fetched. -/
def FetchesApart (guard : Guard) (steps : List Observation) : Prop :=
  ∀ before (o : Observation) between (o' : Observation) after (token : CsrfToken),
    steps = before ++ o :: (between ++ o' :: after) → o.yield? = some token →
      o'.yield?.isSome = true →
      (∃ step ∈ between, step.revokes = true) ∨ guard.timeout < o'.clock - token.fetchedAt

variable {guard : Guard} {steps : List Observation} {o : Observation} {s : Session}

theorem FetchesApart.concat (h : FetchesApart guard steps)
    (ho : o.yield?.isSome = true → ¬∃ token, Valid guard steps o.clock token)
    (hr : ∀ o ∈ steps, o.yield?.isSome = true → o.revokes = false) :
    FetchesApart guard (steps ++ [o]) := by
  intro before first between second after token hsteps hy hy'
  have hcut : steps ++ [o] = (before ++ first :: between) ++ second :: after := by
    simpa using hsteps
  rcases concat_eq_append_cons.mp hcut with ⟨rfl, rfl, rfl⟩ | ⟨after', rfl, rfl⟩
  · by_cases hrevoked : ∃ step ∈ between, step.revokes = true
    · exact .inl hrevoked
    · right
      -- the first token is not revoked, so it must be too old, or it would be used again
      have hfirst : first.revokes = false := hr first (by simp) (by simp [hy])
      have hunrevoked : Unrevoked (before ++ first :: between) token := by
        refine ⟨before, first, between, rfl, hy, fun step hstep => ?_⟩
        rcases List.mem_cons.mp hstep with rfl | hstep
        · exact hfirst
        · rw [← Bool.not_eq_true]
          exact fun hrevokes => hrevoked ⟨step, hstep, hrevokes⟩
      rw [← Int.not_le]
      exact fun hage => ho hy' ⟨token, hunrevoked, hage⟩
  · exact h before first between second after' token (by simp) hy hy'

/-- What a preparation looks like in the history of the token. -/
theorem Prepared.observation {request : Request} {t : List RoundTrip} {r : Except Error Request}
    {s' : Session} (h : Prepared guard request s t r s') :
    (Observation.mk (.send request) s.clock t none).fetches = t ∧
      (Observation.mk (.send request) s.clock t none).yield? =
        Observation.handedOut? s.clock t ∧
      (Observation.mk (.send request) s.clock t none).revokes = false := by
  obtain ⟨hfetches, hown⟩ := h.parts s.clock none [] (by simp)
  rw [List.append_nil] at hfetches hown
  refine ⟨hfetches, ?_, ?_⟩
  · rw [Observation.yield?, hfetches]
  · simp [Observation.revokes, hown]

/-- A token is only fetched if none may be used again. -/
theorem Prepared.valid?_eq_none {request : Request} {t : List RoundTrip}
    {r : Except Error Request} {s' : Session} (h : Prepared guard request s t r s') (ht : t ≠ []) :
    valid? guard s = none := by
  cases h with
  | safe => exact absurd rfl ht
  | streaming => exact absurd rfl ht
  | kept => exact absurd rfl ht
  | unfetched _ _ hv _ => exact hv
  | fetched _ _ hv _ => exact hv

/-! ## The token of a request -/

/-- How the request `own` of a call is made ready in the step `o`, after the steps before it. -/
inductive Equips (guard : Guard) (past : List Observation) (request : Request) (o : Observation) :
    Request → Prop where
  /-- A request that only reads stays as it is. -/
  | unprotected (h : isProtected request.method = false) : Equips guard past request o request
  /-- A fetch yields no token, and the request stays as it is. -/
  | without (hf : o.fetches ≠ []) (hy : o.yield? = none) : Equips guard past request o request
  /-- The request carries the token that was fetched last, in the same step at the latest. -/
  | carrying {token : CsrfToken} {own : Request} (hl : latest? (past ++ [o]) = some token)
    (hv : Valid guard (past ++ [o]) o.clock token) (hc : Carries token request own) :
    Equips guard past request o own

theorem Tracks.equips {past : List Observation} {request own : Request} {t : List RoundTrip}
    {s' : Session} (h : Tracks guard past s) (hp : Prepared guard request s t (.ok own) s') :
    Equips guard past request ⟨.send request, s.clock, t, none⟩ own := by
  obtain ⟨hf, hy, hr⟩ := hp.observation
  have hafter := h.prepared hp hy hr
  have hclock := hp.clock
  -- the token that the request carries is the kept one after the step
  have hcarrying : ∀ token, own = protectWith (some token) request → valid? guard s' = some token →
      Equips guard past request ⟨.send request, s.clock, t, none⟩ own := by
    rintro token rfl hv
    have hvalid := (hafter.valid_iff token).mp hv
    rw [hclock] at hvalid
    exact .carrying (hafter.kept token (Option.filter_eq_some_iff.mp hv).1).2 hvalid
      (protectWith_carries token request)
  cases hp with
  | safe hm => exact .unprotected hm
  | kept _ _ hv => exact hcarrying _ rfl hv
  | @fetched _ token s₁ _ _ _ hfetch =>
    cases token with
    | none =>
      refine .without (by rw [hf]; exact hfetch.ne_nil) ?_
      rw [hy, hfetch.handedOut]
      rfl
    | some token => exact hcarrying token rfl hfetch.valid?_eq

/-- The request of a call has been made ready in a step of the call. -/
def MadeReady (guard : Guard) (past : List Event) (call : Nat) (own : Request) : Prop :=
  ∃ before request clock trips after, past = before ++ .updated call request clock trips :: after ∧
    Equips guard (tokenSteps before) request ⟨.send request, clock, trips, none⟩ own

theorem MadeReady.concat {past : List Event} {call : Nat} {own : Request}
    (h : MadeReady guard past call own) (e : Event) : MadeReady guard (past ++ [e]) call own := by
  obtain ⟨before, request, clock, trips, after, rfl, hequips⟩ := h
  exact ⟨before, request, clock, trips, after ++ [e], by simp, hequips⟩

/-! ## Every move -/

/-- What the history says about the token, and about fetches. -/
structure Orderly (guard : Guard) (steps : List Observation) (s : Session) : Prop where
  tracks : Tracks guard steps s
  apart : FetchesApart guard steps
  yields : ∀ o ∈ steps, o.yield?.isSome = true → o.revokes = false

namespace Orderly

variable {s' : Session}

theorem later (h : Orderly guard steps s) (hc : s'.csrf = s.csrf) (ht : s.clock ≤ s'.clock) :
    Orderly guard steps s' := ⟨h.tracks.later hc ht, h.apart, h.yields⟩

theorem prepared {request : Request} {t : List RoundTrip} {r : Except Error Request}
    (h : Orderly guard steps s) (hp : Prepared guard request s t r s') :
    Orderly guard (steps ++ [⟨.send request, s.clock, t, none⟩]) s' := by
  obtain ⟨-, hy, hr⟩ := hp.observation
  refine ⟨h.tracks.prepared hp hy hr, h.apart.concat (fun hyield => ?_) h.yields, ?_⟩
  · -- a step that yields a token has fetched it
    have ht : t ≠ [] := by
      rintro rfl
      rw [hy] at hyield
      cases hyield
    exact h.tracks.valid_none_iff.mp (hp.valid?_eq_none ht)
  · rw [List.forall_mem_append]
    exact ⟨h.yields, by simpa using fun _ => hr⟩

theorem forgotten (h : Orderly guard steps s) (clock : Int) (hc : s'.csrf = none) :
    Orderly guard (steps ++ [⟨.forget, clock, [], none⟩]) s' := by
  refine ⟨.revoked rfl hc, h.apart.concat (fun hyield => ?_) h.yields, ?_⟩
  · cases hyield
  · rw [List.forall_mem_append]
    exact ⟨h.yields, by simp [Observation.yield?, Observation.fetches, Observation.handedOut?]⟩

end Orderly

/-- What the events say about the calls. -/
structure Recorded (guard : Guard) (past : List Event) (calls : Nat → Phase) : Prop where
  /-- A request is made ready once, and not before the call takes its first step. -/
  once : ∀ call, past.countP (·.isUpdateOf call) ≤ 1
  new : ∀ call, (calls call).IsNew → past.countP (·.isUpdateOf call) = 0
  ready : ∀ call own, calls call = .ready own → MadeReady guard past call own
  sent : ∀ before call trip after, past = before ++ .sent call trip :: after →
    MadeReady guard before call trip.request

namespace Recorded

variable {past : List Event} {calls calls' : Nat → Phase} {e : Event}

theorem sent_concat (h : Recorded guard past calls)
    (he : ∀ call trip, e = .sent call trip → MadeReady guard past call trip.request) :
    ∀ before call trip after, past ++ [e] = before ++ .sent call trip :: after →
      MadeReady guard before call trip.request := by
  intro before call trip after hcut
  rcases concat_eq_append_cons.mp hcut with ⟨rfl, hsent, -⟩ | ⟨after', -, rfl⟩
  · exact he call trip hsent.symm
  · exact h.sent before call trip after' rfl

theorem keeps (h : Recorded guard past calls) (hk : Keeps calls calls')
    (hu : ∀ call, e.isUpdateOf call = false)
    (hs : ∀ call trip, e = .sent call trip → calls call = .ready trip.request) :
    Recorded guard (past ++ [e]) calls' where
  once := by simpa [List.countP_append, hu] using h.once
  new := by
    intro call hn
    simpa [List.countP_append, hu] using h.new call (hk.new call hn)
  ready := fun call own hr => (h.ready call own (hk.ready call own hr)).concat e
  sent := h.sent_concat fun call trip he => h.ready call _ (hs call trip he)

theorem updated (h : Recorded guard past calls) {call : Nat} {request : Request} {clock : Int}
    {t : List RoundTrip} {r : Except Error Request} (hc : calls call = .started request)
    (he : ∀ own, r = .ok own →
      Equips guard (tokenSteps past) request ⟨.send request, clock, t, none⟩ own) :
    Recorded guard (past ++ [.updated call request clock t])
      (Function.update calls call (.ofPrepared r)) where
  once := by
    intro call'
    rw [List.countP_append]
    by_cases hcall : call' = call
    · subst hcall
      rw [h.new call' (hc ▸ .inr ⟨request, rfl⟩)]
      simp [Event.isUpdateOf]
    · simpa [Event.isUpdateOf, Ne.symm hcall] using h.once call'
  new := by
    intro call' hn
    by_cases hcall : call' = call
    · subst hcall
      rw [Function.update_self] at hn
      cases r <;> simp [Phase.IsNew, Phase.ofPrepared] at hn
    · rw [Function.update_of_ne hcall] at hn
      rw [List.countP_append, h.new call' hn]
      simp [Event.isUpdateOf, Ne.symm hcall]
  ready := by
    intro call' own hr
    by_cases hcall : call' = call
    · subst hcall
      rw [Function.update_self] at hr
      cases r with
      | error e => cases hr
      | ok own' =>
        cases hr
        exact ⟨past, request, clock, t, [], rfl, he own rfl⟩
    · rw [Function.update_of_ne hcall] at hr
      exact (h.ready call' own hr).concat _
  sent := h.sent_concat (by simp)

end Recorded

/-- What holds after every sequence of moves. -/
structure Consistent (guard : Guard) (past : List Event) (sh : Shared) : Prop where
  orderly : Orderly guard (tokenSteps past) sh.session
  recorded : Recorded guard past sh.calls

theorem tokenSteps_concat (past : List Event) (e : Event) :
    tokenSteps (past ++ [e]) = tokenSteps past ++ e.tokenStep?.toList := by
  unfold tokenSteps
  rw [List.filterMap_append]
  cases h : e.tokenStep? <;> simp [h, List.filterMap]

namespace Consistent

variable {past : List Event} {sh sh' : Shared} {e : Event}

theorem idle (guard : Guard) (s : Session) : Consistent guard [] (.idle (Csrf.forget s)) where
  orderly :=
    { tracks := .of_forget guard s
      apart := by
        intro before o between o' after token h
        simp [tokenSteps] at h
      yields := by simp [tokenSteps] }
  recorded :=
    { once := by simp
      new := by simp
      ready := fun call own h => by cases h
      sent := by simp }

/-- A move keeps everything consistent. -/
theorem moved (h : Consistent guard past sh) (hm : Moved guard sh e sh') :
    Consistent guard (past ++ [e]) sh' := by
  have horderly := h.orderly
  constructor
  · rw [tokenSteps_concat]
    cases hm with
    | quiet _ hc ht => simpa [Event.tokenStep?] using horderly.later hc ht
    | updated _ hp => exact horderly.prepared hp
    | @sent call own _ =>
      have hsending : Orderly guard (tokenSteps past) (sh.session.sending own) :=
        horderly.later rfl (Int.le_refl _)
      simpa [Event.tokenStep?] using hsending
    | forgotten _ hc => exact horderly.forgotten _ hc
  · cases hm with
    | quiet hk => exact h.recorded.keeps hk (fun _ => rfl) (by simp)
    | updated hc hp =>
      exact h.recorded.updated hc fun own hr => horderly.tracks.equips (hr ▸ hp)
    | @sent call own hc =>
      refine h.recorded.keeps (.update (by simp) (by simp [Phase.IsNew])) (fun _ => rfl) ?_
      rintro call' trip he
      cases he
      exact hc
    | forgotten hk => exact h.recorded.keeps hk (fun _ => rfl) (by simp)

theorem run (h : Consistent guard past sh) (moves : List Move) :
    Consistent guard (past ++ sh.events guard moves) (sh.after guard moves) := by
  induction moves generalizing past sh with
  | nil => simpa [Shared.events, Shared.after] using h
  | cons move moves ih =>
    have hrun := ih (h.moved (perform_moved guard move sh))
    rw [List.append_assoc] at hrun
    exact hrun

end Consistent

/-- What can be seen of calls that share a guarded transport. -/
structure SharesToken (guard : Guard) (events : List Event) : Prop where
  /-- Between two fetches that yield a token, the token is forgotten or becomes too old. -/
  apart : FetchesApart guard (tokenSteps events)
  /-- Every call gets its request ready once at most. -/
  once : ∀ call, events.countP (·.isUpdateOf call) ≤ 1
  /-- Every request that is sent has been made ready in such a step of its call. -/
  ready : ∀ before call trip after, events = before ++ .sent call trip :: after →
    MadeReady guard before call trip.request

/-- **Calls at the same time share one token.** Every sequence of moves of any number of calls, in
whatever order they take their steps, and whatever becomes of their requests. -/
theorem concurrent_calls_share_token (guard : Guard) (s : Session) (moves : List Move) :
    SharesToken guard (Shared.events guard moves (.idle (forget s))) := by
  have hrun := (Consistent.idle guard s).run moves
  rw [List.nil_append] at hrun
  exact ⟨hrun.orderly.apart, hrun.recorded.once, hrun.recorded.sent⟩

/-- A token that is expected in the cookie header is not sent with a call if it belongs to a
session, although it has been fetched for the call. -/
theorem shared_token_in_cookie_header_lost :
    let events := Shared.events ⟨standardTimeout, false⟩
      [.start 0 cookieTokenRequest, .proceed 0, .proceed 0]
      (.idle (forget (.replaying cookieTokenResponses)))
    let token : CsrfToken := ⟨cookie, literalValue "abc", some (literalValue "s=1"), 0⟩
    let sent := events.filterMap fun event => match event with
      | .sent _ trip => some trip.request
      | _ => none
    latest? (tokenSteps events) = some token ∧
      ∃ own ∈ sent, own.method = "POST" ∧ own.headers.getAll token.header ≠ [token.value] := by
  decide +kernel

end DeployService.Csrf
