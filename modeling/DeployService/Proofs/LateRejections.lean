import DeployService.Proofs.SharedToken

/-!
# Rejections that come late

A call looks at the answer to its request in a later step than the one in which the request got its
token. In between, other calls may have had the token forgotten and fetched another one. A rejection
makes an end of whatever token is kept by then (`rejections_forget`): the one that was rejected, or
a newer one. The newer one can only be there because the rejected token was of no use any more when
it was fetched (`Discards`).
-/

namespace DeployService.Csrf

open DeployService.Http

/-- The request of a call, if the answer rejects it and the call has not looked at that yet. -/
def Phase.rejected? : Phase → Option Request
  | answered own outcome => if isProtected own.method && rejects outcome then some own else none
  | _ => none

theorem Phase.rejected?_eq_some {phase : Phase} {own : Request} (h : phase.rejected? = some own) :
    ∃ outcome, phase = .answered own outcome ∧
      (isProtected own.method && rejects outcome) = true := by
  cases phase with
  | answered own' outcome =>
    simp only [rejected?] at h
    split at h
    · next hrejects =>
      obtain rfl := Option.some.inj h
      exact ⟨outcome, rfl, hrejects⟩
    · cases h
  | idle => cases h
  | started => cases h
  | ready => cases h
  | done => cases h

/-! ## Requests that have been answered -/

/-- Every request that has been answered has been sent. -/
def AnsweredSent (past : List Event) (calls : Nat → Phase) : Prop :=
  ∀ call own outcome, calls call = .answered own outcome → .sent call ⟨own, outcome⟩ ∈ past

theorem perform_answered (guard : Guard) (move : Move) {sh : Shared} {call : Nat} {own : Request}
    {outcome : Except Error Response}
    (h : (move.perform guard sh).calls call = .answered own outcome) :
    sh.calls call = .answered own outcome ∨ move.event guard sh = .sent call ⟨own, outcome⟩ := by
  cases move with
  | start call' request =>
    simp only [Move.perform] at h
    split at h
    · by_cases hcall : call = call'
      · simp only [hcall, Function.update_self] at h
        cases h
      · simp only [Function.update_of_ne hcall] at h
        exact .inl h
    · exact .inl h
  | proceed call' =>
    by_cases hcall : call = call'
    · subst hcall
      simp only [Move.perform, Function.update_self] at h
      simp only [Move.event]
      -- only a call whose request is ready gets an answer in its next step
      cases hphase : sh.calls call with
      | idle => rw [hphase] at h; cases h
      | started request =>
        rw [hphase] at h
        simp only [Phase.step] at h
        cases hr : (prepare guard .direct request sh.session).1 <;> rw [hr] at h <;> cases h
      | ready own' =>
        rw [hphase] at h
        cases h
        exact .inr rfl
      | answered own' outcome' => rw [hphase] at h; cases h
      | done result => rw [hphase] at h; cases h
    · simp only [Move.perform, Function.update_of_ne hcall] at h
      exact .inl h
  | forget => exact .inl h
  | cookies jar => exact .inl h
  | wait milliseconds => exact .inl h

theorem AnsweredSent.run {guard : Guard} {past : List Event} {sh : Shared}
    (h : AnsweredSent past sh.calls) (moves : List Move) :
    AnsweredSent (past ++ sh.events guard moves) (sh.after guard moves).calls := by
  induction moves generalizing past sh with
  | nil => simpa [Shared.events, Shared.after] using h
  | cons move moves ih =>
    have hmove : AnsweredSent (past ++ [move.event guard sh]) (move.perform guard sh).calls := by
      intro call own outcome hanswered
      rcases perform_answered guard move hanswered with hbefore | hsent
      · exact List.mem_append_left _ (h call own outcome hbefore)
      · simp [hsent]
    have hrun := ih hmove
    rw [List.append_assoc] at hrun
    exact hrun

theorem MadeReady.append {guard : Guard} {past : List Event} {call : Nat} {own : Request}
    (h : MadeReady guard past call own) (later : List Event) :
    MadeReady guard (past ++ later) call own := by
  obtain ⟨before, request, clock, trips, after, rfl, hequips⟩ := h
  exact ⟨before, request, clock, trips, after ++ later, by simp, hequips⟩

/-! ## What a rejection discards -/

/-- The request of a call carries the token. It got it at the end of the steps `steps`; since then,
there have been the steps `later`. -/
inductive GotToken (guard : Guard) (past : List Event) (call : Nat) (own : Request)
    (token : CsrfToken) : List Observation → List Observation → Prop where
  | intro {before after : List Event} {request : Request} {clock : Int} {trips : List RoundTrip}
    (h : past = before ++ .updated call request clock trips :: after)
    (hl : latest? (tokenSteps before ++ [⟨.send request, clock, trips, none⟩]) = some token)
    (hv : Valid guard (tokenSteps before ++ [⟨.send request, clock, trips, none⟩]) clock token)
    (hc : Carries token request own) :
    GotToken guard past call own token
      (tokenSteps before ++ [⟨.send request, clock, trips, none⟩]) (tokenSteps after)

/-- What is kept when a request with the token is found to be rejected, after the steps `later`. -/
inductive Discards (guard : Guard) (token : CsrfToken) (later : List Observation) :
    Option CsrfToken → Prop where
  | nothing : Discards guard token later none
  /-- The token has been fetched last. -/
  | same (h : latest? later = none) : Discards guard token later (some token)
  /-- Another one has been fetched, after the token was rejected or forgotten or became too old. -/
  | newer {newer : CsrfToken} {between after : List Observation} {o : Observation}
    (hl : latest? later = some newer) (h : later = between ++ o :: after)
    (hy : o.yield? = some newer)
    (hold : (∃ step ∈ between, step.revokes = true) ∨ guard.timeout < o.clock - token.fetchedAt) :
    Discards guard token later (some newer)

theorem latest_append (steps later : List Observation) :
    latest? (steps ++ later) = (latest? later).or (latest? steps) := by
  unfold latest?
  rw [List.filterMap_append, List.getLast?_append]

theorem tokenSteps_append (past later : List Event) :
    tokenSteps (past ++ later) = tokenSteps past ++ tokenSteps later :=
  List.filterMap_append ..

theorem GotToken.tokenSteps_eq {guard : Guard} {past : List Event} {call : Nat} {own : Request}
    {token : CsrfToken} {steps later : List Observation}
    (h : GotToken guard past call own token steps later) : tokenSteps past = steps ++ later := by
  cases h with
  | @intro before after request clock trips h _ _ _ =>
    have hcut : past = before ++ ([.updated call request clock trips] ++ after) := h
    have hstep : tokenSteps [Event.updated call request clock trips] =
        [⟨.send request, clock, trips, none⟩] := rfl
    rw [hcut, tokenSteps_append, tokenSteps_append, hstep, List.append_assoc]

theorem GotToken.unrevoked {guard : Guard} {past : List Event} {call : Nat} {own : Request}
    {token : CsrfToken} {steps later : List Observation}
    (h : GotToken guard past call own token steps later) :
    latest? steps = some token ∧ Unrevoked steps token := by
  cases h with
  | intro _ hl hv _ => exact ⟨hl, hv.1⟩

/-- A token that is fetched later is fetched because the earlier one is of no use any more. -/
theorem FetchesApart.newer {guard : Guard} {steps between after : List Observation}
    {o : Observation} {token : CsrfToken}
    (h : FetchesApart guard (steps ++ (between ++ o :: after))) (hu : Unrevoked steps token)
    (hy : o.yield?.isSome = true) :
    (∃ step ∈ between, step.revokes = true) ∨ guard.timeout < o.clock - token.fetchedAt := by
  obtain ⟨before, first, rest, rfl, hfirst, hrest⟩ := hu
  have hcut : before ++ first :: rest ++ (between ++ o :: after) =
      before ++ first :: ((rest ++ between) ++ o :: after) := by simp
  rcases h before first (rest ++ between) o after token hcut hfirst hy with ⟨step, hs, hr⟩ | hold
  · rcases List.mem_append.mp hs with hs | hs
    · -- nothing has been revoked between the fetch and the step in which the request got the token
      rw [hrest step (List.mem_cons_of_mem _ hs)] at hr
      cases hr
    · exact .inl ⟨step, hs, hr⟩
  · exact .inr hold

theorem Orderly.discards {guard : Guard} {steps later : List Observation} {token : CsrfToken}
    {s : Session} (h : Orderly guard (steps ++ later) s) (hl : latest? steps = some token)
    (hu : Unrevoked steps token) : Discards guard token later s.csrf := by
  cases hk : s.csrf with
  | none => exact .nothing
  | some kept =>
    obtain ⟨-, hlatest⟩ := h.tracks.kept kept hk
    rw [latest_append] at hlatest
    cases hlater : latest? later with
    | none =>
      rw [hlater, hl] at hlatest
      obtain rfl := Option.some.inj hlatest
      exact .same hlater
    | some newer =>
      rw [hlater] at hlatest
      obtain rfl := Option.some.inj hlatest
      obtain ⟨between, o, after, rfl, hy, -⟩ := latest_cut hlater
      exact .newer hlater rfl hy (h.apart.newer hu (by rw [hy]; rfl))

/-- What becomes of the kept token in the step in which a call finds its request rejected. -/
structure ForgetsOnRejection (guard : Guard) (past : List Event) (sh : Shared) (call : Nat)
    (own : Request) : Prop where
  ready : MadeReady guard past call own
  /-- No token is kept any more. -/
  forgets : ((Move.proceed call).perform guard sh).session.csrf = none
  /-- A token that may be used again is lost, whichever fetch it is from. -/
  loses : ∀ token, Valid guard (tokenSteps past) sh.session.clock token →
    sh.session.csrf = some token
  /-- It is the token of the request, or a newer one. -/
  discards : ∀ token steps later, GotToken guard past call own token steps later →
    Discards guard token later sh.session.csrf

/-- **A rejection makes an end of whatever token is kept.** After every sequence of moves of any
number of calls, for each call whose request has been rejected. -/
theorem rejections_forget (guard : Guard) (s : Session) (moves : List Move) (call : Nat)
    (own : Request)
    (h : ((Shared.after guard moves (.idle (forget s))).calls call).rejected? = some own) :
    ForgetsOnRejection guard (Shared.events guard moves (.idle (forget s)))
      (Shared.after guard moves (.idle (forget s))) call own := by
  obtain ⟨outcome, hanswered, hrejects⟩ := Phase.rejected?_eq_some h
  have hconsistent := (Consistent.idle guard s).run moves
  have hsent : AnsweredSent ([] ++ Shared.events guard moves (.idle (forget s)))
      (Shared.after guard moves (.idle (forget s))).calls :=
    AnsweredSent.run (fun call own outcome h => by cases h) moves
  rw [List.nil_append] at hconsistent hsent
  obtain ⟨before, after, hcut⟩ := List.append_of_mem (hsent call own outcome hanswered)
  constructor
  · have hready := hconsistent.recorded.sent before call ⟨own, outcome⟩ after hcut
    rw [hcut]
    exact hready.append _
  · show (Phase.step guard _ _).2.csrf = none
    rw [hanswered]
    show (settle own outcome _).csrf = none
    rw [settle_csrf rfl, hrejects]
    rfl
  · intro token hvalid
    have hvalid' := (hconsistent.orderly.tracks.valid_iff token).mpr hvalid
    exact (Option.filter_eq_some_iff.mp hvalid').1
  · intro token steps later hgot
    have horderly := hconsistent.orderly
    rw [hgot.tokenSteps_eq] at horderly
    exact horderly.discards hgot.unrevoked.1 hgot.unrevoked.2

/-- A service that rejects the first token that it has handed out, twice, and hands out another one
in between. -/
def twiceRejectingResponses : List Response :=
  [{ status := 200, headers := [(tokenHeader, literalValue "first")], body := [] },
    { status := 403, headers := [(tokenHeader, literalValue requiredValue)], body := [] },
    { status := 403, headers := [(tokenHeader, literalValue requiredValue)], body := [] },
    { status := 200, headers := [(tokenHeader, literalValue "second")], body := [] }]

/-- Two calls send their requests with the first token. One of them finds its request rejected, and
a third call fetches the second token; then the other one has not looked at its answer yet. -/
def crossingMoves : List Move :=
  [.start 0 cookieTokenRequest, .start 1 cookieTokenRequest, .proceed 0, .proceed 1, .proceed 0,
    .proceed 1, .proceed 0, .start 2 cookieTokenRequest, .proceed 2]

/-- The second token is kept until the late call finds that the first one has been rejected. -/
theorem late_rejection_discards_newer_token :
    let guard : Guard := ⟨standardTimeout, false⟩
    let start : Shared := .idle (forget (.replaying twiceRejectingResponses))
    let sh := start.after guard crossingMoves
    let first : CsrfToken := ⟨tokenHeader, literalValue "first", none, 0⟩
    let second : CsrfToken := ⟨tokenHeader, literalValue "second", none, 0⟩
    (tokenSteps (start.events guard crossingMoves)).filterMap Observation.yield? =
        [first, second] ∧
      (sh.calls 1).rejected? = some (protectWith (some first) cookieTokenRequest) ∧
      sh.session.csrf = some second ∧
      ((Move.proceed 1).perform guard sh).session.csrf = none := by
  decide +kernel

/-- What the late call does in this run. -/
theorem crossing_call_forgets :
    let guard : Guard := ⟨standardTimeout, false⟩
    let start : Shared := .idle (forget (.replaying twiceRejectingResponses))
    let own := protectWith
      (some ⟨tokenHeader, literalValue "first", none, 0⟩) cookieTokenRequest
    ((start.after guard crossingMoves).calls 1).rejected? = some own ∧
      ForgetsOnRejection guard (start.events guard crossingMoves)
        (start.after guard crossingMoves) 1 own := by
  intro guard start own
  have hrejected : ((start.after guard crossingMoves).calls 1).rejected? = some own := by
    decide +kernel
  exact ⟨hrejected,
    rejections_forget guard (.replaying twiceRejectingResponses) crossingMoves 1 own hrejected⟩

end DeployService.Csrf
