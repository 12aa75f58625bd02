import DeployService.Proofs.Provenance

/-!
# Tokens in error answers

A guarded transport takes the token of a fetch from whatever answer comes last, without a look at
its status. So an answer that says that the fetch has failed still hands out a token if it has the
header for it, the one that rejects tokens included. A run is free of such tokens
(`OnlyFromSuccess`) exactly when none of its fetches ends with such an answer.
-/

namespace DeployService.Csrf

open DeployService.Http

/-- Every token that is added to a request was handed out by an answer that says that the fetch
succeeded. -/
def OnlyFromSuccess (guard : Guard) (history : List Observation) : Prop :=
  ∀ past o later, history = past ++ o :: later → o.own ≠ [] →
    ∀ source token answer, Source guard past o source token answer →
      isSuccess answer.status = true

theorem onlyFromSuccess_iff {guard : Guard} {s : Session} {steps : List Step} :
    OnlyFromSuccess guard (observations guard steps s) ↔
      ∀ o ∈ observations guard steps s, ∀ answer, o.answer? = some answer →
        (answer.headers.get? tokenHeader).isSome = true → isSuccess answer.status = true := by
  constructor
  · intro h o ho answer ha hv
    obtain ⟨past, later, hcut⟩ := List.append_of_mem ho
    obtain ⟨before, step, -, -, -, hobserve⟩ := observations_cut hcut
    have hne : o.fetches ≠ [] := by
      intro hnil
      rw [Observation.answer?, hnil] at ha
      cases ha
    rw [hobserve] at hne
    obtain ⟨request, s', -, hsent⟩ := observe_sent hne
    rw [← hobserve] at hsent
    -- the answer hands out a token, and the request for which it was fetched is sent with it
    obtain ⟨token, hy⟩ := hsent.yields ha hv
    obtain ⟨answer', hhands⟩ := hsent.handsOut hy
    obtain rfl : answer' = answer := Option.some.inj (hhands.answered.symm.trans ha)
    exact h past o later hcut (hsent.of_yield hy).2.1 request token answer' (.fetched hhands)
  · intro h past o later hcut _ source token answer hsource
    obtain ⟨o', ho', hhands⟩ := hsource.handsOut
    have hmem : o' ∈ observations guard steps s := by
      rw [hcut]
      rcases List.mem_append.mp ho' with ho' | ho'
      · exact List.mem_append_left _ ho'
      · rw [List.mem_singleton.mp ho']
        exact List.mem_append_right _ List.mem_cons_self
    have hheader : (answer.headers.get? tokenHeader).isSome = true := by rw [hhands.value]; rfl
    exact h o' hmem answer hhands.answered hheader

/-- **Tokens are taken from answers of any status.** In every run of a guarded transport, each
request that changes something goes out as it is if there is no token for it, and else with the
token in the last answer to a fetch of the run. All of these answers say that the fetch succeeded
exactly if no fetch of the run ends with an answer that says otherwise and has a token. -/
theorem tokens_taken_from_answers (guard : Guard) (s : Session) (steps : List Step) :
    (∀ past o later, observations guard steps (forget s) = past ++ o :: later →
      ∀ request, o.step = .send request → isProtected request.method = true →
        request.body ≠ .stream → ∀ own ∈ o.own, Adds guard past o request own.request) ∧
    (OnlyFromSuccess guard (observations guard steps (forget s)) ↔
      ∀ o ∈ observations guard steps (forget s), ∀ answer, o.answer? = some answer →
        (answer.headers.get? tokenHeader).isSome = true → isSuccess answer.status = true) :=
  ⟨fun _ _ _ h _ ho hm hb => step_adds h ho hm hb, onlyFromSuccess_iff⟩

/-- A service that rejects the token of every request for a token. -/
def rejectedFetchResponses : List Response :=
  [{ status := 403, headers := [(tokenHeader, literalValue requiredValue)], body := [] },
    { status := 204, headers := [], body := [] }, { status := 204, headers := [], body := [] }]

/-- The word that rejects a token is kept and sent as one. -/
theorem rejection_sent_as_token :
    let guard : Guard := ⟨standardTimeout, false⟩
    let history := observations guard [.send cookieTokenRequest, .send cookieTokenRequest]
      (forget (.replaying rejectedFetchResponses))
    (∀ o ∈ history, ∀ answer, o.answer? = some answer → isSuccess answer.status = false) ∧
      history.map (fun o => o.own.map (·.request.headers.getAll tokenHeader)) =
        [[[literalValue requiredValue]], [[literalValue requiredValue]]] := by
  decide +kernel

end DeployService.Csrf
