import DeployService.Proofs.ServedTokens

/-!
# How long a token is served again

A call for a kept token compares two things that both move with the clock: the time since the token
was obtained, and half of what is left of its lifetime at the time of the call. The two meet after a
third of the lifetime (`lt_half_iff`). So a token is served again for a third of its lifetime
(`KeptToken.IsFresh`), and a call after that asks the source, although half of the lifetime has not
passed yet.

A call that is served the kept token changes nothing (`next_of_fresh`), and so the same holds of any
number of such calls (`list_of_fresh`).
-/

namespace DeployService

namespace Jwt

/-- The claim of a token about when it expires, if that is an integer. -/
def claimedExpiry? (token : String) : Option Int :=
  match (claims? token).bind (·.member? "exp") with
  | some (.integer time) => some time
  | _ => none

theorem claimedExpiry?_eq_some {token : String} {time : Int}
    (h : claimedExpiry? token = some time) :
    (claims? token).bind (·.member? "exp") = some (.integer time) := by
  unfold claimedExpiry? at h
  split at h
  · next time' hclaim =>
    obtain rfl := Option.some.inj h
    exact hclaim
  · cases h

/-- A token that claims an integer has an expiry. It is that integer if a binary floating-point
number holds it exactly. -/
theorem expiry?_of_claimed {token : String} {time : Int} (h : claimedExpiry? token = some time) :
    ∃ expiry, expiry? token = some expiry ∧
      (time.natAbs < 9007199254740992 → expiry = time) := by
  have hclaim := claimedExpiry?_eq_some h
  obtain ⟨expiry, hexpiry⟩ : ∃ expiry, expiry? token = some expiry := by
    rw [expiry?, hclaim]
    exact ⟨_, rfl⟩
  refine ⟨expiry, hexpiry, fun hbound => ?_⟩
  rw [expiry?_of_integer hclaim hbound] at hexpiry
  exact (Option.some.inj hexpiry).symm

end Jwt

/-- At the time `now`, less than a third of the lifetime has passed since the token was obtained, by
the two seconds that are lost where a half is cut off to whole seconds. -/
structure KeptToken.IsFresh (kept : KeptToken) (expiry now : Int) : Prop where
  later : kept.fetchedAt ≤ now
  third : 3 * (now - kept.fetchedAt) + 2 ≤ expiry - kept.fetchedAt

/-- The time that has passed is less than half of the time that is left. -/
theorem lt_half_iff {passed left : Int} (h : 0 ≤ passed) :
    passed < left.tdiv 2 ↔ 2 * passed + 2 ≤ left := by
  by_cases hleft : 0 ≤ left
  · rw [Int.tdiv_eq_ediv_of_nonneg hleft]
    omega
  · -- half of a lifetime that is over is not positive
    have hover : 0 ≤ (-left).tdiv 2 := Int.tdiv_nonneg (by omega) (by decide)
    rw [Int.neg_tdiv] at hover
    omega

namespace KeptToken

variable {kept : KeptToken} {expiry now : Int}

theorem isFresh_iff (hnow : kept.fetchedAt ≤ now) :
    kept.IsFresh expiry now ↔ now - kept.fetchedAt < (expiry - now).tdiv 2 := by
  have hpassed : 0 ≤ now - kept.fetchedAt := by omega
  rw [lt_half_iff hpassed]
  constructor
  · rintro ⟨-, hthird⟩
    omega
  · intro hhalf
    exact ⟨hnow, by omega⟩

/-- A fresh token is in the first half of its lifetime. -/
theorem IsFresh.half (h : kept.IsFresh expiry now) :
    2 * (now - kept.fetchedAt) < expiry - kept.fetchedAt := by
  obtain ⟨hlater, hthird⟩ := h
  omega

theorem served?_of_fresh (he : Jwt.expiry? kept.value = some expiry)
    (h : kept.IsFresh expiry now) : kept.served? now = some kept.value := by
  have hhalf := (isFresh_iff h.later).mp h
  exact served?_eq_some.mpr ⟨rfl, expiry, he, hhalf⟩

theorem served?_of_not_fresh (he : Jwt.expiry? kept.value = some expiry)
    (hnow : kept.fetchedAt ≤ now) (h : ¬kept.IsFresh expiry now) : kept.served? now = none := by
  rw [Option.eq_none_iff_forall_ne_some]
  intro value hserved
  obtain ⟨-, expiry', he', hhalf⟩ := served?_eq_some.mp hserved
  obtain rfl : expiry = expiry' := Option.some.inj (he.symm.trans he')
  exact h ((isFresh_iff hnow).mpr hhalf)

end KeptToken

/-! ## Calls -/

namespace TokenState

variable (source : TokenSource) {s : TokenState} {kept : KeptToken} {expiry now : Int}

/-- A call that is served the kept token does not ask the source, and changes nothing. -/
theorem next_of_fresh (hk : s.kept = some kept) (he : Jwt.expiry? kept.value = some expiry)
    (h : kept.IsFresh expiry now) :
    Serving.of source now s = ⟨now, [], .ok ⟨kept.value⟩⟩ ∧
      ((TokenSupply.kept source).next now s).2 = s := by
  have hserved : s.kept.bind (·.served? now) = some kept.value := by
    rw [hk]
    exact KeptToken.served?_of_fresh he h
  have hnext := next_kept source now s
  generalize Serving.of source now s = o at hnext
  generalize ((TokenSupply.kept source).next now s).2 = s' at hnext
  cases hnext with
  | again hvalue =>
    obtain rfl := Option.some.inj (hserved.symm.trans hvalue)
    exact ⟨rfl, rfl⟩
  | failed hnone => rw [hserved] at hnone; cases hnone
  | unusable hnone => rw [hserved] at hnone; cases hnone
  | obtained hnone => rw [hserved] at hnone; cases hnone

/-- A later call asks the source once. -/
theorem asked_of_not_fresh (hk : s.kept = some kept) (he : Jwt.expiry? kept.value = some expiry)
    (hnow : kept.fetchedAt ≤ now) (h : ¬kept.IsFresh expiry now) :
    (Serving.of source now s).answers = [s.answers s.asked] := by
  have hnone : s.kept.bind (·.served? now) = none := by
    rw [hk]
    exact KeptToken.served?_of_not_fresh he hnow h
  exact (asks_of_unserved source hnone).1

/-- Any number of calls that are served the kept token. -/
theorem list_of_fresh (hk : s.kept = some kept) (he : Jwt.expiry? kept.value = some expiry)
    {clock : List Int} (h : ∀ now ∈ clock, kept.IsFresh expiry now) :
    Serving.list source clock s = clock.map (⟨·, [], .ok ⟨kept.value⟩⟩) ∧
      (TokenSupply.kept source).after clock s = s := by
  induction clock with
  | nil => exact ⟨rfl, rfl⟩
  | cons now clock ih =>
    obtain ⟨hof, hsame⟩ := next_of_fresh source hk he (h now List.mem_cons_self)
    obtain ⟨hlist, hafter⟩ := ih fun now' hnow' => h now' (List.mem_cons_of_mem now hnow')
    constructor
    · rw [Serving.list, hof, hsame, hlist]
      rfl
    · show (TokenSupply.kept source).after clock ((TokenSupply.kept source).next now s).2 = s
      rw [hsame, hafter]

end TokenState

/-- How long the kept token is served again in calls that come after the state `s`. -/
structure ReusedForThird (source : TokenSource) (s : TokenState) (kept : KeptToken) (expiry : Int) :
    Prop where
  /-- As long as it is fresh, it is served without asking the source. -/
  again : ∀ clock, (∀ now ∈ clock, kept.IsFresh expiry now) →
    Serving.list source clock s = clock.map (⟨·, [], .ok ⟨kept.value⟩⟩)
  /-- After such calls, a call asks the source exactly if the token is not fresh any more. This is
  about tokens that have not expired before they were obtained, where all times are after 1970. -/
  asks_iff : kept.fetchedAt < expiry → ∀ clock, (∀ now ∈ clock, kept.IsFresh expiry now) →
    ∀ now, kept.fetchedAt ≤ now →
      ((Serving.of source now ((TokenSupply.kept source).after clock s)).answers ≠ [] ↔
        ¬kept.IsFresh expiry now)
  /-- A token that is served again is in the first half of its lifetime. -/
  half : kept.fetchedAt < expiry → ∀ now, kept.fetchedAt ≤ now →
    (Serving.of source now s).answers = [] → 2 * (now - kept.fetchedAt) < expiry - kept.fetchedAt

theorem TokenState.reusedForThird (source : TokenSource) {s : TokenState} {kept : KeptToken}
    {expiry : Int} (hk : s.kept = some kept) (he : Jwt.expiry? kept.value = some expiry) :
    ReusedForThird source s kept expiry := by
  have hasks : ∀ now, kept.fetchedAt ≤ now →
      ((Serving.of source now s).answers ≠ [] ↔ ¬kept.IsFresh expiry now) := by
    intro now hnow
    by_cases hfresh : kept.IsFresh expiry now
    · have hserved := (next_of_fresh source hk he hfresh).1
      simp [hserved, hfresh]
    · have hasked := asked_of_not_fresh source hk he hnow hfresh
      simp [hasked, hfresh]
  refine ⟨fun clock h => (list_of_fresh source hk he h).1, ?_, ?_⟩
  · intro _ clock h now hnow
    rw [(list_of_fresh source hk he h).2]
    exact hasks now hnow
  · intro _ now hnow hnone
    by_cases hfresh : kept.IsFresh expiry now
    · exact hfresh.half
    · exact absurd hnone ((hasks now hnow).mpr hfresh)

/-- **A token is served again for a third of its lifetime.** For every token that a call has
obtained and that claims an integer as the time at which it expires, and for every run of calls
after that one. -/
theorem tokens_reused_for_third (source : TokenSource) (s : TokenState) (fetchedAt time : Int)
    (value : String) (ho : (Serving.of source fetchedAt s).obtained? = some ⟨value, fetchedAt⟩)
    (ht : Jwt.claimedExpiry? value = some time) :
    ∃ expiry, Jwt.expiry? value = some expiry ∧
      (time.natAbs < 9007199254740992 → expiry = time) ∧
      ReusedForThird source ((TokenSupply.kept source).next fetchedAt s).2 ⟨value, fetchedAt⟩
        expiry := by
  obtain ⟨expiry, hexpiry, hexact⟩ := Jwt.expiry?_of_claimed ht
  have hkept : ((TokenSupply.kept source).next fetchedAt s).2.kept = some ⟨value, fetchedAt⟩ := by
    rw [kept_step, ho]
    rfl
  exact ⟨expiry, hexpiry, hexact, TokenState.reusedForThird source hkept hexpiry⟩

/-- A source that prints a token which expires at the time 2000, and then other ones. -/
def expiringSource : TokenState where
  answers i := if i = 0 then .ok "bearer e30.eyJleHAiOjIwMDB9.s" else .ok "bearer b"
  asked := 0
  kept := none

/-- The token is served again at the end of the first third of its lifetime. -/
theorem token_reused_at_1332 :
    let token := "e30.eyJleHAiOjIwMDB9.s"
    let s := ((TokenSupply.kept .direct).next 1000 expiringSource).2
    (Serving.of .direct 1000 expiringSource).obtained? = some ⟨token, 1000⟩ ∧
      Jwt.claimedExpiry? token = some 2000 ∧
      Serving.list .direct [1200, 1332] s = [⟨1200, [], .ok ⟨token⟩⟩, ⟨1332, [], .ok ⟨token⟩⟩] := by
  intro token s
  have ho : (Serving.of .direct 1000 expiringSource).obtained? = some ⟨token, 1000⟩ := by
    decide +kernel
  have ht : Jwt.claimedExpiry? token = some 2000 := by decide +kernel
  obtain ⟨expiry, -, hexact, hreused⟩ :=
    tokens_reused_for_third .direct expiringSource 1000 2000 token ho ht
  obtain rfl : expiry = 2000 := hexact (by decide)
  refine ⟨ho, ht, hreused.again [1200, 1332] ?_⟩
  intro now hnow
  simp only [List.mem_cons, List.not_mem_nil, or_false] at hnow
  rcases hnow with rfl | rfl
  · exact ⟨by decide, by decide⟩
  · exact ⟨by decide, by decide⟩

/-- In the first half of the lifetime, but after the first third, the source is asked, and a call
gets another token. -/
theorem token_not_reused_at_1400 :
    let token := "e30.eyJleHAiOjIwMDB9.s"
    let s := ((TokenSupply.kept .direct).next 1000 expiringSource).2
    (Serving.of .direct 1000 expiringSource).obtained? = some ⟨token, 1000⟩ ∧
      Jwt.claimedExpiry? token = some 2000 ∧ (2 * (1400 - 1000) : Int) < 2000 - 1000 ∧
      (Serving.of .direct 1400 s).answers ≠ [] ∧
      (Serving.of .direct 1400 s).result ≠ .ok ⟨token⟩ := by
  decide +kernel

end DeployService
