import DeployService.Proofs.TokenHistory

/-!
# Requests without consequences

A request that only reads leaves no trace in a guarded transport: what follows it is as if it had
never been sent. Sessions have the same *future* if they differ only in what has been sent so far
and agree on what is still to come (`Session.SameFuture`). A call is *uniform* if it does the same
in all sessions with the same future; a guarded transport consists of such calls.
-/

namespace DeployService

open DeployService.Http

/-- The sessions agree on everything that is still to come. -/
structure Session.SameFuture (s s' : Session) : Prop where
  clock : s.clock = s'.clock
  answers : ∀ k, s.answers (s.sent.length + k) = s'.answers (s'.sent.length + k)
  jar : s.jar = s'.jar
  csrf : s.csrf = s'.csrf

namespace Session

/-- The session without whatever becomes of its next request: the request after it is the next one.
-/
def skipping (s : Session) : Session :=
  { s with answers := fun i => if i < s.sent.length then s.answers i else s.answers (i + 1) }

theorem sending_sameFuture_skipping (request : Request) (s : Session) :
    (s.sending request).SameFuture s.skipping where
  clock := rfl
  answers := by
    intro k
    have hk : ¬s.sent.length + k < s.sent.length := by omega
    simp [sending, skipping, hk, Nat.add_right_comm]
  jar := rfl
  csrf := rfl

theorem SameFuture.next {s s' : Session} (h : s.SameFuture s') : s.next = s'.next := h.answers 0

theorem SameFuture.sending {s s' : Session} (h : s.SameFuture s') (request : Request) :
    (s.sending request).SameFuture (s'.sending request) where
  clock := h.clock
  answers := by
    intro k
    have hk := h.answers (1 + k)
    simpa [Session.sending, Nat.add_assoc] using hk
  jar := h.jar
  csrf := h.csrf

end Session

namespace Call

variable {α β : Type}

/-- The call sends the same and has the same result in all sessions with the same future, which they
still have after it. -/
def Uniform (x : Call Session α) : Prop :=
  ∀ s s', s.SameFuture s' → ∃ t, s.toWire.Grew t (x s).2.toWire ∧ s'.toWire.Grew t (x s').2.toWire ∧
    (x s).1 = (x s').1 ∧ (x s).2.SameFuture (x s').2

theorem Uniform.direct (request : Request) : Uniform (Transport.direct request) := by
  intro s s' h
  refine ⟨[⟨request, s.next⟩], Session.grew_sending request s, ?_, h.next, h.sending request⟩
  rw [h.next]
  exact Session.grew_sending request s'

/-- A call that does not touch the wire only has to keep the future. -/
theorem Uniform.of_silent {x : Call Session α} (hw : ∀ s, (x s).2.toWire = s.toWire)
    (hx : ∀ s s', s.SameFuture s' → (x s).1 = (x s').1 ∧ (x s).2.SameFuture (x s').2) :
    Uniform x := by
  intro s s' h
  refine ⟨[], ?_, ?_, hx s s' h⟩
  · rw [hw]
    exact .refl _
  · rw [hw]
    exact .refl _

theorem Uniform.ofExcept (r : Except Error α) : Uniform (Call.ofExcept r) :=
  .of_silent (fun _ => rfl) fun _ _ h => ⟨rfl, h⟩

theorem Uniform.pure (a : α) : Uniform (Pure.pure a) :=
  .of_silent (fun _ => rfl) fun _ _ h => ⟨rfl, h⟩

theorem Uniform.bind {x : Call Session α} {f : α → Call Session β} (hx : Uniform x)
    (hf : ∀ a, Uniform (f a)) : Uniform (x >>= f) := by
  intro s s' h
  obtain ⟨t, hg, hg', hr, hs⟩ := hx s s' h
  rcases h₁ : x s with ⟨e | a, s₁⟩ <;> rcases h₂ : x s' with ⟨e' | a', s₂⟩ <;>
    simp only [h₁, h₂] at hg hg' hr hs
  · rw [bind_error h₁, bind_error h₂]
    exact ⟨t, hg, hg', by simpa using hr, hs⟩
  · cases hr
  · cases hr
  · obtain rfl : a = a' := by simpa using hr
    obtain ⟨t', hg₁, hg₂, hr', hs'⟩ := hf a s₁ s₂ hs
    rw [bind_ok h₁, bind_ok h₂]
    exact ⟨t ++ t', hg.trans hg₁, hg'.trans hg₂, hr', hs'⟩

theorem Uniform.within {x : Call Session α} (hx : Uniform x) (context : String) :
    Uniform (x.within context) := by
  intro s s' h
  obtain ⟨t, hg, hg', hr, hs⟩ := hx s s' h
  simp only [Call.within, mapError_eq]
  exact ⟨t, hg, hg', by rw [hr], hs⟩

end Call

namespace Csrf

variable (guard : Guard) (request : Request)

theorem sessionCookies_uniform (url : Url) (response : Response) :
    (sessionCookies guard url response).Uniform := by
  refine .of_silent (fun s => by rw [sessionCookies_eq, opened_toWire]) fun s s' h => ?_
  simp only [sessionCookies_eq]
  constructor
  · simp [captured, Session.cookies?, Session.storeCookies, h.clock, h.jar]
  · unfold opened
    split
    · exact ⟨h.clock, h.answers, by simp [Session.storeCookies, h.clock, h.jar], h.csrf⟩
    · exact h

theorem clock_uniform : (Call.read fun s : Session => s.clock).Uniform :=
  .of_silent (fun _ => rfl) fun _ _ h => ⟨by simp [Call.read, h.clock], h⟩

theorem fetch_uniform : (fetch guard .direct request).Uniform := by
  unfold fetch
  refine ((Call.Uniform.direct _).within _).bind fun response => ?_
  refine (sessionCookies_uniform guard _ response).bind fun cookies => ?_
  cases cookies with
  | none => exact clock_uniform.bind fun now => .pure _
  | some cookies =>
    exact ((Call.Uniform.direct _).within _).bind fun response =>
      clock_uniform.bind fun now => .pure _

theorem updateToken_uniform : (updateToken guard .direct request).Uniform := by
  intro s s' h
  have hv : valid? guard s' = valid? guard s := by simp [valid?, h.csrf, h.clock]
  obtain ⟨t, hg, hg', hr, hs⟩ := fetch_uniform guard request s s' h
  unfold updateToken
  rw [hv]
  cases valid? guard s with
  | some token => exact ⟨[], .refl _, .refl _, rfl, h⟩
  | none =>
    rcases h₁ : fetch guard .direct request s with ⟨e | token, s₁⟩ <;>
      rcases h₂ : fetch guard .direct request s' with ⟨e' | token', s₂⟩ <;>
      simp only [h₁, h₂] at hg hg' hr hs
    · exact ⟨t, hg, hg', by simpa using hr, hs⟩
    · cases hr
    · cases hr
    · obtain rfl : token = token' := by simpa using hr
      exact ⟨t, hg, hg', rfl, hs.clock, hs.answers, hs.jar, rfl⟩

theorem forget_uniform : (Call.modify forget).Uniform :=
  .of_silent (fun _ => rfl) fun _ _ h => ⟨rfl, h.clock, h.answers, h.jar, rfl⟩

theorem guarded_uniform : Call.Uniform (Transport.guarded guard .direct request) := by
  unfold Transport.guarded
  split
  · refine (Call.Uniform.ofExcept _).bind fun copy => ?_
    refine (updateToken_uniform guard copy).bind fun token => ?_
    refine (Call.Uniform.direct _).bind fun response => ?_
    split
    · exact (forget_uniform).bind fun _ => .pure _
    · exact .pure _
  · exact .direct request

/-- What can be seen of a run depends on the future only. -/
theorem observations_eq (steps : List Step) {s s' : Session} (h : s.SameFuture s') :
    observations guard steps s = observations guard steps s' := by
  induction steps generalizing s s' with
  | nil => rfl
  | cons step steps ih =>
    obtain ⟨ho, hs⟩ : observe guard step s = observe guard step s' ∧
        (step.perform guard s).2.SameFuture (step.perform guard s').2 := by
      cases step with
      | send request =>
        obtain ⟨t, hg, hg', hr, hs⟩ := guarded_uniform guard request s s' h
        refine ⟨?_, hs⟩
        rw [observe_of_grew (.send request) hg, observe_of_grew (.send request) hg']
        simp only [Step.perform, hr, h.clock]
      | forget =>
        refine ⟨?_, h.clock, h.answers, h.jar, rfl⟩
        rw [observe_of_grew .forget (.refl _), observe_of_grew .forget (.refl _)]
        simp only [Step.perform, h.clock]
      | wait milliseconds =>
        refine ⟨?_, by simp [Step.perform, h.clock], h.answers, h.jar, h.csrf⟩
        rw [observe_of_grew (.wait milliseconds) (.of_same rfl rfl),
          observe_of_grew (.wait milliseconds) (.of_same rfl rfl)]
        simp only [Step.perform, h.clock]
    rw [observations, observations, ho, ih hs]

end Csrf

end DeployService
