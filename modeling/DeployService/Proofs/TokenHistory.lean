import DeployService.Proofs.HeaderFields
import DeployService.Proofs.Protection

/-!
# The history of a guarded transport

A guarded transport keeps at most one token. What it is allowed to do is said in terms of everything
that has happened to it before: which fetches have handed out a token, how long ago, and whether a
token has been rejected or forgotten since. The history (`observations`) records what each step of a
run has sent; the kept token is compared with it (`Tracks`). A step keeps the comparison
(`Tracks.step`), and so does a run (`Tracks.run`).
-/

namespace DeployService.Csrf

open DeployService.Http

/-! ## Runs -/

/-- What can happen to a guarded transport. -/
inductive Step where
  | send (request : Request)
  | forget
  | wait (milliseconds : Nat)

/-- A step from a session: the result of the request, if there is one, and the session after it. -/
def Step.perform (guard : Guard) : Step → Session → Option (Except Error Response) × Session
  | .send request, s =>
    let (result, s) := Transport.guarded guard .direct request s
    (some result, s)
  | .forget, s => (none, Csrf.forget s)
  | .wait milliseconds, s => (none, { s with clock := s.clock + milliseconds })

/-- What can be seen of a step. -/
structure Observation where
  step : Step
  clock : Int
  trips : List RoundTrip
  result : Option (Except Error Response)

/-- What can be seen of a step from a session. -/
def observe (guard : Guard) (step : Step) (s : Session) : Observation where
  step := step
  clock := s.clock
  trips := (step.perform guard s).2.toWire.traffic.drop s.toWire.traffic.length
  result := (step.perform guard s).1

theorem observe_of_grew {guard : Guard} (step : Step) {s : Session} {t : List RoundTrip}
    (h : s.toWire.Grew t (step.perform guard s).2.toWire) :
    observe guard step s = ⟨step, s.clock, t, (step.perform guard s).1⟩ := by
  rw [observe, h.drop]

/-- The session after some steps. -/
def after (guard : Guard) (steps : List Step) (s : Session) : Session :=
  steps.foldl (fun s step => (step.perform guard s).2) s

/-- What can be seen of some steps, the first one first. -/
def observations (guard : Guard) : List Step → Session → List Observation
  | [], _ => []
  | step :: steps, s =>
    observe guard step s :: observations guard steps (step.perform guard s).2

/-! ## What a history says about tokens -/

namespace Observation

/-- The requests for a token. -/
def fetches (o : Observation) : List RoundTrip :=
  match o.step with
  | .send request =>
    if isProtected request.method then o.trips.filter (·.request.method == "GET") else []
  | _ => []

/-- The request of the step itself, if it was sent. -/
def own (o : Observation) : List RoundTrip :=
  match o.step with
  | .send request => o.trips.filter (·.request.method == request.method)
  | _ => []

/-- The token that a fetch hands out. The second request of a fetch carries the cookies of the
session that the token belongs to. -/
def handedOut? (now : Int) : List RoundTrip → Option CsrfToken
  | [⟨_, .ok response⟩] => tokenOf? response none now
  | [_, ⟨request, .ok response⟩] => tokenOf? response (request.headers.get? cookie) now
  | _ => none

/-- The token that was fetched in a step. -/
def yield? (o : Observation) : Option CsrfToken := handedOut? o.clock o.fetches

/-- The step makes an end of the tokens before it: they are forgotten, or one is rejected. -/
def revokes (o : Observation) : Bool :=
  match o.step with
  | .send request => isProtected request.method && o.own.any (rejects ·.outcome)
  | .forget => true
  | .wait _ => false

end Observation

/-- The token that was fetched last. -/
def latest? (past : List Observation) : Option CsrfToken :=
  (past.filterMap Observation.yield?).getLast?

/-- The token was fetched, and no token has been rejected or forgotten since. -/
def Unrevoked (past : List Observation) (token : CsrfToken) : Prop :=
  ∃ before o after, past = before ++ o :: after ∧ o.yield? = some token ∧
    ∀ o' ∈ o :: after, o'.revokes = false

/-- A token that was fetched may still be used at the time `now`. -/
def Valid (guard : Guard) (past : List Observation) (now : Int) (token : CsrfToken) : Prop :=
  Unrevoked past token ∧ now - token.fetchedAt ≤ guard.timeout

theorem not_unrevoked_nil (token : CsrfToken) : ¬Unrevoked [] token := by
  rintro ⟨before, o, after, h, -⟩
  simp at h

/-- Where a list can be cut that has one more element at its end. -/
theorem concat_eq_append_cons {β : Type} {l before after : List β} {b b' : β} :
    l ++ [b] = before ++ b' :: after ↔
      (before = l ∧ b' = b ∧ after = []) ∨
        ∃ after', after = after' ++ [b] ∧ l = before ++ b' :: after' := by
  constructor
  · intro h
    rcases List.eq_nil_or_concat after with rfl | ⟨after', last, rfl⟩
    · obtain ⟨rfl, hlast⟩ := List.append_inj' h rfl
      exact .inl ⟨rfl, (List.singleton_inj.mp hlast).symm, rfl⟩
    · have h' : l ++ [b] = (before ++ b' :: after') ++ [last] := by simpa using h
      obtain ⟨rfl, hlast⟩ := List.append_inj' h' rfl
      obtain rfl := List.singleton_inj.mp hlast
      exact .inr ⟨after', List.concat_eq_append, rfl⟩
  · rintro (⟨rfl, rfl, rfl⟩ | ⟨after', rfl, rfl⟩)
    · rfl
    · simp

theorem unrevoked_concat {past : List Observation} {o : Observation} {token : CsrfToken} :
    Unrevoked (past ++ [o]) token ↔
      o.revokes = false ∧ (o.yield? = some token ∨ Unrevoked past token) := by
  constructor
  · rintro ⟨before, o', after, h, hy, hr⟩
    rcases concat_eq_append_cons.mp h with ⟨-, rfl, -⟩ | ⟨after', rfl, rfl⟩
    · exact ⟨hr o' (by simp), .inl hy⟩
    · rw [← List.cons_append, List.forall_mem_append] at hr
      exact ⟨hr.2 o (by simp), .inr ⟨before, o', after', rfl, hy, hr.1⟩⟩
  · rintro ⟨hr, hy | ⟨before, o', after, rfl, hy, hr'⟩⟩
    · exact ⟨past, o, [], by simp, hy, by simpa using hr⟩
    · refine ⟨before, o', after ++ [o], by simp, hy, ?_⟩
      rw [← List.cons_append, List.forall_mem_append]
      exact ⟨hr', by simpa using hr⟩

theorem latest_concat (past : List Observation) (o : Observation) :
    latest? (past ++ [o]) = o.yield?.or (latest? past) := by
  unfold latest?
  rw [List.filterMap_append]
  cases h : o.yield? <;> simp [h, List.filterMap]

/-- The last token was fetched at some time, and none has been fetched since. -/
theorem latest_cut {past : List Observation} {token : CsrfToken} (h : latest? past = some token) :
    ∃ before o after, past = before ++ o :: after ∧ o.yield? = some token ∧
      ∀ o' ∈ after, o'.yield? = none := by
  unfold latest? at h
  rw [List.getLast?_filterMap, List.findSome?_eq_some_iff] at h
  obtain ⟨after, o, before, hcut, hy, hafter⟩ := h
  refine ⟨before.reverse, o, after.reverse, ?_, hy, fun o' ho' => hafter o' (by simpa using ho')⟩
  have hpast := congrArg List.reverse hcut
  simpa using hpast

/-! ## One step -/

/-- The traffic of a request, told apart: what is sent before the request itself is for a token. -/
theorem Prepared.parts {guard : Guard} {request : Request} {s s' : Session} {t : List RoundTrip}
    {r : Except Error Request} (h : Prepared guard request s t r s') (now : Int)
    (result : Option (Except Error Response)) (own : List RoundTrip)
    (ho : ∀ trip ∈ own, trip.request.method = request.method) :
    (Observation.mk (.send request) now (t ++ own) result).fetches = t ∧
      (Observation.mk (.send request) now (t ++ own) result).own = own := by
  unfold Observation.fetches Observation.own
  cases hm : isProtected request.method with
  | false =>
    obtain ⟨rfl, -, -⟩ := h.of_safe hm
    simpa [hm] using ho
  | true =>
    have hne : request.method ≠ "GET" := by
      intro hget
      rw [hget] at hm
      exact absurd hm (by decide)
    have ht : ∀ trip ∈ t, trip.request.method = "GET" := fun trip ht => (h.fetches trip ht).2
    constructor
    · have hown : own.filter (·.request.method == "GET") = [] := by
        simpa using fun trip htrip => by rw [ho trip htrip]; exact hne
      have hfetch : t.filter (·.request.method == "GET") = t := by simpa using ht
      simp [hm, hfetch, hown]
    · have hown : own.filter (·.request.method == request.method) = own := by simpa using ho
      have hfetch : t.filter (·.request.method == request.method) = [] := by
        simpa using fun trip htrip => by rw [ht trip htrip]; exact hne.symm
      simp [hfetch, hown]

/-- The traffic of a fetch tells which token it hands out. -/
theorem Fetched.handedOut {guard : Guard} {request : Request} {s s' : Session}
    {t : List RoundTrip} {r : Except Error (Option CsrfToken)}
    (h : Fetched guard request s t r s') :
    Observation.handedOut? s.clock t = r.toOption.join := by
  cases h <;> simp [Observation.handedOut?, fetchAgain, Except.toOption]

/-- How a request goes from the session `s` to the session `s'`, and what is seen of it. -/
structure Sent (guard : Guard) (request : Request) (s : Session) (o : Observation)
    (s' : Session) : Prop where
  step : o.step = .send request
  clock : o.clock = s.clock
  /-- First the requests for a token are sent, then the request itself. -/
  trips : o.trips = o.fetches ++ o.own
  /-- Either the request cannot be prepared, or it is sent. -/
  course : (∃ e, Prepared guard request s o.fetches (.error e) s' ∧ o.own = [] ∧
      o.result = some (.error e)) ∨
    ∃ own s₁, Prepared guard request s o.fetches (.ok own) s₁ ∧ o.own = [⟨own, s₁.next⟩] ∧
      o.result = some s₁.next ∧ s' = settle own s₁.next (s₁.sending own)

theorem send_sent (guard : Guard) (request : Request) (s : Session) :
    Sent guard request s (observe guard (.send request) s)
      ((Step.send request).perform guard s).2 := by
  obtain ⟨t, hp⟩ := prepare_prepared guard request s
  have hg := guarded_eq guard request s
  rcases hr : prepare guard .direct request s with ⟨e | own, s'⟩ <;> rw [hr] at hp hg
  · have hperform : (Step.send request).perform guard s = (some (.error e), s') := by
      simp only [Step.perform, hg]
    have ho := observe_of_grew (.send request) (t := t) (by rw [hperform]; exact hp.grew)
    obtain ⟨hf, hown⟩ := hp.parts s.clock (some (.error e)) [] (by simp)
    rw [List.append_nil] at hf hown
    rw [ho, hperform]
    exact ⟨rfl, rfl, by simp [hf, hown], .inl ⟨e, by rw [hf]; exact hp, hown, rfl⟩⟩
  · have hperform : (Step.send request).perform guard s =
        (some s'.next, settle own s'.next (s'.sending own)) := by
      simp only [Step.perform, hg]
    have hgrew := hp.grew.trans (Session.grew_sending own s')
    have ho := observe_of_grew (.send request) (by rw [hperform, settle_toWire]; exact hgrew)
    obtain ⟨hf, hown⟩ := hp.parts s.clock (some s'.next) [⟨own, s'.next⟩]
      (by simpa using hp.same_target.1)
    rw [ho, hperform]
    exact ⟨rfl, rfl, by rw [hf, hown],
      .inr ⟨own, s', by rw [hf]; exact hp, hown, rfl, rfl⟩⟩

/-! ## The kept token and the history -/

/-- The kept token is the one that was fetched last, and it has not been revoked. Any other token
that has not been revoked is too old. -/
structure Tracks (guard : Guard) (past : List Observation) (s : Session) : Prop where
  kept : ∀ token, s.csrf = some token → Unrevoked past token ∧ latest? past = some token
  others : ∀ token, Unrevoked past token →
    s.csrf = some token ∨ guard.timeout < s.clock - token.fetchedAt

namespace Tracks

variable {guard : Guard} {past : List Observation} {s s' : Session} {o : Observation}

theorem of_forget (guard : Guard) (s : Session) : Tracks guard [] (Csrf.forget s) where
  kept := fun token h => by simp [Csrf.forget] at h
  others := fun token h => absurd h (not_unrevoked_nil token)

/-- A token may be used again exactly when it is the kept one and not too old. -/
theorem valid_iff (h : Tracks guard past s) (token : CsrfToken) :
    valid? guard s = some token ↔ Valid guard past s.clock token := by
  unfold valid? Valid
  simp only [Option.filter_eq_some_iff, isExpired, Bool.not_eq_true', decide_eq_false_iff_not,
    Int.not_lt]
  constructor
  · rintro ⟨hk, ht⟩
    exact ⟨(h.kept token hk).1, ht⟩
  · rintro ⟨hu, ht⟩
    rcases h.others token hu with hk | hlt
    · exact ⟨hk, ht⟩
    · omega

theorem valid_none_iff (h : Tracks guard past s) :
    valid? guard s = none ↔ ¬∃ token, Valid guard past s.clock token := by
  rw [Option.eq_none_iff_forall_ne_some]
  simp only [ne_eq, h.valid_iff, not_exists]

/-- Only the kept token matters, and the time, which does not go back. -/
theorem later (h : Tracks guard past s) (hc : s'.csrf = s.csrf) (ht : s.clock ≤ s'.clock) :
    Tracks guard past s' where
  kept := by
    rw [hc]
    exact h.kept
  others := by
    intro token hu
    rw [hc]
    rcases h.others token hu with hk | hlt
    · exact .inl hk
    · exact .inr (by omega)

/-- A step in which nothing is fetched and nothing is revoked. -/
theorem quiet (h : Tracks guard past s) (hy : o.yield? = none) (hr : o.revokes = false)
    (hc : s'.csrf = s.csrf) (ht : s.clock ≤ s'.clock) : Tracks guard (past ++ [o]) s' where
  kept := by
    intro token hk
    obtain ⟨hu, hl⟩ := (h.later hc ht).kept token hk
    exact ⟨unrevoked_concat.mpr ⟨hr, .inr hu⟩, by simp [latest_concat, hy, hl]⟩
  others := by
    intro token hu
    rcases (unrevoked_concat.mp hu).2 with hy' | hu
    · rw [hy] at hy'
      cases hy'
    · exact (h.later hc ht).others token hu

/-- A step that makes an end of all tokens. -/
theorem revoked (hr : o.revokes = true) (hc : s'.csrf = none) :
    Tracks guard (past ++ [o]) s' where
  kept := fun token hk => by simp [hc] at hk
  others := fun token hu => by simp [(unrevoked_concat.mp hu).1] at hr

/-- A step in which a token is asked for because there is none that may be used. -/
theorem fetched (h : Tracks guard past s) (hv : valid? guard s = none) (hr : o.revokes = false)
    (hc : s'.csrf = o.yield?) (ht : s'.clock = s.clock) : Tracks guard (past ++ [o]) s' where
  kept := by
    intro token hk
    rw [hc] at hk
    exact ⟨unrevoked_concat.mpr ⟨hr, .inl hk⟩, by simp [latest_concat, hk]⟩
  others := by
    intro token hu
    rcases (unrevoked_concat.mp hu).2 with hy | hu
    · exact .inl (by rw [hc, hy])
    · -- an older token may not be used any more, or nothing would have been fetched
      rcases Int.lt_or_le guard.timeout (s.clock - token.fetchedAt) with hlt | hle
      · exact .inr (by rw [ht]; exact hlt)
      · exact absurd ⟨token, hu, hle⟩ (h.valid_none_iff.mp hv)

/-- The preparation of a request keeps the comparison. -/
theorem prepared {request : Request} {t : List RoundTrip} {r : Except Error Request}
    (h : Tracks guard past s) (hp : Prepared guard request s t r s')
    (hy : o.yield? = Observation.handedOut? s.clock t) (hr : o.revokes = false) :
    Tracks guard (past ++ [o]) s' := by
  have hclock := hp.clock
  cases hp with
  | safe => exact h.quiet hy hr rfl (Int.le_refl _)
  | streaming => exact h.quiet hy hr rfl (Int.le_refl _)
  | kept => exact h.quiet hy hr rfl (Int.le_refl _)
  | unfetched _ _ _ hf =>
    exact h.quiet (hy.trans hf.handedOut) hr hf.csrf (Int.le_of_eq hclock.symm)
  | fetched _ _ hv hf => exact h.fetched hv hr (hy.trans hf.handedOut).symm hclock

/-- A request keeps the comparison. -/
theorem sent {request : Request} (h : Tracks guard past s) (hs : Sent guard request s o s') :
    Tracks guard (past ++ [o]) s' := by
  have hy : o.yield? = Observation.handedOut? s.clock o.fetches := by
    rw [Observation.yield?, hs.clock]
  have hr : o.revokes = (isProtected request.method && o.own.any (rejects ·.outcome)) := by
    simp only [Observation.revokes, hs.step]
  rcases hs.course with ⟨e, hp, ho, -⟩ | ⟨own, s₁, hp, ho, -, hs'⟩
  · exact h.prepared hp hy (by simp [hr, ho])
  · have hcsrf := settle_csrf hp.same_target.1 s₁.next (s₁.sending own)
    rw [← hs'] at hcsrf
    replace hr : o.revokes = (isProtected request.method && rejects s₁.next) := by simp [hr, ho]
    rw [← hr] at hcsrf
    cases hrevokes : o.revokes with
    | true =>
      rw [hrevokes] at hcsrf
      exact .revoked hrevokes hcsrf
    | false =>
      rw [hrevokes] at hcsrf
      refine (h.prepared hp hy hrevokes).later hcsrf (Int.le_of_eq ?_)
      rw [hs', settle_toWire]
      rfl

theorem step (h : Tracks guard past s) (step : Step) :
    Tracks guard (past ++ [observe guard step s]) (step.perform guard s).2 := by
  cases step with
  | send request => exact h.sent (send_sent guard request s)
  | forget => exact .revoked rfl rfl
  | wait milliseconds =>
    refine h.quiet rfl rfl rfl ?_
    show s.clock ≤ s.clock + milliseconds
    omega

theorem run (h : Tracks guard past s) (steps : List Step) :
    Tracks guard (past ++ observations guard steps s) (after guard steps s) := by
  induction steps generalizing past s with
  | nil => simpa [observations, after] using h
  | cons step steps ih =>
    have h' := ih (h.step step)
    rw [List.append_assoc] at h'
    exact h'

end Tracks

end DeployService.Csrf
