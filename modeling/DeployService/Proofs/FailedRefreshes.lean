import DeployService.Proofs.Attempt
import DeployService.Proofs.ServedTokens
import Mathlib

/-!
# Refreshes that fail

A call for a kept token fails if its source has to be asked and fails, or answers without a token.
What was kept before is then kept unchanged, so all that is left of the call is that one answer of
the source has been used up. A run therefore shows the same in every other call if some of its
failing calls are left out together with the answers that they have used up (`WithoutFailures`).

Two states are compared by the token that they keep and by what their sources are still going to
answer (`TokenState.SameFuture`). A call uses up its answers from the front of that stream
(`TokenState.upcoming_step`), and of what it finds there it looks at the first one at most.
-/

namespace DeployService

namespace TokenState

variable {source : TokenSource} {now : Int} {s s' : TokenState}

/-- What the source is still going to answer. -/
def upcoming (s : TokenState) : Stream' (Except Error String) := fun i => s.answers (s.asked + i)

/-- The states agree on everything that is still to come. -/
structure SameFuture (s s' : TokenState) : Prop where
  kept : s.kept = s'.kept
  upcoming : s.upcoming = s'.upcoming

/-- A call uses up the first answers of its source, those that can be seen of it. -/
theorem upcoming_step (source : TokenSource) (now : Int) (s : TokenState) :
    s.upcoming =
      (Serving.of source now s).answers ++ₛ ((TokenSupply.kept source).next now s).2.upcoming := by
  have hrest : ∀ {a : Except Error String} {kept : Option KeptToken}, s.answers s.asked = a →
      s.upcoming = [a] ++ₛ
        upcoming { s with asked := s.asked + 1, kept := kept } := by
    rintro a kept rfl
    funext i
    cases i with
    | zero => rfl
    | succ i =>
      show s.answers (s.asked + (i + 1)) = s.answers (s.asked + 1 + i)
      rw [Nat.add_assoc, Nat.add_comm 1]
  have hnext := next_kept source now s
  generalize Serving.of source now s = o at hnext
  generalize ((TokenSupply.kept source).next now s).2 = s₁ at hnext
  cases hnext with
  | again => rfl
  | failed _ ha => exact hrest ha
  | unusable _ ha => exact hrest ha
  | obtained _ ha => exact hrest ha

/-- A call fails exactly if the source is asked and there is no token in its answer. -/
theorem fails_iff : (∃ e, (Serving.of source now s).result = .error e) ↔
    ∃ answer, (Serving.of source now s).answers = [answer] ∧
      ∀ printed, answer = .ok printed → Token.ofPrinted? printed = none := by
  have hnext := next_kept source now s
  generalize Serving.of source now s = o at hnext
  generalize ((TokenSupply.kept source).next now s).2 = s₁ at hnext
  cases hnext with
  | again => simp
  | failed => simp
  | unusable _ _ hp => simp [hp]
  | obtained _ _ hp => simp [hp]

/-- A call that fails leaves the kept token, and the time at which it was obtained, as they were. -/
theorem kept_of_error {e : Error} (he : (Serving.of source now s).result = .error e) :
    ((TokenSupply.kept source).next now s).2.kept = s.kept := by
  obtain ⟨answer, ha, hno⟩ := fails_iff.mp ⟨e, he⟩
  have hobtained : (Serving.of source now s).obtained? = none := by
    rw [Serving.obtained?, ha]
    cases answer with
    | error => rfl
    | ok printed => simp [hno printed rfl]
  rw [kept_step, hobtained, Option.none_or]

theorem ask_congr (source : TokenSource) (h : s'.answers s'.asked = s.answers s.asked) :
    (source.ask s').1 = (source.ask s).1 := by
  cases source <;> simp [TokenSource.ask, h]

/-- What comes of asking the source is decided by its answer. -/
theorem refresh_congr (h : s'.answers s'.asked = s.answers s.asked) :
    (refresh source now s').1 = (refresh source now s).1 := by
  have hask := ask_congr source h
  unfold refresh
  rcases hs : source.ask s with ⟨e | printed, s₁⟩ <;>
    rcases hs' : source.ask s' with ⟨e' | printed', s₁'⟩ <;> rw [hs, hs'] at hask
  · rw [Call.bind_error hs, Call.bind_error hs']
    simpa using hask
  · cases hask
  · cases hask
  · obtain rfl : printed' = printed := by simpa using hask
    rw [Call.bind_ok hs, Call.bind_ok hs']
    cases Token.ofPrinted? printed' <;> rfl

theorem refresh_asked (source : TokenSource) (now : Int) (s : TokenState) :
    (refresh source now s).2.asked = s.asked + 1 := by
  have hask := source.ask_asked s
  unfold refresh
  rcases hs : source.ask s with ⟨e | printed, s₁⟩ <;> rw [hs] at hask
  · rw [Call.bind_error hs]
    exact hask
  · rw [Call.bind_ok hs]
    cases Token.ofPrinted? printed <;> exact hask

/-- What a call shows depends on the kept token and, if it asks the source, on the next answer. -/
theorem of_congr (hk : s'.kept = s.kept) (ha : s.kept.bind (·.served? now) = none →
    s'.answers s'.asked = s.answers s.asked) :
    Serving.of source now s' = Serving.of source now s := by
  have hnext : ∀ s, (TokenSupply.kept source).next now s =
      ((current source now s).1.map Token.mk, (current source now s).2) := fun s =>
    Call.map_eq _ _ _
  unfold Serving.of
  rw [hnext, hnext]
  unfold current
  rw [hk]
  cases hserved : s.kept.bind (·.served? now) with
  | some value => simp
  | none =>
    have hanswer := ha hserved
    simp [refresh_asked, refresh_congr hanswer, hanswer]

/-- A call goes the same way in a state that keeps the same token, if the answers that it uses up
come first there, and leaves the answers behind them. -/
theorem next_same (hk : s'.kept = s.kept) {later : Stream' (Except Error String)}
    (hu : s'.upcoming = (Serving.of source now s).answers ++ₛ later) :
    Serving.of source now s' = Serving.of source now s ∧
      ((TokenSupply.kept source).next now s').2.kept =
        ((TokenSupply.kept source).next now s).2.kept ∧
      ((TokenSupply.kept source).next now s').2.upcoming = later := by
  have hanswer : s.kept.bind (·.served? now) = none →
      s'.answers s'.asked = s.answers s.asked := by
    intro hnone
    have hnext := next_kept source now s
    have hfirst := congrFun hu 0
    generalize Serving.of source now s = o at hnext hfirst
    generalize ((TokenSupply.kept source).next now s).2 = s₁ at hnext
    have hasked : ∀ a, s.answers s.asked = a → o.answers = [a] →
        s'.answers s'.asked = s.answers s.asked := by
      rintro a rfl hone
      rw [hone] at hfirst
      exact hfirst
    cases hnext with
    | again h =>
      rw [hnone] at h
      cases h
    | failed _ ha => exact hasked _ ha rfl
    | unusable _ ha => exact hasked _ ha rfl
    | obtained _ ha => exact hasked _ ha rfl
  have hsame : Serving.of source now s' = Serving.of source now s := of_congr hk hanswer
  refine ⟨hsame, ?_, ?_⟩
  · rw [kept_step, kept_step, hsame, hk]
  · have hstep := upcoming_step source now s'
    rw [hsame, hu] at hstep
    exact (Stream'.append_right_injective _ _ _ hstep).symm

end TokenState

/-! ## Runs -/

/-- The calls `rest` are the calls of a run without some of those that fail. -/
inductive WithoutFailures : List Serving → List Serving → Prop where
  | nil : WithoutFailures [] []
  /-- A call stays. -/
  | keep (o : Serving) {run rest : List Serving} (h : WithoutFailures run rest) :
    WithoutFailures (o :: run) (o :: rest)
  /-- A call that fails is left out. -/
  | leave {o : Serving} {e : Error} {run rest : List Serving} (he : o.result = .error e)
    (h : WithoutFailures run rest) : WithoutFailures (o :: run) rest

/-- The answers of the source that calls have used up. -/
def usedUp (run : List Serving) : List (Except Error String) := run.flatMap Serving.answers

/-- A run uses up the first answers of its source. -/
theorem upcoming_run (source : TokenSource) (clock : List Int) (s : TokenState) :
    s.upcoming = usedUp (Serving.list source clock s) ++ₛ
      ((TokenSupply.kept source).after clock s).upcoming := by
  induction clock generalizing s with
  | nil => rfl
  | cons now clock ih =>
    have hrest := ih ((TokenSupply.kept source).next now s).2
    rw [TokenState.upcoming_step source now s, hrest, ← Stream'.append_append_stream]
    rfl

/-- What is left of a run shows the same, and ends in a state with the same future. -/
theorem WithoutFailures.same {source : TokenSource} {clock : List Int} {s : TokenState}
    {run rest : List Serving} (h : WithoutFailures run rest)
    (hrun : run = Serving.list source clock s) {s' : TokenState} (hk : s'.kept = s.kept)
    (hu : s'.upcoming =
      usedUp rest ++ₛ ((TokenSupply.kept source).after clock s).upcoming) :
    Serving.list source (rest.map Serving.now) s' = rest ∧
      ((TokenSupply.kept source).after (rest.map Serving.now) s').SameFuture
        ((TokenSupply.kept source).after clock s) := by
  induction h generalizing clock s s' with
  | nil =>
    cases clock with
    | nil => exact ⟨rfl, hk, hu⟩
    | cons => cases hrun
  | @keep o run rest h ih =>
    cases clock with
    | nil => cases hrun
    | cons now clock =>
      obtain ⟨rfl, hrest⟩ := List.cons.inj hrun
      rw [usedUp, List.flatMap_cons, Stream'.append_append_stream] at hu
      obtain ⟨hsame, hkept, hlater⟩ := TokenState.next_same hk hu
      obtain ⟨hlist, hfuture⟩ := ih hrest hkept hlater
      refine ⟨?_, hfuture⟩
      show Serving.of source now s' :: Serving.list source (rest.map Serving.now)
        ((TokenSupply.kept source).next now s').2 = _
      rw [hsame, hlist]
  | @leave o e run rest he h ih =>
    cases clock with
    | nil => cases hrun
    | cons now clock =>
      obtain ⟨rfl, hrest⟩ := List.cons.inj hrun
      have hkept := TokenState.kept_of_error he
      exact ih hrest (hk.trans hkept.symm) hu

/-- Calls that fail leave no trace: neither one call in the state `s`, nor those of the run from `s`
at the given times. -/
structure ForgetsFailures (source : TokenSource) (s : TokenState) (clock : List Int) : Prop where
  /-- A call fails exactly if the source is asked and fails or answers without a token. -/
  fails : ∀ now, (∃ e, (Serving.of source now s).result = .error e) ↔
    ∃ answer, (Serving.of source now s).answers = [answer] ∧
      ∀ printed, answer = .ok printed → Token.ofPrinted? printed = none
  /-- Then the kept token and the time at which it was obtained are what they were. -/
  kept : ∀ now e, ((TokenSupply.kept source).next now s).1 = .error e →
    ((TokenSupply.kept source).next now s).2.kept = s.kept
  /-- What the source answers is used up by the run, in order. -/
  answers : s.upcoming = usedUp (Serving.list source clock s) ++ₛ
    ((TokenSupply.kept source).after clock s).upcoming
  /-- If calls that fail are left out of the run, and from the answers of the source those that they
  have used up, the other calls show the same as before, and so does everything after them. -/
  rest : ∀ rest, WithoutFailures (Serving.list source clock s) rest → ∀ s', s'.kept = s.kept →
    s'.upcoming = usedUp rest ++ₛ ((TokenSupply.kept source).after clock s).upcoming →
      Serving.list source (rest.map Serving.now) s' = rest ∧
        ((TokenSupply.kept source).after (rest.map Serving.now) s').SameFuture
          ((TokenSupply.kept source).after clock s)

/-- **Refreshes that fail leave no trace.** For every state, whatever the source answers, and for
every run of calls for a kept token, at times that may go back. -/
theorem failed_refreshes_forgotten (source : TokenSource) (s : TokenState) (clock : List Int) :
    ForgetsFailures source s clock where
  fails _ := TokenState.fails_iff
  kept _ _ he := TokenState.kept_of_error he
  answers := upcoming_run source clock s
  rest _ hrest _ hk hu := hrest.same rfl hk hu

/-- A refresh fails between two calls that are served the kept token. Without it, the others are
served the same, and ask the source as often. -/
theorem token_served_after_failed_refresh :
    let answers : List (Except Error String) :=
      [.ok "bearer e30.eyJleHAiOjIwMDB9.s", .error (.plain "Not logged in"), .ok "bearer b"]
    let s : TokenState := ⟨fun i => answers.getD i (.ok ""), 0, none⟩
    let clock : List Int := [1000, 1600, 1100, 1700]
    let rest := (Serving.list .direct clock s).eraseIdx 1
    let s' : TokenState :=
      ⟨usedUp rest ++ₛ ((TokenSupply.kept .direct).after clock s).upcoming, 0, none⟩
    let first := "e30.eyJleHAiOjIwMDB9.s"
    WithoutFailures (Serving.list .direct clock s) rest ∧
      Serving.list .direct [1000, 1100, 1700] s' = rest ∧
      rest.map (fun o => (o.result.toOption.map Token.value, o.answers.length)) =
        [(some first, 1), (some first, 0), (some "b", 1)] := by
  intro answers s clock rest s' first
  have hfails : (Serving.of .direct 1600 ((TokenSupply.kept .direct).next 1000 s).2).result =
      .error (.plain "Not logged in") := by decide +kernel
  have hrest : WithoutFailures (Serving.list .direct clock s) rest :=
    .keep _ (.leave hfails (.keep _ (.keep _ .nil)))
  have hupcoming : s'.upcoming =
      usedUp rest ++ₛ ((TokenSupply.kept .direct).after clock s).upcoming := by
    funext i
    show s'.answers (0 + i) = _
    rw [Nat.zero_add]
  have hsame := ((failed_refreshes_forgotten .direct s clock).rest rest hrest s' rfl hupcoming).1
  refine ⟨hrest, hsame, ?_⟩
  decide +kernel

end DeployService
