import DeployService.Proofs.Failures
import Mathlib

/-!
# Tokens that are served again

A token that is kept is served without asking its source, as long as the clock allows it. What is
served then is determined by what can be seen from outside: which answers of the source had a token
in them, and when they came. So the kept token is the one that was obtained last
(`kept_eq_latest`), whatever the clock does in between, and a call either serves it again or asks
the source once (`TokenState.Next`).
-/

namespace DeployService

/-! ## When a token expires -/

namespace Jwt

/-- A time that a binary floating-point number holds exactly is read as it is. -/
theorem seconds?_integer {n : Int} (h : n.natAbs < 9007199254740992) :
    seconds? (.integer n) = some n := by
  have hfloat : nearestFloat n.natAbs = n.natAbs := by rw [nearestFloat, if_pos h]
  have hmin : Int64.minValue.toInt = -9223372036854775808 := by decide
  have hmax : Int64.maxValue.toInt = 9223372036854775807 := by decide
  have hsaturate : saturate n = n := by
    rw [saturate, hmin, hmax]
    omega
  rw [seconds?, hfloat, Int.sign_mul_natAbs, hsaturate]

theorem expiry?_of_integer {token : String} {n : Int}
    (hn : (claims? token).bind (·.member? "exp") = some (.integer n))
    (h : n.natAbs < 9007199254740992) : expiry? token = some n := by
  rw [expiry?, hn, Option.bind_some, seconds?_integer h]

/-- Less than half of what is left of a lifetime cannot have passed in less than two seconds. -/
theorem expiry_of_half {now fetchedAt expiry : Int} (hnow : fetchedAt ≤ now)
    (h : now - fetchedAt < (expiry - now).tdiv 2) : now + 2 ≤ expiry := by
  rcases Int.le_total 0 (expiry - now) with hleft | hleft
  · rw [Int.tdiv_eq_ediv_of_nonneg hleft] at h
    omega
  · -- half of a lifetime that is over is not positive
    have hover := Int.tdiv_nonneg (Int.neg_nonneg_of_nonpos hleft) (show (0 : Int) ≤ 2 by decide)
    rw [Int.neg_tdiv] at hover
    omega

end Jwt

/-! ## What can be seen of a call -/

/-- The state after calls at the given times, which may go back. -/
def TokenSupply.after (supply : TokenSupply) (clock : List Int) (s : TokenState) : TokenState :=
  clock.foldl (fun s now => (supply.next now s).2) s

/-- A call for a token, as it is seen from outside. -/
structure Serving where
  now : Int
  /-- What the source answered, as often as it was asked. -/
  answers : List (Except Error String)
  result : Except Error Token

namespace Serving

/-- What can be seen of a call for a kept token. -/
def of (source : TokenSource) (now : Int) (s : TokenState) : Serving where
  now := now
  answers := (List.range' s.asked
    (((TokenSupply.kept source).next now s).2.asked - s.asked)).map s.answers
  result := ((TokenSupply.kept source).next now s).1

/-- The token that was obtained in a call, and when. An answer of the source is a success if there
is a token in it. -/
def obtained? (o : Serving) : Option KeptToken :=
  match o.answers with
  | [.ok printed] => (Token.ofPrinted? printed).map (⟨·, o.now⟩)
  | _ => none

/-- What can be seen of calls at the given times, the first one first. -/
def list (source : TokenSource) : List Int → TokenState → List Serving
  | [], _ => []
  | now :: clock, s =>
    of source now s :: list source clock ((TokenSupply.kept source).next now s).2

end Serving

/-- The token that was obtained last. -/
def latestToken? (past : List Serving) : Option KeptToken :=
  (past.filterMap Serving.obtained?).getLast?

theorem latestToken?_concat (past : List Serving) (o : Serving) :
    latestToken? (past ++ [o]) = o.obtained?.or (latestToken? past) := by
  unfold latestToken?
  rw [List.filterMap_append]
  cases h : o.obtained? <;> simp [h, List.filterMap]

/-! ## One call for a token -/

namespace TokenState

/-- How a call for a kept token goes at the time `now`: what can be seen of it, and the state after
it. -/
inductive Next (now : Int) (s : TokenState) : Serving → TokenState → Prop where
  /-- The kept token is served again. -/
  | again {value : String} (h : s.kept.bind (·.served? now) = some value) :
    Next now s ⟨now, [], .ok ⟨value⟩⟩ s
  /-- The source fails. -/
  | failed {e e' : Error} (h : s.kept.bind (·.served? now) = none)
    (ha : s.answers s.asked = .error e) :
    Next now s ⟨now, [.error e], .error e'⟩ { s with asked := s.asked + 1 }
  /-- There is no token in the answer of the source. -/
  | unusable {printed : String} {e : Error} (h : s.kept.bind (·.served? now) = none)
    (ha : s.answers s.asked = .ok printed) (hp : Token.ofPrinted? printed = none) :
    Next now s ⟨now, [.ok printed], .error e⟩ { s with asked := s.asked + 1 }
  /-- The token in the answer of the source is kept. -/
  | obtained {printed value : String} (h : s.kept.bind (·.served? now) = none)
    (ha : s.answers s.asked = .ok printed) (hp : Token.ofPrinted? printed = some value) :
    Next now s ⟨now, [.ok printed], .ok ⟨value⟩⟩
      { s with asked := s.asked + 1, kept := some ⟨value, now⟩ }

theorem ask_of_ok (source : TokenSource) {s : TokenState} {printed : String}
    (ha : s.answers s.asked = .ok printed) :
    source.ask s = (.ok printed, { s with asked := s.asked + 1 }) := by
  cases source <;> simp [TokenSource.ask, ha, Except.mapError]

theorem ask_of_error (source : TokenSource) {s : TokenState} {e : Error}
    (ha : s.answers s.asked = .error e) :
    ∃ e', source.ask s = (.error e', { s with asked := s.asked + 1 }) := by
  cases source <;> simp [TokenSource.ask, ha, Except.mapError]

theorem next_kept (source : TokenSource) (now : Int) (s : TokenState) :
    Next now s (.of source now s) ((TokenSupply.kept source).next now s).2 := by
  have hnext : (TokenSupply.kept source).next now s =
      ((TokenState.current source now s).1.map Token.mk, (TokenState.current source now s).2) :=
    Call.map_eq _ _ _
  unfold Serving.of
  rw [hnext]
  unfold TokenState.current
  cases hserved : s.kept.bind (·.served? now) with
  | some value =>
    simp only [Nat.sub_self]
    exact .again hserved
  | none =>
    have hanswers : (List.range' s.asked (s.asked + 1 - s.asked)).map s.answers =
        [s.answers s.asked] := by simp
    unfold TokenState.refresh
    rcases ha : s.answers s.asked with e | printed
    · obtain ⟨e', hask⟩ := ask_of_error source ha
      simp only [Call.bind_error hask, hanswers, ha]
      exact .failed hserved ha
    · have hask := ask_of_ok source ha
      simp only [Call.bind_ok hask]
      cases hp : Token.ofPrinted? printed with
      | none =>
        simp only [Call.fail, hanswers, ha]
        exact .unusable hserved ha hp
      | some value =>
        simp only [hanswers, ha]
        exact .obtained hserved ha hp

/-- A call in which no kept token can be served asks the source. -/
theorem asks_of_unserved (source : TokenSource) {now : Int} {s : TokenState}
    (h : s.kept.bind (·.served? now) = none) :
    (Serving.of source now s).answers = [s.answers s.asked] ∧
      ∀ token, (Serving.of source now s).result = .ok token ↔
        ∃ printed, s.answers s.asked = .ok printed ∧
          Token.ofPrinted? printed = some token.value := by
  have hnext := next_kept source now s
  generalize Serving.of source now s = o at hnext
  generalize ((TokenSupply.kept source).next now s).2 = s' at hnext
  cases hnext with
  | again hserved =>
    rw [h] at hserved
    cases hserved
  | failed _ ha => exact ⟨by rw [ha], by simp [ha]⟩
  | unusable _ ha hp => exact ⟨by rw [ha], by simp [ha, hp]⟩
  | obtained _ ha hp =>
    refine ⟨by rw [ha], ?_⟩
    rintro ⟨token⟩
    simp [ha, hp]

end TokenState

/-! ## The kept token -/

/-- The token that is kept after a call is the one obtained in it, or else the one before. -/
theorem kept_step (source : TokenSource) (now : Int) (s : TokenState) :
    ((TokenSupply.kept source).next now s).2.kept =
      (Serving.of source now s).obtained?.or s.kept := by
  have hnext := TokenState.next_kept source now s
  generalize Serving.of source now s = o at hnext
  generalize ((TokenSupply.kept source).next now s).2 = s' at hnext
  cases hnext with
  | again => rfl
  | failed => rfl
  | unusable _ _ hp => simp [Serving.obtained?, hp]
  | obtained _ _ hp => simp [Serving.obtained?, hp]

/-- After every run, the token that is kept is the one that was obtained last. -/
theorem kept_eq_latest (source : TokenSource) (clock : List Int) {s : TokenState}
    {past : List Serving} (h : s.kept = latestToken? past) :
    ((TokenSupply.kept source).after clock s).kept =
      latestToken? (past ++ Serving.list source clock s) := by
  induction clock generalizing s past with
  | nil => simpa [TokenSupply.after, Serving.list] using h
  | cons now clock ih =>
    have hstep : ((TokenSupply.kept source).next now s).2.kept =
        latestToken? (past ++ [Serving.of source now s]) := by
      rw [kept_step, latestToken?_concat, h]
    have hrun := ih hstep
    rw [List.append_assoc] at hrun
    exact hrun

theorem served?_eq_some {kept : KeptToken} {now : Int} {value : String} :
    kept.served? now = some value ↔ value = kept.value ∧ ∃ expiry,
      Jwt.expiry? kept.value = some expiry ∧ now - kept.fetchedAt < (expiry - now).tdiv 2 := by
  unfold KeptToken.served?
  cases Jwt.expiry? kept.value with
  | none => simp
  | some expiry => simp [eq_comm, and_comm]

/-- The time at which the token expires, if it says one, is one that a binary floating-point number
holds exactly. It is far from the ends of the 64 bits that a time has, and so these are enough for
what is left until then, too. -/
def KeptToken.IsExact (kept : KeptToken) : Prop :=
  ∀ expiry, Jwt.expiry? kept.value = some expiry → expiry.natAbs < 9007199254740992

/-- A call for a token, seen against the calls before it. -/
structure Live (past : List Serving) (o : Serving) : Prop where
  /-- A token that is served without asking the source is the one that was obtained last. It says
  when it expires, and less than half of what was left of its lifetime has passed since then. -/
  again : o.answers = [] → (∀ kept, latestToken? past = some kept → kept.IsExact) →
    ∃ kept expiry, latestToken? past = some kept ∧
      o.result = .ok ⟨kept.value⟩ ∧ Jwt.expiry? kept.value = some expiry ∧
      o.now - kept.fetchedAt < (expiry - o.now).tdiv 2 ∧
      (kept.fetchedAt ≤ o.now → o.now + 2 ≤ expiry) ∧
      ∀ n, (Jwt.claims? kept.value).bind (·.member? "exp") = some (.integer n) →
        n.natAbs < 9007199254740992 → expiry = n
  /-- Otherwise the source is asked once, and only a token in its answer is served. -/
  asked : o.answers ≠ [] → ∃ answer, o.answers = [answer] ∧ ∀ token, o.result = .ok token ↔
    ∃ printed, answer = .ok printed ∧ Token.ofPrinted? printed = some token.value
  /-- The source is not asked if the token that was obtained last may be served. -/
  needed : o.answers ≠ [] → ∀ kept expiry, latestToken? past = some kept → kept.IsExact →
    Jwt.expiry? kept.value = some expiry → (expiry - o.now).tdiv 2 ≤ o.now - kept.fetchedAt

theorem served?_eq_none {kept : KeptToken} {now expiry : Int} (h : kept.served? now = none)
    (he : Jwt.expiry? kept.value = some expiry) : (expiry - now).tdiv 2 ≤ now - kept.fetchedAt := by
  refine Int.not_lt.mp fun hlt => ?_
  rw [served?_eq_some.mpr ⟨rfl, expiry, he, hlt⟩] at h
  cases h

theorem live_of_kept {source : TokenSource} {now : Int} {s : TokenState} {past : List Serving}
    (h : s.kept = latestToken? past) : Live past (Serving.of source now s) := by
  have hneeded : s.kept.bind (·.served? now) = none → ∀ kept expiry,
      latestToken? past = some kept → kept.IsExact → Jwt.expiry? kept.value = some expiry →
        (expiry - now).tdiv 2 ≤ now - kept.fetchedAt := by
    intro hnone kept expiry hlatest _
    rw [h, hlatest] at hnone
    exact served?_eq_none hnone
  have hnext := TokenState.next_kept source now s
  generalize Serving.of source now s = o at hnext
  generalize ((TokenSupply.kept source).next now s).2 = s' at hnext
  cases hnext with
  | @again value hvalue =>
    refine ⟨fun _ _ => ?_, fun hne => absurd rfl hne, fun hne => absurd rfl hne⟩
    obtain ⟨kept, hkept, hmay⟩ := Option.bind_eq_some_iff.mp hvalue
    obtain ⟨rfl, expiry, hexpiry, hlt⟩ := served?_eq_some.mp hmay
    refine ⟨kept, expiry, h ▸ hkept, rfl, hexpiry, hlt,
      fun hnow => Jwt.expiry_of_half hnow hlt, fun n hn hbound => ?_⟩
    rw [Jwt.expiry?_of_integer hn hbound] at hexpiry
    exact (Option.some.inj hexpiry).symm
  | failed hnone =>
    exact ⟨nofun, fun _ => ⟨_, rfl, by simp⟩, fun _ => hneeded hnone⟩
  | unusable hnone _ hp =>
    exact ⟨nofun, fun _ => ⟨_, rfl, by simp [hp]⟩, fun _ => hneeded hnone⟩
  | @obtained _ value hnone _ hp =>
    refine ⟨nofun, fun _ => ⟨_, rfl, ?_⟩, fun _ => hneeded hnone⟩
    rintro ⟨token⟩
    simp [hp]

/-- **Tokens that are served again are live.** In every run of calls for a kept token, at times that
may go back, and whatever the source answers, as far as times that are held exactly are concerned.
-/
theorem served_tokens_live (source : TokenSource) (s : TokenState) (clock : List Int) (now : Int) :
    Live (Serving.list source clock { s with kept := none })
      (.of source now ((TokenSupply.kept source).after clock { s with kept := none })) := by
  have hstart : { s with kept := none : TokenState }.kept = latestToken? [] := rfl
  have hkept := kept_eq_latest source clock hstart
  rw [List.nil_append] at hkept
  exact live_of_kept hkept

end DeployService
