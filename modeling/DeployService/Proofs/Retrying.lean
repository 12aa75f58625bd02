import DeployService.Retry
import Mathlib.Order.Bounds.Basic

/-!
# Attempts under a policy

Which attempt at a call is the last one is decided by the outcomes alone: the first one of `n` whose
outcome is final, or else the one after them (`IsLastAttempt`). `executeFrom_cases` follows the
states from attempt to attempt and finds that attempt; everything else about the attempts is read
off the states before them.

For a call whose outcomes are laid down beforehand (`scripted`), the state is a log of what has
happened: the calls that were made, the outcomes that were looked at, and the pauses.
-/

namespace DeployService.RetryPolicy

variable {σ α : Type}

/-! ## One attempt after another -/

section Attempts

variable (pause : σ → σ) (again : Except Error α → σ → Bool × σ) (call : Call σ α)

/-- The state before each attempt, counted from 0, if there is always another one. -/
def stateBefore (s : σ) : Nat → σ
  | 0 => s
  | i + 1 => pause (again (call (stateBefore s i)).1 (call (stateBefore s i)).2).2

/-- What is said about an attempt, counted from 0: whether there is to be another one, and the state
after saying so. -/
def verdict (s : σ) (i : Nat) : Bool × σ :=
  again (call (stateBefore pause again call s i)).1 (call (stateBefore pause again call s i)).2

variable {pause again call}

theorem stateBefore_shift (s : σ) (i : Nat) :
    stateBefore pause again call (pause (verdict pause again call s 0).2) i =
      stateBefore pause again call s (i + 1) := by
  induction i with
  | zero => rfl
  | succ i ih =>
    rw [stateBefore, ih]
    rfl

theorem verdict_shift (s : σ) (i : Nat) :
    verdict pause again call (pause (verdict pause again call s 0).2) i =
      verdict pause again call s (i + 1) := by
  unfold verdict
  rw [← stateBefore_shift]
  rfl

/-- The attempts end with the first one that is final, or with the one after the last retry, on
which no verdict is asked for. -/
theorem executeFrom_cases (n : Nat) (s : σ) :
    ∃ k ≤ n, (∀ i < k, (verdict pause again call s i).1 = true) ∧
      (k = n ∧ executeFrom pause again call n s = call (stateBefore pause again call s n) ∨
        k < n ∧ (verdict pause again call s k).1 = false ∧
          executeFrom pause again call n s =
            ((call (stateBefore pause again call s k)).1, (verdict pause again call s k).2)) := by
  induction n generalizing s with
  | zero => exact ⟨0, Nat.le_refl 0, by simp, .inl ⟨rfl, rfl⟩⟩
  | succ n ih =>
    have hstep : executeFrom pause again call (n + 1) s =
        if (verdict pause again call s 0).1 then
          executeFrom pause again call n (pause (verdict pause again call s 0).2)
        else ((call s).1, (verdict pause again call s 0).2) := rfl
    cases hv : (verdict pause again call s 0).1 with
    | false =>
      rw [hv, if_neg Bool.false_ne_true] at hstep
      exact ⟨0, Nat.zero_le _, by simp, .inr ⟨Nat.succ_pos n, hv, hstep⟩⟩
    | true =>
      rw [hv, if_pos rfl] at hstep
      obtain ⟨k, hk, hbefore, hend⟩ := ih (pause (verdict pause again call s 0).2)
      have hbefore' : ∀ i < k + 1, (verdict pause again call s i).1 = true := by
        intro i hi
        cases i with
        | zero => exact hv
        | succ i =>
          rw [← verdict_shift]
          exact hbefore i (Nat.lt_of_succ_lt_succ hi)
      refine ⟨k + 1, Nat.succ_le_succ hk, hbefore', ?_⟩
      rw [hstep, ← stateBefore_shift, ← stateBefore_shift, ← verdict_shift]
      rcases hend with ⟨rfl, he⟩ | ⟨hlt, hf, he⟩
      · exact .inl ⟨rfl, he⟩
      · exact .inr ⟨Nat.succ_lt_succ hlt, hf, he⟩

end Attempts

/-! ## The last attempt -/

/-- The attempt `k`, counted from 1, is the last one under `n` retries: it is the first one of the
attempts `1` to `n` after whose outcome no other one is wanted, or `n + 1` if there is none. -/
def IsLastAttempt (n : Nat) (wanted : Except Error α → Prop) (outcome : Nat → Except Error α)
    (k : Nat) : Prop :=
  IsLeast ({k | 1 ≤ k ∧ k ≤ n ∧ ¬wanted (outcome k)} ∪ {n + 1}) k

variable {n k : Nat} {wanted : Except Error α → Prop} {outcome : Nat → Except Error α}

theorem IsLastAttempt.le (h : IsLastAttempt n wanted outcome k) : k ≤ n + 1 := h.2 (.inr rfl)

theorem isLastAttempt_of_wanted (h : ∀ r, wanted r) (n : Nat) (outcome : Nat → Except Error α) :
    IsLastAttempt n wanted outcome (n + 1) := by
  refine ⟨.inr rfl, ?_⟩
  rintro j (⟨-, -, hj⟩ | rfl)
  · exact absurd (h _) hj
  · exact Nat.le_refl _

/-- With attempts counted from 0, as in `executeFrom_cases`. -/
theorem isLastAttempt_succ (hk : k ≤ n) (hbefore : ∀ i < k, wanted (outcome (i + 1)))
    (hend : k = n ∨ ¬wanted (outcome (k + 1))) : IsLastAttempt n wanted outcome (k + 1) := by
  constructor
  · rcases Nat.lt_or_eq_of_le hk with hlt | rfl
    · rcases hend with rfl | hend
      · exact absurd hlt (Nat.lt_irrefl k)
      · exact .inl ⟨Nat.succ_pos k, hlt, hend⟩
    · exact .inr rfl
  · rintro j (⟨hj, -, hfinal⟩ | rfl)
    · obtain ⟨i, rfl⟩ : ∃ i, j = i + 1 := ⟨j - 1, by omega⟩
      by_contra hlt
      exact hfinal (hbefore i (by omega))
    · exact Nat.succ_le_succ hk

/-! ## A log of the attempts -/

/-- Something that happens while a call is attempted. -/
inductive Event (α : Type) where
  /-- The call is made. -/
  | called (outcome : Except Error α)
  /-- It is asked whether the outcome is final. -/
  | asked (outcome : Except Error α)
  /-- There is a pause. -/
  | paused (milliseconds : Nat)

/-- The outcomes of the calls in a log. -/
def calls (log : List (Event α)) : List (Except Error α) :=
  log.filterMap fun event => match event with
    | .called outcome => some outcome
    | _ => none

/-- The outcomes in a log about which it was asked whether they are final. -/
def questions (log : List (Event α)) : List (Except Error α) :=
  log.filterMap fun event => match event with
    | .asked outcome => some outcome
    | _ => none

/-- The pauses in a log. -/
def pauses (log : List (Event α)) : List Nat :=
  log.filterMap fun event => match event with
    | .paused milliseconds => some milliseconds
    | _ => none

/-- How long the pauses in a log are together. -/
def elapsed (log : List (Event α)) : Nat := (pauses log).foldr (· + ·) 0

/-- The call that has the given outcomes, counted from 1. -/
def scripted (outcome : Nat → Except Error α) : Call (List (Event α)) α := fun log =>
  (outcome ((calls log).length + 1), log ++ [.called (outcome ((calls log).length + 1))])

/-- A pause goes into the log. -/
def pausing (milliseconds : Nat) (log : List (Event α)) : List (Event α) :=
  log ++ [.paused milliseconds]

/-- A question about an outcome goes into the log. -/
def asking (wanted : Except Error α → Bool) (outcome : Except Error α) (log : List (Event α)) :
    Bool × List (Event α) :=
  (wanted outcome, log ++ [.asked outcome])

/-- The log of the attempts up to the `i`-th one and the pauses after them, where `note` is what is
logged about an outcome. -/
def rounds (interval : Nat) (note : Except Error α → List (Event α))
    (outcome : Nat → Except Error α) (i : Nat) : List (Event α) :=
  (List.range' 1 i).flatMap fun j => .called (outcome j) :: note (outcome j) ++ [.paused interval]

/-- What is logged about an outcome is at most that it was asked about. -/
def IsNote (note : Except Error α → List (Event α)) : Prop :=
  (∀ r, note r = [.asked r]) ∨ ∀ r, note r = []

variable {interval : Nat} {note : Except Error α → List (Event α)}

theorem calls_rounds (hn : IsNote note) (i : Nat) :
    calls (rounds interval note outcome i) = (List.range' 1 i).map outcome := by
  rw [calls, rounds, List.filterMap_flatMap, List.map_eq_flatMap]
  congr 1
  funext j
  rcases hn with hn | hn <;> simp [hn]

theorem pauses_rounds (hn : IsNote note) (i : Nat) :
    pauses (rounds interval note outcome i) = List.replicate i interval := by
  have hlist : pauses (rounds interval note outcome i) =
      (List.range' 1 i).flatMap fun _ => [interval] := by
    rw [pauses, rounds, List.filterMap_flatMap]
    congr 1
    funext j
    rcases hn with hn | hn <;> simp [hn]
  rw [hlist, ← List.map_eq_flatMap, List.map_const', List.length_range']

theorem questions_rounds (i : Nat) :
    questions (rounds interval (fun r => [.asked r]) outcome i) =
      (List.range' 1 i).map outcome := by
  rw [questions, rounds, List.filterMap_flatMap, List.map_eq_flatMap]
  congr 1

theorem scripted_rounds (hn : IsNote note) (i : Nat) :
    scripted outcome (rounds interval note outcome i) =
      (outcome (i + 1), rounds interval note outcome i ++ [.called (outcome (i + 1))]) := by
  rw [scripted, calls_rounds hn, List.length_map, List.length_range']

theorem stateBefore_scripted (hn : IsNote note) {again : Except Error α → Bool} (i : Nat) :
    stateBefore (pausing interval) (fun r log => (again r, log ++ note r)) (scripted outcome) [] i =
      rounds interval note outcome i := by
  induction i with
  | zero => rfl
  | succ i ih =>
    rw [stateBefore, ih, scripted_rounds hn]
    simp [pausing, rounds, List.range'_1_concat, Nat.add_comm]

/-- What an execution of a call with the given outcomes comes to: the outcome of the last attempt,
and a log in which a question follows on each call but the one after the last retry. -/
theorem executeFrom_scripted (interval : Nat) (outcome : Nat → Except Error α) (hn : IsNote note)
    (again : Except Error α → Bool) (n : Nat) :
    ∃ k, IsLastAttempt n (again · = true) outcome (k + 1) ∧
      executeFrom (pausing interval) (fun r log => (again r, log ++ note r)) (scripted outcome) n
          [] =
        (outcome (k + 1), rounds interval note outcome k ++ .called (outcome (k + 1)) ::
          if k < n then note (outcome (k + 1)) else []) := by
  obtain ⟨k, hk, hbefore, hend⟩ := @executeFrom_cases _ _ (pausing interval)
    (fun r log => (again r, log ++ note r)) (scripted outcome) n []
  have hverdict : ∀ i, verdict (pausing interval) (fun r log => (again r, log ++ note r))
      (scripted outcome) [] i = (again (outcome (i + 1)),
        rounds interval note outcome i ++ [.called (outcome (i + 1))] ++ note (outcome (i + 1))) := by
    intro i
    rw [verdict, stateBefore_scripted hn, scripted_rounds hn]
  simp only [hverdict, stateBefore_scripted hn, scripted_rounds hn] at hbefore hend
  refine ⟨k, isLastAttempt_succ hk hbefore ?_, ?_⟩
  · rcases hend with ⟨rfl, -⟩ | ⟨-, hf, -⟩
    · exact .inl rfl
    · exact .inr (by simp [hf])
  · rcases hend with ⟨rfl, he⟩ | ⟨hlt, -, he⟩
    · simpa using he
    · simpa [hlt] using he

/-! ## Every outcome sequence -/

/-- A log of `k` attempts at a call with the given outcomes: the calls are made in order, and there is
one pause less than there are calls. -/
structure Shows (p : RetryPolicy) (outcome : Nat → Except Error α) (k : Nat)
    (log : List (Event α)) : Prop where
  calls_eq : calls log = (List.range' 1 k).map outcome
  pauses_eq : pauses log = List.replicate (k - 1) p.interval
  elapsed_eq : elapsed log = (k - 1) * p.interval

theorem shows_rounds (p : RetryPolicy) (outcome : Nat → Except Error α) (hn : IsNote note) (k : Nat)
    (more : Bool) :
    Shows p outcome (k + 1) (rounds p.interval note outcome k ++ .called (outcome (k + 1)) ::
      if more then note (outcome (k + 1)) else []) := by
  have hcalls : calls (if more then note (outcome (k + 1)) else []) = [] := by
    cases more <;> rcases hn with hn | hn <;> simp [hn, calls]
  have hpauses : pauses (if more then note (outcome (k + 1)) else []) = [] := by
    cases more <;> rcases hn with hn | hn <;> simp [hn, pauses]
  have hpauses' : pauses (rounds p.interval note outcome k ++ .called (outcome (k + 1)) ::
      if more then note (outcome (k + 1)) else []) = List.replicate k p.interval := by
    rw [pauses, List.filterMap_append, ← pauses, pauses_rounds hn, List.filterMap_cons, ← pauses,
      hpauses, List.append_nil]
  refine ⟨?_, hpauses', ?_⟩
  · rw [calls, List.filterMap_append, ← calls, calls_rounds hn, List.filterMap_cons, ← calls,
      hcalls, List.range'_1_concat, List.map_append, Nat.add_comm 1 k]
    rfl
  · have hsum : ∀ n, (List.replicate n p.interval).foldr (· + ·) 0 = n * p.interval := by
      intro n
      induction n with
      | zero => simp
      | succ n ih =>
        rw [List.replicate_succ, List.foldr_cons, ih, Nat.succ_mul, Nat.add_comm]
    rw [elapsed, hpauses', hsum, Nat.add_sub_cancel]

/-- An outcome that says neither that the call succeeded, nor that the service said so. -/
def Failed (r : Except Error α) : Prop :=
  ∃ e, r = .error e ∧ ∀ code status description,
    e.cause = .client code status description → ¬(200 ≤ code ∧ code ≤ 299)

theorem shouldRetry_errorOf?_iff (r : Except Error α) :
    shouldRetry (errorOf? r) = true ↔ Failed r := by
  rcases r with ⟨contexts, cause⟩ | a
  · have hiff : shouldRetry (errorOf? (.error ⟨contexts, cause⟩ : Except Error α)) = true ↔
        ∀ code status description,
          cause = .client code status description → ¬(200 ≤ code ∧ code ≤ 299) := by
      cases cause with
      | client code status description =>
        simp [shouldRetry, errorOf?, Error.isRetryable, Http.isSuccess]
        omega
      | bare => simp [shouldRetry, errorOf?, Error.isRetryable]
      | answered => simp [shouldRetry, errorOf?, Error.isRetryable]
      | plain => simp [shouldRetry, errorOf?, Error.isRetryable]
      | external => simp [shouldRetry, errorOf?, Error.isRetryable]
      | panic => simp [shouldRetry, errorOf?, Error.isRetryable]
    simpa [Failed] using hiff
  · simp [Failed, shouldRetry, errorOf?]

instance (r : Except Error α) : Decidable (Failed r) :=
  decidable_of_iff _ (shouldRetry_errorOf?_iff r)

/-- A call under a policy is executed with the question whether it has failed. -/
theorem call_eq_execute (p : RetryPolicy) (pause : Nat → σ → σ) (x : Call σ α) :
    p.call pause x = p.execute pause (fun r s => (decide (Failed r), s)) x := by
  have hfailed : ∀ r : Except Error α, shouldRetry (errorOf? r) = decide (Failed r) := by
    intro r
    rw [Bool.eq_iff_iff, decide_eq_true_eq]
    exact shouldRetry_errorOf?_iff r
  simp only [RetryPolicy.call, hfailed]

/-- **The last attempt is always made, and there is no other one after it.** Under every policy, and
for every sequence of outcomes: a call is made up to its last attempt, whose outcome is returned; it
is asked whether an outcome is final after each call but the one after the last retry; and there is
a pause between two calls. The greatest number of attempts occurs. A call is attempted in the same
way, where an outcome is final unless it is a failure. -/
theorem attempts_up_to_the_last (p : RetryPolicy) :
    (∀ (wanted : Except Error α → Bool) (outcome : Nat → Except Error α),
      ∃ k log, IsLastAttempt p.retries (wanted · = true) outcome k ∧
        p.execute pausing (asking wanted) (scripted outcome) [] = (outcome k, log) ∧
        Shows p outcome k log ∧
        questions log = (List.range' 1 (min k p.retries)).map outcome) ∧
    IsGreatest {k | ∃ (wanted : Except Error α → Prop) (outcome : Nat → Except Error α),
      IsLastAttempt p.retries wanted outcome k} p.maxAttempts ∧
    (∀ outcome : Nat → Except Error α,
      ∃ k log, IsLastAttempt p.retries Failed outcome k ∧
        p.call pausing (scripted outcome) [] = (outcome k, log) ∧ Shows p outcome k log) ∧
    ∀ (σ : Type) (pause : Nat → σ → σ) (x : Call σ α),
      p.call pause x = p.execute pause (fun r s => (decide (Failed r), s)) x := by
  refine ⟨fun wanted outcome => ?_, ⟨?_, ?_⟩, fun outcome => ?_,
    fun σ pause x => call_eq_execute p pause x⟩
  · have hn : IsNote fun r : Except Error α => [Event.asked r] := .inl fun _ => rfl
    obtain ⟨k, hlast, he⟩ := executeFrom_scripted p.interval outcome hn wanted p.retries
    refine ⟨k + 1, _, hlast, he, ?_, ?_⟩
    · simpa using shows_rounds p outcome hn k (decide (k < p.retries))
    · rw [questions, List.filterMap_append, ← questions, questions_rounds]
      by_cases hk : k < p.retries
      · rw [Nat.min_eq_left (Nat.succ_le_of_lt hk)]
        simp [hk, List.range'_1_concat, Nat.add_comm]
      · have hkn : k = p.retries := by have := hlast.le; omega
        simp [hkn]
  · exact ⟨fun _ => True, fun _ => .error (.plain ""),
      isLastAttempt_of_wanted (fun _ => trivial) _ _⟩
  · rintro k ⟨wanted, outcome, hk⟩
    exact hk.le
  · have hn : IsNote fun _ : Except Error α => ([] : List (Event α)) := .inr fun _ => rfl
    obtain ⟨k, hlast, he⟩ := executeFrom_scripted p.interval outcome hn
      (fun r => shouldRetry (errorOf? r)) p.retries
    simp only [shouldRetry_errorOf?_iff, List.append_nil] at hlast he
    refine ⟨k + 1, _, hlast, he, ?_⟩
    simpa using shows_rounds p outcome hn k false

end DeployService.RetryPolicy
