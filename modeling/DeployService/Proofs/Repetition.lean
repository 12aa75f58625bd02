import DeployService.Proofs.Attempt
import DeployService.Proofs.Reports
import DeployService.Proofs.Retrying

/-!
# Repeated calls

A client whose calls are retried does what its user could do with a client whose calls are not: make
the same call again and again, each time in the network that the call before and a pause have left,
until it succeeds, or an error says that it has succeeded, or it has been made often enough
(`Repeats`).

The states of the attempts follow one another in the session of the client, those of the repeated
calls in the network. `call_on` carries the one over to the other. An attempt changes nothing about
what fails outside the client (`Network.FailsWith.run`), so every attempt that fails is worth another
one.
-/

namespace DeployService

open DeployService.Http

variable {σ τ α : Type}

/-- A call that is made again and again, with something done between two calls: the result of the
call after the `i`-th one, and the state after it. -/
def Call.repeated (pause : σ → σ) (x : Call σ α) (s : σ) : Nat → Except Error α × σ
  | 0 => x s
  | i + 1 => x (pause (repeated pause x s i).2)

/-- What every call preserves, and what is done in between, holds before each of the calls. -/
theorem Call.repeated_invariant {pause : σ → σ} {x : Call σ α} {P : σ → Prop}
    (hx : ∀ s, P s → P (x s).2) (hp : ∀ s, P s → P (pause s)) {s : σ} (h : P s) (i : Nat) :
    ∃ s', P s' ∧ x.repeated pause s i = x s' := by
  induction i with
  | zero => exact ⟨s, h, rfl⟩
  | succ i ih =>
    obtain ⟨s', hs', he⟩ := ih
    refine ⟨pause (x.repeated pause s i).2, ?_, rfl⟩
    rw [he]
    exact hp _ (hx s' hs')

/-- The call `retried` is the call `once` made again and again, as long as the results want another
call and at most `n + 1` times. It ends as the last one of these calls. -/
def Repeats (n : Nat) (wanted : Except Error α → Prop) (pause : σ → σ) (once retried : Call σ α)
    (s : σ) : Prop :=
  ∃ k ≤ n, (∀ i < k, wanted (once.repeated pause s i).1) ∧
    (k = n ∨ ¬wanted (once.repeated pause s k).1) ∧ retried s = once.repeated pause s k

/-- Only the results that occur matter. -/
theorem Repeats.congr {n : Nat} {wanted wanted' : Except Error α → Prop} {pause : σ → σ}
    {once retried : Call σ α} {s : σ} (h : Repeats n wanted pause once retried s)
    (hw : ∀ i, wanted (once.repeated pause s i).1 ↔ wanted' (once.repeated pause s i).1) :
    Repeats n wanted' pause once retried s := by
  obtain ⟨k, hk, hbefore, hend, he⟩ := h
  refine ⟨k, hk, fun i hi => (hw i).mp (hbefore i hi), ?_, he⟩
  rcases hend with hend | hend
  · exact .inl hend
  · exact .inr fun h => hend ((hw k).mpr h)

namespace RetryPolicy

theorem call_stateBefore (pause : σ → σ) (again : Except Error α → Bool) (x : Call σ α) (s : σ)
    (i : Nat) :
    x (stateBefore pause (fun r s => (again r, s)) x s i) = x.repeated pause s i := by
  induction i with
  | zero => rfl
  | succ i ih =>
    show x (pause (x (stateBefore pause (fun r s => (again r, s)) x s i)).2) = _
    rw [ih]
    rfl

/-- A call under a policy is a repeated call. -/
theorem call_repeats (p : RetryPolicy) (pause : Nat → σ → σ) (x : Call σ α) (s : σ) :
    Repeats p.retries Failed (pause p.interval) x (p.call pause x) s := by
  obtain ⟨k, hk, hbefore, hend⟩ := @executeFrom_cases _ _ (pause p.interval)
    (fun r s => (shouldRetry (errorOf? r), s)) x p.retries s
  have hverdict : ∀ i, (verdict (pause p.interval) (fun r s => (shouldRetry (errorOf? r), s)) x
      s i).1 = true ↔ Failed (x.repeated (pause p.interval) s i).1 := by
    intro i
    rw [← call_stateBefore, ← shouldRetry_errorOf?_iff]
    rfl
  refine ⟨k, hk, fun i hi => (hverdict i).mp (hbefore i hi), ?_⟩
  rcases hend with ⟨rfl, he⟩ | ⟨-, hfinal, he⟩
  · refine ⟨.inl rfl, ?_⟩
    rw [← call_stateBefore]
    exact he
  · have hnot : ¬Failed (x.repeated (pause p.interval) s k).1 := by
      rw [← hverdict, hfinal]
      exact Bool.false_ne_true
    refine ⟨.inr hnot, ?_⟩
    rw [← call_stateBefore]
    exact he

/-- To attempt a call on a part of the state is to attempt it there. -/
theorem call_on {get : τ → σ} {set : τ → σ → τ} (hget : ∀ t s, get (set t s) = s)
    (hset : ∀ t s s', set (set t s) s' = set t s') {pause : Nat → σ → σ} {pause' : Nat → τ → τ}
    (hpause : ∀ ms t s, pause' ms (set t s) = set t (pause ms s)) (p : RetryPolicy)
    (x : Call σ α) : p.call pause' (Call.on get set x) = Call.on get set (p.call pause x) := by
  obtain ⟨n, interval⟩ := p
  induction n with
  | zero => rfl
  | succ n ih =>
    funext t
    have hinner := call_succ n interval pause x (get t)
    rw [call_succ, ih]
    unfold Call.on
    simp only [hpause, hget, hset, hinner]
    split <;> rfl

end RetryPolicy

/-! ## Calls in a network -/

namespace Network

/-- The network after a pause. -/
def pause (milliseconds : Nat) (n : Network) : Network :=
  { n with clock := n.clock + milliseconds, paused := n.paused + milliseconds }

/-- What the sources of tokens come to when the client asks for the token of its next call. -/
def tokensAfterAsking (c : OpenClient) (n : Network) : Nat → TokenState :=
  updateAt n.tokens c.connection
    (c.client.supply.next (wholeSeconds n.clock) (n.tokens c.connection)).2

theorem session_update (c : OpenClient) (n : Network) (s : Session) :
    session c (update c n s) = s := by
  simp [session, update, updateAt]

theorem updateAt_updateAt {β : Type} (f : Nat → β) (i : Nat) (b b' : β) :
    updateAt (updateAt f i b) i b' = updateAt f i b' := by
  funext j
  unfold updateAt
  split <;> rfl

theorem update_update (c : OpenClient) (n : Network) (s s' : Session) :
    update c (update c n s) s' = update c n s' := by
  simp [update, updateAt_updateAt]

variable {P : Error → Prop} {n : Network}

theorem FailsWith.pause (h : n.FailsWith P) (milliseconds : Nat) :
    (n.pause milliseconds).FailsWith P := ⟨h.wire, h.tokens⟩

theorem once_tokens (c : OpenClient) (guard : Option Csrf.Guard) (x : Exchange α) (n : Network) :
    ((c.once guard).run x n).2.tokens = n.tokensAfterAsking c := by
  have htokens := ((c.once guard).client.run_runs x (session (c.once guard) n)).tokens
    (show _ = Transport.wired guard from rfl)
  show updateAt n.tokens c.connection ((c.once guard).client.run x _).2.tokens = _
  rw [htokens]
  rfl

/-- A call has no influence on what fails later on. -/
theorem FailsWith.run (h : n.FailsWith P) (c : OpenClient) (guard : Option Csrf.Guard)
    (x : Exchange α) : ((c.once guard).run x n).2.FailsWith P := by
  obtain ⟨t, ⟨hanswers, -⟩, -⟩ := (c.once guard).run_sends guard rfl x n
  constructor
  · rw [hanswers]
    exact h.wire
  · have hsame : ∀ j, (((c.once guard).run x n).2.tokens j).answers = (n.tokens j).answers := by
      intro j
      rw [once_tokens, tokensAfterAsking, updateAt]
      split
      · next hj => rw [TokenSupply.next_answers, hj]
      · rfl
    intro j i e he
    rw [hsame] at he
    exact h.tokens j i e he

end Network

namespace OpenClient

theorem run_retrying (c : OpenClient) (guard : Option Csrf.Guard) (p : RetryPolicy)
    (x : Exchange α) :
    ((c.once guard).retrying p).run x = p.call Network.pause ((c.once guard).run x) :=
  (p.call_on (Network.session_update (c.once guard)) (Network.update_update (c.once guard))
    (fun _ _ _ => rfl) ((c.once guard).client.run x)).symm

/-- A failed call is worth another attempt, unless something outside the client says that it has
succeeded. -/
theorem failed_run_iff (c : OpenClient) (guard : Option Csrf.Guard) {x : Exchange α}
    (hx : x.ReadsPlainly) {n : Network} (hn : n.FailsWith (·.classify.isRetryable = true)) :
    RetryPolicy.Failed ((c.once guard).run x n).1 ↔
      ∃ e, ((c.once guard).run x n).1 = .error e := by
  constructor
  · rintro ⟨e, he, -⟩
    exact ⟨e, he⟩
  · rintro ⟨e, he⟩
    obtain ⟨t, hg, hends⟩ := (c.once guard).client.run_ends guard rfl x
      (Network.session (c.once guard) n)
    have hfails := hn.client
      (fun context e h => by rw [Error.isRetryable_within]; exact h) (fun _ => rfl)
      (c.once guard) hg
    have hresult : ((c.once guard).client.run x (Network.session (c.once guard) n)).1 =
        .error e := he
    rw [hresult] at hends
    rw [← RetryPolicy.shouldRetry_errorOf?_iff, he]
    exact hends.isRetryable hx hfails

end OpenClient

/-! ## The calls of the services -/

/-- The result is a failure of whatever kind. -/
def IsError (r : Except Error α) : Prop := ∃ e, r = .error e

theorem OpenClient.run_repeats (c : OpenClient) (guard : Option Csrf.Guard) (p : RetryPolicy)
    (x : Exchange α) (n : Network) :
    Repeats p.retries RetryPolicy.Failed (Network.pause p.interval) ((c.once guard).run x)
      (((c.once guard).retrying p).run x) n := by
  rw [run_retrying]
  exact p.call_repeats Network.pause ((c.once guard).run x) n

theorem OpenClient.run_repeats_errors (c : OpenClient) (guard : Option Csrf.Guard)
    (p : RetryPolicy) {x : Exchange α} (hx : x.ReadsPlainly) {n : Network}
    (hn : n.FailsWith (·.classify.isRetryable = true)) :
    Repeats p.retries IsError (Network.pause p.interval) ((c.once guard).run x)
      (((c.once guard).retrying p).run x) n := by
  refine (c.run_repeats guard p x n).congr fun i => ?_
  obtain ⟨n', hn', he⟩ := Call.repeated_invariant (x := (c.once guard).run x)
    (fun _ h => h.run c guard x) (fun _ h => h.pause p.interval) hn i
  rw [he]
  exact c.failed_run_iff guard hx hn'

/-- A call `x` of a client that is made once, and the same call retried under a policy. -/
structure Refines (p : RetryPolicy) (c : OpenClient) (x : Exchange α)
    (once retried : Option Csrf.Guard → Call Network α) : Prop where
  /-- The retried call repeats the other one as long as that fails. An error that says that the call
  has succeeded does not count as a failure. -/
  repeats : ∀ guard n,
    Repeats p.retries RetryPolicy.Failed (Network.pause p.interval) (once guard) (retried guard) n
  /-- Without such errors from outside the client, it is repeated until it succeeds. -/
  repeats_errors : ∀ guard n, n.FailsWith (·.classify.isRetryable = true) →
    Repeats p.retries IsError (Network.pause p.interval) (once guard) (retried guard) n
  /-- A call asks for a token once. -/
  tokens : ∀ guard n, (once guard n).2.tokens = n.tokensAfterAsking c
  /-- In particular a source of which no token is kept is asked once. -/
  asked : ∀ guard n source, c.client.supply = .each source →
    ((once guard n).2.tokens c.connection).asked = (n.tokens c.connection).asked + 1
  /-- Without a token nothing is sent. -/
  tokenless : ∀ guard n e,
    (c.client.supply.next (wholeSeconds n.clock) (n.tokens c.connection)).1 = .error e →
      (once guard n).1 = .error e.classify ∧ (once guard n).2.sent = n.sent
  /-- Over the transport that sends every request as it is, a call sends one request at most. -/
  sends_once : (once none).Sends Network.toWire fun t _ => t.length ≤ 1
  /-- All requests of the attempts are the same, apart from the credential and the cookies. -/
  sends : (retried none).Sends Network.toWire fun t _ =>
    t.length ≤ p.maxAttempts ∧ ∀ trip ∈ t, c.client.channel.IsRequest x.endpoint trip.request

theorem OpenClient.refines (p : RetryPolicy) (c : OpenClient) {x : Exchange α}
    (hx : x.ReadsPlainly) :
    Refines p c x (fun guard => (c.once guard).run x)
      fun guard => ((c.once guard).retrying p).run x := by
  have hsends : ((c.once none).client.run x).Sends Session.toWire fun t _ =>
      t.length ≤ 1 ∧ ∀ trip ∈ t, c.client.channel.IsRequest x.endpoint trip.request :=
    fun s => ((c.once none).client.run_runs x s).sends_once rfl
  constructor
  · intro guard n
    exact c.run_repeats guard p x n
  · intro guard n hn
    exact c.run_repeats_errors guard p hx hn
  · intro guard n
    exact Network.once_tokens c guard x n
  · intro guard n source hs
    have hnext : (c.client.supply.next (wholeSeconds n.clock) (n.tokens c.connection)).2.asked =
        (n.tokens c.connection).asked + 1 := by
      rw [hs, TokenSupply.next, Call.map_eq]
      exact source.ask_asked _
    show (((c.once guard).run x n).2.tokens c.connection).asked = _
    rw [Network.once_tokens, Network.tokensAfterAsking, updateAt, if_pos rfl, hnext]
  · intro guard n e he
    obtain ⟨hresult, hwire⟩ :=
      ((c.once guard).client.run_runs x (Network.session (c.once guard) n)).without_token he
    exact ⟨hresult, congrArg Wire.sent hwire⟩
  · exact (hsends.inNetwork (c.once none)).mono fun t _ h => h.1
  · have hattempts := (RetryPolicy.call_sends hsends p).inNetwork (c.once none)
    exact hattempts.mono fun t _ h => h.length_le fun _ _ h => h

/-- **A retried call repeats the call.** Every call of the four services, with whatever arguments,
under every policy and with every outcome of its requests and of asking for tokens. The id of a
process' service is known without a call. -/
theorem retried_calls_repeat (p : RetryPolicy) (c : OpenClient) :
    (∀ (scope : RestScope) {α : Type} (call : RestCall α),
      Refines p c (call.exchange scope)
        (fun guard => (RestClient.mk (c.once guard) scope).service call)
        (fun guard => ((RestClient.mk (c.once guard) scope).retrying p).service call)) ∧
    (∀ {α : Type} (call : OperationsCall α),
      Refines p c call.exchange
        (fun guard => (OperationsClient.mk (c.once guard)).service call)
        (fun guard => ((OperationsClient.mk (c.once guard)).retrying p).service call)) ∧
    (∀ (space : String) {α : Type} (call : LookupCall α),
      Refines p c (call.exchange space)
        (fun guard => (LookupClient.mk (c.once guard) space).service call)
        (fun guard => ((LookupClient.mk (c.once guard) space).retrying p).service call)) ∧
    (∀ (serviceId : String) {α : Type} (call : ProcessCall α),
      Refines p c call.exchange
        (fun guard => (ProcessClient.mk (c.once guard) serviceId).service call)
        (fun guard => ((ProcessClient.mk (c.once guard) serviceId).retrying p).service call)) ∧
    ∀ (guard : Option Csrf.Guard) (serviceId : String),
      ((ProcessClient.mk (c.once guard) serviceId).retrying p).serviceId = serviceId :=
  ⟨fun scope _ call => c.refines p (call.exchange_readsPlainly scope),
    fun call => c.refines p call.exchange_readsPlainly,
    fun space _ call => c.refines p (call.exchange_readsPlainly space),
    fun _ _ call => c.refines p call.exchange_readsPlainly,
    fun _ _ => rfl⟩

/-- A service that is not available at first. -/
theorem unavailable_service_called_again :
    let c := (OpenClient.toHost "example.com" restBasePath).once none
    let client := RestClient.mk c ⟨"org", "dev"⟩
    let n := Network.replaying
      [{ status := 503, headers := [], body := [] }, { status := 204, headers := [], body := [] }]
    n.FailsWith (·.classify.isRetryable = true) ∧
      Repeats 3 IsError (Network.pause 3000) (client.service (.purgeConfiguration "org" "dev"))
        ((client.retrying .standard).service (.purgeConfiguration "org" "dev")) n ∧
      ((client.retrying .standard).service (.purgeConfiguration "org" "dev") n).2.sent.length =
        2 := by
  intro c client n
  have hplain : n.FailsWith Error.IsPlain := Network.replaying_failsWith _
  have hn : n.FailsWith (·.classify.isRetryable = true) :=
    ⟨fun i e he => (hplain.wire i e he).classify_isRetryable,
      fun j i e he => (hplain.tokens j i e he).classify_isRetryable⟩
  have hrefines := (retried_calls_repeat .standard (.toHost "example.com" restBasePath)).1
    ⟨"org", "dev"⟩ (.purgeConfiguration "org" "dev")
  refine ⟨hn, hrefines.repeats_errors none n hn, ?_⟩
  decide +kernel

/-- A source of tokens that fails with the status of a success. No token has come, and still it is not
asked again. -/
theorem reported_success_not_repeated :
    let c : OpenClient :=
      { client :=
          { channel := .of "example.com" restBasePath none
            transport := .direct
            supply := .each .direct }
        connection := 0
        jar := 0
        policy := none }
    let client := RestClient.mk (c.once none) ⟨"org", "dev"⟩
    let failing : TokenState :=
      { answers := fun _ => .error (.of (.client 204 "No Content" "")), asked := 0, kept := none }
    let n := { Network.replaying [] with tokens := fun _ => failing }
    ¬Repeats 1 IsError (Network.pause 0) (client.service (.purgeConfiguration "org" "dev"))
      ((client.retrying ⟨1, 0⟩).service (.purgeConfiguration "org" "dev")) n := by
  intro c client failing n
  have hretried : (((client.retrying ⟨1, 0⟩).service
      (.purgeConfiguration "org" "dev") n).2.tokens 0).asked = 1 := by decide +kernel
  have hrepeated : (((client.service (.purgeConfiguration "org" "dev")).repeated
      (Network.pause 0) n 1).2.tokens 0).asked = 2 := by decide +kernel
  have hreads := (RestCall.purgeConfiguration "org" "dev").exchange_readsPlainly ⟨"org", "dev"⟩
  have hfirst : (client.service (.purgeConfiguration "org" "dev") n).1 =
      .error (.of (.client 204 "No Content" "")) :=
    ((c.refines ⟨1, 0⟩ hreads).tokenless none n _ rfl).1
  rintro ⟨k, hk, -, hend, he⟩
  -- the first call is an error, so that there has to be a second one
  obtain rfl : k = 1 := by
    rcases hend with hlast | hok
    · exact hlast
    · rcases Nat.le_one_iff_eq_zero_or_eq_one.mp hk with rfl | rfl
      · exact absurd ⟨_, hfirst⟩ hok
      · rfl
  rw [he, hrepeated] at hretried
  cases hretried

end DeployService
