import DeployService.Proofs.Endings

/-!
# What a call reports

Where everything outside the clients fails plainly, the error of a call has a status exactly if its
request was answered and the answer is no success. Every other failure (`Client.Failure`) is
returned as it is. `Client.Reports` says this of what one call sends and of its result; it follows
from each of the endings of a call.
-/

namespace DeployService

open DeployService.Http DeployService.Text

theorem isSuccess_iff (code : Nat) : isSuccess code = true ↔ 200 ≤ code ∧ code ≤ 299 := by
  simp [isSuccess]
  omega

namespace Client

variable {α : Type}

/-- The request of a call got an answer. -/
def Answered (x : Exchange α) (t : List RoundTrip) (response : Response) : Prop :=
  ∃ trip ∈ t, trip.request.method = x.endpoint.method ∧ trip.outcome = .ok response

/-- Everything that can go wrong in a call, apart from an answer that is no success. -/
inductive Failure (c : Client) (x : Exchange α) (s : Session) (t : List RoundTrip) :
    Error → Prop where
  /-- There is no token. -/
  | token {e : Error} (h : (Session.nextToken c.supply s).1 = .error e) : Failure c x s t e
  /-- The call has no URL. -/
  | url {token : Token} {e : Error} (ht : (Session.nextToken c.supply s).1 = .ok token)
    (h : c.channel.url x.endpoint = .error e) : Failure c x s t e
  /-- The token is no header value. -/
  | credential {token : Token} {url : Url} {e : Error}
    (ht : (Session.nextToken c.supply s).1 = .ok token) (hu : c.channel.url x.endpoint = .ok url)
    (h : token.header = .error e) : Failure c x s t e
  /-- The product name is no header value. -/
  | agent {token : Token} {url : Url} {value : HeaderValue}
    (ht : (Session.nextToken c.supply s).1 = .ok token) (hu : c.channel.url x.endpoint = .ok url)
    (hv : token.header = .ok value) (h : headerValue? c.channel.userAgent = none) :
    Failure c x s t (unnamed c.channel.userAgent)
  /-- A fetch for the request is not answered. -/
  | fetch {trip : RoundTrip} {e : Error} (hl : t.getLast? = some trip)
    (hf : trip.IsFetchFor x.endpoint.method) (ho : trip.outcome = .error e) :
    Failure c x s t (e.within "Failed to fetch CSRF token")
  /-- The request is not answered. -/
  | sending {trip : RoundTrip} {e : Error} (ht : trip ∈ t)
    (hm : trip.request.method = x.endpoint.method) (ho : trip.outcome = .error e) :
    Failure c x s t e
  /-- The answer is a success and cannot be read. -/
  | reading {response : Response} {e : Error} (h : Answered x t response)
    (hs : 200 ≤ response.status ∧ response.status ≤ 299) (hr : x.read response = .error e) :
    Failure c x s t e

/-- What a call sends and its result, where everything outside the client fails plainly. -/
structure Reports (c : Client) (x : Exchange α) (s : Session) (t : List RoundTrip)
    (r : Except Error α) : Prop where
  /-- An error has a status exactly if there is an answer that is no success. -/
  hasStatus_iff : (∃ e, r = .error e ∧ e.HasStatus) ↔
    ∃ response, Answered x t response ∧ ¬(200 ≤ response.status ∧ response.status ≤ 299)
  /-- Such an answer is reported with its status and what it says, which is never blank. -/
  refused : ∀ response, Answered x t response →
    ¬(200 ≤ response.status ∧ response.status ≤ 299) →
      r = .error (.of (.client response.status (reason response.status) (description response))) ∧
        isBlankText (description response) = false
  /-- The errors without a status are the other failures, each of them as it is. -/
  failure_iff : ∀ e, r = .error e ∧ ¬e.HasStatus ↔ c.Failure x s t e
  /-- There is no status in any other form. -/
  cause : ∀ e, r = .error e → e.HasStatus ∨ e.IsPlain
  /-- Every error is worth another attempt. -/
  retried : ∀ e, r = .error e → shouldRetry (some e) = true

/-- The error for an answer that is no success. -/
def refusal (response : Response) : Error :=
  .of (.client response.status (reason response.status) (description response))

theorem refusal_hasStatus (response : Response) : (refusal response).HasStatus :=
  ⟨_, _, _, rfl⟩

variable {c : Client} {x : Exchange α} {s : Session} {t : List RoundTrip} {r : Except Error α}
  {e : Error}

theorem Ends.refused (h : c.Ends x s t r) {response : Response} (ha : Answered x t response)
    (hs : ¬(200 ≤ response.status ∧ response.status ≤ 299)) : r = .error (refusal response) := by
  obtain ⟨trip, ht, hm, ho⟩ := ha
  have hfalse : isSuccess response.status = false := by
    rw [← isSuccess_iff] at hs
    simpa using hs
  rw [h.of_own ht hm, ho, x.finish_refused hfalse, errorOf_classify]
  rfl

/-- An error is that of an answer that is no success, or one of the other failures. -/
theorem Ends.cases_error (h : c.Ends x s t (.error e)) (hp : c.FailsWith Error.IsPlain s t) :
    c.Failure x s t e ∨ ∃ response, Answered x t response ∧
      ¬(200 ≤ response.status ∧ response.status ≤ 299) ∧ e = refusal response := by
  generalize hr : (Except.error e : Except Error α) = r at h
  cases h with
  | tokenless h =>
    rw [(hp.token _ h).classify_eq] at hr
    cases hr
    exact .inl (.token h)
  | @unready token s' fault ht h =>
    have ht' : (Session.nextToken c.supply s).1 = .ok token := by rw [ht]
    rw [(Channel.ready_plain h).classify_eq] at hr
    cases hr
    rcases Channel.ready_eq_error_iff.mp h with hu | ⟨url, hu, hh⟩ | ⟨url, value, hu, hh, hv, rfl⟩
    · exact .inl (.url ht' hu)
    · exact .inl (.credential ht' hu hh)
    · exact .inl (.agent ht' hu hh hv)
  | unfetched ht h hf hl ho =>
    have hmem := List.mem_of_getLast? hl
    rw [((hp.trips _ hmem _ ho).within _).classify_eq] at hr
    cases hr
    exact .inl (.fetch hl (hf _ hmem) ho)
  | @sent token s' request fetches own ht h hf hm =>
    have hmem : own ∈ fetches ++ [own] := by simp
    rcases ho : own.outcome with fault | response
    · rw [ho, x.finish_error, (hp.trips own hmem fault ho).classify_eq] at hr
      cases hr
      exact .inl (.sending hmem hm ho)
    · have ha : Answered x (fetches ++ [own]) response := ⟨own, hmem, hm, ho⟩
      by_cases hs : 200 ≤ response.status ∧ response.status ≤ 299
      · rw [ho, x.finish_accepted ((isSuccess_iff _).mpr hs)] at hr
        exact .inl (.reading ha hs hr.symm)
      · have hrefused := Ends.refused (.sent ht h hf hm) ha hs
        rw [← hr] at hrefused
        cases hrefused
        exact .inr ⟨response, ha, hs, rfl⟩

/-- Every other failure is plain, and is returned. -/
theorem Failure.returned (hf : c.Failure x s t e) (h : c.Ends x s t r) (hx : x.ReadsPlainly)
    (hp : c.FailsWith Error.IsPlain s t) : r = .error e ∧ e.IsPlain := by
  have hready {token : Token} {e : Error} (ht : (Session.nextToken c.supply s).1 = .ok token)
      (hr : ∀ s', c.channel.ready x.endpoint token s' = .error e) : r = .error e ∧ e.IsPlain := by
    have he := Channel.ready_plain (hr s)
    have hresult := (h.of_ready_error ht hr).2
    rw [he.classify_eq] at hresult
    exact ⟨hresult, he⟩
  cases hf with
  | token ht =>
    have he := hp.token _ ht
    have hresult := (h.of_token_error ht).2
    rw [he.classify_eq] at hresult
    exact ⟨hresult, he⟩
  | url ht hu =>
    exact hready ht fun _ => Channel.ready_eq_error_iff.mpr (.inl hu)
  | credential ht hu hh =>
    exact hready ht fun _ => Channel.ready_eq_error_iff.mpr (.inr (.inl ⟨_, hu, hh⟩))
  | agent ht hu hh hv =>
    exact hready ht fun _ =>
      Channel.ready_eq_error_iff.mpr (.inr (.inr ⟨_, _, hu, hh, hv, rfl⟩))
  | fetch hl hf ho =>
    have he := (hp.trips _ (List.mem_of_getLast? hl) _ ho).within "Failed to fetch CSRF token"
    have hresult := h.of_fetch_error hl hf ho
    rw [he.classify_eq] at hresult
    exact ⟨hresult, he⟩
  | sending ht hm ho =>
    have he := hp.trips _ ht _ ho
    have hresult := h.of_own ht hm
    rw [ho, x.finish_error, he.classify_eq] at hresult
    exact ⟨hresult, he⟩
  | @reading response _ ha hs hr =>
    obtain ⟨trip, ht, hm, ho⟩ := ha
    have hresult := h.of_own ht hm
    rw [ho, x.finish_accepted ((isSuccess_iff _).mpr hs), hr] at hresult
    exact ⟨hresult, hx response e hr⟩

theorem Ends.reports (h : c.Ends x s t r) (hx : x.ReadsPlainly)
    (hp : c.FailsWith Error.IsPlain s t) : c.Reports x s t r := by
  have hcases : ∀ e, r = .error e → c.Failure x s t e ∨ ∃ response, Answered x t response ∧
      ¬(200 ≤ response.status ∧ response.status ≤ 299) ∧ e = refusal response := by
    rintro e rfl
    exact h.cases_error hp
  constructor
  · constructor
    · rintro ⟨e, hr, he⟩
      rcases hcases e hr with hf | ⟨response, ha, hs, -⟩
      · exact absurd he (hf.returned h hx hp).2.not_hasStatus
      · exact ⟨response, ha, hs⟩
    · rintro ⟨response, ha, hs⟩
      exact ⟨_, h.refused ha hs, refusal_hasStatus response⟩
  · intro response ha hs
    exact ⟨h.refused ha hs, description_not_blank response⟩
  · intro e
    constructor
    · rintro ⟨hr, he⟩
      rcases hcases e hr with hf | ⟨response, -, -, rfl⟩
      · exact hf
      · exact absurd (refusal_hasStatus response) he
    · intro hf
      obtain ⟨hr, he⟩ := hf.returned h hx hp
      exact ⟨hr, he.not_hasStatus⟩
  · intro e hr
    rcases hcases e hr with hf | ⟨response, -, -, rfl⟩
    · exact .inr (hf.returned h hx hp).2
    · exact .inl (refusal_hasStatus response)
  · rintro e rfl
    exact h.isRetryable hx ⟨fun e he => (hp.token e he).classify_isRetryable,
      fun trip ht e ho => (hp.trips trip ht e ho).classify_isRetryable⟩

end Client

/-! ## The calls of the services -/

namespace OpenClient

variable {α : Type}

/-- The client that makes each call once, over the transport that sends a request as it is. -/
def once (c : OpenClient) (guard : Option Csrf.Guard) : OpenClient :=
  { c.wired guard with policy := none }

/-- A call in a network reports what it comes to. -/
def Reports (c : OpenClient) (x : Exchange α) (call : Call Network α) (n : Network) : Prop :=
  ∃ t, n.toWire.Grew t (call n).2.toWire ∧
    c.client.Reports x (Network.session c n) t (call n).1

theorem run_reports (c : OpenClient) (guard : Option Csrf.Guard) {x : Exchange α}
    (hx : x.ReadsPlainly) {n : Network} (hn : n.FailsWith Error.IsPlain) :
    (c.once guard).Reports x ((c.once guard).run x) n := by
  obtain ⟨t, hg, he⟩ := (c.once guard).client.run_ends guard rfl x
    (Network.session (c.once guard) n)
  exact ⟨t, hg, he.reports hx
    (hn.client (fun context _ h => h.within context) Error.isPlain_plain (c.once guard) hg)⟩

end OpenClient

/-- **What a call reports.** Where everything outside the clients fails plainly, each call of the
four services, made once, with whatever arguments and whether the transport is guarded or not: its
error has a status exactly if its request was answered and the answer is no success, and then it has
the status, its text, and what the answer says; every other failure is returned as it is. -/
theorem calls_report_failures (c : OpenClient) (guard : Option Csrf.Guard) {n : Network}
    (hn : n.FailsWith Error.IsPlain) :
    (∀ (scope : RestScope) {α : Type} (call : RestCall α),
      (c.once guard).Reports (call.exchange scope)
        ((RestClient.mk (c.once guard) scope).service call) n) ∧
    (∀ {α : Type} (call : OperationsCall α),
      (c.once guard).Reports call.exchange
        ((OperationsClient.mk (c.once guard)).service call) n) ∧
    (∀ (space : String) {α : Type} (call : LookupCall α),
      (c.once guard).Reports (call.exchange space)
        ((LookupClient.mk (c.once guard) space).service call) n) ∧
    (∀ (serviceId : String) {α : Type} (call : ProcessCall α),
      (c.once guard).Reports call.exchange
        ((ProcessClient.mk (c.once guard) serviceId).service call) n) :=
  ⟨fun scope _ call => c.run_reports guard (call.exchange_readsPlainly scope) hn,
    fun call => c.run_reports guard call.exchange_readsPlainly hn,
    fun space _ call => c.run_reports guard (call.exchange_readsPlainly space) hn,
    fun _ _ call => c.run_reports guard call.exchange_readsPlainly hn⟩

/-- A client on a host, with a fixed token. -/
def OpenClient.toHost (host basePath : String) : OpenClient where
  client := { channel := .of host basePath none, transport := .direct, supply := .fixed "token" }
  connection := 0
  jar := 0
  policy := none

/-- A network in which nothing has happened yet. The requests get the given responses, as long as
there are any. -/
def Network.replaying (responses : List Response) : Network where
  toWire := (Session.replaying responses).toWire
  csrf _ := none
  tokens _ := (Session.replaying responses).tokens
  jars _ := .empty
  nextJar := 0

theorem Network.replaying_failsWith (responses : List Response) :
    (Network.replaying responses).FailsWith Error.IsPlain := by
  constructor
  · intro i e he
    have hanswer : (Network.replaying responses).answers i =
        (responses[i]?).elim (.error (.of (.external .http))) .ok := rfl
    rw [hanswer] at he
    cases hr : responses[i]? with
    | none =>
      rw [hr] at he
      cases he
      exact .inr ⟨.http, rfl⟩
    | some response =>
      rw [hr] at he
      cases he
  · intro j i e he
    cases he

/-- An application that is not deployed. -/
theorem missing_application_reported :
    let c := OpenClient.toHost "example.com" operationsBasePath
    let response : Response := { status := 404, headers := [], body := [0x20] }
    let n := Network.replaying [response]
    n.FailsWith Error.IsPlain ∧
      ((OperationsClient.mk (c.once none)).service (.mta "m") n).1 =
        .error (.of (.client 404 "Not Found" "Not Found")) := by
  intro c response n
  have hn : n.FailsWith Error.IsPlain := Network.replaying_failsWith _
  obtain ⟨t, hg, hr⟩ := (calls_report_failures c none hn).2.1 (.mta "m")
  have hfirst : t.head?.map (fun trip => (trip.request.method, trip.outcome.toOption)) =
      some ("GET", some response) := by
    rw [← hg.drop]
    decide +kernel
  obtain ⟨trip, ht, hp⟩ := Option.map_eq_some_iff.mp hfirst
  obtain ⟨hm, ho⟩ := Prod.mk.inj hp
  have hok : trip.outcome = .ok response := by
    rcases htrip : trip.outcome with e | answer <;> rw [htrip] at ho <;> cases ho
    rfl
  have hdescription : description response = "Not Found" := by decide +kernel
  obtain ⟨hresult, -⟩ := hr.refused response ⟨trip, List.mem_of_head? ht, hm, hok⟩ (by decide)
  rw [hdescription] at hresult
  exact ⟨hn, hresult⟩

end DeployService
