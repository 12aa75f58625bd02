import DeployService.Client.Operations
import DeployService.Client.Process
import DeployService.Client.Rest
import DeployService.Proofs.Delivery

/-!
# Acknowledged calls

A call that changes something is sent as a `POST`. When the service acknowledges it, it must not be
sent again, although every failure is retried. So nothing that a client does after the
acknowledgement may fail: a token that is rejected has another status, storing cookies cannot fail,
and the responses to these calls are not read, or only for a header that may be missing.

`Settles` says this of the traffic of a whole call. An attempt settles (`Delivers.settles`) when its
reader is total, and an attempt that is followed by another one has not been acknowledged, so that a
sequence of attempts settles as well (`Attempts.settles`).
-/

namespace DeployService

open DeployService.Http DeployService.Payload

/-- The service has acknowledged a call that changes something. -/
def RoundTrip.Acknowledges (trip : RoundTrip) : Prop :=
  trip.request.method = "POST" ∧ trip.succeeded = true

/-- The result of a call tells whether the call was acknowledged, and nothing is sent after the
acknowledgement. -/
structure Settles {α : Type} (t : List RoundTrip) (r : Except Error α) : Prop where
  /-- The acknowledgement comes last, and the call returns a value. -/
  accepted : ∀ before trip after, t = before ++ trip :: after → trip.Acknowledges →
    after = [] ∧ ∃ a, r = .ok a
  /-- A call without an acknowledgement fails. -/
  refused : (∀ trip ∈ t, ¬trip.Acknowledges) → ∃ e, r = .error e

namespace Settles

variable {α : Type} {t t' : List RoundTrip} {r : Except Error α} {e : Error}

theorem of_none (h : ∀ trip ∈ t, ¬trip.Acknowledges) : Settles t (.error e : Except Error α) where
  accepted := fun before trip after ht hk => absurd hk (h trip (by simp [ht]))
  refused := fun _ => ⟨e, rfl⟩

theorem of_last {last : RoundTrip} {a : α} (h : ∀ trip ∈ t, ¬trip.Acknowledges)
    (hl : last.Acknowledges) : Settles (t ++ [last]) (.ok a : Except Error α) where
  accepted := by
    intro before trip after ht hk
    refine ⟨?_, a, rfl⟩
    -- a round trip with something after it is one of `t`
    rcases List.eq_nil_or_concat after with rfl | ⟨after, last', rfl⟩
    · rfl
    · have ht' : t ++ [last] = (before ++ trip :: after) ++ [last'] := by simpa using ht
      have htrip : trip ∈ t := by simp [(List.append_inj' ht' rfl).1]
      exact absurd hk (h trip htrip)
  refused := fun hn => absurd hl (hn last (by simp))

/-- A call that has failed was not acknowledged. -/
theorem none_of_error (h : Settles t (.error e : Except Error α)) :
    ∀ trip ∈ t, ¬trip.Acknowledges := by
  intro trip ht hk
  obtain ⟨before, after, rfl⟩ := List.append_of_mem ht
  obtain ⟨_, a, ha⟩ := h.accepted before trip after rfl hk
  cases ha

/-- What is sent before without an acknowledgement does not matter. -/
theorem append_left (hn : ∀ trip ∈ t, ¬trip.Acknowledges) (h : Settles t' r) :
    Settles (t ++ t') r where
  accepted := by
    intro before trip after ht hk
    rcases List.append_eq_append_iff.mp ht with ⟨mid, rfl, ht'⟩ | ⟨mid, ht', hmid⟩
    · exact h.accepted mid trip after ht' hk
    · -- the round trip would be the first one of `mid`, and so one of `t`
      rcases mid with _ | ⟨first, mid⟩
      · exact h.accepted [] trip after hmid.symm hk
      · obtain ⟨rfl, -⟩ := List.cons.inj hmid
        exact absurd hk (hn trip (by simp [ht']))
  refused := fun hn' => h.refused fun trip ht => hn' trip (List.mem_append_right _ ht)

end Settles

/-- A call that is sent as a `POST` and whose response is read without fail. -/
structure Exchange.IsCommand {α : Type} (x : Exchange α) : Prop where
  method : x.endpoint.method = "POST"
  read : ∀ response, ∃ a, x.read response = .ok a

variable {α : Type}

theorem Exchange.finish_refused (x : Exchange α) {response : Response}
    (h : isSuccess response.status = false) :
    x.finish (.ok response) = .error (errorOf x.endpoint.id response).classify := by
  have hcheck : (Except.ok response).bind (checkStatus x.endpoint.id) =
      .error (errorOf x.endpoint.id response) := by
    simp [Except.bind, checkStatus, h]
  rw [Exchange.finish, hcheck]
  rfl

theorem Exchange.finish_accepted (x : Exchange α) {response : Response}
    (h : isSuccess response.status = true) : x.finish (.ok response) = x.read response := by
  have hcheck : (Except.ok response).bind (checkStatus x.endpoint.id) = .ok response := by
    simp [Except.bind, checkStatus, h]
  rw [Exchange.finish, hcheck]
  rfl

/-- A fetch acknowledges nothing. -/
theorem RoundTrip.IsFetchFor.not_acknowledges {method : String} {trip : RoundTrip}
    (h : trip.IsFetchFor method) : ¬trip.Acknowledges := by
  rintro ⟨hm, -⟩
  rw [h.2] at hm
  exact absurd hm (by decide)

theorem Delivers.settles {x : Exchange α} (hx : x.IsCommand) {url : Except Error Url}
    {t : List RoundTrip} {r : Except Error α}
    (h : Delivers x.endpoint.method url x.finish t r) : Settles t r := by
  cases h with
  | lost ht => exact .of_none fun trip h => (ht trip h).not_acknowledges
  | @reached t own ht hm _ =>
    have hfetch : ∀ trip ∈ t, ¬trip.Acknowledges := fun trip h => (ht trip h).not_acknowledges
    cases hs : own.succeeded with
    | false =>
      have hnone : ∀ trip ∈ t ++ [own], ¬trip.Acknowledges := by
        intro trip htrip
        rcases List.mem_append.mp htrip with htrip | htrip
        · exact hfetch trip htrip
        · rw [List.mem_singleton.mp htrip]
          simp [RoundTrip.Acknowledges, hs]
      rcases ho : own.outcome with e | response
      · exact .of_none hnone
      · rw [x.finish_refused (by simpa [RoundTrip.succeeded, ho] using hs)]
        exact .of_none hnone
    | true =>
      have hack : own.Acknowledges := ⟨by rw [hm, hx.method], hs⟩
      rcases ho : own.outcome with e | response
      · simp [RoundTrip.succeeded, ho] at hs
      · obtain ⟨a, ha⟩ := hx.read response
        rw [x.finish_accepted (by simpa [RoundTrip.succeeded, ho] using hs), ha]
        exact .of_last hfetch hack

theorem Attempts.settles {P : List RoundTrip → Except Error α → Prop}
    (hP : ∀ t r, P t r → Settles t r) {n : Nat} {t : List RoundTrip} {r : Except Error α}
    (h : Attempts P n t r) : Settles t r := by
  induction h with
  | last h _ => exact hP _ _ h
  | @again n t t' r r' h hr _ ih =>
    -- only a failure is retried, and a call that has failed was not acknowledged
    rcases r with e | a
    · exact ih.append_left (hP _ _ h).none_of_error
    · simp [RetryPolicy.errorOf?, shouldRetry] at hr

/-! ## The calls that change something -/

/-- The client over the transport that sends a request as it is. -/
def OpenClient.wired (c : OpenClient) (guard : Option Csrf.Guard) : OpenClient :=
  { c with client := { c.client with transport := .wired guard } }

theorem OpenClient.run_settles (c : OpenClient) (guard : Option Csrf.Guard)
    (hc : c.client.transport = .wired guard) {x : Exchange α} (hx : x.IsCommand) :
    (c.run x).Sends Network.toWire Settles :=
  (c.run_sends guard hc x).mono fun _ _ h => h.settles fun _ _ => Delivers.settles hx

theorem Exchange.empty_isCommand {e : Endpoint} (h : e.method = "POST") :
    (Exchange.empty e).IsCommand := ⟨h, fun _ => ⟨(), rfl⟩⟩

theorem Exchange.location_isCommand {e : Endpoint} (h : e.method = "POST") :
    (Exchange.location e).IsCommand := ⟨h, fun response => ⟨readLocation response, rfl⟩⟩

/-- **A call that changes something is not sent again once it is acknowledged.** Whatever a client
and its policy are, whether its transport is guarded or not, and whatever becomes of its requests:
the acknowledgement of one of the four calls is the last thing that is sent for it, and the call
returns a value; without an acknowledgement it fails. -/
theorem acknowledged_calls_settle (c : OpenClient) (guard : Option Csrf.Guard)
    (p : RetryPolicy) :
    (∀ scope org space, Call.Sends Network.toWire
      (((RestClient.mk (c.wired guard) scope).retrying p).service
        (.purgeConfiguration org space)) Settles) ∧
    (∀ operation action, Call.Sends Network.toWire
      (((OperationsClient.mk (c.wired guard)).retrying p).service
        (.executeAction operation action)) Settles) ∧
    (∀ operation, Call.Sends Network.toWire
      (((OperationsClient.mk (c.wired guard)).retrying p).service (.start operation)) Settles) ∧
    (∀ serviceId action, Call.Sends Network.toWire
      (((ProcessClient.mk (c.wired guard) serviceId).retrying p).service
        (.executeAction action)) Settles) :=
  ⟨fun _ _ _ => OpenClient.run_settles _ guard rfl (Exchange.empty_isCommand rfl),
    fun _ _ => OpenClient.run_settles _ guard rfl (Exchange.location_isCommand rfl),
    fun _ => OpenClient.run_settles _ guard rfl (Exchange.location_isCommand rfl),
    fun _ _ => OpenClient.run_settles _ guard rfl (Exchange.empty_isCommand rfl)⟩

end DeployService
