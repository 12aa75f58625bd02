import DeployService.Client.Operations
import DeployService.Payload.LongRunning
import DeployService.Proofs.Attempt
import DeployService.Proofs.ShapeReading

/-!
# Payloads read back

Every payload is read back from the response whose body is its JSON form (`Payload.ReadsBack`). For
most types this is decided by the shape alone: its names differ, it has no dictionaries, and it is
not deep (`Shape.isSimple`). Only an operation can hold a dictionary, and so a document that is too
deep.

An operation that is to be started is the body of a request. What a client does with the request
before it is sent, does not touch the body.
-/

namespace DeployService

open DeployService.Http DeployService.Text

namespace Payload

variable {α : Type} [Payload α]

/-- The value is read back from a JSON response whose body is its JSON form. -/
def ReadsBack (a : α) : Prop :=
  ∀ response : Response, consumerOf response = .ok .json → response.cut = none →
    response.body = Utf8.encode (toJson a).render → readJson response = .ok a

theorem decode?_bytes (hs : (shape α).isSound = true) {a : α}
    (hr : (shape α).Regular (toValue a)) (hd : (toJson a).depth ≤ Json.maxDepth) :
    decode? (toJson a).bytes = some a := by
  have hfree := Shape.encode_floatFree (shape α) (toValue a) hr
  have hvalue := Shape.readsBack (shape α) hs (toValue a) hr Json.maxDepth hd
  have hread : Json.Raw.read? (toJson a).bytes = some (toJson a).written := Json.read?_bytes hfree
  rw [decode?, hread, Option.bind_some, toJson, hvalue, Option.map_some, ofValue_toValue]

/-- A regular value of a sound shape is read back, unless its document is too deep. -/
theorem readsBack (hs : (shape α).isSound = true) {a : α} (hr : (shape α).Regular (toValue a))
    (hd : (toJson a).depth ≤ Json.maxDepth) : ReadsBack a := by
  intro response hjson hwhole hbody
  have hbytes : response.body = (toJson a).bytes := by
    rw [hbody, Utf8.encode, Json.render, String.toList_ofList, Json.bytes]
  have hempty : response.body.isEmpty = false := by
    obtain ⟨b, tail, hb, -⟩ := (Shape.encode_floatFree (shape α) (toValue a) hr).isForm.head
    rw [hbytes, toJson, hb]
    rfl
  have hdecode := decode?_bytes hs hr hd
  rw [← hbytes] at hdecode
  rw [readJson_whole hwhole, hempty, hjson]
  simp only [Bool.false_eq_true, if_false, Except.bind, hdecode]

/-- The shape is sound, and its values are not deep. -/
def Shape.isSimple (s : Shape) : Bool := s.isSound && s.height?.any (· ≤ Json.maxDepth)

theorem readsBack_of_isSimple (h : (shape α).isSimple = true) (a : α) : ReadsBack a := by
  rw [Shape.isSimple, Bool.and_eq_true, Option.any_eq_true] at h
  obtain ⟨hs, n, hn, hmax⟩ := h
  obtain ⟨hr, hd⟩ := Shape.of_height? (shape α) hn (toValue a)
  exact readsBack hs hr (Nat.le_trans hd (of_decide_eq_true hmax))

/-- All values of a type are read back, and all lists of them. -/
def AllReadBack (α : Type) [Payload α] : Prop :=
  (∀ a : α, ReadsBack a) ∧ ∀ as : List α, ReadsBack as

theorem allReadBack (h : (shape α).isSimple = true) (hl : (shape (List α)).isSimple = true) :
    AllReadBack α :=
  ⟨readsBack_of_isSimple h, readsBack_of_isSimple hl⟩

theorem allReadBack_types : AllReadBack Mta ∧ AllReadBack MtaMetadata ∧ AllReadBack Module ∧
    AllReadBack Message ∧ AllReadBack LogFile ∧ AllReadBack FileMetadata ∧
    AllReadBack ServiceInfo ∧ AllReadBack Components ∧ AllReadBack LongRunning.Metadata ∧
    AllReadBack LongRunning.Log ∧ AllReadBack LongRunning.Task ∧
    AllReadBack LongRunning.Failure ∧ AllReadBack LongRunning.Action := by
  refine ⟨?_, ?_, ?_, ?_, ?_, ?_, ?_, ?_, ?_, ?_, ?_, ?_, ?_⟩ <;>
    exact allReadBack (by decide) (by decide)

/-! ## Operations -/

/-- The parameters of an operation are sorted by name, and are values that a reader can come up
with. -/
def Operation.Regular (o : Operation) : Prop := (Json.object o.parameters).Regular

theorem Operation.shape_regular {o : Operation} (h : o.Regular) :
    (shape Operation).Regular (toValue o) := by
  have hmessages : (shape (List Message)).Regular (toValue o.messages) :=
    (Shape.of_height? (shape (List Message)) (n := 2) rfl (toValue o.messages)).1
  have hoption : ∀ v : Option String, (Shape.optional .text).Regular v := fun _ _ _ => trivial
  exact ⟨hoption o.processId, hoption o.processType, hoption o.startedAt, hoption o.spaceId,
    hoption o.mtaId, hoption o.namespaceName, hoption o.user, trivial, hoption o.state, hmessages,
    h, trivial⟩

theorem Operation.readsBack {o : Operation} (h : o.Regular)
    (hd : (toJson o).depth ≤ Json.maxDepth) : ReadsBack o :=
  Payload.readsBack (by decide) (Operation.shape_regular h) hd

theorem Operation.list_readsBack {os : List Operation} (h : ∀ o ∈ os, o.Regular)
    (hd : (toJson os).depth ≤ Json.maxDepth) : ReadsBack os := by
  refine Payload.readsBack (by decide) ?_ hd
  intro v hv
  obtain ⟨o, ho, rfl⟩ := List.mem_map.mp hv
  exact Operation.shape_regular (h o ho)

end Payload

/-! ## Starting an operation -/

theorem Csrf.Prepared.same_body {guard : Csrf.Guard} {request own : Request} {s s' : Session}
    {t : List RoundTrip} (h : Csrf.Prepared guard request s t (.ok own) s') :
    own.body = request.body := by
  have hprotect : ∀ token, (Csrf.protectWith token request).body = request.body := by
    intro token
    cases token <;> rfl
  cases h <;> first | rfl | exact hprotect _

/-- A transport sends the body of a request as it is. Other requests have another method. -/
theorem Transport.wired_bodies (guard : Option Csrf.Guard) (request : Request) :
    (Transport.wired guard request).Sends Session.toWire fun t _ =>
      ∀ trip ∈ t, trip.request.method = request.method → trip.request.body = request.body := by
  intro s
  cases guard with
  | none =>
    refine ⟨[⟨request, s.next⟩], Session.grew_sending request s, fun trip ht _ => ?_⟩
    rw [List.mem_singleton.mp ht]
  | some guard =>
    show ∃ t, s.toWire.Grew t (Transport.guarded guard .direct request s).2.toWire ∧ _
    obtain ⟨t, hp⟩ := Csrf.prepare_prepared guard request s
    have hfetch : ∀ trip ∈ t, trip.request.method ≠ request.method :=
      fun trip ht => RoundTrip.IsFetchFor.method_ne (hp.fetches trip ht)
    rw [Csrf.guarded_eq]
    rcases hr : Csrf.prepare guard .direct request s with ⟨e | own, s'⟩ <;> rw [hr] at hp
    · exact ⟨t, hp.grew, fun trip ht hm => absurd hm (hfetch trip ht)⟩
    · refine ⟨t ++ [⟨own, s'.next⟩], ?_, fun trip ht hm => ?_⟩
      · simp only [Csrf.settle_toWire]
        exact hp.grew.trans (Session.grew_sending own s')
      · rcases List.mem_append.mp ht with ht | ht
        · exact absurd hm (hfetch trip ht)
        · rw [List.mem_singleton.mp ht]
          exact hp.same_body

variable {α : Type}

theorem Client.run_bodies (c : Client) (guard : Option Csrf.Guard) (hc : c.transport = .wired guard)
    (x : Exchange α) : (c.run x).Sends Session.toWire fun t _ =>
      ∀ trip ∈ t, trip.request.method = x.endpoint.method →
        trip.request.body = x.endpoint.body.elim .none .bytes := by
  intro s
  have hwire : (Session.nextToken c.supply s).2.toWire = s.toWire := rfl
  have hruns := c.run_runs x s
  rw [← hwire]
  generalize c.run x s = result at hruns
  obtain ⟨r, s₁⟩ := result
  cases hruns with
  | tokenless ht =>
    rw [ht]
    exact ⟨[], .refl _, by simp⟩
  | unready ht _ =>
    rw [ht]
    exact ⟨[], .refl _, by simp⟩
  | @sent token s' _ request jar ht hr hs =>
    obtain ⟨t, hg, hbodies⟩ := Transport.wired_bodies guard request s'
    have hrequest := Channel.ready_isRequest hr
    rw [ht, hs, hc]
    refine ⟨t, hg, fun trip htrip hm => ?_⟩
    rw [hbodies trip htrip (hm.trans hrequest.method.symm), hrequest.body]

theorem Attempts.forall_mem {P : List RoundTrip → Except Error α → Prop} {Q : RoundTrip → Prop}
    (hP : ∀ t r, P t r → ∀ trip ∈ t, Q trip) {n : Nat} {t : List RoundTrip} {r : Except Error α}
    (h : Attempts P n t r) : ∀ trip ∈ t, Q trip := by
  induction h with
  | last h _ => exact hP _ _ h
  | again h _ _ ih =>
    intro trip ht
    rcases List.mem_append.mp ht with ht | ht
    · exact hP _ _ h trip ht
    · exact ih trip ht

theorem OpenClient.run_bodies (c : OpenClient) (guard : Option Csrf.Guard) (x : Exchange α) :
    ((c.wired guard).run x).Sends Network.toWire fun t _ =>
      ∀ trip ∈ t, trip.request.method = x.endpoint.method →
        trip.request.body = x.endpoint.body.elim .none .bytes := by
  have hrun := (c.wired guard).client.run_bodies guard rfl x
  refine Call.Sends.inNetwork ?_ (c.wired guard)
  unfold Client.runUnder
  cases (c.wired guard).policy with
  | none => exact hrun
  | some p => exact (RetryPolicy.call_sends hrun p).mono fun _ _ h => h.forall_mem fun _ _ h => h

open Payload in
/-- **Payloads are read back.** Every value of every payload type and every list of them is read
from the response that has its JSON form as its body. For operations this takes parameters without
floating-point numbers, and a document in which not too many arrays and objects are open at once. In
particular the request that starts an operation has a body from which the operation is read, whether
the call is retried and its transport guarded or not. -/
theorem payloads_read_back :
    (AllReadBack Mta ∧ AllReadBack MtaMetadata ∧ AllReadBack Module ∧ AllReadBack Message ∧
      AllReadBack LogFile ∧ AllReadBack FileMetadata ∧ AllReadBack ServiceInfo ∧
      AllReadBack Components ∧ AllReadBack LongRunning.Metadata ∧ AllReadBack LongRunning.Log ∧
      AllReadBack LongRunning.Task ∧ AllReadBack LongRunning.Failure ∧
      AllReadBack LongRunning.Action) ∧
    (∀ o : Operation, o.Regular → (toJson o).depth ≤ Json.maxDepth → ReadsBack o) ∧
    (∀ os : List Operation, (∀ o ∈ os, o.Regular) → (toJson os).depth ≤ Json.maxDepth →
      ReadsBack os) ∧
    ∀ (c : OpenClient) (guard : Option Csrf.Guard) (o : Operation), o.Regular →
      (toJson o).depth ≤ Json.maxDepth →
        ((OperationsClient.mk (c.wired guard)).service (.start o)).Sends Network.toWire fun t _ =>
          ∀ trip ∈ t, trip.request.method = "POST" → ∃ bytes, trip.request.body = .bytes bytes ∧
            ∀ response : Response, consumerOf response = .ok .json → response.cut = none →
              response.body = bytes → readJson response = .ok o := by
  refine ⟨allReadBack_types, fun o => Operation.readsBack, fun os => Operation.list_readsBack,
    fun c guard o hr hd => ?_⟩
  refine (c.run_bodies guard (OperationsCall.start o).exchange).mono fun t _ h trip ht hm => ?_
  exact ⟨_, h trip ht hm, Operation.readsBack hr hd⟩

/-- An operation with parameters. -/
def parametrizedOperation : Payload.Operation where
  processId := some ""
  processType := some "DEPLOY"
  startedAt := none
  spaceId := none
  mtaId := some "\"é\"\n"
  namespaceName := none
  user := none
  acquiredLock := true
  state := none
  messages := [{ id := -1, text := "\\", kind := "INFO" }]
  parameters := [("a", .array [.integer Json.minInteger, .null]),
    ("b", .object [("", .bool false), ("x", .text "1")])]

open Payload in
theorem parametrizedOperation_read_back :
    let body := Utf8.encode (toJson parametrizedOperation).render
    let response : Response := { status := 200, headers := [], body }
    parametrizedOperation.Regular ∧ (toJson parametrizedOperation).depth ≤ Json.maxDepth ∧
      readJson response = .ok parametrizedOperation := by
  intro body response
  have hr : parametrizedOperation.Regular := by
    refine .object (by decide) fun m hm => ?_
    simp only [parametrizedOperation, List.mem_cons, List.not_mem_nil, or_false] at hm
    rcases hm with rfl | rfl
    · refine .array fun item hitem => ?_
      simp only [List.mem_cons, List.not_mem_nil, or_false] at hitem
      rcases hitem with rfl | rfl
      · exact .integer (by decide) (by decide)
      · exact .null
    · refine .object (by decide) fun m hm => ?_
      simp only [List.mem_cons, List.not_mem_nil, or_false] at hm
      rcases hm with rfl | rfl
      · exact .bool false
      · exact .text "1"
  have hd : (toJson parametrizedOperation).depth ≤ Json.maxDepth := by decide
  exact ⟨hr, hd, payloads_read_back.2.1 parametrizedOperation hr hd _ rfl rfl rfl⟩

end DeployService
