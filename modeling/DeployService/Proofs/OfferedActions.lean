import DeployService.Command.Operations
import DeployService.Proofs.Repetition

/-!
# Acting on an operation

The command asks the service which actions an operation offers, and acts on it only if the action is
among them. Both calls are retried, so the order of the requests is decided by the outcomes of all
earlier ones: `Command.Acting` lists the courses that the command can take, and what it sends and
comes to is read off each of them.

The attempts at one call send one request again and again (`SameRequests`). It is not quite the same
request: each attempt obtains a token of its own, and has the cookies of the answers before it.
-/

namespace DeployService

open DeployService.Http DeployService.Payload

variable {α : Type}

/-! ## The requests of one call -/

/-- Two requests that differ in their credentials and cookies at most. -/
structure Http.Request.Matches (a b : Request) : Prop where
  method : a.method = b.method
  url : a.url = b.url
  headers : ∀ name, name ≠ authorization → name ≠ cookie →
    a.headers.getAll name = b.headers.getAll name
  body : a.body = b.body

/-- Round trips for one call: at most `n`, with requests that match. -/
structure SameRequests (c : Channel) (e : Endpoint) (n : Nat) (t : List RoundTrip) : Prop where
  few : t.length ≤ n
  request : ∀ trip ∈ t, c.IsRequest e trip.request
  same : ∀ a ∈ t, ∀ b ∈ t, a.request.Matches b.request

theorem SameRequests.nil (c : Channel) (e : Endpoint) (n : Nat) : SameRequests c e n [] :=
  ⟨Nat.zero_le n, by simp, by simp⟩

/-- The token and the session decide about the credential and the cookies only. -/
theorem Channel.ready_matches {c : Channel} {e : Endpoint} {token token' : Token} {s s' : Session}
    {a b : Request} (ha : c.ready e token s = .ok a) (hb : c.ready e token' s' = .ok b) :
    a.Matches b := by
  have hother : ∀ {token : Token} {s : Session} {request : Request},
      c.ready e token s = .ok request → ∀ name, name ≠ authorization → name ≠ cookie →
        name ≠ Http.userAgent → request.headers.getAll name =
          Headers.getAll name (if e.body.isSome then
            Headers.insert Http.contentType (literalValue jsonMedia)
              [(Http.accept, literalValue e.produces)]
            else [(Http.accept, literalValue e.produces)]) := by
    intro token s request h name hauthorization hcookie hagent
    obtain ⟨plain, value, hplain, rfl⟩ := ready_ok h
    obtain ⟨-, -, hheaders, -⟩ := request_parts hplain
    rw [Headers.getAll_insert_of_ne _ _ hagent]
    unfold Channel.headers Token.authenticate at hheaders
    rcases ht : token.header with fault | credential
    · simp [ht, bind, Except.bind, Except.map] at hheaders
    · simp only [ht, bind, Except.bind, Except.map, pure, Except.pure, Except.ok.injEq] at hheaders
      rw [← hheaders, Headers.getAll_insertSome_of_ne _ hcookie,
        Headers.getAll_insert_of_ne _ _ hauthorization]
  have hreqa := ready_isRequest ha
  have hreqb := ready_isRequest hb
  constructor
  · rw [hreqa.method, hreqb.method]
  · exact Except.ok.inj (hreqa.url.symm.trans hreqb.url)
  · intro name hauthorization hcookie
    by_cases hagent : name = Http.userAgent
    · obtain ⟨value, hv, hav⟩ := hreqa.agent
      obtain ⟨value', hv', hbv⟩ := hreqb.agent
      rw [hv] at hv'
      rw [hagent, hav, hbv, Option.some.inj hv']
    · rw [hother ha name hauthorization hcookie hagent,
        hother hb name hauthorization hcookie hagent]
  · rw [hreqa.body, hreqb.body]

/-- An attempt at a call over the transport that sends every request as it is: it fails and sends
nothing, or it sends the request of the call and finishes what becomes of it. -/
inductive Tried (c : Channel) (x : Exchange α) : List RoundTrip → Except Error α → Prop where
  /-- The request was not sent. -/
  | unsent (e : Error) : Tried c x [] (.error e)
  /-- The request was sent. -/
  | sent {token : Token} {s : Session} {request : Request} {outcome : Except Error Response}
    (h : c.ready x.endpoint token s = .ok request) :
    Tried c x [⟨request, outcome⟩] (x.finish outcome)

theorem Client.run_tried (c : Client) (hc : c.transport = .wired none) (x : Exchange α) :
    (c.run x).Sends Session.toWire (Tried c.channel x) := by
  intro s
  have hwire : (Session.nextToken c.supply s).2.toWire = s.toWire := rfl
  have hruns := c.run_runs x s
  rw [← hwire]
  generalize c.run x s = result at hruns
  obtain ⟨r, s₁⟩ := result
  cases hruns with
  | tokenless ht =>
    rw [ht]
    exact ⟨[], .refl _, .unsent _⟩
  | unready ht _ =>
    rw [ht]
    exact ⟨[], .refl _, .unsent _⟩
  | @sent token s' _ request jar ht hr hs =>
    rw [ht, hs, hc]
    exact ⟨[⟨request, s'.next⟩], Session.grew_sending request s', .sent hr⟩

namespace Tried

variable {c : Channel} {x : Exchange α} {t : List RoundTrip} {r : Except Error α}

theorem length_le (h : Tried c x t r) : t.length ≤ 1 := by
  cases h <;> simp

theorem ready (h : Tried c x t r) {trip : RoundTrip} (ht : trip ∈ t) :
    ∃ token s, c.ready x.endpoint token s = .ok trip.request := by
  cases h with
  | unsent => simp at ht
  | sent h =>
    rw [List.mem_singleton.mp ht]
    exact ⟨_, _, h⟩

theorem delivers (h : Tried c x t r) : c.Attempt x t r := by
  cases h with
  | unsent e => exact .lost_nil e
  | @sent _ _ request outcome h =>
    obtain ⟨hm, hu⟩ := Channel.ready_target h
    have hd : c.Attempt x ([] ++ [⟨request, outcome⟩]) (x.finish outcome) :=
      .reached (by simp) hm hu
    exact hd

/-- A value is what the answer to the one request of the attempt is read as. -/
theorem answered {a : α} (h : Tried c x t (.ok a)) :
    ∃ trip response, t = [trip] ∧ trip.outcome = .ok response ∧
      isSuccess response.status = true ∧ x.read response = .ok a := by
  generalize hr : (Except.ok a : Except Error α) = r at h
  cases h with
  | unsent => cases hr
  | @sent token s request outcome h =>
    rcases outcome with e | response
    · rw [x.finish_error] at hr
      cases hr
    · refine ⟨_, response, rfl, rfl, ?_⟩
      cases hs : isSuccess response.status with
      | false =>
        rw [x.finish_refused hs] at hr
        cases hr
      | true =>
        exact ⟨rfl, (x.finish_accepted hs).symm⟩

end Tried

namespace Attempts

variable {c : Channel} {x : Exchange α} {n : Nat} {t : List RoundTrip} {r : Except Error α}

theorem sameRequests (h : Attempts (Tried c x) n t r) : SameRequests c x.endpoint (n + 1) t := by
  obtain ⟨hlength, hready⟩ := h.length_le fun _ _ h => ⟨h.length_le, fun _ ht => h.ready ht⟩
  refine ⟨hlength, fun trip ht => ?_, fun a ha b hb => ?_⟩
  · obtain ⟨_, _, htrip⟩ := hready trip ht
    exact Channel.ready_isRequest htrip
  · obtain ⟨_, _, ha⟩ := hready a ha
    obtain ⟨_, _, hb⟩ := hready b hb
    exact Channel.ready_matches ha hb

/-- A value is what the answer to the last request is read as. -/
theorem answered {a : α} (h : Attempts (Tried c x) n t (.ok a)) :
    ∃ trip response, t.getLast? = some trip ∧ trip.outcome = .ok response ∧
      isSuccess response.status = true ∧ x.read response = .ok a := by
  generalize hr : (Except.ok a : Except Error α) = r at h
  induction h with
  | last h _ =>
    subst hr
    obtain ⟨trip, response, rfl, hanswer⟩ := h.answered
    exact ⟨trip, response, rfl, hanswer⟩
  | again _ _ _ ih =>
    -- the attempts before the last one stay in front of its request
    obtain ⟨trip, response, hlast, hanswer⟩ := ih hr
    refine ⟨trip, response, ?_, hanswer⟩
    rw [List.getLast?_append, hlast]
    rfl

end Attempts

/-- A call in a network over the transport that sends every request as it is. -/
theorem OpenClient.run_tried (p : RetryPolicy) (c : OpenClient) (x : Exchange α) :
    (((c.once none).retrying p).run x).Sends Network.toWire
      (Attempts (Tried c.client.channel x) p.retries) :=
  (RetryPolicy.call_sends ((c.once none).client.run_tried rfl x) p).inNetwork (c.once none)

/-! ## The console -/

namespace Console

variable {σ : Type}

theorem say_sends (wire : σ → Wire) (line : String) :
    Call.Sends (fun console : Console σ => wire console.state) (Console.say line)
      fun t r => t = [] ∧ r = .ok () :=
  fun _ => ⟨[], .refl _, rfl, rfl⟩

theorem ask_sends {wire : σ → Wire} {x : Call σ α} {P : List RoundTrip → Except Error α → Prop}
    (h : x.Sends wire P) : (Console.ask x).Sends (fun console => wire console.state) P :=
  h.on (fun _ => rfl) fun _ _ => rfl

end Console

/-! ## The command -/

namespace Command

/-- What the command comes to once the service was asked for the action. A failure says what was
tried, and where the operation is found is not of interest. -/
def conclude (operation action : String) (r : Except Error (Option String)) : Except Error Unit :=
  (r.mapError (Error.within ("Could not execute action " ++ Text.quoted action ++
    " on operation " ++ operation))).map fun _ => ()

/-- How the command that acts on an operation can go: what it sends, and what it comes to. Each of
its two calls is retried `n` times at most. -/
inductive Acting (c : Channel) (n : Nat) (operation action : String) :
    List RoundTrip → Except Error Unit → Prop where
  /-- There is no such action. -/
  | invalid (ha : action ∉ knownActions) :
    Acting c n operation action [] (.error (invalidAction action))
  /-- The actions that the operation offers are not known. -/
  | unlisted {asks : List RoundTrip} {e : Error} (ha : action ∈ knownActions)
    (h : Attempts (Tried c (OperationsCall.actions operation).exchange) n asks (.error e)) :
    Acting c n operation action asks
      (.error (e.within ("Could not get actions of operation " ++ operation)))
  /-- The operation does not offer the action. -/
  | impossible {asks : List RoundTrip} {offered : List String} (ha : action ∈ knownActions)
    (h : Attempts (Tried c (OperationsCall.actions operation).exchange) n asks (.ok offered))
    (ho : action ∉ offered) :
    Acting c n operation action asks (.error (impossibleAction operation action))
  /-- The service is asked for the action. -/
  | asked {asks posts : List RoundTrip} {offered : List String} {r : Except Error (Option String)}
    (ha : action ∈ knownActions)
    (h : Attempts (Tried c (OperationsCall.actions operation).exchange) n asks (.ok offered))
    (ho : action ∈ offered)
    (hp : Attempts (Tried c (OperationsCall.executeAction operation action).exchange) n posts r) :
    Acting c n operation action (asks ++ posts) (conclude operation action r)

/-- The wire of the network that a command uses. -/
abbrev wire (console : Console Network) : Wire := console.state.toWire

/-- What a retried call of a client sends when a command makes it. The context of the command is
only added to a failure. -/
theorem ask_within_sends (p : RetryPolicy) (c : OpenClient) (call : OperationsCall α)
    (context : String) :
    ((Console.ask (((OperationsClient.mk (c.once none)).retrying p).service call)).within
      context).Sends wire fun t r => ∃ r', r = r'.mapError (Error.within context) ∧
        Attempts (Tried c.client.channel call.exchange) p.retries t r' :=
  (Console.ask_sends (c.run_tried p call.exchange)).mapError _ fun _ r h => ⟨r, rfl, h⟩

/-- What the command sends once it knows that the operation offers the action. -/
theorem execute_sends (p : RetryPolicy) (c : OpenClient) (operation action : String) :
    ((do
      Console.say ("Executing action " ++ Text.quoted action ++ " on operation " ++ operation ++
        "...")
      let _ ← (Console.ask (((OperationsClient.mk (c.once none)).retrying p).service
        (.executeAction operation action))).within
          ("Could not execute action " ++ Text.quoted action ++ " on operation " ++ operation)
      Console.say "OK" : Call (Console Network) Unit)).Sends wire fun t r =>
        ∃ r', r = conclude operation action r' ∧
          Attempts (Tried c.client.channel (OperationsCall.executeAction operation action).exchange)
            p.retries t r' := by
  have hcall := (ask_within_sends p c (.executeAction operation action)
    ("Could not execute action " ++ Text.quoted action ++ " on operation " ++ operation)).bind
      fun _ => Console.say_sends Network.toWire "OK"
  have hsaid := (Console.say_sends Network.toWire
    ("Executing action " ++ Text.quoted action ++ " on operation " ++ operation ++ "...")).bind
      fun _ => hcall
  refine hsaid.mono ?_
  rintro t r (⟨e, ⟨-, he⟩, -⟩ | ⟨t₁, t₂, -, rfl, ⟨rfl, -⟩, hrest⟩)
  · cases he
  · rcases hrest with ⟨e, ⟨r', he, h⟩, rfl⟩ | ⟨t₁, t₂', location, rfl, ⟨r', he, h⟩, rfl, rfl⟩
    · refine ⟨r', ?_, h⟩
      rw [conclude, ← he]
      rfl
    · refine ⟨r', ?_, by simpa using h⟩
      rw [conclude, ← he]
      rfl

theorem act_sends (p : RetryPolicy) (c : OpenClient) (operation action : String) :
    (act ((OperationsClient.mk (c.once none)).retrying p).service operation action).Sends wire
      (Acting c.client.channel p.retries operation action) := by
  unfold act
  by_cases ha : action ∈ knownActions
  · rw [if_neg (by simpa using ha)]
    refine ((ask_within_sends p c (.actions operation)
      ("Could not get actions of operation " ++ operation)).bind
        (Q := fun offered t r => action ∉ offered ∧ t = [] ∧
          r = .error (impossibleAction operation action) ∨ action ∈ offered ∧
            ∃ r', r = conclude operation action r' ∧ Attempts (Tried c.client.channel
              (OperationsCall.executeAction operation action).exchange) p.retries t r')
        fun offered => ?_).mono ?_
    · by_cases ho : action ∈ offered
      · rw [if_neg (by simpa using ho)]
        exact (execute_sends p c operation action).mono fun _ _ h => .inr ⟨ho, h⟩
      · rw [if_pos (by simpa using ho)]
        exact fun _ => ⟨[], .refl _, .inl ⟨ho, rfl, rfl⟩⟩
    · rintro t r (⟨e, ⟨r', he, h⟩, rfl⟩ | ⟨asks, posts, offered, rfl, ⟨r', he, h⟩, hrest⟩)
      · rcases r' with fault | offered
        · cases he
          exact .unlisted ha h
        · cases he
      · rcases r' with fault | offered'
        · cases he
        · cases he
          rcases hrest with ⟨ho, rfl, rfl⟩ | ⟨ho, r', rfl, hp⟩
          · rw [List.append_nil]
            exact .impossible ha h ho
          · exact .asked ha h ho hp
  · rw [if_pos (by simpa using ha)]
    exact fun _ => ⟨[], .refl _, .invalid ha⟩

/-- What the command sends and comes to. -/
structure ActsOnOffered (c : Channel) (n : Nat) (operation action : String) (t : List RoundTrip)
    (r : Except Error Unit) : Prop where
  /-- For an action that there is not, nothing is sent. -/
  invalid : action ∉ knownActions → t = [] ∧ r = .error (invalidAction action)
  /-- The actions of the operation are asked for, and then perhaps the action itself, at most `n`
  times each. The action is asked for only if the last answer before says that it is possible. -/
  course : ∃ asks posts, t = asks ++ posts ∧
    SameRequests c (OperationsCall.actions operation).exchange.endpoint n asks ∧
    SameRequests c (OperationsCall.executeAction operation action).exchange.endpoint n posts ∧
    (posts ≠ [] → ∃ trip response offered, asks.getLast? = some trip ∧
      trip.outcome = .ok response ∧ isSuccess response.status = true ∧
      (readJson response : Except Error (List String)) = .ok offered ∧ action ∈ offered)
  /-- The command succeeds exactly if the action is acknowledged, and then sends nothing more. -/
  settles : Settles t r

/-- To ask for the possible actions acknowledges nothing. -/
theorem asks_not_acknowledged {c : Channel} {n : Nat} {operation : String} {t : List RoundTrip}
    (h : SameRequests c (OperationsCall.actions operation).exchange.endpoint n t) :
    ∀ trip ∈ t, ¬trip.Acknowledges := by
  rintro trip ht ⟨hm, -⟩
  have hget : trip.request.method = "GET" := (h.request trip ht).method
  rw [hget] at hm
  exact absurd hm (by decide)

theorem settles_conclude {t : List RoundTrip} {r : Except Error (Option String)}
    (h : Settles t r) (operation action : String) : Settles t (conclude operation action r) where
  accepted := by
    intro before trip after ht hk
    obtain ⟨hlast, a, rfl⟩ := h.accepted before trip after ht hk
    exact ⟨hlast, (), rfl⟩
  refused := by
    intro hn
    obtain ⟨e, rfl⟩ := h.refused hn
    exact ⟨_, rfl⟩

theorem Acting.actsOnOffered {c : Channel} {n : Nat} {operation action : String}
    {t : List RoundTrip} {r : Except Error Unit} (h : Acting c n operation action t r) :
    ActsOnOffered c (n + 1) operation action t r := by
  cases h with
  | invalid ha =>
    exact ⟨fun _ => ⟨rfl, rfl⟩, ⟨[], [], rfl, .nil _ _ _, .nil _ _ _, fun h => absurd rfl h⟩,
      .of_none (by simp)⟩
  | unlisted ha h =>
    have hasks := h.sameRequests
    exact ⟨fun hn => absurd ha hn,
      ⟨_, [], (List.append_nil _).symm, hasks, .nil _ _ _, fun h => absurd rfl h⟩,
      .of_none (asks_not_acknowledged hasks)⟩
  | impossible ha h _ =>
    have hasks := h.sameRequests
    exact ⟨fun hn => absurd ha hn,
      ⟨_, [], (List.append_nil _).symm, hasks, .nil _ _ _, fun h => absurd rfl h⟩,
      .of_none (asks_not_acknowledged hasks)⟩
  | asked ha h ho hp =>
    have hasks := h.sameRequests
    obtain ⟨trip, response, hlast, hanswer, hsuccess, hread⟩ := h.answered
    have hposts := hp.settles fun _ _ h =>
      h.delivers.settles (Exchange.location_isCommand (e := ((Endpoint.post _ _).withPair _ _)) rfl)
    exact ⟨fun hn => absurd ha hn,
      ⟨_, _, rfl, hasks, hp.sameRequests,
        fun _ => ⟨trip, response, _, hlast, hanswer, hsuccess, hread, ho⟩⟩,
      (settles_conclude hposts operation action).append_left (asks_not_acknowledged hasks)⟩

/-- **The command acts only on an action that the operation offers.** For every operation, action
and policy, whatever the network is and becomes of the requests: for an unknown action nothing is
sent; otherwise the actions of the operation are asked for, and the action itself only if the last
answer to that was a success and offers it. The acknowledgement of the action is the last thing that
is sent, and the command succeeds exactly if there is one. The requests of each kind are at most one
more than there may be retries, and the same but for their credentials and cookies. -/
theorem acts_only_on_offered_actions (c : OpenClient) (p : RetryPolicy)
    (operation action : String) :
    (act ((OperationsClient.mk (c.once none)).retrying p).service operation action).Sends wire
      (ActsOnOffered c.client.channel p.maxAttempts operation action) :=
  (act_sends p c operation action).mono fun _ _ h => h.actsOnOffered

/-- A service that opens a session while it is not available yet. -/
def sessionBeforeListing : List Response :=
  [{ status := 503, headers := [(setCookie, literalValue "a=1; Path=/")], body := [] },
    { status := 200, headers := [], body := Text.Utf8.encode "[\"abort\"]" },
    { status := 202, headers := [], body := [] }]

/-- The actions are asked for twice, and not with the same request. -/
theorem repeated_listing_has_cookies :
    let c := (OpenClient.toHost "example.com" (spaceBasePath "g")).once none
    let client := (OperationsClient.mk c).retrying ⟨1, 0⟩
    let result := act client.service "1" "abort" ⟨.replaying sessionBeforeListing, []⟩
    result.1.isOk = true ∧
      result.2.state.sent.map (fun request => (request.method, request.headers.getAll cookie)) =
        [("GET", []), ("GET", [literalValue "a=1"]), ("POST", [literalValue "a=1"])] := by
  decide +kernel

end Command

end DeployService
