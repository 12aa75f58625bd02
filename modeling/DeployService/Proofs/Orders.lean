import DeployService.Client.Factory
import DeployService.Proofs.Addressing
import DeployService.Proofs.Repetition
import Mathlib

/-!
# Clients that are handed out

A factory opens a client for the first order of a kind and hands it out for all later ones; only the
clients for processes are opened for each order. So the client for an order is decided by one of the
orders before it or by the order itself, whatever came in between (`Factory.first_order_wins`).

The factory keeps at most one client of each kind. Serving an order fills the place of its own kind,
if that is empty, and no other (`Factory.kept_serve`). After some orders, what is in the place of a
kind is the client for the first of them that was of this kind (`Factory.kept_after`).
-/

namespace DeployService

open DeployService.Url

/-! ## Orders -/

/-- The kinds of clients. -/
inductive ClientKind where
  | rest
  /-- For the operations of a space. -/
  | space
  /-- For the operations service as a whole. -/
  | general
  | lookup
  | process
  deriving DecidableEq, Repr

/-- What a factory is asked for: a client of some kind, over a connection and for a scope. -/
inductive Order where
  | rest (c : Connection) (org space : String)
  | space (c : Connection) (guid : String)
  | general (c : Connection)
  | lookup (c : Connection) (guid : String)
  | process (c : Connection) (org space service process : String)

namespace Order

def kind : Order → ClientKind
  | rest .. => .rest
  | space .. => .space
  | general .. => .general
  | lookup .. => .lookup
  | process .. => .process

def connection : Order → Connection
  | rest c .. => c
  | space c _ => c
  | general c => c
  | lookup c _ => c
  | process c .. => c

/-- The path below which the client makes its calls. -/
def basePath : Order → String
  | rest .. => restBasePath
  | space _ guid => spaceBasePath guid
  | general _ => operationsBasePath
  | lookup .. => lookupBasePath
  | process _ org area service id => processBasePath org area service id

/-- The base path as it is written in URLs, if that is another one. -/
def encodedBasePath : Order → Option String
  | rest .. => none
  | space _ guid => some (spaceBasePath (encodeArgument guid))
  | general _ => none
  | lookup .. => none
  | process _ org area service id =>
    some (processBasePath (encodeArgument org) (encodeArgument area) (encodeArgument service)
      (encodeArgument id))

/-- What the client itself adds to its calls or knows about them. -/
def scope : Order → List String
  | rest _ org area => [org, area]
  | space .. => []
  | general _ => []
  | lookup _ guid => [guid]
  | process _ _ _ service _ => [service]

end Order

/-- A client of some kind. -/
inductive HandedOut where
  | rest (client : RestClient)
  | operations (client : OperationsClient)
  | lookup (client : LookupClient)
  | process (client : ProcessClient)

namespace HandedOut

/-- The client in its network. -/
def opened : HandedOut → OpenClient
  | rest client => client.opened
  | operations client => client.opened
  | lookup client => client.opened
  | process client => client.opened

/-- What the client itself adds to its calls or knows about them. -/
def scope : HandedOut → List String
  | rest client => [client.scope.org, client.scope.space]
  | operations _ => []
  | lookup client => [client.space]
  | process client => [client.serviceId]

end HandedOut

/-- A new client for an order alone, whose calls are retried under the standard policy. -/
def Order.openClient : Order → Network → HandedOut × Network
  | rest c org area, n =>
    let (client, n) := RestClient.connect c org area n
    (.rest (client.retrying .standard), n)
  | space c guid, n =>
    let (client, n) := OperationsClient.connect c guid n
    (.operations (client.retrying .standard), n)
  | general c, n =>
    let (client, n) := OperationsClient.connectGeneral c n
    (.operations (client.retrying .standard), n)
  | lookup c guid, n =>
    let (client, n) := LookupClient.connect c guid n
    (.lookup (client.retrying .standard), n)
  | process c org area service id, n =>
    let (client, n) := ProcessClient.connect c org area service id n
    (.process (client.retrying .standard), n)

namespace Factory

/-- Serves an order. -/
def serve (f : Factory) : Order → Network → HandedOut × Factory × Network
  | .rest c org space, n =>
    let (client, f, n) := f.restClient c org space n
    (.rest client, f, n)
  | .space c guid, n =>
    let (client, f, n) := f.spaceClient c guid n
    (.operations client, f, n)
  | .general c, n =>
    let (client, f, n) := f.generalClient c n
    (.operations client, f, n)
  | .lookup c guid, n =>
    let (client, f, n) := f.lookupClient c guid n
    (.lookup client, f, n)
  | .process c org space service process, n =>
    let (client, f, n) := f.processClient c org space service process n
    (.process client, f, n)

/-- The client of a kind that the factory keeps. -/
def kept (f : Factory) : ClientKind → Option HandedOut
  | .rest => f.rest.map .rest
  | .space => f.space.map .operations
  | .general => f.general.map .operations
  | .lookup => f.lookup.map .lookup
  | .process => none

/-- An order is served with the kept client of its kind, or else with a new one. -/
theorem serve_eq (f : Factory) (o : Order) (n : Network) :
    ((f.serve o n).1, (f.serve o n).2.2) = reuse (f.kept o.kind) o.openClient n := by
  cases o with
  | rest => cases h : f.rest <;> simp [serve, restClient, reuse, kept, Order.kind, h]; rfl
  | space => cases h : f.space <;> simp [serve, spaceClient, reuse, kept, Order.kind, h]; rfl
  | general =>
    cases h : f.general <;> simp [serve, generalClient, reuse, kept, Order.kind, h]; rfl
  | lookup => cases h : f.lookup <;> simp [serve, lookupClient, reuse, kept, Order.kind, h]; rfl
  | process => rfl

/-- The client that serves an order is kept in the place of its kind, and no other place changes. A
client for a process is not kept. -/
theorem kept_serve (f : Factory) (o : Order) (n : Network) (k : ClientKind) :
    (f.serve o n).2.1.kept k =
      if k = o.kind ∧ k ≠ .process then some (f.serve o n).1 else f.kept k := by
  cases o <;> cases k <;> rfl

end Factory

/-! ## New clients -/

theorem Order.openClient_opened (o : Order) (n : Network) :
    (o.openClient n).1.opened =
      (o.connection.connect o.basePath o.encodedBasePath n).1.retrying .standard := by
  cases o <;> rfl

theorem Order.openClient_network (o : Order) (n : Network) :
    (o.openClient n).2 = (o.connection.connect o.basePath o.encodedBasePath n).2 := by
  cases o <;> rfl

theorem OpenClient.run_retried (c : OpenClient) (p : RetryPolicy) {α : Type} (x : Exchange α) :
    (c.retrying p).run x =
      p.call Network.pause (Call.on (Network.session c) (Network.update c) (c.client.run x)) :=
  (p.call_on (Network.session_update c) (Network.update_update c) (fun _ _ _ => rfl)
    (c.client.run x)).symm

theorem Connection.connect_jar (c : Connection) (basePath : String) (encoded : Option String)
    (n : Network) : (c.connect basePath encoded n).1.jar = c.jar.getD n.nextJar := by
  unfold connect
  cases c.jar <;> rfl

theorem Connection.connect_connection (c : Connection) (basePath : String)
    (encoded : Option String) (n : Network) :
    (c.connect basePath encoded n).1.connection = c.number := by
  unfold connect
  cases c.jar <;> rfl

/-- To open a client changes nothing for the clients that there are. -/
theorem Connection.connect_session (c : Connection) (basePath : String) (encoded : Option String)
    {n : Network} {o : OpenClient} (h : o.jar < n.nextJar) :
    Network.session o (c.connect basePath encoded n).2 = Network.session o n := by
  unfold connect
  cases c.jar with
  | some => rfl
  | none => simp [Network.session, updateAt, h.ne]

/-- The client makes its calls as an order in the network `n` asks for: over the channel to the base
path of the order and over its connection, with the cookie jar of the connection or else a new one,
and for its scope; and it retries them under the standard policy. -/
structure HandedOut.BoundTo (client : HandedOut) (o : Order) (n : Network) : Prop where
  scope : client.scope = o.scope
  connection : client.opened.connection = o.connection.number
  jar : client.opened.jar = o.connection.jar.getD n.nextJar
  calls : ∀ {α : Type} (x : Exchange α), client.opened.run x =
    RetryPolicy.standard.call Network.pause
      (Call.on (Network.session client.opened) (Network.update client.opened)
        (Client.run ⟨o.connection.channel o.basePath o.encodedBasePath, o.connection.transport,
          o.connection.supply⟩ x))

theorem Order.openClient_boundTo (o : Order) (n : Network) :
    (o.openClient n).1.BoundTo o n := by
  have hopened := o.openClient_opened n
  have hclient := o.connection.connect_client o.basePath o.encodedBasePath n
  constructor
  · cases o <;> rfl
  · rw [hopened]
    exact o.connection.connect_connection _ _ n
  · rw [hopened]
    exact o.connection.connect_jar _ _ n
  · intro α x
    rw [hopened, OpenClient.run_retried, hclient]
    rfl

/-! ## Runs of orders -/

/-- An order, and the network in which it comes. -/
structure Visit where
  order : Order
  network : Network

namespace Factory

/-- The factory after some orders, whatever has happened to the network in between. -/
def after (past : List Visit) : Factory :=
  past.foldl (fun f v => (f.serve v.order v.network).2.1) .empty

end Factory

namespace Visit

/-- The client that is opened for the order alone. -/
def alone (v : Visit) : HandedOut := (v.order.openClient v.network).1

/-- The client that is handed out after some orders. -/
def client (past : List Visit) (v : Visit) : HandedOut :=
  ((Factory.after past).serve v.order v.network).1

end Visit

namespace Factory

theorem kept_empty (k : ClientKind) : empty.kept k = none := by
  cases k <;> rfl

theorem client_eq (past : List Visit) (v : Visit) :
    v.client past = ((after past).kept v.order.kind).getD v.alone := by
  have hserve := congrArg Prod.fst ((after past).serve_eq v.order v.network)
  refine hserve.trans ?_
  cases (after past).kept v.order.kind <;> rfl

/-- After some orders, the client of each kind is the one for the first of them. -/
theorem kept_after (past : List Visit) {k : ClientKind} (hk : k ≠ .process) :
    (after past).kept k = (past.find? (·.order.kind = k)).map Visit.alone := by
  induction past using List.reverseRecOn with
  | nil => exact kept_empty k
  | append_singleton past v ih =>
    have hstep := (after past).kept_serve v.order v.network k
    have hafter : after (past ++ [v]) = ((after past).serve v.order v.network).2.1 := by
      rw [after, List.foldl_append]
      rfl
    rw [hafter, hstep, List.find?_append]
    by_cases hkind : k = v.order.kind
    · subst hkind
      have hclient : ((after past).serve v.order v.network).1 = _ := client_eq past v
      rw [if_pos ⟨rfl, hk⟩, hclient, ih]
      cases past.find? (·.order.kind = v.order.kind) <;> simp
    · rw [if_neg fun h => hkind h.1, ih]
      simp [Ne.symm hkind]

/-- A client for a process is opened for the order itself. -/
theorem client_process (past : List Visit) {v : Visit} (hk : v.order.kind = .process) :
    v.client past = v.alone := by
  rw [client_eq, hk]
  rfl

/-- Any other client is the one for the first order of its kind, which may be the order itself. -/
theorem client_of_find? {past : List Visit} {v u : Visit} (hk : v.order.kind ≠ .process)
    (hu : (past ++ [v]).find? (·.order.kind = v.order.kind) = some u) :
    v.client past = u.alone := by
  rw [client_eq, kept_after past hk]
  rw [List.find?_append] at hu
  cases hfind : past.find? (·.order.kind = v.order.kind) with
  | none =>
    rw [hfind, Option.none_or] at hu
    obtain rfl : v = u := by simpa using hu
    rfl
  | some w =>
    rw [hfind, Option.some_or] at hu
    cases hu
    rfl

theorem client_congr {past past' : List Visit} {v : Visit}
    (hsame : past'.filter (·.order.kind = v.order.kind) =
      past.filter (·.order.kind = v.order.kind)) : v.client past' = v.client past := by
  by_cases hk : v.order.kind = .process
  · rw [client_process past hk, client_process past' hk]
  · rw [client_eq, client_eq, kept_after past hk, kept_after past' hk, ← List.head?_filter,
      ← List.head?_filter, hsame]

/-- To serve an order changes nothing for the clients that there are. -/
theorem serve_session (f : Factory) (o : Order) {n : Network} {opened : OpenClient}
    (h : opened.jar < n.nextJar) :
    Network.session opened (f.serve o n).2.2 = Network.session opened n := by
  have hserve := congrArg Prod.snd (f.serve_eq o n)
  refine (congrArg (Network.session opened) hserve).trans ?_
  unfold reuse
  cases f.kept o.kind with
  | some => rfl
  | none =>
    show Network.session opened (o.openClient n).2 = _
    rw [o.openClient_network]
    exact o.connection.connect_session _ _ h

/-- The client that is handed out for an order after some others. -/
structure FirstWins (past : List Visit) (v : Visit) : Prop where
  /-- It is the client for the first order of its kind. -/
  first : v.order.kind ≠ .process → ∃ before u later, past ++ [v] = before ++ u :: later ∧
    u.order.kind = v.order.kind ∧ (∀ w ∈ before, w.order.kind ≠ v.order.kind) ∧
    v.client past = u.alone ∧ (v.client past).BoundTo u.order u.network
  /-- A client for a process is the one for this order. -/
  own : v.order.kind = .process →
    v.client past = v.alone ∧ (v.client past).BoundTo v.order v.network
  /-- Only the orders of its kind have an influence on it. -/
  others : ∀ past', past'.filter (·.order.kind = v.order.kind) =
    past.filter (·.order.kind = v.order.kind) → v.client past' = v.client past
  /-- To hand it out changes nothing for the clients that there are. -/
  undisturbed : ∀ o : OpenClient, o.jar < v.network.nextJar →
    Network.session o ((after past).serve v.order v.network).2.2 = Network.session o v.network

/-- **The first order of a kind wins.** For every run of orders, over whatever connections and with
whatever arguments, and whatever happens to the network in between: each client but those for
processes is the one for the first order of its kind, with its connection and scope; orders of other
kinds have no influence on it; a client for a process is the one for its own order. All of them
retry their calls under the standard policy. -/
theorem first_order_wins (past : List Visit) (v : Visit) : FirstWins past v where
  first hk := by
    have hsome : ((past ++ [v]).find? (·.order.kind = v.order.kind)).isSome := by
      simp
    obtain ⟨u, hu⟩ := Option.isSome_iff_exists.mp hsome
    obtain ⟨hkind, before, later, hsplit, hbefore⟩ := List.find?_eq_some_iff_append.mp hu
    have hclient := client_of_find? hk hu
    refine ⟨before, u, later, hsplit, by simpa using hkind, by simpa using hbefore, hclient, ?_⟩
    rw [hclient]
    exact u.order.openClient_boundTo u.network
  own hk := by
    rw [client_process past hk]
    exact ⟨rfl, v.order.openClient_boundTo v.network⟩
  others _ := client_congr
  undisturbed _ := (after past).serve_session v.order

example (c c' : Connection) (n : Network) :
    let past : List Visit := [⟨.lookup c "first", n⟩, ⟨.space c "second", n⟩, ⟨.general c', n⟩]
    (Visit.client past ⟨.space c' "third", n⟩).opened.client.channel.basePath =
      "api/v1/spaces/second" := by
  obtain ⟨_, _, _, _, _, jar⟩ := c
  cases jar <;> rfl

end Factory

end DeployService
