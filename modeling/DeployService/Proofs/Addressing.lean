import DeployService.Client.Lookup
import DeployService.Client.Operations
import DeployService.Client.Process
import DeployService.Client.Rest
import DeployService.Proofs.Delivery
import DeployService.Proofs.PathSegments

/-!
# What a call addresses

Every call of a service has a place: the segments of the base path and of its path, some of which
are arguments of the client or the call. On a host that has no path of its own, each request of the
call is sent to one URL, and its path consists of exactly these segments, with every argument as it
was given, unless a segment is made of dots or an argument at the joint of the two paths is empty.
-/

namespace DeployService

open DeployService.Http DeployService.Text DeployService.Url

/-! ## The URL of a call -/

/-- The text names a host, perhaps with a scheme and a port, and no path. -/
def IsPlainHost (host : String) : Prop :=
  IsWebScheme (Channel.splitHost host).1 ∧ IsHostText (Channel.splitHost host).2 ∧
    (Url.parse ((Channel.splitHost host).1 ++ "://" ++ (Channel.splitHost host).2 ++
      "/")).isOk = true

instance (host : String) : Decidable (IsPlainHost host) := instDecidableAnd

/-- The call stands at the segments of the base path, of which the first one is not empty, followed
by those of the path. -/
structure Places (c : Channel) (e : Endpoint) (base path : List String) : Prop where
  of_base : (c.encodedBasePath.getD c.basePath).toList = (pathChars base).drop 1
  of_first : ∃ first rest, base = first :: rest ∧ first ≠ ""
  of_path : e.path.toList = pathChars path

namespace Channel

theorem toList_trimWhile (p : Char → Bool) (s : String) :
    (trimWhile p s).toList = (s.toList.dropWhile p).rdropWhile p := by
  simp [trimWhile, trimEndWhile, trimStartWhile, List.rdropWhile]

theorem ne_empty_of_toList {s segment : String} {more : List Char} (h : segment ≠ "")
    (hs : s.toList = segmentChars segment ++ more) : s ≠ "" := by
  rintro rfl
  have hnil := (List.append_eq_nil_iff.mp hs.symm).1
  exact h ((segmentChars_eq_nil_iff segment).mp hnil)

/-- A base path without the slashes at its end. -/
theorem toList_trimBase {s first : String} {rest : List String} (hf : first ≠ "")
    (hs : s.toList = segmentChars first ++ pathChars rest) :
    (trimWhile (· == '/') s).toList =
      segmentChars first ++ pathChars (rest.rdropWhile (· = "")) := by
  have hstart : (segmentChars first ++ pathChars rest).dropWhile (· == '/') =
      segmentChars first ++ pathChars rest :=
    dropWhile_of_head fun d hd => by simpa using head?_segmentChars hf _ d hd
  rw [toList_trimWhile, hs, hstart]
  exact rdropWhile_pathChars (slash_not_mem_segmentChars first) rest

/-- A path without the slashes at its start, behind the slash that joins it to a base path. -/
theorem toList_joined {s : String} {path : List String} (hs : s.toList = pathChars path) :
    ((if trimStartWhile (· == '/') s = "" then "" else "/") ++ trimStartWhile (· == '/') s).toList =
      pathChars (path.dropWhile (· = "")) := by
  have htrim : (trimStartWhile (· == '/') s).toList =
      (pathChars (path.dropWhile (· = ""))).drop 1 := by
    rw [trimStartWhile, String.toList_ofList, hs, dropWhile_pathChars]
  rcases hd : path.dropWhile (· = "") with _ | ⟨next, more⟩
  · rw [hd, pathChars_nil, List.drop_nil] at htrim
    rw [String.toList_eq_nil_iff.mp htrim]
    rfl
  · rw [hd, pathChars_cons, List.drop_one, List.tail_cons] at htrim
    have hnext : next ≠ "" := by
      have hhead := List.head?_dropWhile_not (· = "") path
      rw [hd] at hhead
      simpa using hhead
    rw [if_neg (ne_empty_of_toList hnext htrim), String.toList_append, htrim, pathChars_cons]
    rfl

theorem rawUrl_eq {c : Channel} {e : Endpoint} {base path : List String}
    (h : Places c e base path) :
    c.rawUrl e.path = belowHost c.scheme c.host ((pathChars (kept base path)).drop 1) := by
  obtain ⟨hbase, ⟨first, rest, rfl, hf⟩, hpath⟩ := h
  rw [pathChars_cons, List.drop_one, List.tail_cons] at hbase
  have hb := toList_trimBase hf hbase
  have hjoint := toList_joined hpath
  have hbne := ne_empty_of_toList hf hb
  rw [← String.toList_inj]
  simp only [rawUrl, hbne, false_or, String.toList_append, List.append_assoc] at hjoint ⊢
  rw [hjoint, hb]
  simp [belowHost, kept, rdropWhile_cons_of_ne hf]

/-- The URL of a plain host alone can be read. -/
theorem parse_plainHost {host : String} (hh : IsPlainHost host) :
    ∃ url, Url.parse (belowHost (splitHost host).1 (splitHost host).2 []) = .ok url := by
  have hok := hh.2.2
  rcases hp : Url.parse (belowHost (splitHost host).1 (splitHost host).2 []) with fault | url
  · rw [show (splitHost host).1 ++ "://" ++ (splitHost host).2 ++ "/" =
      belowHost (splitHost host).1 (splitHost host).2 [] from rfl, hp] at hok
    cases hok
  · exact ⟨url, rfl⟩

/-- The URL of a call below a plain host. -/
theorem url_of_places {host : String} (hh : IsPlainHost host) {c : Channel}
    (hs : c.scheme = (splitHost host).1) (hn : c.host = (splitHost host).2) {e : Endpoint}
    {base path : List String} (h : Places c e base path) :
    ∃ url, c.url e = .ok url ∧ segmentTexts url = (resolved [] (kept base path)).map some := by
  obtain ⟨hostUrl, hp⟩ := parse_plainHost hh
  obtain ⟨hweb, htext, -⟩ := hh
  rw [← hs, ← hn] at hp
  rw [← hs] at hweb
  rw [← hn] at htext
  obtain ⟨-, ⟨first, rest, rfl, hf⟩, -⟩ := id h
  have hkept : kept (first :: rest) path =
      first :: (rest.rdropWhile (· = "") ++ path.dropWhile (· = "")) := by
    rw [kept, rdropWhile_cons_of_ne hf, List.cons_append]
  have hplain := pathChars_plain (kept (first :: rest) path)
  have hdrop : IsPlainPath ((pathChars (kept (first :: rest) path)).drop 1) :=
    fun d hd => hplain d (List.mem_of_mem_drop hd)
  have hparse := parse_belowHost hweb htext hp hdrop
  have hchars : '/' :: (pathChars (kept (first :: rest) path)).drop 1 =
      pathChars (kept (first :: rest) path) := by
    rw [hkept, pathChars_cons]
    rfl
  rw [hchars, hkept, readPath_pathChars, ← hkept, ← rawUrl_eq h] at hparse
  refine ⟨_, by rw [Channel.url, hparse], ?_⟩
  exact segmentTexts_encoded (by rw [appendPairs_path])

end Channel

/-! ## The places of the calls -/

/-- The segments of a path below the base path of the configuration service. -/
def RestCall.segments (scope : RestScope) {α : Type} : RestCall α → List String
  | .purgeConfiguration _ _ => ["configuration-entries", "purge"]
  | .operations _ _ => [scope.org, scope.space, "operations"]
  | .components => [scope.org, scope.space, "components"]
  | .mta id => [scope.org, scope.space, "components", id]

/-- The segments of a path below the base path of the operations service or one of its spaces. -/
def OperationsCall.segments {α : Type} : OperationsCall α → List String
  | .executeAction id _ => ["operations", id]
  | .mta id => ["mtas", id]
  | .files _ => ["files"]
  | .operation id _ => ["operations", id]
  | .logs id => ["operations", id, "logs"]
  | .operations _ _ _ => ["operations"]
  | .mtas => ["mtas"]
  | .actions id => ["operations", id, "actions"]
  | .start _ => ["operations"]
  | .logContent id log => ["operations", id, "logs", log, "content"]
  | .info => ["info"]
  | .csrfToken => ["csrf-token"]

/-- The segments of a path below the base path of the lookup service. -/
def LookupCall.segments (own : String) {α : Type} : LookupCall α → List String
  | .mtas _ _ space => ["spaces", space, "mtas"]
  | .mtasHere _ _ => ["spaces", own, "mtas"]

/-- The segments of a path below the base path of a process. -/
def ProcessCall.segments {α : Type} : ProcessCall α → List String
  | .metadata => ["metadata"]
  | .logs => ["logs"]
  | .logContent log => ["logs", log, "content"]
  | .tasks => ["tasklist"]
  | .task id => ["tasklist", id]
  | .failure => ["error"]
  | .executeAction action => ["actions", action]
  | .actions => ["actions"]

/-- The segments of the base path of a space. -/
def spaceSegments (space : String) : List String := ["api", "v1", "spaces", space]

/-- The segments of the base path of a process. -/
def processSegments (org space service process : String) : List String :=
  ["slprot", org, space, "slp", "runs", service, process]

@[simp] theorem toList_encodeArgument (s : String) :
    (encodeArgument s).toList = segmentChars s := by
  simp [encodeArgument, segmentChars]

@[simp] theorem Endpoint.withPair_path (e : Endpoint) (key value : String) :
    (e.withPair key value).path = e.path := rfl

@[simp] theorem Endpoint.withPair?_path (e : Endpoint) (key : String) (value : Option String) :
    (e.withPair? key value).path = e.path := by
  cases value <;> rfl

@[simp] theorem Endpoint.withPairs_path (e : Endpoint) (key : String) (values : List String) :
    (e.withPairs key values).path = e.path := by
  unfold Endpoint.withPairs
  induction values generalizing e with
  | nil => rfl
  | cons value values ih => exact ih (e.withPair key value)

@[simp] theorem Endpoint.withJson_path (e : Endpoint) (value : Json) :
    (e.withJson value).path = e.path := rfl

@[simp] theorem Endpoint.get_path (id path : String) : (Endpoint.get id path).path = path := rfl

@[simp] theorem Endpoint.post_path (id path : String) : (Endpoint.post id path).path = path := rfl

/-- The fixed segments are their own encodings. -/
theorem segmentChars_fixed {word : String}
    (h : word ∈ ["rest", "configuration-entries", "purge", "operations", "components", "api", "v1",
      "v2", "spaces", "mtas", "files", "logs", "actions", "content", "info", "csrf-token", "slprot",
      "slp", "runs", "metadata", "tasklist", "error"]) : segmentChars word = word.toList := by
  revert word
  decide +kernel

theorem RestCall.path_eq (scope : RestScope) {α : Type} (call : RestCall α) :
    (call.exchange scope).endpoint.path.toList = pathChars (call.segments scope) := by
  cases call <;>
    simp [RestCall.exchange, Exchange.json, Exchange.empty, RestScope.path, RestCall.segments,
      segmentChars_fixed]

theorem OperationsCall.path_eq {α : Type} (call : OperationsCall α) :
    call.exchange.endpoint.path.toList = pathChars call.segments := by
  cases call <;>
    simp [OperationsCall.exchange, Exchange.json, Exchange.location, Exchange.text,
      Exchange.header, operationPath, OperationsCall.segments, segmentChars_fixed]

theorem LookupCall.path_eq (own : String) {α : Type} (call : LookupCall α) :
    (call.exchange own).endpoint.path.toList = pathChars (call.segments own) := by
  cases call <;>
    simp [LookupCall.exchange, Exchange.json, lookupEndpoint, LookupCall.segments,
      segmentChars_fixed]

theorem ProcessCall.path_eq {α : Type} (call : ProcessCall α) :
    call.exchange.endpoint.path.toList = pathChars call.segments := by
  cases call <;>
    simp [ProcessCall.exchange, Exchange.json, Exchange.text, Exchange.empty,
      ProcessCall.segments, segmentChars_fixed]

theorem toList_restBasePath : restBasePath.toList = segmentChars "rest" ++ pathChars [] := by
  simp [restBasePath, segmentChars_fixed]

theorem toList_spaceBasePath (space : String) : (spaceBasePath (encodeArgument space)).toList =
    segmentChars "api" ++ pathChars ["v1", "spaces", space] := by
  simp [spaceBasePath, operationsBasePath, segmentChars_fixed]

theorem toList_operationsBasePath :
    operationsBasePath.toList = segmentChars "api" ++ pathChars ["v1"] := by
  simp [operationsBasePath, segmentChars_fixed]

theorem toList_lookupBasePath : lookupBasePath.toList = segmentChars "api" ++ pathChars ["v2"] := by
  simp [lookupBasePath, segmentChars_fixed]

theorem toList_processBasePath (org space service process : String) :
    (processBasePath (encodeArgument org) (encodeArgument space) (encodeArgument service)
      (encodeArgument process)).toList =
      segmentChars "slprot" ++ pathChars [org, space, "slp", "runs", service, process] := by
  simp [processBasePath, segmentChars_fixed]

/-! ## The requests of the calls -/

/-- The requests of a call, made once or under a policy, are sent to one URL. Its path consists of
the segments of the call exactly if none of them is made of dots, and no argument is empty where the
base path and the path of the call meet. -/
def Addressed {α : Type} (c : Channel) (e : Endpoint) (once retried : Call Network α)
    (base path : List String) : Prop :=
  ∃ url, c.url e = .ok url ∧
    (once.Sends Network.toWire fun t _ =>
      ∀ trip ∈ t, trip.request.method = e.method → trip.request.url = url) ∧
    (retried.Sends Network.toWire fun t _ =>
      ∀ trip ∈ t, trip.request.method = e.method → trip.request.url = url) ∧
    (segmentTexts url = (base ++ path).map some ↔
      (∀ s ∈ base ++ path, s ≠ "." ∧ s ≠ "..") ∧ base.getLast? ≠ some "" ∧ path.head? ≠ some "")

/-- The connection over the transport that sends a request as it is. -/
def Connection.wired (c : Connection) (guard : Option Csrf.Guard) : Connection :=
  { c with transport := .wired guard }

theorem Connection.connect_client (c : Connection) (basePath : String) (encoded : Option String)
    (n : Network) :
    (c.connect basePath encoded n).1.client =
      ⟨c.channel basePath encoded, c.transport, c.supply⟩ := by
  unfold Connection.connect
  cases c.jar <;> rfl

theorem Attempts.url_eq {α : Type} {c : Channel} {x : Exchange α} {n : Nat}
    {t : List RoundTrip} {r : Except Error α} (h : Attempts (c.Attempt x) n t r) {url : Url}
    (hu : c.url x.endpoint = .ok url) :
    ∀ trip ∈ t, trip.request.method = x.endpoint.method → trip.request.url = url := by
  have hattempt {t : List RoundTrip} {r : Except Error α} (h : c.Attempt x t r) :
      ∀ trip ∈ t, trip.request.method = x.endpoint.method → trip.request.url = url := by
    intro trip ht hm
    have heq := h.url_eq ht hm
    rw [hu] at heq
    exact (Except.ok.inj heq).symm
  induction h with
  | last h _ => exact hattempt h
  | again h _ _ ih =>
    intro trip ht hm
    rcases List.mem_append.mp ht with ht | ht
    · exact hattempt h trip ht hm
    · exact ih trip ht hm

/-- The requests of a call, made once or under a policy, are sent to the URL of the call. -/
theorem Connection.sends_url {c : Connection} {basePath : String} {encoded : Option String}
    (guard : Option Csrf.Guard) (p : RetryPolicy) (n : Network) {α : Type} {x : Exchange α}
    {url : Url} (hu : (c.channel basePath encoded).url x.endpoint = .ok url) :
    ((((c.wired guard).connect basePath encoded n).1.run x).Sends Network.toWire fun t _ =>
      ∀ trip ∈ t, trip.request.method = x.endpoint.method → trip.request.url = url) ∧
    (((((c.wired guard).connect basePath encoded n).1.retrying p).run x).Sends Network.toWire
      fun t _ => ∀ trip ∈ t, trip.request.method = x.endpoint.method → trip.request.url = url) := by
  have hclient := (c.wired guard).connect_client basePath encoded n
  have hsends (o : OpenClient) (ho : o.client =
      ((c.wired guard).connect basePath encoded n).1.client) :
      (o.run x).Sends Network.toWire fun t _ =>
        ∀ trip ∈ t, trip.request.method = x.endpoint.method → trip.request.url = url := by
    have hchannel : o.client.channel = c.channel basePath encoded := by
      rw [ho, hclient]
      rfl
    refine (o.run_sends guard (by rw [ho, hclient]; rfl) x).mono fun t r h => ?_
    rw [hchannel] at h
    exact h.url_eq hu
  exact ⟨hsends _ rfl, hsends _ rfl⟩

/-- A call that stands at some segments of a connection to a plain host is addressed by them. -/
theorem Connection.addressed {c : Connection} (hh : IsPlainHost c.host) (guard : Option Csrf.Guard)
    (p : RetryPolicy) (n : Network) {basePath : String} {encoded : Option String} {α : Type}
    {x : Exchange α} {first : String} {rest path : List String} (hf : first ≠ "")
    (hb : (encoded.getD basePath).toList = segmentChars first ++ pathChars rest)
    (hp : x.endpoint.path.toList = pathChars path) :
    Addressed (c.channel basePath encoded) x.endpoint
      (((c.wired guard).connect basePath encoded n).1.run x)
      ((((c.wired guard).connect basePath encoded n).1.retrying p).run x) (first :: rest) path := by
  have hplaces : Places (c.channel basePath encoded) x.endpoint (first :: rest) path :=
    { of_base := by simpa [Connection.channel, Channel.of] using hb
      of_first := ⟨first, rest, rfl, hf⟩
      of_path := hp }
  obtain ⟨url, hu, hseg⟩ := Channel.url_of_places hh rfl rfl hplaces
  obtain ⟨honce, hretried⟩ := Connection.sends_url guard p n hu
  refine ⟨url, hu, honce, hretried, ?_⟩
  rw [hseg, List.map_inj_right fun _ _ => Option.some.inj]
  exact resolved_kept_iff (first :: rest) path

/-- **An argument stays one segment.** On a plain host, each call of the four services is addressed
by its own segments and its arguments. -/
theorem calls_addressed {c : Connection} (hh : IsPlainHost c.host) (guard : Option Csrf.Guard)
    (p : RetryPolicy) (n : Network) :
    (∀ (org space : String) {α : Type} (call : RestCall α),
      let client := (RestClient.connect (c.wired guard) org space n).1
      Addressed (c.channel restBasePath none) (call.exchange ⟨org, space⟩).endpoint
        (client.service call) ((client.retrying p).service call)
        ["rest"] (call.segments ⟨org, space⟩)) ∧
    (∀ (space : String) {α : Type} (call : OperationsCall α),
      let client := (OperationsClient.connect (c.wired guard) space n).1
      Addressed (c.channel (spaceBasePath space) (some (spaceBasePath (encodeArgument space))))
        call.exchange.endpoint (client.service call) ((client.retrying p).service call)
        (spaceSegments space) call.segments) ∧
    (∀ {α : Type} (call : OperationsCall α),
      let client := (OperationsClient.connectGeneral (c.wired guard) n).1
      Addressed (c.channel operationsBasePath none) call.exchange.endpoint
        (client.service call) ((client.retrying p).service call) ["api", "v1"] call.segments) ∧
    (∀ (space : String) {α : Type} (call : LookupCall α),
      let client := (LookupClient.connect (c.wired guard) space n).1
      Addressed (c.channel lookupBasePath none) (call.exchange space).endpoint
        (client.service call) ((client.retrying p).service call)
        ["api", "v2"] (call.segments space)) ∧
    (∀ (org space service process : String) {α : Type} (call : ProcessCall α),
      let client := (ProcessClient.connect (c.wired guard) org space service process n).1
      Addressed (c.channel (processBasePath org space service process)
          (some (processBasePath (encodeArgument org) (encodeArgument space)
            (encodeArgument service) (encodeArgument process))))
        call.exchange.endpoint (client.service call) ((client.retrying p).service call)
        (processSegments org space service process) call.segments) := by
  refine ⟨fun org space α call => ?_, fun space α call => ?_, fun call => ?_,
    fun space α call => ?_, fun org space service process α call => ?_⟩
  · exact c.addressed hh guard p n (by decide) toList_restBasePath (call.path_eq ⟨org, space⟩)
  · exact c.addressed hh guard p n (by decide) (toList_spaceBasePath space) call.path_eq
  · exact c.addressed hh guard p n (by decide) toList_operationsBasePath call.path_eq
  · exact c.addressed hh guard p n (by decide) toList_lookupBasePath (call.path_eq space)
  · exact c.addressed hh guard p n (by decide)
      (toList_processBasePath org space service process) call.path_eq

/-- A connection to a host with a fixed token. -/
def Connection.toHost (host : String) : Connection where
  host := host
  userAgent := none
  transport := .direct
  supply := .fixed "token"
  number := 0
  jar := none

theorem isPlainHost_example : IsPlainHost "example.com" := by decide +kernel

/-- A network in which nothing has happened yet, and in which no request is answered. -/
def Network.silent : Network where
  clock := 0
  answers _ := .error (.of (.external .http))
  sent := []
  paused := 0
  csrf _ := none
  tokens _ := { answers := fun _ => .error (.of (.external .http)), asked := 0, kept := none }
  jars _ := .empty
  nextJar := 0

/-- A slash in an argument does not end its segment. -/
theorem application_with_slash_addressed :
    let c := Connection.toHost "example.com"
    let client := (OperationsClient.connect (c.wired none) "dev" .silent).1
    IsPlainHost c.host ∧
      ∃ url, ((client.service (.mta "a/b")).Sends Network.toWire fun t _ =>
          ∀ trip ∈ t, trip.request.method = "GET" → trip.request.url = url) ∧
        segmentTexts url = ["api", "v1", "spaces", "dev", "mtas", "a/b"].map some := by
  obtain ⟨url, -, honce, -, hsegments⟩ :=
    (calls_addressed (c := .toHost "example.com") isPlainHost_example none .standard .silent).2.1
      "dev" (.mta "a/b")
  exact ⟨isPlainHost_example, url, honce, hsegments.mpr (by decide +kernel)⟩

/-- An empty organization is lost where the base path and the path meet, and a space of two dots
takes away the segment before it. -/
theorem arguments_change_the_place :
    (((Connection.toHost "example.com").channel restBasePath none).url
        (RestCall.components.exchange ⟨"", "dev"⟩).endpoint).toOption.map segmentTexts =
      some [some "rest", some "dev", some "components"] ∧
    (((Connection.toHost "example.com").channel (spaceBasePath "..")
        (some (spaceBasePath (encodeArgument "..")))).url
        (OperationsCall.mta "m").exchange.endpoint).toOption.map segmentTexts =
      some [some "api", some "v1", some "mtas", some "m"] := by
  decide +kernel

end DeployService
