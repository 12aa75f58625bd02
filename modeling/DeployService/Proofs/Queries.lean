import DeployService.Proofs.EncodedArguments
import DeployService.Proofs.Joints

/-!
# Queries

The pairs of a query are written in the form encoding. `Url.pairs` reads them back as a server does
that knows this encoding: it cuts the query at each `&` and each piece at its first `=`, takes `+`
for a space, and resolves what is percent-encoded. On a plain host the URL of each call has a query
that is read as the pairs of the call (`queries_readBack`), and the pairs change nothing else.
-/

namespace DeployService.Url

open DeployService.Text

/-! ## Reading a form -/

/-- The text that a key or value of a form denotes. -/
def formText (cs : List Char) : String :=
  Utf8.decodeLossy (percentDecode (cs.map fun c => if c = '+' then ' ' else c))

/-- The key and the value of a piece of a form. Without an equals sign there is no value. -/
def formPair (piece : List Char) : String × String :=
  match cutChars? '=' piece with
  | some (key, value) => (formText key, formText value)
  | none => (formText piece, "")

/-- The pairs of a form. Empty pieces are none. -/
def formPairs (cs : List Char) : List (String × String) :=
  ((splitChars '&' cs).filter (· ≠ [])).map formPair

/-- The pairs of the query of a URL. -/
def pairs (u : Url) : List (String × String) := u.query.elim [] fun q => formPairs q.toList

/-! ## What is written is read back -/

theorem mem_argumentByte_form {b : UInt8} {c : Char} (hc : c ∈ argumentByte b) :
    c ≠ '+' ∧ c ≠ '&' ∧ c ≠ '=' := by
  have hnot : ∀ d, ¬(IsPlainChar d ∨ d = '%') → c ≠ d := fun d hd h => hd (h ▸ mem_argumentByte hc)
  exact ⟨hnot '+' (by decide), hnot '&' (by decide), hnot '=' (by decide)⟩

theorem formByte_form (b : UInt8) : ∀ c ∈ formByte b, c ≠ '&' ∧ c ≠ '=' := by
  intro c hc
  unfold formByte at hc
  split at hc
  · rw [List.mem_singleton.mp hc]
    decide
  · exact (mem_argumentByte_form hc).2

theorem formChars_form {cs : List Char} {c : Char} (h : c ∈ formChars cs) : c ≠ '&' ∧ c ≠ '=' := by
  obtain ⟨b, -, hc⟩ := List.mem_flatMap.mp h
  exact formByte_form b c hc

/-- One byte is read back, and what follows it is left to be read. -/
theorem percentDecode_formByte (b : UInt8) (rest : List Char) :
    percentDecode ((formByte b).map (fun c => if c = '+' then ' ' else c) ++ rest) =
      b :: percentDecode rest := by
  unfold formByte
  split
  · next hb =>
    have hspace : String.utf8EncodeChar ' ' = [0x20] := rfl
    rw [List.map_singleton, if_pos rfl, List.singleton_append, percentDecode_of_ne (by decide),
      hspace, hb]
    rfl
  · have hsame : (argumentByte b).map (fun c => if c = '+' then ' ' else c) = argumentByte b := by
      refine (List.map_congr_left fun c hc => ?_).trans (List.map_id _)
      rw [if_neg (mem_argumentByte_form hc).1]
      rfl
    rw [hsame, percentDecode_argumentByte]

theorem formText_formChars (s : String) : formText (formChars s.toList) = s := by
  have hbytes : ∀ bytes : List UInt8, percentDecode
      ((bytes.flatMap formByte).map fun c => if c = '+' then ' ' else c) = bytes := by
    intro bytes
    induction bytes with
    | nil => rfl
    | cons b bytes ih => rw [List.flatMap_cons, List.map_append, percentDecode_formByte, ih]
  rw [formText, formChars, hbytes]
  exact Utf8.decodeLossy_encode s

/-- The characters of a pair of a query. -/
def pairChars (pair : String × String) : List Char :=
  formChars pair.1.toList ++ '=' :: formChars pair.2.toList

theorem toList_pairText (pair : String × String) : (pairText pair).toList = pairChars pair := by
  simp [pairText, encodeForm, pairChars]

theorem formPair_pairChars (pair : String × String) : formPair (pairChars pair) = pair := by
  have hkey : '=' ∉ formChars pair.1.toList := fun h => (formChars_form h).2 rfl
  rw [formPair, pairChars, cutChars?_append '=' _ hkey]
  simp only [formText_formChars]

theorem not_mem_pairChars (pair : String × String) : '&' ∉ pairChars pair := by
  intro h
  rcases List.mem_append.mp h with h | h
  · exact (formChars_form h).1 rfl
  · rcases List.mem_cons.mp h with h | h
    · cases h
    · exact (formChars_form h).1 rfl

/-- The query that is written for pairs. -/
def queryOf : List (String × String) → Option String
  | [] => none
  | pairs => some ("&".intercalate (pairs.map pairText))

theorem toList_intercalate_pairText (list : List (String × String)) :
    ("&".intercalate (list.map pairText)).toList = List.intercalate ['&'] (list.map pairChars) := by
  have hamp : "&".toList = ['&'] := rfl
  have hpairs : (list.map pairText).map String.toList = list.map pairChars := by
    rw [List.map_map]
    exact List.map_congr_left fun p _ => toList_pairText p
  rw [String.toList_intercalate, hamp, hpairs]

theorem formPairs_intercalate (pair : String × String) (list : List (String × String)) :
    formPairs (List.intercalate ['&'] ((pair :: list).map pairChars)) = pair :: list := by
  have hnot : ∀ piece ∈ (pair :: list).map pairChars, '&' ∉ piece := by
    intro piece hp
    obtain ⟨p, -, rfl⟩ := List.mem_map.mp hp
    exact not_mem_pairChars p
  have hfilter : ((pair :: list).map pairChars).filter (· ≠ []) = (pair :: list).map pairChars := by
    rw [List.filter_eq_self]
    intro piece hp
    obtain ⟨p, -, rfl⟩ := List.mem_map.mp hp
    simp [pairChars]
  have hread : ((pair :: list).map pairChars).map formPair = pair :: list := by
    rw [List.map_map]
    exact (List.map_congr_left fun p _ => formPair_pairChars p).trans (List.map_id _)
  rw [List.map_cons] at hnot hfilter hread ⊢
  rw [formPairs, splitChars_intercalate hnot, hfilter, hread]

/-- **A query is read back.** -/
theorem formPairs_queryOf (list : List (String × String)) :
    (queryOf list).elim [] (fun q => formPairs q.toList) = list := by
  cases list with
  | nil => rfl
  | cons pair list =>
    rw [queryOf, Option.elim_some, toList_intercalate_pairText, formPairs_intercalate]
    simp

theorem appendPairs_of_none {u : Url} (h : u.query = none) (list : List (String × String)) :
    u.appendPairs list = { u with query := queryOf list } := by
  cases list with
  | nil =>
    rw [appendPairs, queryOf, ← h]
  | cons pair list =>
    rw [appendPairs, h]
    · rfl
    · simp

end DeployService.Url

namespace DeployService

open DeployService.Http DeployService.Text DeployService.Url

/-! ## The URL of a call -/

/-- The URL of a call has the pairs of the call in its query and depends on them nowhere else. -/
structure Carries (c : Channel) (e : Endpoint) (url : Url) : Prop where
  url_eq : c.url e = .ok url
  readBack : url.pairs = e.query
  bare : url.query = none ↔ e.query = []
  apart : ∀ list, ∃ other, c.url { e with query := list } = .ok other ∧
    { other with query := url.query } = url

/-- Joining paths adds no character but slashes. -/
theorem mem_joined {base path : String} {ch : Char} (h : ch ∈ (joined base path).toList) :
    ch = '/' ∨ ch ∈ base.toList ∨ ch ∈ path.toList := by
  unfold joined at h
  split at h
  · rw [String.toList_append, List.mem_append] at h
    exact .inr h
  · have hslash : "/".toList = ['/'] := rfl
    simp only [String.toList_append, List.mem_append, hslash, List.mem_singleton] at h
    rcases h with (h | h) | h
    · exact .inr (.inl h)
    · exact .inl h
    · exact .inr (.inr h)

theorem mem_of_mem_trimWhile {p : Char → Bool} {s : String} {ch : Char}
    (h : ch ∈ (trimWhile p s).toList) : ch ∈ s.toList := by
  rw [Channel.toList_trimWhile] at h
  exact (List.dropWhile_suffix p).subset ((List.rdropWhile_prefix p _).subset h)

theorem mem_of_mem_trimStartWhile {p : Char → Bool} {s : String} {ch : Char}
    (h : ch ∈ (trimStartWhile p s).toList) : ch ∈ s.toList := by
  rw [trimStartWhile, String.toList_ofList] at h
  exact (List.dropWhile_suffix p).subset h

/-- On a plain host every call has a URL that carries its pairs, if neither the base path nor the
path of the call announces a query or a fragment. -/
theorem Channel.url_carries {host : String} (hh : IsPlainHost host) {c : Channel}
    (hs : c.scheme = (splitHost host).1) (hn : c.host = (splitHost host).2) {e : Endpoint}
    (hb : ∀ ch ∈ (c.encodedBasePath.getD c.basePath).toList, precedesEnd ch = true)
    (hp : ∀ ch ∈ e.path.toList, precedesEnd ch = true) : ∃ url, Carries c e url := by
  obtain ⟨hostUrl, hparse⟩ := parse_plainHost hh
  obtain ⟨hweb, htext, -⟩ := hh
  generalize htail : (joined (trimWhile (· == '/') (c.encodedBasePath.getD c.basePath))
    (trimStartWhile (· == '/') e.path)).toList = tail
  have hraw : c.rawUrl e.path = belowHost (splitHost host).1 (splitHost host).2 tail := by
    rw [rawUrl_joined, ← hs, ← hn, ← String.toList_inj]
    simp [belowHost, ← htail]
  have hprecedes : ∀ ch ∈ tail, precedesEnd ch = true := by
    intro ch hch
    rw [← htail] at hch
    rcases mem_joined hch with rfl | hch | hch
    · rfl
    · exact hb ch (mem_of_mem_trimWhile hch)
    · exact hp ch (mem_of_mem_trimStartWhile hch)
  have hread := parse_behindHost hweb htext hparse hprecedes
  have hbare := query_of_host hweb htext hprecedes hread
  have hurl : ∀ list, c.url { e with query := list } =
      .ok { hostUrl with
        path := .segments (readPath .special ('/' :: readTail tail)), query := queryOf list } := by
    intro list
    rw [Channel.url_eq_urlOf, hraw, Endpoint.urlOf, hread]
    exact congrArg Except.ok (appendPairs_of_none (u := { hostUrl with
      path := .segments (readPath .special ('/' :: readTail tail)) }) hbare list)
  refine ⟨_, hurl e.query, formPairs_queryOf e.query, ?_, fun list => ⟨_, hurl list, rfl⟩⟩
  cases e.query <;> simp [queryOf]

/-! ## The queries of the calls -/

/-- The pairs of a call of the configuration service. -/
def RestCall.filters {α : Type} : RestCall α → List (String × String)
  | .purgeConfiguration org space => [("org", org), ("space", space)]
  | .operations last states =>
    (last.toList.map fun n => ("last", showNat n)) ++ states.map fun s => ("status", s)
  | .components => []
  | .mta _ => []

/-- The pairs of a call of the operations service. -/
def OperationsCall.filters {α : Type} : OperationsCall α → List (String × String)
  | .executeAction _ action => [("actionId", action)]
  | .files namespaceName => (namespaceName.toList.filter (· ≠ "")).map fun s => ("namespace", s)
  | .operation _ embed => if embed = "" then [] else [("embed", embed)]
  | .operations app last states =>
    (app.toList.map fun s => ("mtaId", s)) ++ (last.toList.map fun n => ("last", showNat n)) ++
      states.map fun s => ("state", s)
  | _ => []

/-- The pairs of a call of the lookup service. -/
def LookupCall.filters {α : Type} : LookupCall α → List (String × String)
  | .mtas name namespaceName _ | .mtasHere name namespaceName =>
    (name.toList.map fun s => ("name", s)) ++ namespaceName.toList.map fun s => ("namespace", s)

@[simp] theorem Endpoint.withPair_query (e : Endpoint) (key value : String) :
    (e.withPair key value).query = e.query ++ [(key, value)] := rfl

@[simp] theorem Endpoint.withPair?_query (e : Endpoint) (key : String) (value : Option String) :
    (e.withPair? key value).query = e.query ++ value.toList.map fun v => (key, v) := by
  cases value with
  | none => simp [Endpoint.withPair?]
  | some value => rfl

@[simp] theorem Endpoint.withPairs_query (e : Endpoint) (key : String) (values : List String) :
    (e.withPairs key values).query = e.query ++ values.map fun v => (key, v) := by
  unfold Endpoint.withPairs
  induction values generalizing e with
  | nil => simp
  | cons value values ih => simp [ih]

@[simp] theorem Endpoint.withJson_query (e : Endpoint) (value : Json) :
    (e.withJson value).query = e.query := rfl

@[simp] theorem Endpoint.get_query (id path : String) : (Endpoint.get id path).query = [] := rfl

@[simp] theorem Endpoint.post_query (id path : String) : (Endpoint.post id path).query = [] := rfl

theorem RestCall.query_eq (scope : RestScope) {α : Type} (call : RestCall α) :
    (call.exchange scope).endpoint.query = call.filters := by
  cases call with
  | operations last states =>
    cases last <;> simp [RestCall.exchange, Exchange.json, RestCall.filters]
  | _ => simp [RestCall.exchange, Exchange.json, Exchange.empty, RestCall.filters]

theorem OperationsCall.query_eq {α : Type} (call : OperationsCall α) :
    call.exchange.endpoint.query = call.filters := by
  cases call with
  | files namespaceName =>
    cases namespaceName with
    | none => simp [OperationsCall.exchange, Exchange.json, OperationsCall.filters]
    | some s =>
      by_cases hs : s = "" <;>
        simp [OperationsCall.exchange, Exchange.json, OperationsCall.filters, Option.filter, hs]
  | operation id embed =>
    by_cases hs : embed = "" <;>
      simp [OperationsCall.exchange, Exchange.json, OperationsCall.filters, Option.filter, hs]
  | operations app last states =>
    cases last <;> simp [OperationsCall.exchange, Exchange.json, OperationsCall.filters]
  | _ =>
    simp [OperationsCall.exchange, Exchange.json, Exchange.location, Exchange.text,
      Exchange.header, OperationsCall.filters]

theorem LookupCall.query_eq (own : String) {α : Type} (call : LookupCall α) :
    (call.exchange own).endpoint.query = call.filters := by
  cases call <;> simp [LookupCall.exchange, Exchange.json, lookupEndpoint, LookupCall.filters]

theorem ProcessCall.query_eq {α : Type} (call : ProcessCall α) :
    call.exchange.endpoint.query = [] := by
  cases call <;> simp [ProcessCall.exchange, Exchange.json, Exchange.text, Exchange.empty]

/-- The requests of a call, made once or under a policy, are sent to a URL that carries pairs. -/
def Queried {α : Type} (c : Channel) (e : Endpoint) (once retried : Call Network α)
    (list : List (String × String)) : Prop :=
  ∃ url, Carries c e url ∧ url.pairs = list ∧
    (once.Sends Network.toWire fun t _ =>
      ∀ trip ∈ t, trip.request.method = e.method → trip.request.url = url) ∧
    (retried.Sends Network.toWire fun t _ =>
      ∀ trip ∈ t, trip.request.method = e.method → trip.request.url = url)

/-- A text that announces neither a query nor a fragment. -/
def IsPathText (s : String) : Prop := '?' ∉ s.toList ∧ '#' ∉ s.toList

theorem IsPathText.precedesEnd {s : String} (h : IsPathText s) :
    ∀ ch ∈ s.toList, Url.precedesEnd ch = true := by
  intro ch hch
  have hq : ch ≠ '?' := fun heq => h.1 (heq ▸ hch)
  have hf : ch ≠ '#' := fun heq => h.2 (heq ▸ hch)
  simp [Url.precedesEnd, hq, hf]

theorem isPathText_of_plain {s : String} (h : IsPlainPath s.toList) : IsPathText s :=
  ⟨fun hmem => absurd (h.precedesEnd _ hmem) (by decide),
    fun hmem => absurd (h.precedesEnd _ hmem) (by decide)⟩

section

variable {c : Connection} (hh : IsPlainHost c.host)

include hh

theorem Connection.carries {basePath : String} {encoded : Option String} {e : Endpoint}
    (hb : IsPathText (encoded.getD basePath)) (hp : IsPathText e.path) :
    ∃ url, Carries (c.channel basePath encoded) e url :=
  Channel.url_carries hh rfl rfl hb.precedesEnd hp.precedesEnd

/-- The requests of a call are sent to a URL that carries its pairs, if the base path and the path
consist of segments. -/
theorem Connection.queried (guard : Option Csrf.Guard) (p : RetryPolicy) (n : Network)
    {basePath : String} {encoded : Option String} {α : Type} {x : Exchange α} {first : String}
    {rest path : List String} {list : List (String × String)}
    (hb : (encoded.getD basePath).toList = segmentChars first ++ pathChars rest)
    (hp : x.endpoint.path.toList = pathChars path) (hq : x.endpoint.query = list) :
    Queried (c.channel basePath encoded) x.endpoint
      (((c.wired guard).connect basePath encoded n).1.run x)
      ((((c.wired guard).connect basePath encoded n).1.retrying p).run x) list := by
  have hbase : IsPathText (encoded.getD basePath) := by
    refine isPathText_of_plain ?_
    intro ch hch
    rw [hb] at hch
    exact pathChars_plain (first :: rest) ch (List.mem_cons_of_mem '/' hch)
  have hpath : IsPathText x.endpoint.path := by
    refine isPathText_of_plain ?_
    rw [hp]
    exact pathChars_plain path
  obtain ⟨url, hcarries⟩ := Connection.carries hh hbase hpath
  obtain ⟨honce, hretried⟩ := Connection.sends_url guard p n hcarries.url_eq
  exact ⟨url, hcarries, hcarries.readBack.trans hq, honce, hretried⟩

/-- **Pairs survive the wire.** On a plain host, the pairs of every call are read back from the
query of its URL in their order, and change nothing else in it. So each call of the four services
is sent with its own pairs. -/
theorem queries_readBack (guard : Option Csrf.Guard) (p : RetryPolicy) (n : Network) :
    (∀ (basePath : String) (encoded : Option String) (e : Endpoint),
      IsPathText (encoded.getD basePath) → IsPathText e.path →
      ∃ url, Carries (c.channel basePath encoded) e url) ∧
    (∀ (org space : String) {α : Type} (call : RestCall α),
      let client := (RestClient.connect (c.wired guard) org space n).1
      Queried (c.channel restBasePath none) (call.exchange ⟨org, space⟩).endpoint
        (client.service call) ((client.retrying p).service call) call.filters) ∧
    (∀ (space : String) {α : Type} (call : OperationsCall α),
      let client := (OperationsClient.connect (c.wired guard) space n).1
      Queried (c.channel (spaceBasePath space) (some (spaceBasePath (encodeArgument space))))
        call.exchange.endpoint (client.service call) ((client.retrying p).service call)
        call.filters) ∧
    (∀ {α : Type} (call : OperationsCall α),
      let client := (OperationsClient.connectGeneral (c.wired guard) n).1
      Queried (c.channel operationsBasePath none) call.exchange.endpoint
        (client.service call) ((client.retrying p).service call) call.filters) ∧
    (∀ (space : String) {α : Type} (call : LookupCall α),
      let client := (LookupClient.connect (c.wired guard) space n).1
      Queried (c.channel lookupBasePath none) (call.exchange space).endpoint
        (client.service call) ((client.retrying p).service call) call.filters) ∧
    (∀ (org space service process : String) {α : Type} (call : ProcessCall α),
      let client := (ProcessClient.connect (c.wired guard) org space service process n).1
      Queried (c.channel (processBasePath org space service process)
          (some (processBasePath (encodeArgument org) (encodeArgument space)
            (encodeArgument service) (encodeArgument process))))
        call.exchange.endpoint (client.service call) ((client.retrying p).service call) []) := by
  refine ⟨fun basePath encoded e hb hp => Connection.carries hh hb hp,
    fun org space α call => ?_, fun space α call => ?_, fun call => ?_,
    fun space α call => ?_, fun org space service process α call => ?_⟩
  · exact Connection.queried hh guard p n toList_restBasePath (call.path_eq ⟨org, space⟩)
      (call.query_eq ⟨org, space⟩)
  · exact Connection.queried hh guard p n (toList_spaceBasePath space) call.path_eq call.query_eq
  · exact Connection.queried hh guard p n toList_operationsBasePath call.path_eq call.query_eq
  · exact Connection.queried hh guard p n toList_lookupBasePath (call.path_eq space)
      (call.query_eq space)
  · exact Connection.queried hh guard p n (toList_processBasePath org space service process)
      call.path_eq call.query_eq

end

/-- Separators in an id and in the states of a call stay inside their pairs. -/
theorem operations_with_separators :
    let client := (OperationsClient.connect ((Connection.toHost "example.com").wired none) "dev"
      .silent).1
    IsPlainHost "example.com" ∧
      ∃ url, ((client.service (.operations (some "a&b=c") (some 2) ["", "ü + %41", ""])).Sends
          Network.toWire fun t _ =>
            ∀ trip ∈ t, trip.request.method = "GET" → trip.request.url = url) ∧
        url.pairs = [("mtaId", "a&b=c"), ("last", "2"), ("state", ""), ("state", "ü + %41"),
          ("state", "")] := by
  have htwo : showNat 2 = "2" := by
    rw [showNat, decimalDigits, if_pos (by decide)]
    rfl
  obtain ⟨url, -, hpairs, honce, -⟩ :=
    (queries_readBack (c := .toHost "example.com") isPlainHost_example none .standard
      .silent).2.2.1 "dev" (.operations (some "a&b=c") (some 2) ["", "ü + %41", ""])
  exact ⟨isPlainHost_example, url, honce, hpairs.trans (by simp [OperationsCall.filters, htwo])⟩

end DeployService
