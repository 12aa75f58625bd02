import DeployService.Proofs.Authority
import DeployService.Proofs.JsonLexemes
import DeployService.Proofs.Provenance
import DeployService.Proofs.Splitting
import DeployService.Proofs.StoredCookies

/-!
# How a token is asked for

All that a guarded transport sends for a request that changes something (`Protocol`): what a request
for a token looks like (`IsFetch`), when there is a second one and with which cookies (`Asked`), and
what the request itself looks like in the end. Nothing else is sent, and nothing else is taken from
the answers than their `Set-Cookie` headers, the token and the name of its header.

A request for a token is about a URL on the web (`Url.IsWeb`). Such a URL has a path of segments, so
that the path of the tokens can take its place.
-/

namespace DeployService

open DeployService.Http DeployService.Text

namespace Url

/-! ## URLs on the web -/

/-- The URL has one of the two schemes of the web, and a path that consists of segments. -/
structure IsWeb (u : Url) : Prop where
  scheme : IsWebScheme u.scheme
  path : ∃ segments, u.path = .segments segments

/-- The path of a web URL that is read consists of segments. -/
theorem isWeb_of_parse {s : String} {u : Url} (h : parse s = .ok u) (hs : IsWebScheme u.scheme) :
    u.IsWeb := by
  obtain ⟨scheme, rest, authority, -, hread, hserver⟩ := parse_ok h
  have hscheme : u.scheme = String.ofList scheme := congrArg Server.scheme hserver
  have hkind : Kind.ofScheme (String.ofList scheme) = .special := by
    rw [← hscheme]
    exact kind_of_web hs
  refine ⟨hs, ?_⟩
  simp only [readHierarchy, hkind, bind, Except.bind, pure, Except.pure] at hread
  split at hread
  · cases hread
  · obtain ⟨-, hpath⟩ := Prod.mk.inj (Except.ok.inj hread)
    exact ⟨_, hpath.symm⟩

theorem IsWeb.appendPairs {u : Url} (h : u.IsWeb) (pairs : List (String × String)) :
    (u.appendPairs pairs).IsWeb := by
  have hpath : (u.appendPairs pairs).path = u.path := by
    unfold Url.appendPairs
    split
    · rfl
    · split <;> rfl
  have hscheme : (u.appendPairs pairs).scheme = u.scheme :=
    congrArg Server.scheme (u.appendPairs_server pairs)
  exact ⟨hscheme ▸ h.scheme, hpath ▸ h.path⟩

/-- The URL of a call is on the web if its scheme is. -/
theorem isWeb_of_channel {c : Channel} {e : Endpoint} {u : Url} (h : c.url e = .ok u)
    (hs : IsWebScheme u.scheme) : u.IsWeb := by
  unfold Channel.url at h
  simp only at h
  split at h
  · next base hparse =>
    obtain rfl := Except.ok.inj h
    have hscheme : (base.appendPairs e.query).scheme = base.scheme :=
      congrArg Server.scheme (base.appendPairs_server e.query)
    rw [hscheme] at hs
    exact (isWeb_of_parse hparse hs).appendPairs e.query
  · cases h

theorem IsWeb.atPath_path {u : Url} (h : u.IsWeb) (segments : List String) :
    (u.atPath segments).path = .segments segments := by
  obtain ⟨list, hlist⟩ := h.path
  simp [atPath, hlist]

end Url

/-! ## Texts in headers -/

namespace Http

/-- The character can stand in a header value that counts as text. -/
def IsTextChar (c : Char) : Prop := c.toNat = 0x09 ∨ 0x20 ≤ c.toNat ∧ c.toNat < 0x7F

theorem isTextByte_iff {b : UInt8} :
    isTextByte b = true ↔ b.toNat = 0x09 ∨ 0x20 ≤ b.toNat ∧ b.toNat < 0x7F := by
  simp only [isTextByte, Bool.or_eq_true, Bool.and_eq_true, decide_eq_true_eq, beq_iff_eq,
    ← UInt8.toNat_inj]
  rfl

theorem isValueByte_of_isTextByte {b : UInt8} (h : isTextByte b = true) :
    isValueByte b = true := by
  rcases isTextByte_iff.mp h with hb | hb
  · simp [isValueByte, ← UInt8.toNat_inj, hb]
  · have hne : b ≠ 0x7F := by
      rintro rfl
      exact absurd hb.2 (by decide)
    simp [isValueByte, hb.1, hne]

theorem isTextChar_of_headerText? {value : HeaderValue} {s : String}
    (h : headerText? value = some s) : ∀ c ∈ s.toList, IsTextChar c := by
  unfold headerText? at h
  split at h
  · next hall =>
    obtain rfl := Option.some.inj h
    intro c hc
    rw [String.toList_ofList] at hc
    obtain ⟨b, hb, rfl⟩ := List.mem_map.mp hc
    have htext := isTextByte_iff.mp (List.all_eq_true.mp hall b hb)
    have hchar : (Char.ofNat b.toNat).toNat = b.toNat := by
      rw [Char.ofNat, dif_pos (.inl (by omega))]
      rfl
    unfold IsTextChar
    rwa [hchar]
  · cases h

/-- A text of such characters is a header value. -/
theorem headerValue?_of_text {s : String} (h : ∀ c ∈ s.toList, IsTextChar c) :
    headerValue? s = some (literalValue s) := by
  have hbytes : (Utf8.encode s).all isValueByte = true := by
    rw [List.all_eq_true]
    intro b hb
    obtain ⟨c, hc, hbc⟩ := List.mem_flatMap.mp hb
    have htext := h c hc
    unfold IsTextChar at htext
    rw [Utf8.encodeChar_ascii (by omega), List.mem_singleton] at hbc
    refine isValueByte_of_isTextByte (isTextByte_iff.mpr ?_)
    rwa [hbc, Utf8.toNat_ofNat (by omega)]
  rw [headerValue?, if_pos hbytes]
  rfl

/-- What is cut off from a text and trimmed consists of characters of the text. -/
theorem mem_of_mem_trim_before {sep c : Char} {s : String} (h : c ∈ (trim (before sep s)).toList) :
    c ∈ s.toList := by
  simp only [trim, before, String.toList_ofList, trimChars, trimEnd, trimStart,
    List.mem_reverse] at h
  have hend := List.mem_reverse.mp (List.dropWhile_subset _ h)
  exact List.takeWhile_subset _ (List.dropWhile_subset _ hend)

namespace Headers

/-- A header that is not there yet is added at the end. -/
theorem insertSome_of_fresh {name : String} {headers : Headers}
    (h : ∀ field ∈ headers, field.1 ≠ name) (value : Option HeaderValue) :
    headers.insertSome name value = headers ++ value.toList.map (name, ·) := by
  cases value with
  | none => simp [insertSome]
  | some value =>
    have hfilter : headers.filter (·.1 ≠ name) = headers := by simpa using h
    simp only [insertSome, insert, hfilter]
    rfl

end Headers

end Http

namespace Csrf

/-! ## The cookies of a session -/

theorem isTextChar_cookiePairs {values : List HeaderValue} {pair : String}
    (h : pair ∈ cookiePairs values) : ∀ c ∈ pair.toList, IsTextChar c := by
  obtain ⟨hmem, -⟩ := List.mem_filter.mp h
  obtain ⟨text, htext, rfl⟩ := List.mem_map.mp hmem
  obtain ⟨value, -, hvalue⟩ := List.mem_filterMap.mp htext
  exact fun c hc => isTextChar_of_headerText? hvalue c (mem_of_mem_trim_before hc)

/-- The joined pairs of cookies are always a header value. -/
theorem headerValue?_cookiePairs (values : List HeaderValue) :
    headerValue? ("; ".intercalate (cookiePairs values)) =
      some (literalValue ("; ".intercalate (cookiePairs values))) := by
  have hsep : ∀ c ∈ "; ".toList, IsTextChar c := by simp [IsTextChar]
  refine headerValue?_of_text ?_
  rw [String.toList_intercalate]
  refine forall_mem_intercalate hsep ?_
  intro piece hp
  obtain ⟨pair, hpair, rfl⟩ := List.mem_map.mp hp
  exact isTextChar_cookiePairs hpair

/-- The jar after an answer to a request for a token. -/
def taken (guard : Guard) (s : Session) (url : Url) (answer : Response) : Jar :=
  if guard.usesJar then s.jar.store s.clock url (answer.headers.getAll setCookie) else s.jar

/-- The cookies that the second request for a token is sent with, if the first answer gives rise to
one. -/
def sessionHeader? (guard : Guard) (s : Session) (url : Url) (answer : Response) :
    Option HeaderValue :=
  let values := answer.headers.getAll setCookie
  if values = [] then none
  else if guard.usesJar then (taken guard s url answer).header? s.clock url
  else if cookiePairs values = [] then none
  else some (literalValue ("; ".intercalate (cookiePairs values)))

theorem captured_eq (guard : Guard) (s : Session) (request : Request) (url : Url)
    (answer : Response) :
    captured guard url answer (s.sending request) = sessionHeader? guard s url answer := by
  unfold captured sessionHeader? taken
  rcases hv : answer.headers.getAll setCookie with _ | ⟨value, values⟩
  · simp
  · cases hj : guard.usesJar with
    | true =>
      simp only [hv, Session.cookies?, Session.storeCookies, if_true, reduceCtorEq, if_false]
      rfl
    | false =>
      rcases hp : cookiePairs (value :: values) with _ | ⟨pair, pairs⟩
      · simp [hp]
      · have hvalue := headerValue?_cookiePairs (value :: values)
        rw [hp] at hvalue
        simp [hp, hvalue]

theorem jar_opened (guard : Guard) (s : Session) (request : Request) (url : Url)
    (answer : Response) :
    (opened guard url answer (s.sending request)).jar = taken guard s url answer := by
  unfold opened taken
  split <;> rfl

/-! ## A request for a token -/

/-- The headers of a request for a token with the given cookies, on behalf of another request. -/
def fetchHeaders (request : Request) (cookies : Option HeaderValue) : Headers :=
  [(tokenHeader, literalValue fetchValue), (contentType, literalValue "application/json")] ++
    (request.headers.get? authorization).toList.map (authorization, ·) ++
    (request.headers.get? userAgent).toList.map (userAgent, ·) ++
    cookies.toList.map (cookie, ·)

/-- The request asks for a token on behalf of another request. -/
structure IsFetch (request : Request) (cookies : Option HeaderValue) (fetch : Request) :
    Prop where
  method : fetch.method = "GET"
  /-- The token is asked for at the same server, and as the same user. -/
  server : fetch.url.server = request.url.server
  path : fetch.url.path.text = "/api/v1/csrf-token"
  query : fetch.url.query = none
  fragment : fetch.url.fragment = none
  /-- There are no other headers than these. -/
  headers : fetch.headers = fetchHeaders request cookies
  body : fetch.body = .none

theorem copied_fresh {name other : String} (h : name ≠ other) (value : Option HeaderValue) :
    ∀ field ∈ value.toList.map (name, ·), field.1 ≠ other := by
  intro field hf
  obtain ⟨v, -, rfl⟩ := List.mem_map.mp hf
  exact h

theorem fetchHeaders_eq (request : Request) (cookies : Option HeaderValue) :
    fetchHeaders request cookies =
      fetchHeaders request none ++ cookies.toList.map (cookie, ·) := by
  simp [fetchHeaders]

theorem fetchHeaders_fresh (request : Request) :
    ∀ field ∈ fetchHeaders request none, field.1 ≠ cookie := by
  unfold fetchHeaders
  simp only [List.forall_mem_append]
  have hcredential := copied_fresh (show authorization ≠ cookie by decide)
    (request.headers.get? authorization)
  have hagent := copied_fresh (show userAgent ≠ cookie by decide) (request.headers.get? userAgent)
  exact ⟨⟨⟨by decide, hcredential⟩, hagent⟩, by simp⟩

theorem fetchRequest_headers (request : Request) :
    (fetchRequest request).headers = fetchHeaders request (request.headers.get? cookie) := by
  have hfixed : ∀ field ∈ ([(tokenHeader, literalValue fetchValue),
      (contentType, literalValue "application/json")] : Headers),
      field.1 ≠ authorization ∧ field.1 ≠ userAgent := by
    decide
  have hagent : ∀ field ∈ ([(tokenHeader, literalValue fetchValue),
      (contentType, literalValue "application/json")] : Headers) ++
        (request.headers.get? authorization).toList.map (authorization, ·),
      field.1 ≠ userAgent :=
    List.forall_mem_append.mpr ⟨fun field h => (hfixed field h).2, copied_fresh (by decide) _⟩
  have hcookie : (fetchHeaders request none).insertSome cookie (request.headers.get? cookie) =
      fetchHeaders request (request.headers.get? cookie) := by
    rw [Headers.insertSome_of_fresh (fetchHeaders_fresh request), ← fetchHeaders_eq]
  rw [← hcookie]
  show ((Headers.insertSome authorization _ _).insertSome userAgent _).insertSome cookie _ = _
  rw [Headers.insertSome_of_fresh fun field h => (hfixed field h).1,
    Headers.insertSome_of_fresh hagent]
  simp [fetchHeaders]

theorem fetchAgain_headers (request : Request) (cookies : HeaderValue) :
    (fetchAgain request cookies).headers = fetchHeaders request (some cookies) := by
  have hfilter : (fetchHeaders request (request.headers.get? cookie)).filter (·.1 ≠ cookie) =
      fetchHeaders request none := by
    rw [fetchHeaders_eq, List.filter_append]
    have hkept : (fetchHeaders request none).filter (·.1 ≠ cookie) = fetchHeaders request none := by
      simpa using fetchHeaders_fresh request
    have hdropped : ((request.headers.get? cookie).toList.map (cookie, ·)).filter
        (·.1 ≠ cookie) = [] := by
      simp
    rw [hkept, hdropped, List.append_nil]
  show (fetchRequest request).headers.insert cookie cookies = _
  rw [fetchRequest_headers, Headers.insert, hfilter, fetchHeaders_eq request (some cookies)]
  rfl

variable {request : Request}

theorem isFetch_of_headers (hu : request.url.IsWeb) {fetch : Request}
    {cookies : Option HeaderValue} (hm : fetch.method = "GET")
    (hurl : fetch.url = request.url.atPath tokenPath)
    (hh : fetch.headers = fetchHeaders request cookies) (hb : fetch.body = .none) :
    IsFetch request cookies fetch where
  method := hm
  server := by
    rw [hurl]
    rfl
  path := by
    rw [hurl, hu.atPath_path]
    decide
  query := by
    rw [hurl]
    rfl
  fragment := by
    rw [hurl]
    rfl
  headers := hh
  body := hb

theorem fetchRequest_isFetch (hu : request.url.IsWeb) :
    IsFetch request (request.headers.get? cookie) (fetchRequest request) :=
  isFetch_of_headers hu rfl rfl (fetchRequest_headers request) rfl

theorem fetchAgain_isFetch (hu : request.url.IsWeb) (cookies : HeaderValue) :
    IsFetch request (some cookies) (fetchAgain request cookies) :=
  isFetch_of_headers hu rfl rfl (fetchAgain_headers request cookies) rfl

/-! ## Asking for a token -/

/-- What is sent in the session `s` to get a token for a request, the cookies of the session in
which it is then asked for again, and the jar after that. -/
inductive Asked (guard : Guard) (s : Session) (request : Request) :
    List RoundTrip → Option HeaderValue → Jar → Prop where
  /-- There is no answer. -/
  | unanswered {first : Request} {e : Error}
    (h : IsFetch request (request.headers.get? cookie) first) :
    Asked guard s request [⟨first, .error e⟩] none s.jar
  /-- The answer opens no session. -/
  | once {first : Request} {answer : Response}
    (h : IsFetch request (request.headers.get? cookie) first)
    (hc : sessionHeader? guard s first.url answer = none) :
    Asked guard s request [⟨first, .ok answer⟩] none (taken guard s first.url answer)
  /-- The answer opens a session. Its cookies take the place of those of the request. -/
  | twice {first again : Request} {answer : Response} {cookies : HeaderValue}
    {outcome : Except Error Response}
    (h : IsFetch request (request.headers.get? cookie) first)
    (hc : sessionHeader? guard s first.url answer = some cookies)
    (h' : IsFetch request (some cookies) again) :
    Asked guard s request [⟨first, .ok answer⟩, ⟨again, outcome⟩] (some cookies)
      (taken guard s first.url answer)

/-- The header in which the token of an answer is expected: the one that the answer names, if that
is the name of a header. -/
def announced (answer : Response) : String :=
  ((answer.headers.text? nameHeader).bind fun s => headerName? (trim s)).getD tokenHeader

theorem tokenOf?_eq (answer : Response) (cookies : Option HeaderValue) (now : Int) :
    tokenOf? answer cookies now = (answer.headers.get? tokenHeader).map fun value =>
      { header := announced answer, value, cookies, fetchedAt := now } := rfl

variable {guard : Guard} {s s' : Session} {t : List RoundTrip}

/-- A fetch asks for a token as it should, and what comes of it depends on the last answer only. -/
theorem Fetched.asks {r : Except Error (Option CsrfToken)} (h : Fetched guard request s t r s')
    (hu : request.url.IsWeb) :
    ∃ cookies, Asked guard s request t cookies s'.jar ∧
      ((∃ e, r = .error e ∧ lastAnswer? t = none) ∨
        ∃ answer, lastAnswer? t = some answer ∧ r = .ok (tokenOf? answer cookies s.clock)) := by
  have hfirst := fetchRequest_isFetch hu
  -- the second request does not touch the jar
  have hjar {answer : Response} {s₁ : Session} (cookies : HeaderValue)
      (hs : s₁ = opened guard (fetchRequest request).url answer
        (s.sending (fetchRequest request))) :
      (s₁.sending (fetchAgain request cookies)).jar =
        taken guard s (fetchRequest request).url answer :=
    (congrArg Session.jar hs).trans (jar_opened guard s _ _ answer)
  cases h with
  | failed => exact ⟨none, .unanswered hfirst, .inl ⟨_, rfl, rfl⟩⟩
  | @once answer _ _ hs hc =>
    rw [captured_eq] at hc
    rw [hs, jar_opened]
    exact ⟨none, .once hfirst hc, .inr ⟨answer, rfl, rfl⟩⟩
  | @failedAgain answer cookies _ _ _ hs hc _ =>
    rw [captured_eq] at hc
    rw [hjar cookies hs]
    exact ⟨some cookies, .twice hfirst hc (fetchAgain_isFetch hu cookies), .inl ⟨_, rfl, rfl⟩⟩
  | @twice answer last cookies _ _ hs hc _ =>
    rw [captured_eq] at hc
    rw [hjar cookies hs]
    exact ⟨some cookies, .twice hfirst hc (fetchAgain_isFetch hu cookies),
      .inr ⟨last, rfl, rfl⟩⟩

/-! ## The whole protocol -/

/-- All that is sent in the session `s` for a request that changes something, and the jar after
that. -/
inductive Protocol (guard : Guard) (s : Session) (request : Request) :
    List RoundTrip → Jar → Prop where
  /-- A stream cannot be copied. -/
  | stream (hb : request.body = .stream) : Protocol guard s request [] s.jar
  /-- The kept token is used again. -/
  | kept {token : CsrfToken} {own : RoundTrip} (hb : request.body ≠ .stream)
    (hv : valid? guard s = some token) (hc : Carries token request own.request) :
    Protocol guard s request [own] s.jar
  /-- A token is asked for, and the last request for it is not answered. -/
  | unanswered {t : List RoundTrip} {cookies : Option HeaderValue} {jar : Jar}
    (hb : request.body ≠ .stream) (hv : valid? guard s = none)
    (ha : Asked guard s request t cookies jar) (hl : lastAnswer? t = none) :
    Protocol guard s request t jar
  /-- The last answer has no token. The request is sent as it is. -/
  | without {t : List RoundTrip} {cookies : Option HeaderValue} {jar : Jar} {answer : Response}
    {outcome : Except Error Response} (hb : request.body ≠ .stream) (hv : valid? guard s = none)
    (ha : Asked guard s request t cookies jar) (hl : lastAnswer? t = some answer)
    (hn : answer.headers.get? tokenHeader = none) :
    Protocol guard s request (t ++ [⟨request, outcome⟩]) jar
  /-- The last answer has a token. The request is sent with it. -/
  | handedOut {t : List RoundTrip} {cookies : Option HeaderValue} {jar : Jar} {answer : Response}
    {value : HeaderValue} {own : RoundTrip} (hb : request.body ≠ .stream)
    (hv : valid? guard s = none) (ha : Asked guard s request t cookies jar)
    (hl : lastAnswer? t = some answer) (hn : answer.headers.get? tokenHeader = some value)
    (hc : Carries ⟨announced answer, value, cookies, s.clock⟩ request own.request) :
    Protocol guard s request (t ++ [own]) jar

variable {o : Observation}

theorem Sent.protocol (h : Sent guard request s o s') (hm : isProtected request.method = true)
    (hu : request.url.IsWeb) : Protocol guard s request o.trips s'.jar := by
  rw [h.trips]
  rcases h.course with ⟨e, hp, ho, -⟩ | ⟨own, s₁, hp, ho, -, rfl⟩ <;> rw [ho] <;>
    generalize o.fetches = t at hp
  · rw [List.append_nil]
    cases hp with
    | streaming _ hb => exact .stream hb
    | unfetched _ hb hv hf =>
      obtain ⟨cookies, ha, ⟨_, _, hl⟩ | ⟨_, _, hr⟩⟩ := hf.asks hu
      · exact .unanswered hb hv ha hl
      · cases hr
  · rw [settle_jar]
    cases hp with
    | safe hm' => rw [hm] at hm'; cases hm'
    | @kept token _ hb hv => exact .kept hb hv (protectWith_carries token request)
    | @fetched _ token s₂ _ hb hv hf =>
      obtain ⟨cookies, ha, ⟨_, hr, _⟩ | ⟨answer, hl, hr⟩⟩ := hf.asks hu
      · cases hr
      · obtain rfl := Except.ok.inj hr
        cases hn : answer.headers.get? tokenHeader with
        | none =>
          rw [tokenOf?_eq, hn]
          exact .without hb hv ha hl hn
        | some value =>
          rw [tokenOf?_eq, hn]
          exact .handedOut hb hv ha hl hn (protectWith_carries _ request)

/-- **How a token is asked for.** Whatever is kept and whatever the service answers: all that is
sent for a request that changes something is sent according to the protocol, and the jar takes in
no other cookies. -/
theorem requests_follow_protocol (guard : Guard) (s : Session) (request : Request)
    (hm : isProtected request.method = true) (hu : request.url.IsWeb) :
    Protocol guard s request (observe guard (.send request) s).trips
      ((Step.send request).perform guard s).2.jar :=
  (send_sent guard request s).protocol hm hu

/-- A service that opens a session with two cookies and names the header for its token. -/
def twoCookieResponses : List Response :=
  [{ status := 200
     headers := [(setCookie, literalValue "a=1; Path=/"), (setCookie, literalValue " b=2 ")]
     body := [] },
    { status := 200
      headers := [(nameHeader, literalValue "X-Token"), (tokenHeader, literalValue "abc")]
      body := [] },
    { status := 204, headers := [], body := [] }]

/-- A request that has a cookie already, and two values in the header for the token. -/
def twoTokenRequest : Request :=
  { cookieTokenRequest with
    headers := [("x-token", literalValue "old"), (cookie, literalValue "c=3"),
      ("x-token", literalValue "older")] }

/-- The cookie of the request is sent once. Then the cookies of the session take its place, and the
token that of the two values. -/
theorem token_asked_in_session :
    let guard : Guard := ⟨standardTimeout, false⟩
    let s : Session := .replaying twoCookieResponses
    let trips := (observe guard (.send twoTokenRequest) s).trips
    isProtected twoTokenRequest.method = true ∧ twoTokenRequest.url.IsWeb ∧
      Protocol guard s twoTokenRequest trips
        ((Step.send twoTokenRequest).perform guard s).2.jar ∧
      trips.map (·.request.headers.getAll cookie) =
        [[literalValue "c=3"], [literalValue "a=1; b=2"], [literalValue "a=1; b=2"]] ∧
      trips.map (·.request.headers.getAll "x-token") = [[], [], [literalValue "abc"]] := by
  intro guard s trips
  have hm : isProtected twoTokenRequest.method = true := by decide
  have hparse : Url.parse "https://h/x" = .ok twoTokenRequest.url := by decide +kernel
  have hu : twoTokenRequest.url.IsWeb := Url.isWeb_of_parse hparse (by decide)
  exact ⟨hm, hu, requests_follow_protocol guard s twoTokenRequest hm hu, by decide +kernel,
    by decide +kernel⟩

end Csrf

end DeployService
