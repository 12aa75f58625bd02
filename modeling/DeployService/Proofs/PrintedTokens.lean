import DeployService.Proofs.Healing
import DeployService.Proofs.Secrecy
import DeployService.Proofs.ServedTokens
import DeployService.Proofs.Utf8Reading
import DeployService.Proofs.Words
import DeployService.Tool.Output
import Mathlib

/-!
# Printed tokens

A tool prints a token with its scheme before it, or alone, and with blanks around it. What it prints
goes through three steps before it is in a header: it is trimmed, a word is taken out of it, and the
scheme is put before that word again. `Token.Prints` says which word that is, whatever the letter
case of the scheme and wherever the blanks stand.

A call for which no token is kept asks the tool, so the first request of the call carries the word
that the tool has printed (`OpenClient.begins_with_printed`).
-/

namespace DeployService

open DeployService.Http DeployService.Text

/-! ## Letter case -/

namespace Text

theorem toLower_eq_iff {c letter : Char} (h : letter.isLower = true) :
    c.toLower = letter ↔ c = letter ∨ c = letter.toUpper := by
  have hletter : letter.toLower = letter :=
    Char.toLower_eq_of_not_isUpper (Char.not_isUpper_of_isLower h)
  constructor
  · rintro rfl
    by_cases hc : c.isUpper
    · right
      rw [Char.toUpper_toLower_eq_toUpper,
        Char.toUpper_eq_of_not_isLower (Char.not_isLower_of_isUpper hc)]
    · left
      exact (Char.toLower_eq_of_not_isUpper hc).symm
  · rintro (rfl | rfl)
    · exact hletter
    · rw [Char.toLower_toUpper_eq_toLower, hletter]

/-- The letters of the second text, each of them in either case. -/
def InEitherCase : List Char → List Char → Prop :=
  List.Forall₂ fun c letter => c = letter ∨ c = letter.toUpper

theorem map_toLower_eq_iff {cs letters : List Char} (h : ∀ c ∈ letters, c.isLower = true) :
    cs.map Char.toLower = letters ↔ InEitherCase cs letters := by
  induction letters generalizing cs with
  | nil => simp [InEitherCase]
  | cons letter letters ih =>
    have hletters : ∀ c ∈ letters, c.isLower = true := fun c hc =>
      h c (List.mem_cons_of_mem letter hc)
    cases cs with
    | nil => simp [InEitherCase]
    | cons c cs =>
      rw [List.map_cons, List.cons.injEq, toLower_eq_iff (h letter List.mem_cons_self),
        ih hletters]
      simp only [InEitherCase, List.forall₂_cons]

/-- Two texts differ in their letter case only, if one of them has small letters only. -/
theorem sameIgnoringCase_iff {s t : String} (h : ∀ c ∈ t.toList, c.isLower = true) :
    sameIgnoringCase s t = true ↔ InEitherCase s.toList t.toList := by
  have hlower : t.toList.map Char.toLower = t.toList := by
    have hsame : ∀ c ∈ t.toList, c.toLower = id c := fun c hc =>
      (toLower_eq_iff (h c hc)).mpr (.inl rfl)
    rw [List.map_congr_left hsame, List.map_id]
  rw [sameIgnoringCase, beq_iff_eq, lowerAscii, lowerAscii, hlower, String.ofList_inj,
    map_toLower_eq_iff h]

theorem InEitherCase.forall {P : Char → Prop} {cs letters : List Char}
    (h : InEitherCase cs letters) (hP : ∀ c ∈ letters, P c ∧ P c.toUpper) : ∀ c ∈ cs, P c := by
  induction h with
  | nil => simp
  | @cons c letter cs letters hc _ ih =>
    obtain ⟨hsmall, hcapital⟩ := hP letter List.mem_cons_self
    refine List.forall_mem_cons.mpr ⟨?_, ih fun c hc => hP c (List.mem_cons_of_mem letter hc)⟩
    rcases hc with rfl | rfl
    · exact hsmall
    · exact hcapital

end Text

/-! ## The credential in a printed token -/

namespace Token

/-- The word is the scheme of a token. -/
def IsScheme (word : List Char) : Prop := InEitherCase word "bearer".toList

theorem isScheme_iff {word : String} :
    sameIgnoringCase word "bearer" = true ↔ IsScheme word.toList := by
  have hsmall : "bearer".toList.all Char.isLower = true := rfl
  exact sameIgnoringCase_iff (List.all_eq_true.mp hsmall)

theorem IsScheme.isWord {word : List Char} (h : IsScheme word) : IsWord word := by
  have hletters : "bearer".toList.all (fun c => !isBlank c && !isBlank c.toUpper) = true := rfl
  refine ⟨?_, h.forall fun c hc => ?_⟩
  · rintro rfl
    cases h
  · have hc := List.all_eq_true.mp hletters c hc
    rwa [Bool.and_eq_true, Bool.not_eq_true', Bool.not_eq_true'] at hc

/-- The credential in a printed token: it is the only word, or the one after the scheme. -/
inductive Prints (value printed : String) : Prop where
  | alone (h : AreWords [value.toList] printed.toList)
  | schemed {scheme : List Char} {more : List (List Char)} (hs : IsScheme scheme)
    (h : AreWords (scheme :: value.toList :: more) printed.toList)

variable {value printed : String}

theorem ofPrinted?_eq_some_iff : ofPrinted? printed = some value ↔ Prints value printed := by
  constructor
  · intro h
    unfold ofPrinted? at h
    split at h
    · next word hwords =>
      obtain rfl := Option.some.inj h
      exact .alone (words_eq_iff.mp hwords)
    · next scheme word more hwords =>
      split at h
      · next hscheme =>
        obtain rfl := Option.some.inj h
        exact .schemed (isScheme_iff.mp hscheme) (words_eq_iff.mp hwords)
      · cases h
    · cases h
  · rintro (h | @⟨scheme, more, hs, h⟩)
    · have hwords : words printed = [value] := words_eq_iff.mpr h
      rw [ofPrinted?, hwords]
    · have hwords : words printed =
          String.ofList scheme :: value :: more.map String.ofList := by
        rw [words_eq_iff]
        simpa [Function.comp_def] using h
      have hscheme : sameIgnoringCase (String.ofList scheme) "bearer" = true := by
        rw [isScheme_iff, String.toList_ofList]
        exact hs
      rw [ofPrinted?, hwords]
      exact if_pos hscheme

theorem Prints.isWord (h : Prints value printed) : IsWord value.toList := by
  rcases h with h | ⟨-, h⟩
  · exact h.isWord _ (by simp)
  · exact h.isWord _ (by simp)

/-- A word stands for itself. -/
theorem prints_self (h : IsWord value.toList) : Prints value value := .alone h.areWords

/-- Blanks around a credential, with or without its scheme before it. -/
theorem prints_between_blanks {before scheme between after : List Char} (hb : AreBlanks before)
    (ha : AreBlanks after) (hv : IsWord value.toList) :
    Prints value (String.ofList (before ++ value.toList ++ after)) ∧
      (IsScheme scheme → between ≠ [] → AreBlanks between →
        Prints value (String.ofList (before ++ scheme ++ between ++ value.toList ++ after))) := by
  have halone : AreWords [value.toList] (value.toList ++ after) := hv.areWords.append_blanks ha
  constructor
  · refine .alone ?_
    rw [String.toList_ofList, List.append_assoc]
    exact halone.blanks_append hb
  · intro hs hne hbetween
    have hstop : ∀ c ∈ (between ++ (value.toList ++ after)).head?, isBlank c = true := by
      intro c hc
      rw [List.head?_append_of_ne_nil _ hne] at hc
      exact hbetween c (List.mem_of_head? hc)
    have hwords : AreWords [scheme, value.toList] (before ++ (scheme ++ _)) :=
      .cons hb hs.isWord hstop (halone.blanks_append hbetween)
    have hprinted : AreWords [scheme, value.toList]
        (String.ofList (before ++ scheme ++ between ++ value.toList ++ after)).toList := by
      rw [String.toList_ofList]
      simpa only [List.append_assoc] using hwords
    exact .schemed hs hprinted

/-- What a tool prints is trimmed, but its credential is found without that as well. -/
theorem ofPrinted?_trim (s : String) : ofPrinted? (trim s) = ofPrinted? s := by
  rw [ofPrinted?, words_trim, ← ofPrinted?]

theorem header_eq_ok (h : headerValue? value ≠ none) :
    header ⟨value⟩ = .ok (literalValue ("Bearer " ++ value)) := by
  have hsome : (headerValue? ("Bearer " ++ value)).isSome = true := by
    rw [isSome_headerValue?_append, Option.isSome_iff_ne_none.mpr h]
    decide
  obtain ⟨bytes, hbytes⟩ := Option.isSome_iff_exists.mp hsome
  have heq : bytes = literalValue ("Bearer " ++ value) := by
    simp only [headerValue?] at hbytes
    split at hbytes
    · exact (Option.some.inj hbytes).symm
    · cases hbytes
  rw [header, hbytes, heq]

end Token

/-! ## The request that is sent first -/

/-- No token of the service is expected in place of the credential. -/
def Session.KeepsCredential (s : Session) : Prop :=
  ∀ csrf, s.csrf = some csrf → csrf.header ≠ authorization

theorem Csrf.Prepared.credential {guard : Csrf.Guard} {request own : Request} {s s' : Session}
    {value : HeaderValue} (hs : s.KeepsCredential)
    (hv : request.headers.getAll authorization = [value])
    (h : Csrf.Prepared guard request s [] (.ok own) s') :
    own.headers.getAll authorization = [value] := by
  generalize ht : ([] : List RoundTrip) = t at h
  cases h with
  | safe => exact hv
  | @kept token _ _ hvalid =>
    have hcsrf : s.csrf = some token := (Option.filter_eq_some_iff.mp hvalid).1
    rw [Csrf.getAll_protectWith _ (by decide) hv, Csrf.standing, if_neg (hs token hcsrf)]
  | fetched _ _ _ hf => exact absurd ht.symm hf.ne_nil

theorem Csrf.AsksFor.credential {request fetch : Request} {value : HeaderValue}
    (h : Csrf.AsksFor request fetch) (hv : request.headers.getAll authorization = [value]) :
    fetch.headers.getAll authorization = [value] := by
  rw [h.sender _ (.inl rfl), Headers.get?, hv]
  rfl

/-- The round trip begins a call: it is the call itself, or it asks for a token on its behalf, which
only a guarded transport does. -/
def RoundTrip.Begins (guard : Option Csrf.Guard) (method : String) (url : Except Error Url)
    (trip : RoundTrip) : Prop :=
  (trip.request.method = method ∧ url = .ok trip.request.url) ∨
    (guard.isSome = true ∧ trip.IsFetchFor method)

/-- A request with a credential is sent with it, or another one is sent with it before. -/
theorem Transport.wired_first (guard : Option Csrf.Guard) {request : Request} {s : Session}
    {value : HeaderValue} (hb : request.body ≠ .stream) (hs : s.KeepsCredential)
    (hv : request.headers.getAll authorization = [value]) :
    ∃ first rest, s.toWire.Grew (first :: rest) (Transport.wired guard request s).2.toWire ∧
      first.Begins guard request.method (.ok request.url) ∧
      first.request.headers.getAll authorization = [value] := by
  cases guard with
  | none =>
    exact ⟨⟨request, s.next⟩, [], Session.grew_sending request s, .inl ⟨rfl, rfl⟩, hv⟩
  | some guard =>
    show ∃ first rest,
      s.toWire.Grew (first :: rest) (Transport.guarded guard .direct request s).2.toWire ∧ _
    obtain ⟨t, hp⟩ := Csrf.prepare_prepared guard request s
    have hfetch : ∀ trip ∈ t, trip.Begins (some guard) request.method (.ok request.url) ∧
        trip.request.headers.getAll authorization = [value] := fun trip ht =>
      ⟨.inr ⟨rfl, hp.fetches trip ht⟩, (hp.asksFor trip ht).credential hv⟩
    rw [Csrf.guarded_eq]
    rcases hr : Csrf.prepare guard .direct request s with ⟨e | own, s'⟩ <;> rw [hr] at hp
    · cases t with
      | nil =>
        -- a request that can be copied only fails in a fetch
        generalize ht : ([] : List RoundTrip) = t at hp
        cases hp with
        | streaming _ hstream => exact absurd hstream hb
        | unfetched _ _ _ hf => exact absurd ht.symm hf.ne_nil
      | cons first rest =>
        exact ⟨first, rest, hp.grew, hfetch first List.mem_cons_self⟩
    · have hgrew : s.toWire.Grew (t ++ [⟨own, s'.next⟩])
          (Csrf.settle own s'.next (s'.sending own)).toWire := by
        rw [Csrf.settle_toWire]
        exact hp.grew.trans (Session.grew_sending own s')
      cases t with
      | nil =>
        obtain ⟨hm, hu⟩ := hp.same_target
        exact ⟨⟨own, s'.next⟩, [], hgrew, .inl ⟨hm, by rw [hu]⟩, hp.credential hs hv⟩
      | cons first rest =>
        rw [List.cons_append] at hgrew
        exact ⟨first, _, hgrew, hfetch first List.mem_cons_self⟩

variable {α : Type}

theorem Client.run_first {c : Client} {guard : Option Csrf.Guard} (hc : c.transport = .wired guard)
    {x : Exchange α} {s s' : Session} {token : Token} {request : Request} {value : HeaderValue}
    (ht : Session.nextToken c.supply s = (.ok token, s'))
    (hr : c.channel.ready x.endpoint token s' = .ok request) (hs : s.KeepsCredential)
    (hv : token.header = .ok value) :
    ∃ first rest, s.toWire.Grew (first :: rest) (c.run x s).2.toWire ∧
      first.Begins guard x.endpoint.method (c.channel.url x.endpoint) ∧
      first.request.headers.getAll authorization = [value] := by
  have hsame : s' = (Session.nextToken c.supply s).2 := by rw [ht]
  have hs' : s'.KeepsCredential := by
    rw [hsame]
    exact hs
  have hrequest := Channel.ready_isRequest hr
  have hb : request.body ≠ .stream := by
    rw [hrequest.body]
    cases x.endpoint.body <;> simp
  obtain ⟨value', hvalue, hcredential⟩ := (Channel.ready_identified hr).credential
  have hcredential : request.headers.getAll authorization = [value] := by
    have heq : token.header = .ok value' := by rw [Token.header, hvalue]
    obtain rfl : value' = value := Except.ok.inj (heq.symm.trans hv)
    exact hcredential
  obtain ⟨first, rest, hg, hbegins, hfirst⟩ := Transport.wired_first guard hb hs' hcredential
  rw [hrequest.method, ← hrequest.url] at hbegins
  refine ⟨first, rest, ?_, hbegins, hfirst⟩
  have hwire : s'.toWire = s.toWire := by
    rw [hsame]
    rfl
  rw [← hwire, Client.run_eq, ht]
  simp only [hr, hc]
  rcases ho : Transport.wired guard request s' with ⟨e | response, s''⟩ <;> rw [ho] at hg
  · exact hg
  · exact hg

/-- What an attempt at a call sends is what the call sends first, however often it is retried. -/
theorem RetryPolicy.call_grew {P : List RoundTrip → Except Error α → Prop} {x : Call Session α}
    (hx : x.Sends Session.toWire P) (p : RetryPolicy) {s : Session} {t : List RoundTrip}
    (h : s.toWire.Grew t (x s).2.toWire) :
    ∃ rest, s.toWire.Grew (t ++ rest) (p.call Session.pause x s).2.toWire := by
  obtain ⟨n, interval⟩ := p
  cases n with
  | zero =>
    refine ⟨[], ?_⟩
    rw [List.append_nil]
    exact h
  | succ n =>
    rw [RetryPolicy.call_succ]
    split
    · obtain ⟨rest, hrest, -⟩ := RetryPolicy.call_sends hx ⟨n, interval⟩ ((x s).2.pause interval)
      have hpause : (x s).2.toWire.Grew [] ((x s).2.pause interval).toWire := .of_same rfl rfl
      exact ⟨rest, h.trans (hpause.trans hrest)⟩
    · refine ⟨[], ?_⟩
      rw [List.append_nil]
      exact h

theorem Client.runUnder_grew {c : Client} {guard : Option Csrf.Guard}
    (hc : c.transport = .wired guard) (policy : Option RetryPolicy) (x : Exchange α) {s : Session}
    {t : List RoundTrip} (h : s.toWire.Grew t (c.run x s).2.toWire) :
    ∃ rest, s.toWire.Grew (t ++ rest) (c.runUnder policy x s).2.toWire := by
  unfold Client.runUnder
  cases policy with
  | none =>
    refine ⟨[], ?_⟩
    rw [List.append_nil]
    exact h
  | some p => exact RetryPolicy.call_grew (c.run_sends guard hc x) p h

/-! ## The first call of a client -/

/-- The state of a network before a client makes its first call: the tool has not been asked for a
token that is kept, and will print the credential `value` when it is. The credential and the product
name are allowed in headers. -/
structure Network.WillPrint (value : String) (c : OpenClient) (n : Network) : Prop where
  supply : c.client.supply = .kept .tool
  unkept : (n.tokens c.connection).kept = none
  printed : ∃ output errors, (n.tokens c.connection).answers (n.tokens c.connection).asked =
    Tool.outputOf TokenSource.toolName (.ended (.exited 0) output errors) ∧
      Token.Prints value (Utf8.decodeLossy output)
  allowed : headerValue? value ≠ none
  agent : headerValue? c.client.channel.userAgent ≠ none
  credential : (Network.session c n).KeepsCredential

/-- The first request of a call carries a credential, and no other one. -/
def BeginsWith (value : String) (c : OpenClient) (guard : Option Csrf.Guard) (x : Exchange α)
    (n n' : Network) : Prop :=
  (c.client.channel.url x.endpoint).isOk = true →
    ∃ first rest, n.toWire.Grew (first :: rest) n'.toWire ∧
      first.Begins guard x.endpoint.method (c.client.channel.url x.endpoint) ∧
      first.request.headers.getAll authorization = [literalValue ("Bearer " ++ value)]

theorem TokenState.next_printed {s : TokenState} {output errors : List UInt8} {value : String}
    (hk : s.kept = none) (ha : s.answers s.asked =
      Tool.outputOf TokenSource.toolName (.ended (.exited 0) output errors))
    (hp : Token.Prints value (Utf8.decodeLossy output)) (now : Int) :
    ((TokenSupply.kept .tool).next now s).1 = .ok ⟨value⟩ := by
  have hanswer : s.answers s.asked = .ok (trim (Utf8.decodeLossy output)) := ha
  have hvalue : Token.ofPrinted? (trim (Utf8.decodeLossy output)) = some value := by
    rw [Token.ofPrinted?_trim]
    exact Token.ofPrinted?_eq_some_iff.mpr hp
  have hserved : s.kept.bind (·.served? now) = none := by
    rw [hk]
    rfl
  have hresult : ((TokenSupply.kept .tool).next now s).1 = (Serving.of .tool now s).result := rfl
  have hnext := TokenState.next_kept .tool now s
  rw [hresult]
  generalize Serving.of .tool now s = o at hnext
  generalize ((TokenSupply.kept .tool).next now s).2 = s' at hnext
  cases hnext with
  | again h =>
    rw [hserved] at h
    cases h
  | failed _ h =>
    rw [hanswer] at h
    cases h
  | unusable _ h hnone =>
    obtain rfl := Except.ok.inj (hanswer.symm.trans h)
    rw [hvalue] at hnone
    cases hnone
  | obtained _ h hsome =>
    obtain rfl := Except.ok.inj (hanswer.symm.trans h)
    obtain rfl := Option.some.inj (hvalue.symm.trans hsome)
    rfl

theorem OpenClient.begins_with_printed {value : String} {c : OpenClient} {n : Network}
    (h : n.WillPrint value c) (guard : Option Csrf.Guard) (x : Exchange α) :
    BeginsWith value c guard x n ((c.wired guard).run x n).2 := by
  intro hurl
  obtain ⟨output, errors, ha, hp⟩ := h.printed
  have hheader := Token.header_eq_ok h.allowed
  have hvalid : (Token.header ⟨value⟩).isOk = true := by
    rw [hheader]
    rfl
  have hnext : ((c.wired guard).client.supply.next (wholeSeconds n.clock)
      (n.tokens c.connection)).1 = .ok ⟨value⟩ := by
    have hsupply : (c.wired guard).client.supply = .kept .tool := h.supply
    rw [hsupply]
    exact TokenState.next_printed h.unkept ha hp _
  obtain ⟨s', ht⟩ : ∃ s', Session.nextToken (c.wired guard).client.supply
      (Network.session (c.wired guard) n) = (.ok ⟨value⟩, s') := ⟨_, Prod.ext hnext rfl⟩
  have hc : (c.wired guard).client.transport = .wired guard := rfl
  have hagent := Option.isSome_iff_ne_none.mpr h.agent
  obtain ⟨request, hr⟩ := Channel.ready_of_valid hurl hvalid hagent s'
  obtain ⟨first, rest, hg, hbegins, hfirst⟩ := Client.run_first hc ht hr h.credential hheader
  obtain ⟨later, hlater⟩ := Client.runUnder_grew hc (c.wired guard).policy x hg
  exact ⟨first, rest ++ later, hlater, hbegins, hfirst⟩

/-- **Printed tokens are sent.** A printed text yields the word that is its credential, and no other
one; trimming the text changes nothing. Such a word, printed in whatever letter case of the scheme
and between whatever blanks, is the credential of the first request of the first call, for every
call of the four services. -/
theorem printed_tokens_sent :
    (∀ printed value, Token.ofPrinted? printed = some value ↔ Token.Prints value printed) ∧
    (∀ printed value, Token.ofPrinted? printed = some value →
      IsWord value.toList ∧ Token.ofPrinted? value = some value) ∧
    (∀ output errors, ∃ printed,
      Tool.outputOf TokenSource.toolName (.ended (.exited 0) output errors) = .ok printed ∧
        Token.ofPrinted? printed = Token.ofPrinted? (Utf8.decodeLossy output)) ∧
    (∀ (value : String) (before scheme between after : List Char), AreBlanks before →
      AreBlanks after → IsWord value.toList →
        Token.Prints value (String.ofList (before ++ value.toList ++ after)) ∧
          (Token.IsScheme scheme → between ≠ [] → AreBlanks between → Token.Prints value
            (String.ofList (before ++ scheme ++ between ++ value.toList ++ after)))) ∧
    ∀ (value : String) (c : OpenClient) (n : Network), n.WillPrint value c →
      ∀ guard : Option Csrf.Guard,
        (∀ (scope : RestScope) {α : Type} (call : RestCall α),
          BeginsWith value c guard (call.exchange scope) n
            ((RestClient.mk (c.wired guard) scope).service call n).2) ∧
        (∀ {α : Type} (call : OperationsCall α),
          BeginsWith value c guard call.exchange n
            ((OperationsClient.mk (c.wired guard)).service call n).2) ∧
        (∀ (space : String) {α : Type} (call : LookupCall α),
          BeginsWith value c guard (call.exchange space) n
            ((LookupClient.mk (c.wired guard) space).service call n).2) ∧
        (∀ (serviceId : String) {α : Type} (call : ProcessCall α),
          BeginsWith value c guard call.exchange n
            ((ProcessClient.mk (c.wired guard) serviceId).service call n).2) := by
  refine ⟨fun _ _ => Token.ofPrinted?_eq_some_iff, ?_, ?_, ?_, ?_⟩
  · intro printed value h
    have hword := (Token.ofPrinted?_eq_some_iff.mp h).isWord
    exact ⟨hword, Token.ofPrinted?_eq_some_iff.mpr (Token.prints_self hword)⟩
  · intro output errors
    exact ⟨_, rfl, Token.ofPrinted?_trim _⟩
  · intro value before scheme between after hb ha hv
    exact Token.prints_between_blanks hb ha hv
  · intro value c n h guard
    exact ⟨fun scope _ call => OpenClient.begins_with_printed h guard (call.exchange scope),
      fun call => OpenClient.begins_with_printed h guard call.exchange,
      fun space _ call => OpenClient.begins_with_printed h guard (call.exchange space),
      fun _ _ call => OpenClient.begins_with_printed h guard call.exchange⟩

/-- A network in which nothing has happened yet, and in which the tool prints a text. -/
def Network.printing (text : String) : Network :=
  { Network.replaying [] with
    tokens := fun _ =>
      { answers := fun _ =>
          Tool.outputOf TokenSource.toolName (.ended (.exited 0) (Utf8.encode text) [])
        asked := 0
        kept := none } }

/-- A client on a host, with the tokens that the tool prints. -/
def OpenClient.asTool (host basePath : String) : OpenClient :=
  { OpenClient.toHost host basePath with
    client := { (OpenClient.toHost host basePath).client with supply := .kept .tool } }

/-- A token after a scheme in mixed letters and a no-break space. -/
theorem spaced_token_sent :
    let c := OpenClient.asTool "example.com" operationsBasePath
    let n := Network.printing "\n BeArEr\u00a0v.w more\n"
    n.WillPrint "v.w" c ∧
      ∃ first rest, n.toWire.Grew (first :: rest)
          ((OperationsClient.mk (c.wired none)).service .info n).2.toWire ∧
        first.request.headers.getAll authorization = [literalValue "Bearer v.w"] := by
  intro c n
  obtain ⟨hprints, -, -, -, hsends⟩ := printed_tokens_sent
  have hn : n.WillPrint "v.w" c := by
    refine ⟨rfl, rfl, ⟨Utf8.encode _, [], rfl, ?_⟩, by decide +kernel, by decide +kernel, nofun⟩
    rw [Utf8.decodeLossy_encode, ← hprints]
    decide +kernel
  have hurl : (c.client.channel.url OperationsCall.info.exchange.endpoint).isOk = true := by
    decide +kernel
  obtain ⟨first, rest, hg, -, hfirst⟩ := (hsends "v.w" c n hn none).2.1 .info hurl
  exact ⟨hn, first, rest, hg, hfirst⟩

end DeployService
