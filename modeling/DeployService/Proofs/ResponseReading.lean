import DeployService.Channel.Reading
import DeployService.Proofs.JsonReading
import DeployService.Proofs.JsonStrings
import DeployService.Proofs.Trimming

/-!
# What is read from a response

An empty body stands for the default value. Any other body is read as its media type says: a record
only from a JSON document, and a text from a document that is a string or from the body itself
(`readers_follow_media`). The media type is a part of the text of a header. What surrounds this part
does not count, nor does the case of its letters. Of a body that breaks off nothing is read.
-/

namespace DeployService

open DeployService.Http DeployService.Text

/-! ## Media types -/

/-- The text names a media type: the name stands between blanks, and parameters may follow. -/
structure NamesMedia (text name : List Char) : Prop where
  parts : ∃ before after parameters, text = before ++ name ++ after ++ parameters ∧
    (∀ c ∈ before, isBlank c = true) ∧ (∀ c ∈ after, isBlank c = true) ∧
    (parameters = [] ∨ parameters.head? = some ';')
  unseparated : ';' ∉ name
  first : ∀ c ∈ name.head?, isBlank c = false
  last : ∀ c ∈ name.getLast?, isBlank c = false

theorem namesMedia_iff {text name : List Char} :
    NamesMedia text name ↔ trimChars (text.takeWhile (· ≠ ';')) = name := by
  constructor
  · rintro ⟨⟨before, after, parameters, rfl, hb, ha, hp⟩, hsep, hfirst, hlast⟩
    have hblank : ∀ c : Char, isBlank c = true → c ≠ ';' := by
      rintro c hc rfl
      exact absurd hc (by decide)
    have htake : (before ++ name ++ after ++ parameters).takeWhile (· ≠ ';') =
        before ++ name ++ after := by
      have hall : ∀ c ∈ before ++ name ++ after, decide (c ≠ ';') = true := by
        intro c hc
        rw [decide_eq_true_eq]
        simp only [List.mem_append] at hc
        rcases hc with (hc | hc) | hc
        · exact hblank c (hb c hc)
        · rintro rfl
          exact hsep hc
        · exact hblank c (ha c hc)
      rw [List.takeWhile_append_of_pos hall]
      rcases hp with rfl | hp
      · simp
      · obtain ⟨rest, rfl⟩ := List.head?_eq_some_iff.mp hp
        simp
    rw [htake, trimChars_between hb ha hfirst hlast]
  · rintro rfl
    generalize hpart : text.takeWhile (· ≠ ';') = part
    obtain ⟨after, hafter, hsplit⟩ := eq_trimEnd_append (trimStart part)
    have hsep : ';' ∉ part := by
      intro hmem
      rw [← hpart] at hmem
      simpa using List.all_eq_true.mp List.all_takeWhile _ hmem
    have hinside : ∀ c ∈ trimChars part, c ∈ part := by
      intro c hc
      have hstart : c ∈ trimStart part := by
        rw [hsplit]
        exact List.mem_append_left _ hc
      exact (List.dropWhile_suffix isBlank).subset hstart
    have hparameters : text.dropWhile (· ≠ ';') = [] ∨
        (text.dropWhile (· ≠ ';')).head? = some ';' := by
      have hnot := List.head?_dropWhile_not (fun c : Char => decide (c ≠ ';')) text
      cases htail : text.dropWhile (· ≠ ';') with
      | nil => exact .inl rfl
      | cons c tail =>
        rw [htail] at hnot
        exact .inr (congrArg some (by simpa using hnot))
    refine ⟨⟨part.takeWhile isBlank, after, _, ?_, ?_, hafter, hparameters⟩,
      fun hmem => hsep (hinside _ hmem), ?_, trimEnd_getLast _⟩
    · rw [List.append_assoc (part.takeWhile isBlank), trimChars, ← hsplit, trimStart,
        List.takeWhile_append_dropWhile, ← hpart, List.takeWhile_append_dropWhile]
    · exact fun c hc => List.all_eq_true.mp List.all_takeWhile c hc
    · intro c hc
      have hhead : (trimEnd (trimStart part)).head? = some c := hc
      refine trimStart_head part c ?_
      rw [hsplit, List.head?_append, hhead]
      rfl

/-- The media type of a message with the given headers. It is JSON unless the headers name another
one in a text. -/
inductive HasMedia (headers : Headers) : String → Prop where
  | absent (h : headers.get? contentType = none) : HasMedia headers jsonMedia
  | unreadable {value : HeaderValue} (h : headers.get? contentType = some value)
    (hv : ∃ b ∈ value, isTextByte b = false) : HasMedia headers jsonMedia
  | blank {s : String} (h : headers.text? contentType = some s)
    (hs : NamesMedia s.toList []) : HasMedia headers jsonMedia
  | named {s : String} {name : List Char} (h : headers.text? contentType = some s)
    (hs : NamesMedia s.toList name) (hname : name ≠ []) :
    HasMedia headers (lowerAscii (String.ofList name))

theorem mediaOf_eq {s : String} {name : List Char} (h : NamesMedia s.toList name) :
    mediaOf s = lowerAscii (String.ofList name) := by
  rw [mediaOf, trim, before, String.toList_ofList, namesMedia_iff.mp h]

theorem lowerAscii_eq_empty {cs : List Char} : lowerAscii (String.ofList cs) = "" ↔ cs = [] := by
  rw [lowerAscii, String.toList_ofList, ← String.toList_eq_nil_iff, String.toList_ofList,
    List.map_eq_nil_iff]

theorem mediaType_of_text {headers : Headers} {s : String} {name : List Char}
    (h : headers.text? contentType = some s) (hs : NamesMedia s.toList name) :
    mediaType headers = if name = [] then jsonMedia else lowerAscii (String.ofList name) := by
  unfold mediaType
  rw [h, Option.map_some, mediaOf_eq hs]
  by_cases hname : name = []
  · rw [if_pos hname, lowerAscii_eq_empty.mpr hname]
    rfl
  · have hmedia := mt lowerAscii_eq_empty.mp hname
    rw [if_neg hname]
    split
    · next heq => cases heq
    · next heq => exact absurd (Option.some.inj heq) hmedia
    · next heq => exact (Option.some.inj heq).symm

theorem text?_eq_none {headers : Headers} {name : String} : headers.text? name = none ↔
    headers.get? name = none ∨
      ∃ value, headers.get? name = some value ∧ ∃ b ∈ value, isTextByte b = false := by
  rw [Headers.text?]
  cases headers.get? name with
  | none => simp
  | some value => simp [headerText?]

theorem mediaType_of_none {headers : Headers} (h : headers.text? contentType = none) :
    mediaType headers = jsonMedia := by
  rw [mediaType, h]
  rfl

/-- Every message has exactly one media type. -/
theorem hasMedia_iff {headers : Headers} {m : String} :
    HasMedia headers m ↔ m = mediaType headers := by
  constructor
  · rintro (h | ⟨h, hv⟩ | ⟨h, hs⟩ | ⟨h, hs, hname⟩)
    · exact (mediaType_of_none (text?_eq_none.mpr (.inl h))).symm
    · exact (mediaType_of_none (text?_eq_none.mpr (.inr ⟨_, h, hv⟩))).symm
    · rw [mediaType_of_text h hs, if_pos rfl]
    · rw [mediaType_of_text h hs, if_neg hname]
  · rintro rfl
    cases htext : headers.text? contentType with
    | none =>
      rw [mediaType_of_none htext]
      rcases text?_eq_none.mp htext with h | ⟨value, h, hv⟩
      · exact .absent h
      · exact .unreadable h hv
    | some s =>
      have hs : NamesMedia s.toList _ := namesMedia_iff.mpr rfl
      rw [mediaType_of_text htext hs]
      split
      · next hname =>
        rw [hname] at hs
        exact .blank htext hs
      · next hname => exact .named htext hs hname

/-- Both messages name a media type, and it is the same one up to the case of its letters. -/
def SameMedia (headers other : Headers) : Prop :=
  ∃ s t name name', headers.text? contentType = some s ∧ other.text? contentType = some t ∧
    NamesMedia s.toList name ∧ NamesMedia t.toList name' ∧
    name.map Char.toLower = name'.map Char.toLower

theorem SameMedia.mediaType_eq {headers other : Headers} (h : SameMedia headers other) :
    mediaType other = mediaType headers := by
  obtain ⟨s, t, name, name', hs, ht, hname, hname', hcase⟩ := h
  have hempty : name' = [] ↔ name = [] := by
    rw [← List.map_eq_nil_iff (f := Char.toLower), ← hcase, List.map_eq_nil_iff]
  rw [mediaType_of_text hs hname, mediaType_of_text ht hname', lowerAscii, lowerAscii,
    String.toList_ofList, String.toList_ofList, hcase]
  simp only [hempty]

/-! ## The readers -/

section

variable {α : Type} [Payload α]

/-- The bytes are a document that holds the value. -/
def Holds (a : α) (bytes : List UInt8) : Prop :=
  ∃ raw, Json.Raw.IsElement raw bytes ∧
    (Payload.shape α).decode? Json.maxDepth raw = some (Payload.toValue a)

theorem decode?_iff_holds {a : α} {bytes : List UInt8} :
    Payload.decode? bytes = some a ↔ Holds a bytes := by
  rw [Payload.decode?, Option.bind_eq_some_iff]
  refine exists_congr fun raw => and_congr Json.Raw.read?_eq_some_iff ?_
  rw [Option.map_eq_some_iff]
  constructor
  · rintro ⟨v, hv, rfl⟩
    rw [hv, Payload.toValue_ofValue]
  · intro h
    exact ⟨_, h, Payload.ofValue_toValue a⟩

end

theorem holds_text_iff {s : String} {bytes : List UInt8} :
    Holds s bytes ↔ Json.StringDocument s bytes := by
  rw [Json.stringDocument_iff]
  constructor
  · rintro ⟨raw, hraw, hs⟩
    cases raw with
    | text t => exact ⟨t, hraw, hs⟩
    | _ => cases hs
  · rintro ⟨t, ht, hs⟩
    exact ⟨.text t, ht, hs⟩

/-- The JSON form of a text denotes the text. -/
theorem holds_render (s : String) : Holds s (Utf8.encode (Json.text s).render) := by
  refine ⟨(Json.text s).written, ?_, ?_⟩
  · have hform := (Json.FloatFree.text s).isForm
    rw [Utf8.encode, Json.render, String.toList_ofList]
    exact .bare hform
  · rw [Json.written]
    exact Json.decodeText?_spelling s

/-- Why no record is read from a body of the media type `m`. -/
def recordFailure (m : String) : Error :=
  if m = jsonMedia then .externalIn "Failed to parse JSON response" .json
  else if m = textMedia ∨ m = htmlMedia then
    .plain ("Expected a JSON response but received " ++ m)
  else .plain ("No consumer registered for media type " ++ m)

/-- Why no text is read from a body of the media type `m`. -/
def textFailure (m : String) : Error :=
  if m = jsonMedia then .externalIn "Failed to parse JSON string response" .json
  else if m = textMedia ∨ m = htmlMedia then .externalIn "Response body is not valid UTF-8" .utf8
  else .plain ("No consumer registered for media type " ++ m)

/-- What is read from a body of the media type `m`. -/
structure ReadAs (m : String) (response : Response) : Prop where
  json : ∀ {α : Type} [Payload α] (a : α),
    readJson response = .ok a ↔ m = jsonMedia ∧ Holds a response.body
  jsonFails : ∀ {α : Type} [Payload α] (e : Error),
    readJson (α := α) response = .error e → e = recordFailure m
  text : ∀ s, readText response = .ok s ↔
    (m = textMedia ∨ m = htmlMedia) ∧ response.body = Utf8.encode s ∨
      m = jsonMedia ∧ Json.StringDocument s response.body
  textFails : ∀ e, readText response = .error e → e = textFailure m
  undoes : m = jsonMedia → ∀ s, response.body = Utf8.encode (Json.text s).render →
    readText response = .ok s

theorem text_ne_json {m : String} (h : m = textMedia ∨ m = htmlMedia) : m ≠ jsonMedia := by
  rcases h with rfl | rfl <;> decide

section

variable {response : Response} {m : String}

theorem consumerOf_json (hm : mediaType response.headers = jsonMedia) :
    consumerOf response = .ok .json := by
  rw [consumerOf, Consumer.ofMedia?, if_pos hm]

theorem consumerOf_text (hm : mediaType response.headers = m)
    (ht : m = textMedia ∨ m = htmlMedia) : consumerOf response = .ok .text := by
  rw [consumerOf, Consumer.ofMedia?, hm, if_neg (text_ne_json ht), if_pos ht]

theorem consumerOf_unknown (hm : mediaType response.headers = m) (hj : m ≠ jsonMedia)
    (ht : ¬(m = textMedia ∨ m = htmlMedia)) :
    consumerOf response = .error (.plain ("No consumer registered for media type " ++ m)) := by
  rw [consumerOf, Consumer.ofMedia?, hm, if_neg hj, if_neg ht]

/-- What comes of a body that has a value or none. -/
def readOr {α : Type} (failure : Error) : Option α → Except Error α
  | some a => .ok a
  | none => .error failure

theorem readOr_ok {α : Type} {failure : Error} {o : Option α} {a : α} :
    readOr failure o = .ok a ↔ o = some a := by
  cases o <;> simp [readOr]

theorem readOr_error {α : Type} {failure e : Error} {o : Option α}
    (h : readOr failure o = .error e) : e = failure := by
  cases o with
  | none => exact (Except.error.inj h).symm
  | some a => cases h

theorem readJson_eq {α : Type} [Payload α] (hwhole : response.cut = none)
    (hbody : response.body ≠ []) (hm : mediaType response.headers = m) :
    readJson (α := α) response =
      readOr (recordFailure m) (if m = jsonMedia then Payload.decode? response.body else none) := by
  have hempty : response.body.isEmpty = false := List.isEmpty_eq_false_iff.mpr hbody
  rw [readJson_whole hwhole, hempty]
  unfold recordFailure
  by_cases hj : m = jsonMedia
  · rw [consumerOf_json (hm.trans hj), if_pos hj, if_pos hj]
    simp only [Bool.false_eq_true, if_false, Except.bind]
    cases Payload.decode? (α := α) response.body <;> rfl
  · by_cases ht : m = textMedia ∨ m = htmlMedia
    · rw [consumerOf_text hm ht, if_neg hj, if_neg hj, if_pos ht, hm]
      rfl
    · rw [consumerOf_unknown hm hj ht, if_neg hj, if_neg hj, if_neg ht]
      rfl

theorem readText_eq (hwhole : response.cut = none) (hbody : response.body ≠ [])
    (hm : mediaType response.headers = m) :
    readText response = readOr (textFailure m)
      (if m = jsonMedia then Payload.decode? response.body
        else if m = textMedia ∨ m = htmlMedia then Utf8.decode? response.body else none) := by
  have hempty : response.body.isEmpty = false := List.isEmpty_eq_false_iff.mpr hbody
  rw [readText_whole hwhole, hempty]
  unfold textFailure
  by_cases hj : m = jsonMedia
  · rw [consumerOf_json (hm.trans hj), if_pos hj, if_pos hj]
    simp only [Bool.false_eq_true, if_false, Except.bind]
    cases Payload.decode? (α := String) response.body <;> rfl
  · by_cases ht : m = textMedia ∨ m = htmlMedia
    · rw [consumerOf_text hm ht, if_neg hj, if_neg hj, if_pos ht, if_pos ht]
      simp only [Bool.false_eq_true, if_false, Except.bind]
      cases Utf8.decode? response.body <;> rfl
    · rw [consumerOf_unknown hm hj ht, if_neg hj, if_neg hj, if_neg ht, if_neg ht]
      rfl

theorem readText_ok_iff (hwhole : response.cut = none) (hbody : response.body ≠ [])
    (hm : mediaType response.headers = m) (s : String) : readText response = .ok s ↔
      (m = textMedia ∨ m = htmlMedia) ∧ response.body = Utf8.encode s ∨
        m = jsonMedia ∧ Json.StringDocument s response.body := by
  rw [readText_eq hwhole hbody hm, readOr_ok]
  by_cases hj : m = jsonMedia
  · have ht : ¬(m = textMedia ∨ m = htmlMedia) := fun ht => text_ne_json ht hj
    rw [if_pos hj, decode?_iff_holds, holds_text_iff]
    simp only [ht, eq_true hj, false_and, true_and, false_or]
  · rw [if_neg hj]
    by_cases ht : m = textMedia ∨ m = htmlMedia
    · rw [if_pos ht, Utf8.decode?_eq_some_iff]
      simp only [hj, ht, false_and, true_and, or_false]
    · rw [if_neg ht]
      simp only [hj, ht, false_and, or_false, reduceCtorEq]

theorem readAs (hwhole : response.cut = none) (hbody : response.body ≠ [])
    (hm : mediaType response.headers = m) : ReadAs m response where
  json a := by
    rw [readJson_eq hwhole hbody hm, readOr_ok]
    by_cases hj : m = jsonMedia
    · simp only [hj, if_true, true_and, decode?_iff_holds]
    · simp only [hj, if_false, false_and, reduceCtorEq]
  jsonFails e h := by
    rw [readJson_eq hwhole hbody hm] at h
    exact readOr_error h
  text s := readText_ok_iff hwhole hbody hm s
  textFails e h := by
    rw [readText_eq hwhole hbody hm] at h
    exact readOr_error h
  undoes hj s hs := by
    have hdocument : Json.StringDocument s response.body := by
      rw [hs]
      exact holds_text_iff.mp (holds_render s)
    exact (readText_ok_iff hwhole hbody hm s).mpr (.inr ⟨hj, hdocument⟩)

end

/-- What is read from a response. -/
structure Readers (response : Response) : Prop where
  media : ∃ m, ∀ m', HasMedia response.headers m' ↔ m' = m
  nothing : response.cut = none → response.body = [] →
    (∀ {α : Type} [Payload α], readJson response = .ok (Payload.empty : α)) ∧
      readText response = .ok ""
  something : response.cut = none → response.body ≠ [] → ∀ m, HasMedia response.headers m →
    ReadAs m response
  /-- Of a body that breaks off nothing is read. -/
  broken : ∀ reason, response.cut = some reason →
    (∀ {α : Type} [Payload α], readJson (α := α) response = .error (brokenOff reason)) ∧
      readText response = .error (brokenOff reason)
  /-- Parameters, the case of letters and blanks around the media type change nothing. -/
  insensitive : ∀ other : Response, other.cut = response.cut → other.body = response.body →
    SameMedia response.headers other.headers →
    (∀ {α : Type} [Payload α], readJson (α := α) other = readJson response) ∧
      readText other = readText response

/-- **The readers follow the media type**: what is read from a response depends on its body and its
media type only, and is a default value only if the body is empty. -/
theorem readers_follow_media (response : Response) : Readers response := by
  have hnothing : ∀ response : Response, response.cut = none → response.body = [] →
      (∀ {α : Type} [Payload α], readJson response = .ok (Payload.empty : α)) ∧
        readText response = .ok "" := by
    intro response hwhole hbody
    constructor
    · intro α _
      rw [readJson_whole hwhole, hbody]
      rfl
    · rw [readText_whole hwhole, hbody]
      rfl
  refine ⟨⟨_, fun _ => hasMedia_iff⟩, hnothing response, ?_, ?_, ?_⟩
  · intro hwhole hbody m hm
    exact readAs hwhole hbody (hasMedia_iff.mp hm).symm
  · intro reason hcut
    exact ⟨readJson_cut hcut, readText_cut hcut⟩
  · intro other hcut hsame hmedia
    rcases Option.eq_none_or_eq_some response.cut with hwhole | ⟨reason, hbroken⟩
    · have hwhole' := hcut.trans hwhole
      by_cases hbody : response.body = []
      · obtain ⟨hjson, htext⟩ := hnothing response hwhole hbody
        obtain ⟨hjson', htext'⟩ := hnothing other hwhole' (hsame.trans hbody)
        exact ⟨fun {α} _ => by rw [hjson, hjson'], by rw [htext, htext']⟩
      · have hbody' : other.body ≠ [] := by rwa [hsame]
        have hm := hmedia.mediaType_eq
        refine ⟨fun {α} _ => ?_, ?_⟩
        · rw [readJson_eq hwhole' hbody' hm, readJson_eq hwhole hbody rfl, hsame]
        · rw [readText_eq hwhole' hbody' hm, readText_eq hwhole hbody rfl, hsame]
    · have hbroken' := hcut.trans hbroken
      exact ⟨fun {α} _ => by rw [readJson_cut hbroken, readJson_cut hbroken'],
        by rw [readText_cut hbroken, readText_cut hbroken']⟩

end DeployService
