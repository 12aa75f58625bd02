import DeployService.Channel.Reading
import DeployService.Payload.Application
import DeployService.Payload.LongRunning
import DeployService.Proofs.ShapeReading
import Mathlib.Data.List.Nodup

/-!
# What a record is read from

A record is read from the members that it knows, and from nothing else. Two documents are *alike* as
values of a shape (`Shape.Alike`) if one can be made of the other by putting the members of records
in another order, and by adding and removing members that the records do not know; this may happen
wherever in the document a record is expected. Alike documents are read alike
(`Shape.Alike.decode?_eq`).

A record is read from an object as soon as each of the members that it knows is written at most once
and can be read (`Fields.Legible`). `Fields.Takes` says what the record holds then.

The name of a member has to be a text, even if nobody knows the member: with a name such as half of
a surrogate pair, the document is not well formed.
-/

namespace DeployService

open DeployService.Http DeployService.Json

namespace Payload

/-! ## Members -/

/-- The members of a record, with their shapes. -/
def Fields.members : Fields → List (String × Shape)
  | .nil => []
  | .cons name _ s rest => (name, s) :: rest.members

theorem Fields.map_fst_members : (fs : Fields) → fs.members.map (·.1) = fs.names
  | .nil => rfl
  | .cons name _ _ rest => congrArg (name :: ·) rest.map_fst_members

theorem Fields.name_mem_of_member {fs : Fields} {name : String} {s : Shape}
    (h : (name, s) ∈ fs.members) : name ∈ fs.names := by
  rw [← fs.map_fst_members]
  exact List.mem_map_of_mem h

/-- Reads a member from what is written under its name. -/
def Shape.decodeMember? (s : Shape) (depth : Nat) : List Raw → Option s.Value
  | [] => some s.default
  | [r] => s.decode? depth r
  | _ => none

theorem Fields.decodeMembers?_cons (name : String) (omitEmpty : Bool) (s : Shape) (rest : Fields)
    (depth : Nat) (ms : List (String × Raw)) :
    (Fields.cons name omitEmpty s rest).decodeMembers? depth ms =
      (s.decodeMember? depth (membersNamed name ms)).bind fun v =>
        (rest.decodeMembers? depth ms).bind fun vs => some (v, vs) := by
  rw [Fields.decodeMembers?]
  rcases membersNamed name ms with _ | ⟨r, _ | ⟨r', rs⟩⟩ <;> rfl

theorem mem_membersNamed {name : String} {r : Raw} {ms : List (String × Raw)} :
    r ∈ membersNamed name ms ↔ (name, r) ∈ ms := by
  unfold membersNamed
  constructor
  · intro h
    obtain ⟨⟨name', r'⟩, hm, rfl⟩ := List.mem_map.mp h
    obtain ⟨hmem, hname⟩ := List.mem_filter.mp hm
    obtain rfl : name' = name := by simpa using hname
    exact hmem
  · intro h
    exact List.mem_map.mpr ⟨(name, r), List.mem_filter.mpr ⟨h, by simp⟩, rfl⟩

theorem membersNamed_cons_self (name : String) (r : Raw) (ms : List (String × Raw)) :
    membersNamed name ((name, r) :: ms) = r :: membersNamed name ms := by
  simp [membersNamed]

theorem membersNamed_cons_of_ne {name name' : String} (h : name' ≠ name) (r : Raw)
    (ms : List (String × Raw)) : membersNamed name ((name', r) :: ms) = membersNamed name ms := by
  simp [membersNamed, h]

/-- A record is read from what is written under the names that it knows. -/
theorem Fields.decodeMembers?_congr : (fs : Fields) → {depth : Nat} →
    {ms ms' : List (String × Raw)} →
    (∀ name s, (name, s) ∈ fs.members → s.decodeMember? depth (membersNamed name ms) =
      s.decodeMember? depth (membersNamed name ms')) →
    fs.decodeMembers? depth ms = fs.decodeMembers? depth ms'
  | .nil, _, _, _, _ => by rw [Fields.decodeMembers?, Fields.decodeMembers?]
  | .cons name omitEmpty s rest, depth, ms, ms', h => by
    have hfirst := h name s List.mem_cons_self
    have hrest := rest.decodeMembers?_congr fun name' s' hm =>
      h name' s' (List.mem_cons_of_mem _ hm)
    rw [Fields.decodeMembers?_cons, Fields.decodeMembers?_cons, hfirst, hrest]

/-- The order does not matter, since nothing is read from several values. -/
theorem Shape.decodeMember?_perm (s : Shape) (depth : Nat) {rs rs' : List Raw}
    (h : rs.Perm rs') : s.decodeMember? depth rs = s.decodeMember? depth rs' := by
  match rs with
  | [] => rw [List.nil_perm.mp h]
  | [r] => rw [List.singleton_perm.mp h]
  | r₁ :: r₂ :: rest =>
    have hlength := h.length_eq
    match rs' with
    | [] => simp at hlength
    | [_] => simp at hlength
    | _ :: _ :: _ => rfl

theorem Fields.decodeMembers?_perm (fs : Fields) (depth : Nat) {ms ms' : List (String × Raw)}
    (h : ms.Perm ms') : fs.decodeMembers? depth ms = fs.decodeMembers? depth ms' := by
  refine fs.decodeMembers?_congr fun name s _ => s.decodeMember?_perm depth ?_
  exact (h.filter _).map _

theorem Fields.decodeMembers?_unknown {fs : Fields} {name : String} (h : name ∉ fs.names)
    (depth : Nat) (r : Raw) (ms : List (String × Raw)) :
    fs.decodeMembers? depth ((name, r) :: ms) = fs.decodeMembers? depth ms := by
  refine fs.decodeMembers?_congr fun name' s hm => ?_
  have hne : name ≠ name' := by
    rintro rfl
    exact h (Fields.name_mem_of_member hm)
  rw [membersNamed_cons_of_ne hne]

theorem Fields.decodeMembers?_member {fs : Fields} {name : String} {depth : Nat} {r r' : Raw}
    (h : ∀ s, (name, s) ∈ fs.members → s.decode? depth r = s.decode? depth r')
    (ms : List (String × Raw)) :
    fs.decodeMembers? depth ((name, r) :: ms) = fs.decodeMembers? depth ((name, r') :: ms) := by
  refine fs.decodeMembers?_congr fun name' s hm => ?_
  by_cases hname : name = name'
  · subst hname
    rw [membersNamed_cons_self, membersNamed_cons_self]
    cases membersNamed name ms with
    | nil => exact h s hm
    | cons => rfl
  · rw [membersNamed_cons_of_ne hname, membersNamed_cons_of_ne hname]

/-! ## Names -/

theorem decodeNames?_cons (n : List UInt8) (r : Raw) (members : List (List UInt8 × Raw)) :
    decodeNames? ((n, r) :: members) =
      (decodeText? n).bind fun name =>
        (decodeNames? members).bind fun ms => some ((name, r) :: ms) := rfl

/-- What does not depend on the order of the named members does not depend on the order in which
they are written. -/
theorem decodeNames?_perm {β : Type} {members members' : List (List UInt8 × Raw)}
    (h : members.Perm members') {g : List (String × Raw) → Option β}
    (hg : ∀ ms ms', ms.Perm ms' → g ms = g ms') :
    (decodeNames? members).bind g = (decodeNames? members').bind g := by
  induction h generalizing g with
  | nil => rfl
  | cons m _ ih =>
    obtain ⟨n, r⟩ := m
    rw [decodeNames?_cons, decodeNames?_cons]
    cases decodeText? n with
    | none => rfl
    | some name =>
      have htail := ih (g := fun ms => g ((name, r) :: ms)) fun ms ms' hp =>
        hg _ _ (hp.cons (name, r))
      simpa [Option.bind_assoc] using htail
  | swap m m' members =>
    obtain ⟨n, r⟩ := m
    obtain ⟨n', r'⟩ := m'
    simp only [decodeNames?_cons]
    cases decodeText? n <;> cases decodeText? n' <;> try rfl
    cases decodeNames? members with
    | none => rfl
    | some ms => exact hg _ _ (.swap _ _ ms)
  | trans _ _ ih ih' => exact (ih hg).trans (ih' hg)

/-! ## Documents that are alike -/

/-- The trees differ at most in the order of the members of records, and in members that the records
do not know. -/
inductive Shape.Alike : Shape → Raw → Raw → Prop where
  | refl (s : Shape) (r : Raw) : Alike s r r
  | symm {s : Shape} {r r' : Raw} (h : Alike s r r') : Alike s r' r
  | trans {s : Shape} {r₁ r₂ r₃ : Raw} (h : Alike s r₁ r₂) (h' : Alike s r₂ r₃) : Alike s r₁ r₃
  /-- The members of a record are put in another order. -/
  | reordered {fs : Fields} {members members' : List (List UInt8 × Raw)}
    (h : members.Perm members') : Alike (.record fs) (.object members) (.object members')
  /-- A member that the record does not know is added, whatever is written in it. -/
  | unknown {fs : Fields} {n : List UInt8} {name : String}
    (hn : decodeText? n = some name) (hu : name ∉ fs.names) (r : Raw)
    (members : List (List UInt8 × Raw)) :
    Alike (.record fs) (.object members) (.object ((n, r) :: members))
  /-- The difference lies inside a member of a record. -/
  | member {fs : Fields} {n : List UInt8} {r r' : Raw}
    (h : ∀ name s, decodeText? n = some name → (name, s) ∈ fs.members → Alike s r r')
    (members : List (List UInt8 × Raw)) :
    Alike (.record fs) (.object ((n, r) :: members)) (.object ((n, r') :: members))
  /-- The difference lies inside a member of a record that is written as an array. -/
  | position {fs : Fields} {before : List Raw} {r r' : Raw}
    (h : ∀ name s, fs.members[before.length]? = some (name, s) → Alike s r r')
    (after : List Raw) :
    Alike (.record fs) (.array (before ++ r :: after)) (.array (before ++ r' :: after))
  /-- The difference lies inside an item of a list. -/
  | item {s : Shape} {r r' : Raw} (h : Alike s r r') (before after : List Raw) :
    Alike (.list s) (.array (before ++ r :: after)) (.array (before ++ r' :: after))
  /-- The difference lies inside a value that may be missing. -/
  | optional {s : Shape} {r r' : Raw} (h : Alike s r r') : Alike (.optional s) r r'

theorem Shape.Alike.null_iff {s : Shape} {r r' : Raw} (h : s.Alike r r') :
    r = .null ↔ r' = .null := by
  induction h with
  | refl => exact Iff.rfl
  | symm _ ih => exact ih.symm
  | trans _ _ ih ih' => exact ih.trans ih'
  | optional _ ih => exact ih
  | _ => simp

theorem Shape.decode?_optional (s : Shape) (depth : Nat) {r : Raw} (h : r ≠ .null) :
    (Shape.optional s).decode? depth r = (s.decode? depth r).map some := by
  cases r with
  | null => exact absurd rfl h
  | _ => rfl

theorem Fields.decodeItems?_position : (fs : Fields) → {depth : Nat} → (before : List Raw) →
    {r r' : Raw} →
    (∀ name s, fs.members[before.length]? = some (name, s) →
      s.decode? depth r = s.decode? depth r') →
    (after : List Raw) → fs.decodeItems? depth (before ++ r :: after) =
      fs.decodeItems? depth (before ++ r' :: after)
  | .nil, _, before, _, _, _, _ => by
    rw [Fields.decodeItems?, Fields.decodeItems?]
    cases before <;> rfl
  | .cons name omitEmpty s rest, _, [], _, _, h, _ => by
    rw [List.nil_append, List.nil_append, Fields.decodeItems?, Fields.decodeItems?,
      h name s rfl]
  | .cons name omitEmpty s rest, _, first :: before, _, _, h, after => by
    have hrest := rest.decodeItems?_position before (fun name' s' hm => h name' s' hm) after
    rw [List.cons_append, List.cons_append, Fields.decodeItems?, Fields.decodeItems?, hrest]

theorem mapM_replaced {β γ : Type} {f : β → Option γ} {b b' : β} (h : f b = f b')
    (before after : List β) : (before ++ b :: after).mapM f = (before ++ b' :: after).mapM f := by
  rw [List.mapM_append, List.mapM_append, List.mapM_cons, List.mapM_cons, h]

/-- **Alike documents are read alike.** -/
theorem Shape.Alike.decode?_eq {s : Shape} {r r' : Raw} (h : s.Alike r r') (depth : Nat) :
    s.decode? depth r = s.decode? depth r' := by
  induction h generalizing depth with
  | refl => rfl
  | symm _ ih => exact (ih depth).symm
  | trans _ _ ih ih' => exact (ih depth).trans (ih' depth)
  | @reordered fs _ _ hp =>
    cases depth with
    | zero => rfl
    | succ depth => exact decodeNames?_perm hp fun _ _ => fs.decodeMembers?_perm depth
  | @unknown fs n name hn hu r members =>
    cases depth with
    | zero => rfl
    | succ depth =>
      show (decodeNames? members).bind (fs.decodeMembers? depth) =
        (decodeNames? ((n, r) :: members)).bind (fs.decodeMembers? depth)
      rw [decodeNames?_cons, hn, Option.bind_some, Option.bind_assoc]
      congr 1
      funext ms
      exact (Fields.decodeMembers?_unknown hu depth r ms).symm
  | @member fs n r r' _ members ih =>
    cases depth with
    | zero => rfl
    | succ depth =>
      show (decodeNames? ((n, r) :: members)).bind (fs.decodeMembers? depth) =
        (decodeNames? ((n, r') :: members)).bind (fs.decodeMembers? depth)
      rw [decodeNames?_cons, decodeNames?_cons]
      cases hn : decodeText? n with
      | none => rfl
      | some name =>
        simp only [Option.bind_some, Option.bind_assoc]
        congr 1
        funext ms
        exact Fields.decodeMembers?_member (fun s hs => ih name s hn hs depth) ms
  | @position fs before _ _ _ after ih =>
    cases depth with
    | zero => rfl
    | succ depth =>
      exact fs.decodeItems?_position before (fun name s hm => ih name s hm depth) after
  | item _ before after ih =>
    cases depth with
    | zero => rfl
    | succ depth => exact mapM_replaced (ih depth) before after
  | @optional s r r' h ih =>
    by_cases hr : r = .null
    · rw [hr, h.null_iff.mp hr]
    · have hr' : r' ≠ .null := fun hnull => hr (h.null_iff.mpr hnull)
      rw [Shape.decode?_optional s depth hr, Shape.decode?_optional s depth hr', ih depth]

/-! ## Records of which only a part is written -/

/-- Each member that the record knows is written at most once and can be read. The named members are
those of the object. -/
structure Fields.Legible (fs : Fields) (depth : Nat) (members : List (List UInt8 × Raw))
    (ms : List (String × Raw)) : Prop where
  names : decodeNames? members = some ms
  distinct : ((ms.map (·.1)).filter (· ∈ fs.names)).Nodup
  read : ∀ name s r, (name, s) ∈ fs.members → (name, r) ∈ ms → (s.decode? depth r).isSome = true

/-- The values of a record are read from its members. A member that is absent takes its default. -/
def Fields.Takes (depth : Nat) (ms : List (String × Raw)) : (fs : Fields) → fs.Values → Prop
  | .nil, _ => True
  | .cons name _ s rest, (v, vs) =>
    ((∀ r, (name, r) ∉ ms) → v = s.default) ∧
      (∀ r, (name, r) ∈ ms → s.decode? depth r = some v) ∧ rest.Takes depth ms vs

theorem length_membersNamed (name : String) (ms : List (String × Raw)) :
    (membersNamed name ms).length = (ms.map (·.1)).count name := by
  rw [membersNamed, List.length_map, List.count, List.countP_map, List.countP_eq_length_filter]
  rfl

theorem Fields.Legible.length_le {fs : Fields} {depth : Nat} {members : List (List UInt8 × Raw)}
    {ms : List (String × Raw)} (h : fs.Legible depth members ms) {name : String}
    (hn : name ∈ fs.names) : (membersNamed name ms).length ≤ 1 := by
  have hcount := List.nodup_iff_count_le_one.mp h.distinct name
  rw [List.count_filter (by simpa using hn)] at hcount
  rw [length_membersNamed]
  exact hcount

theorem Fields.decodeMembers?_takes : (fs : Fields) → {depth : Nat} →
    {ms : List (String × Raw)} →
    (∀ name ∈ fs.names, (membersNamed name ms).length ≤ 1) →
    (∀ name s r, (name, s) ∈ fs.members → (name, r) ∈ ms → (s.decode? depth r).isSome = true) →
    ∃ vs, fs.decodeMembers? depth ms = some vs ∧ fs.Takes depth ms vs
  | .nil, _, _, _, _ => by
    refine ⟨(), ?_, trivial⟩
    rw [Fields.decodeMembers?]
  | .cons name omitEmpty s rest, depth, ms, hone, hread => by
    obtain ⟨vs, hvs, htakes⟩ := rest.decodeMembers?_takes
      (fun name' hn => hone name' (List.mem_cons_of_mem _ hn))
      (fun name' s' r hm => hread name' s' r (List.mem_cons_of_mem _ hm))
    have hlength := hone name List.mem_cons_self
    have hwritten : ∀ r, (name, r) ∈ ms ↔ r ∈ membersNamed name ms :=
      fun r => mem_membersNamed.symm
    rw [Fields.decodeMembers?_cons]
    rcases hms : membersNamed name ms with _ | ⟨r, _ | ⟨r', rs⟩⟩
    · have habsent : ∀ r, (name, r) ∉ ms := by
        intro r hr
        rw [hwritten, hms] at hr
        cases hr
      refine ⟨(s.default, vs), ?_, fun _ => rfl, fun r hr => absurd hr (habsent r), htakes⟩
      rw [hvs]
      rfl
    · have hmem : (name, r) ∈ ms := by
        rw [hwritten, hms]
        exact List.mem_singleton_self r
      obtain ⟨v, hv⟩ := Option.isSome_iff_exists.mp (hread name s r List.mem_cons_self hmem)
      refine ⟨(v, vs), ?_, fun habsent => absurd hmem (habsent r), fun r' hr' => ?_, htakes⟩
      · rw [Shape.decodeMember?, hv, hvs]
        rfl
      · rw [hwritten, hms, List.mem_singleton] at hr'
        rw [hr', hv]
    · rw [hms] at hlength
      simp at hlength

/-- A record is read from an object that is legible. -/
theorem Fields.Legible.decode?_eq {fs : Fields} {depth : Nat}
    {members : List (List UInt8 × Raw)} {ms : List (String × Raw)}
    (h : fs.Legible depth members ms) :
    ∃ vs : (Shape.record fs).Value,
      (Shape.record fs).decode? (depth + 1) (.object members) = some vs ∧
        fs.Takes depth ms vs := by
  obtain ⟨vs, hvs, htakes⟩ :=
    fs.decodeMembers?_takes (fun _ hn => h.length_le hn) h.read
  refine ⟨vs, ?_, htakes⟩
  show (decodeNames? members).bind (fs.decodeMembers? depth) = some vs
  rw [h.names, Option.bind_some, hvs]

theorem Fields.decodeMembers?_nil : (fs : Fields) → (depth : Nat) →
    fs.decodeMembers? depth [] = some fs.defaults
  | .nil, _ => by rw [Fields.decodeMembers?, Fields.defaults]
  | .cons name omitEmpty s rest, depth => by
    rw [Fields.decodeMembers?_cons, rest.decodeMembers?_nil, Fields.defaults]
    rfl

/-! ## Payloads -/

variable {α : Type} [Payload α]

/-- The values of the members of a payload that is a record. -/
def valuesOf {fs : Fields} (hs : shape α = .record fs) (a : α) : (Shape.record fs).Value :=
  cast (congrArg Shape.Value hs) (toValue a)

theorem valuesOf_ofValue {fs : Fields} (hs : shape α = .record fs)
    (vs : (Shape.record fs).Value) :
    valuesOf hs (ofValue (cast (congrArg Shape.Value hs).symm vs)) = vs := by
  rw [valuesOf, toValue_ofValue, cast_cast, cast_eq]

theorem Shape.decode?_cast {s : Shape} {fs : Fields} (hs : s = .record fs) {depth : Nat} {r : Raw}
    {vs : (Shape.record fs).Value} (h : (Shape.record fs).decode? depth r = some vs) :
    s.decode? depth r = some (cast (congrArg Shape.Value hs).symm vs) := by
  subst hs
  exact h

theorem readJson_eq {response : Response} {r : Raw} (hwhole : response.cut = none)
    (hread : Raw.read? response.body = some r) :
    (readJson response : Except Error α) =
      (consumerOf response).bind fun consumer =>
        match consumer with
        | .json =>
          match (shape α).decode? maxDepth r with
          | some v => .ok (ofValue v)
          | none => .error (.externalIn "Failed to parse JSON response" .json)
        | .text =>
          .error (.plain ("Expected a JSON response but received " ++
            mediaType response.headers)) := by
  have hbody : response.body.isEmpty = false := by
    cases hb : response.body with
    | nil =>
      rw [hb] at hread
      cases hread
    | cons => rfl
  have hdecode : (decode? response.body : Option α) =
      ((shape α).decode? maxDepth r).map ofValue := by
    rw [decode?, hread, Option.bind_some]
  rw [readJson_whole hwhole, hbody, hdecode]
  rcases consumerOf response with e | _ | _
  · rfl
  · cases (shape α).decode? maxDepth r <;> rfl
  · rfl

/-- Responses with the same headers and alike documents are read alike. -/
def ReadAlike (α : Type) [Payload α] : Prop :=
  ∀ (response : Response) (body : List UInt8) (r r' : Raw),
    Raw.read? response.body = some r → Raw.read? body = some r' → (shape α).Alike r r' →
      (readJson response : Except Error α) = readJson { response with body }

theorem readAlike (α : Type) [Payload α] : ReadAlike α := by
  intro response body r r' hread hread' halike
  rcases Option.eq_none_or_eq_some response.cut with hc | ⟨reason, hc⟩
  · have hother : ({ response with body } : Response).cut = none := hc
    rw [readJson_eq hc hread, readJson_eq hother hread', halike.decode?_eq]
    rfl
  · have hother : ({ response with body } : Response).cut = some reason := hc
    rw [readJson_cut hc, readJson_cut hother]

/-- The payloads of a type are read from the members of the given record. -/
structure ReadFromMembers (α : Type) [Payload α] (fs : Fields) : Prop where
  record : shape α = .record fs
  alike : ReadAlike α
  /-- Lists of them are, too. -/
  lists : ReadAlike (List α)
  /-- What is legible is read, and what is absent takes its default. -/
  takes : ∀ (response : Response) (members : List (List UInt8 × Raw)) (ms : List (String × Raw)),
    consumerOf response = .ok .json → response.cut = none →
      Raw.read? response.body = some (.object members) → fs.Legible (maxDepth - 1) members ms →
        ∃ a : α, readJson response = .ok a ∧ fs.Takes (maxDepth - 1) ms (valuesOf record a)
  /-- The empty object stands for the default value. -/
  nothing : ∀ response : Response, consumerOf response = .ok .json → response.cut = none →
    Raw.read? response.body = some (.object []) → readJson response = .ok (empty : α)

theorem readFromMembers {fs : Fields} (hs : shape α = .record fs) : ReadFromMembers α fs where
  record := hs
  alike := readAlike α
  lists := readAlike (List α)
  takes := by
    intro response members ms hjson hwhole hread hl
    obtain ⟨vs, hvs, htakes⟩ := hl.decode?_eq
    have hdecode : (shape α).decode? maxDepth (.object members) =
        some (cast (congrArg Shape.Value hs).symm vs) := Shape.decode?_cast hs hvs
    refine ⟨ofValue (cast (congrArg Shape.Value hs).symm vs), ?_, ?_⟩
    · rw [readJson_eq hwhole hread, hjson, hdecode]
      rfl
    · rw [valuesOf_ofValue]
      exact htakes
  nothing := by
    intro response hjson hwhole hread
    have hdefault : ∀ {s : Shape}, s = .record fs →
        s.decode? maxDepth (.object []) = some s.default := by
      rintro s rfl
      exact fs.decodeMembers?_nil (maxDepth - 1)
    rw [readJson_eq hwhole hread, hjson, hdefault hs]
    rfl

/-- **Payloads are read from the members that they know.** The order of the members of an object and
members with other names do not matter, neither at the top of a document nor further down. If no
member that the type knows is written twice and each of them can be read, the payload is read, and
the other members have their defaults. So it is for every record inside a record. -/
theorem payloads_read_from_known_members :
    (ReadFromMembers Mta Mta.fields ∧ ReadFromMembers MtaMetadata MtaMetadata.fields ∧
      ReadFromMembers Module Module.fields ∧ ReadFromMembers Operation Operation.fields ∧
      ReadFromMembers Message Message.fields ∧ ReadFromMembers LogFile LogFile.fields ∧
      ReadFromMembers FileMetadata FileMetadata.fields ∧
      ReadFromMembers ServiceInfo ServiceInfo.fields ∧
      ReadFromMembers Components Components.fields ∧
      ReadFromMembers LongRunning.Metadata LongRunning.Metadata.fields ∧
      ReadFromMembers LongRunning.Log LongRunning.Log.fields ∧
      ReadFromMembers LongRunning.Task LongRunning.Task.fields ∧
      ReadFromMembers LongRunning.Failure LongRunning.Failure.fields ∧
      ReadFromMembers LongRunning.Action LongRunning.Action.fields) ∧
    ∀ (fs : Fields) (depth : Nat) (members : List (List UInt8 × Raw)) (ms : List (String × Raw)),
      fs.Legible depth members ms → ∃ vs : (Shape.record fs).Value,
        (Shape.record fs).decode? (depth + 1) (.object members) = some vs ∧
          fs.Takes depth ms vs := by
  refine ⟨?_, fun fs depth members ms h => h.decode?_eq⟩
  refine ⟨?_, ?_, ?_, ?_, ?_, ?_, ?_, ?_, ?_, ?_, ?_, ?_, ?_, ?_⟩ <;> exact readFromMembers rfl

/-- What is known of an application, and two members that nobody knows. -/
def extendedMta : Json :=
  .object [("metadata", .object [("owner", .bool true), ("id", .text "a")]), ("rank", .null)]

/-- What is known of the application. -/
def plainMta : Json := .object [("metadata", .object [("id", .text "a")])]

theorem extendedMta_alike : (shape Mta).Alike extendedMta.written plainMta.written := by
  have hswap : (shape Mta).Alike extendedMta.written
      (.object (writtenMembers [("rank", .null),
        ("metadata", .object [("owner", .bool true), ("id", .text "a")])])) :=
    .reordered (.swap _ _ _)
  have hrank : (shape Mta).Alike
      (.object (writtenMembers [("rank", .null),
        ("metadata", .object [("owner", .bool true), ("id", .text "a")])]))
      (.object (writtenMembers
        [("metadata", .object [("owner", .bool true), ("id", .text "a")])])) :=
    .symm (.unknown (decodeText?_spelling "rank") (by decide) _ _)
  refine hswap.trans (hrank.trans (.member (fun name s hn hs => ?_) _))
  obtain rfl : "metadata" = name := by
    rw [decodeText?_spelling] at hn
    exact Option.some.inj hn
  obtain rfl : s = shape MtaMetadata := by
    simpa [Mta.fields, Fields.members] using hs
  exact .symm (.unknown (decodeText?_spelling "owner") (by decide) _ _)

theorem extendedMta_read :
    let response : Response := { status := 200, headers := [], body := extendedMta.bytes }
    let plain : Response := { status := 200, headers := [], body := plainMta.bytes }
    Raw.read? response.body = some extendedMta.written ∧
      Raw.read? plain.body = some plainMta.written ∧
      (readJson response : Except Error Mta) = readJson plain ∧
      (readJson plain : Except Error Mta).toOption.map (·.metadata.id) = some "a" := by
  intro response plain
  have hmetadata : FloatFree (.object [("owner", .bool true), ("id", .text "a")]) :=
    .object (List.forall_mem_cons.mpr ⟨.bool true, List.forall_mem_singleton.mpr (.text "a")⟩)
  have hplain : FloatFree (.object [("id", .text "a")]) :=
    .object (List.forall_mem_singleton.mpr (.text "a"))
  have hread : Raw.read? response.body = some extendedMta.written :=
    Json.read?_bytes (.object
      (List.forall_mem_cons.mpr ⟨hmetadata, List.forall_mem_singleton.mpr .null⟩))
  have hread' : Raw.read? plain.body = some plainMta.written :=
    Json.read?_bytes (.object (List.forall_mem_singleton.mpr hplain))
  exact ⟨hread, hread', payloads_read_from_known_members.1.1.alike response plain.body _ _ hread
    hread' extendedMta_alike, by decide +kernel⟩

end Payload

end DeployService
