import DeployService.Proofs.Base64Forms
import DeployService.Proofs.JsonObjects
import DeployService.Proofs.ServedTokens
import DeployService.Proofs.Splitting
import Mathlib

/-!
# What a token says about its expiry

The time at which a token expires stands inside of three formats: between the first two dots there
is a text in Base64, it holds a JSON object, and the last member `exp` of the object is a number.
Each of them is read exactly, so a token has an expiry if and only if all of this holds
(`Jwt.expiry?_eq_some_iff`), and what can be wrong with the others is listed by `Jwt.Unreadable`.

A kept token of which this cannot be read is not served again. A call for it asks the source, and
what the source prints takes its place.
-/

namespace DeployService

open DeployService.Text

namespace Jwt

variable {token first payload rest : String}

/-- The token has these parts, with dots between them. More dots may follow in the last part. -/
structure HasParts (token first payload rest : String) : Prop where
  eq : token = first ++ "." ++ payload ++ "." ++ rest
  first : '.' ∉ first.toList
  payload : '.' ∉ payload.toList

theorem HasParts.splitOn (h : HasParts token first payload rest) :
    ∃ more others, Text.splitOn '.' token = first :: payload :: more :: others := by
  have hchars : token.toList = first.toList ++ '.' :: (payload.toList ++ '.' :: rest.toList) := by
    rw [h.eq]
    simp
  have hsplit : Text.splitOn '.' token = first :: payload :: Text.splitOn '.' rest := by
    rw [Text.splitOn, hchars, splitChars_append h.first, splitChars_append h.payload,
      List.map_cons, List.map_cons, String.ofList_toList, String.ofList_toList, Text.splitOn]
  have hlength := length_splitOn '.' rest
  rw [hsplit]
  cases hrest : Text.splitOn '.' rest with
  | nil =>
    rw [hrest] at hlength
    simp at hlength
  | cons more others => exact ⟨more, others, rfl⟩

theorem HasParts.unique {first' payload' rest' : String} (h : HasParts token first payload rest)
    (h' : HasParts token first' payload' rest') : first = first' ∧ payload = payload' := by
  obtain ⟨more, others, hsplit⟩ := h.splitOn
  obtain ⟨more', others', hsplit'⟩ := h'.splitOn
  rw [hsplit] at hsplit'
  obtain ⟨hfirst, htail⟩ := List.cons.inj hsplit'
  exact ⟨hfirst, (List.cons.inj htail).1⟩

/-- A token with two dots has such parts. -/
theorem exists_hasParts (h : 2 ≤ token.toList.count '.') :
    ∃ first payload rest, HasParts token first payload rest := by
  have hmem : '.' ∈ token.toList := List.count_pos_iff.mp (by omega)
  obtain ⟨first, behind, htoken, hfirst⟩ := List.eq_append_cons_of_mem hmem
  have hnone : first.count '.' = 0 := List.count_eq_zero.mpr hfirst
  rw [htoken, List.count_append, List.count_cons_self, hnone] at h
  obtain ⟨payload, rest, hbehind, hpayload⟩ :=
    List.eq_append_cons_of_mem (List.count_pos_iff.mp (show 0 < behind.count '.' by omega))
  refine ⟨String.ofList first, String.ofList payload, String.ofList rest, ?_, ?_, ?_⟩
  · rw [← String.toList_inj, htoken, hbehind]
    simp
  · rwa [String.toList_ofList]
  · rwa [String.toList_ofList]

theorem claims?_of_parts (h : HasParts token first payload rest) :
    claims? token = if first = "" ∨ payload = "" then none
      else (Base64.decode? payload).bind Json.ofBytes? := by
  obtain ⟨more, others, hsplit⟩ := h.splitOn
  rw [claims?, hsplit]

theorem claims?_of_undotted (h : token.toList.count '.' < 2) : claims? token = none := by
  have hlength := length_splitOn '.' token
  unfold claims?
  split
  · next hsplit =>
    rw [hsplit] at hlength
    simp only [List.length_cons] at hlength
    omega
  · rfl

/-! ## Reading the time -/

/-- The value is a number. -/
def IsNumeric (value : Json) : Prop := (∃ n, value = .integer n) ∨ ∃ x, value = .float x

theorem seconds?_eq_none_iff {value : Json} : seconds? value = none ↔ ¬IsNumeric value := by
  cases value <;> simp [seconds?, IsNumeric]

/-- A token has an expiry if its claims are an object in Base64, and the last member `exp` of the
object is a number. -/
theorem expiry?_eq_some_iff {expiry : Int} :
    expiry? token = some expiry ↔ ∃ first bytes rest members value,
      HasParts token first (Base64.encode bytes) rest ∧ first ≠ "" ∧ Json.IsObject bytes members ∧
        Json.lookup? "exp" members.reverse = some value ∧ seconds? value = some expiry := by
  constructor
  · intro h
    obtain ⟨value, hvalue, hseconds⟩ := Option.bind_eq_some_iff.mp h
    obtain ⟨claims, hclaims, hmember⟩ := Option.bind_eq_some_iff.mp hvalue
    have hdots : 2 ≤ token.toList.count '.' := by
      by_contra hfew
      rw [claims?_of_undotted (by omega)] at hclaims
      cases hclaims
    obtain ⟨first, payload, rest, hparts⟩ := exists_hasParts hdots
    rw [claims?_of_parts hparts] at hclaims
    split at hclaims
    · cases hclaims
    · next hne =>
      obtain ⟨bytes, hbytes, hread⟩ := Option.bind_eq_some_iff.mp hclaims
      obtain rfl := Base64.decode?_eq_some_iff.mp hbytes
      have hlast : (Json.ofBytes? bytes).bind (·.member? "exp") = some value := by
        rw [hread]
        exact hmember
      obtain ⟨members, hobject, hlookup⟩ := Json.member?_ofBytes?.mp hlast
      exact ⟨first, bytes, rest, members, value, hparts, fun h => hne (.inl h), hobject, hlookup,
        hseconds⟩
  · rintro ⟨first, bytes, rest, members, value, hparts, hfirst, hobject, hlookup, hseconds⟩
    have hpayload := Base64.encode_ne_empty hobject.ne_nil
    have hdecode : Base64.decode? (Base64.encode bytes) = some bytes :=
      Base64.decode?_eq_some_iff.mpr rfl
    have hmember := Json.member?_ofBytes?.mpr ⟨members, hobject, hlookup⟩
    rw [expiry?, claims?_of_parts hparts, if_neg (not_or.mpr ⟨hfirst, hpayload⟩), hdecode,
      Option.bind_some, hmember, Option.bind_some, hseconds]

/-- What can be wrong with a token of which the expiry cannot be read. -/
inductive Unreadable (token : String) : Prop where
  /-- It has fewer than two dots. -/
  | undotted (h : token.toList.count '.' < 2)
  /-- There is nothing before the first dot. -/
  | headless {payload rest : String} (h : HasParts token "" payload rest)
  /-- There is nothing between the first two dots. -/
  | empty {first rest : String} (h : HasParts token first "" rest)
  /-- What stands there is not an object in Base64. -/
  | malformed {first payload rest : String} (h : HasParts token first payload rest)
    (hp : ∀ bytes members, payload = Base64.encode bytes → ¬Json.IsObject bytes members)
  /-- The last member `exp` of the object is no number, or there is none. -/
  | timeless {first rest : String} {bytes : List UInt8} {members : List (String × Json)}
    (h : HasParts token first (Base64.encode bytes) rest) (ho : Json.IsObject bytes members)
    (he : ∀ value, Json.lookup? "exp" members.reverse = some value → ¬IsNumeric value)

theorem Unreadable.expiry? (h : Unreadable token) : expiry? token = none := by
  rw [Option.eq_none_iff_forall_ne_some]
  intro expiry hexpiry
  obtain ⟨first, bytes, rest, members, value, hparts, hfirst, hobject, hlookup, hseconds⟩ :=
    expiry?_eq_some_iff.mp hexpiry
  cases h with
  | undotted h =>
    have hnone := claims?_of_undotted h
    rw [Jwt.expiry?, hnone] at hexpiry
    cases hexpiry
  | headless h => exact hfirst (hparts.unique h).1
  | empty h => exact Base64.encode_ne_empty hobject.ne_nil (hparts.unique h).2
  | malformed h hp => exact hp bytes members (hparts.unique h).2.symm hobject
  | @timeless _ _ bytes' members' h ho he =>
    have hsame : bytes = bytes' := by
      have hdecode := Base64.decode?_eq_some_iff.mpr (hparts.unique h).2
      rw [Base64.decode?_eq_some_iff.mpr rfl] at hdecode
      exact Option.some.inj hdecode
    subst hsame
    obtain rfl := hobject.unique ho
    have hnone := seconds?_eq_none_iff.mpr (he value hlookup)
    rw [hnone] at hseconds
    cases hseconds

/-- Nothing else can be wrong. -/
theorem unreadable_of_expiry? (h : expiry? token = none) : Unreadable token := by
  by_cases hdots : token.toList.count '.' < 2
  · exact .undotted hdots
  obtain ⟨first, payload, rest, hparts⟩ := exists_hasParts (Nat.not_lt.mp hdots)
  by_cases hfirst : first = ""
  · subst hfirst
    exact .headless hparts
  by_cases hobject : ∃ bytes members, payload = Base64.encode bytes ∧ Json.IsObject bytes members
  · obtain ⟨bytes, members, rfl, hobject⟩ := hobject
    refine .timeless hparts hobject fun value hlookup => ?_
    rw [← seconds?_eq_none_iff, Option.eq_none_iff_forall_ne_some]
    intro expiry hseconds
    have hexpiry := expiry?_eq_some_iff.mpr
      ⟨first, bytes, rest, members, value, hparts, hfirst, hobject, hlookup, hseconds⟩
    rw [h] at hexpiry
    cases hexpiry
  · refine .malformed hparts fun bytes members hpayload hisObject => ?_
    exact hobject ⟨bytes, members, hpayload, hisObject⟩

theorem expiry?_eq_none_iff : expiry? token = none ↔ Unreadable token :=
  ⟨unreadable_of_expiry?, Unreadable.expiry?⟩

/-! ## A time that is written as an integer -/

open Json in
/-- The bytes are a JSON object of which the last member `exp` is written as an integer, without
fraction and exponent. All that is asked of the other members is that they can be read. -/
inductive ClaimsExpiry (expiry : Int) (bytes : List UInt8) : Prop where
  | mk {name : List UInt8} {negative : Bool} {digits : List Nat}
    {before after : List (List UInt8 × Raw)}
    (hform : Raw.IsElement
      (.object (before ++ (name, .number ⟨negative, digits, none, none⟩) :: after)) bytes)
    (hname : AreSpellings "exp".toList name)
    (hvalue : expiry = if negative then -(digitsValue 10 digits : Int) else digitsValue 10 digits)
    (hbefore : ∀ w ∈ before, ∃ m, ReadsAs w m)
    (hafter : ∀ w ∈ after, ∃ m, ReadsAs w m ∧ m.1 ≠ "exp")

/-- The literal of an integer is read as it is, if a binary floating-point number holds it exactly.
Minus zero is a floating-point number by itself. -/
theorem seconds?_of_literal (negative : Bool) {digits : List Nat}
    (h : digitsValue 10 digits < 9007199254740992) :
    ∃ number, (Json.NumberLiteral.mk negative digits none none).value? = some number ∧
      seconds? (Json.ofNumber number) =
        some (if negative then -(digitsValue 10 digits : Int) else digitsValue 10 digits) := by
  have htake : Json.takeDigits 0 digits = (digitsValue 10 digits, 0) := by
    have hfits : digits.foldl (fun v d => v * 10 + d) 0 ≤ Json.maxSignificand := by
      have hvalue : digits.foldl (fun v d => v * 10 + d) 0 = digitsValue 10 digits := rfl
      rw [hvalue, Json.maxSignificand]
      omega
    exact Json.takeDigits_eq digits 0 hfits
  generalize digitsValue 10 digits = v at h htake
  unfold Json.NumberLiteral.value?
  simp only [htake, if_true]
  cases negative with
  | false => exact ⟨_, rfl, seconds?_integer (by simpa using h)⟩
  | true =>
    simp only [if_true]
    by_cases hzero : v = 0
    · subst hzero
      rw [if_pos (.inl rfl)]
      exact ⟨_, rfl, by decide +kernel⟩
    · rw [if_neg (by omega)]
      exact ⟨_, rfl, seconds?_integer (by omega)⟩

theorem ClaimsExpiry.isObject {expiry : Int} {bytes : List UInt8} (h : ClaimsExpiry expiry bytes)
    (hbound : expiry.natAbs < 9007199254740992) :
    ∃ members value, Json.IsObject bytes members ∧
      Json.lookup? "exp" members.reverse = some value ∧ seconds? value = some expiry := by
  obtain @⟨name, negative, digits, before, after, hform, hname, hvalue, hbefore, hafter⟩ := h
  have hdigits : digitsValue 10 digits < 9007199254740992 := by
    subst hvalue
    split at hbound <;> omega
  obtain ⟨number, hnumber, hseconds⟩ := seconds?_of_literal negative hdigits
  have hmember : Json.ReadsAs (name, .number ⟨negative, digits, none, none⟩)
      ("exp", Json.ofNumber number) := by
    refine ⟨(Json.decodeText?_eq_some_iff hname.quotable).mpr hname, ?_⟩
    show (Json.NumberLiteral.value? _).map Json.ofNumber = _
    rw [hnumber, Option.map_some]
  obtain ⟨first, hfirst, -⟩ := Json.exists_members (P := fun _ => True)
    fun w hw => (hbefore w hw).imp fun m hm => ⟨hm, trivial⟩
  obtain ⟨last, hlast, hother⟩ := Json.exists_members hafter
  refine ⟨first ++ ("exp", Json.ofNumber number) :: last, _, ⟨_, hform, ?_⟩, ?_,
    hvalue ▸ hseconds⟩
  · exact List.rel_append hfirst (.cons hmember hlast)
  · have hreverse : (first ++ ("exp", Json.ofNumber number) :: last).reverse =
        last.reverse ++ ("exp", Json.ofNumber number) :: first.reverse := by simp
    have hskip : ∀ m ∈ last.reverse, m.1 ≠ "exp" := fun m hm => hother m (List.mem_reverse.mp hm)
    rw [hreverse, Json.lookup?_append_of_ne hskip, Json.lookup?, if_pos rfl]

theorem expiry?_of_claims {expiry : Int} {bytes : List UInt8} (hfirst : first ≠ "")
    (hdot : '.' ∉ first.toList) (h : ClaimsExpiry expiry bytes)
    (hbound : expiry.natAbs < 9007199254740992) :
    expiry? (first ++ "." ++ Base64.encode bytes ++ "." ++ rest) = some expiry := by
  obtain ⟨members, value, hobject, hlookup, hseconds⟩ := h.isObject hbound
  have hparts : HasParts (first ++ "." ++ Base64.encode bytes ++ "." ++ rest) first
      (Base64.encode bytes) rest := ⟨rfl, hdot, Base64.dot_not_mem_encode bytes⟩
  exact expiry?_eq_some_iff.mpr
    ⟨first, bytes, rest, members, value, hparts, hfirst, hobject, hlookup, hseconds⟩

end Jwt

/-! ## Kept tokens -/

namespace TokenState

variable (source : TokenSource) (now : Int)

/-- A call for which a token is kept that cannot be served: the source is asked, and what it prints
takes the place of the kept token. -/
structure Replaces (s : TokenState) : Prop where
  asked : (Serving.of source now s).answers = [s.answers s.asked]
  /-- A token is only served if it has just been printed. -/
  served : ∀ token, (Serving.of source now s).result = .ok token ↔
    ∃ printed, s.answers s.asked = .ok printed ∧ Token.ofPrinted? printed = some token.value
  kept : ∀ printed value, s.answers s.asked = .ok printed → Token.ofPrinted? printed = some value →
    ((TokenSupply.kept source).next now s).2.kept = some ⟨value, now⟩

variable {source now}

theorem served?_of_unreadable {kept : KeptToken} (h : Jwt.Unreadable kept.value) :
    kept.served? now = none := by
  rw [KeptToken.served?, h.expiry?]

theorem replaces_unreadable {s : TokenState} {kept : KeptToken} (hk : s.kept = some kept)
    (h : Jwt.Unreadable kept.value) : s.Replaces source now := by
  have hnone : s.kept.bind (·.served? now) = none := by
    rw [hk, Option.bind_some, served?_of_unreadable h]
  obtain ⟨hasked, hserved⟩ := asks_of_unserved source hnone
  refine ⟨hasked, hserved, fun printed value ha hp => ?_⟩
  have hobtained : (Serving.of source now s).obtained? = some ⟨value, now⟩ := by
    rw [Serving.obtained?, hasked, ha]
    simp only [hp, Option.map_some]
    rfl
  rw [kept_step, hobtained, Option.some_or]

/-- An unreadable token is never served again: it is obtained in the call in which it is served. -/
theorem obtained_of_unreadable {s : TokenState} {token : Token}
    (hr : (Serving.of source now s).result = .ok token) (h : Jwt.Unreadable token.value) :
    (Serving.of source now s).obtained? = some ⟨token.value, now⟩ := by
  have hnext := next_kept source now s
  generalize Serving.of source now s = o at hnext hr
  generalize ((TokenSupply.kept source).next now s).2 = s' at hnext
  cases hnext with
  | again hserved =>
    cases hr
    obtain ⟨kept, -, hmay⟩ := Option.bind_eq_some_iff.mp hserved
    obtain ⟨rfl, -⟩ := served?_eq_some.mp hmay
    rw [served?_of_unreadable h] at hmay
    cases hmay
  | failed => cases hr
  | unusable => cases hr
  | obtained _ _ hp =>
    cases hr
    simp [Serving.obtained?, hp]

theorem list_obtained_of_unreadable (clock : List Int) {s : TokenState} :
    ∀ o ∈ Serving.list source clock s, ∀ token, o.result = .ok token →
      Jwt.Unreadable token.value → o.obtained? = some ⟨token.value, o.now⟩ := by
  induction clock generalizing s with
  | nil => simp [Serving.list]
  | cons now clock ih =>
    intro o ho token hr h
    rcases List.mem_cons.mp ho with rfl | ho
    · exact obtained_of_unreadable hr h
    · exact ih o ho token hr h

end TokenState

/-- **The expiry is read from the claims.** Every integer that a binary floating-point number holds
exactly is read from the claims in which it is the last member `exp`, whatever else stands in them
and behind them. The tokens of which no expiry can be read are known, and such a token is never
served from what is kept: in every call for it the source is asked once, and what the source prints
takes its place. -/
theorem expiry_read_from_claims :
    (∀ (first third : String) (bytes : List UInt8) (expiry : Int), first ≠ "" →
      '.' ∉ first.toList → Jwt.ClaimsExpiry expiry bytes → expiry.natAbs < 2 ^ 53 →
        Jwt.expiry? (first ++ "." ++ Base64.encode bytes ++ "." ++ third) = some expiry) ∧
    (∀ token, Jwt.expiry? token = none ↔ Jwt.Unreadable token) ∧
    (∀ (source : TokenSource) (now : Int) (s : TokenState) (kept : KeptToken),
      s.kept = some kept → Jwt.Unreadable kept.value → s.Replaces source now) ∧
    ∀ (source : TokenSource) (clock : List Int) (s : TokenState),
      ∀ o ∈ Serving.list source clock s, ∀ token, o.result = .ok token →
        Jwt.Unreadable token.value → o.obtained? = some ⟨token.value, o.now⟩ := by
  refine ⟨?_, fun _ => Jwt.expiry?_eq_none_iff, ?_, ?_⟩
  · intro first third bytes expiry hfirst hdot h hbound
    exact Jwt.expiry?_of_claims hfirst hdot h hbound
  · intro source now s kept hk h
    exact TokenState.replaces_unreadable hk h
  · intro source clock s
    exact TokenState.list_obtained_of_unreadable clock

/-- Claims in which the member `exp` occurs twice. -/
def repeatedClaims : List UInt8 :=
  Utf8.encode "\x7b\"exp\":\"x\", \"exp\" : 2000,\"a\":null\x7d"

theorem repeatedClaims_claim : Jwt.ClaimsExpiry 2000 repeatedClaims := by
  have hread : Json.Raw.read? repeatedClaims = some (.object ([([0x65, 0x78, 0x70], .text [0x78])] ++
      ([0x65, 0x78, 0x70], .number ⟨false, [2, 0, 0, 0], none, none⟩) :: [([0x61], .null)])) := by
    cbv
  have hname : Json.decodeText? [0x65, 0x78, 0x70] = some "exp" := by cbv
  have htext : Json.Raw.readText? [0x65, 0x78, 0x70, 0x22] = some ([0x65, 0x78, 0x70], []) := by
    decide
  refine .mk (Json.Raw.read?_eq_some_iff.mp hread)
    ((Json.decodeText?_eq_some_iff (Json.Raw.quotable_of_readText? htext).1).mp hname) (by decide)
    ?_ ?_
  · rw [List.forall_mem_singleton]
    exact ⟨("exp", .text "x"), hname, by cbv⟩
  · rw [List.forall_mem_singleton]
    exact ⟨("a", .null), ⟨by cbv, by cbv⟩, by decide⟩

/-- The last one of two times is read, and a kept token without one is replaced. -/
theorem opaque_token_replaced :
    let s : TokenState :=
      { answers := fun _ => .ok "bearer opaque", asked := 0, kept := some ⟨"opaque", 1000⟩ }
    Jwt.ClaimsExpiry 2000 repeatedClaims ∧
      Jwt.expiry? ("e30" ++ "." ++ Base64.encode repeatedClaims ++ "." ++ "a.b") = some 2000 ∧
      Jwt.Unreadable "opaque" ∧ s.Replaces .direct 1001 ∧
      (Serving.of .direct 1001 s).obtained? = some ⟨"opaque", 1001⟩ := by
  intro s
  obtain ⟨hexpiry, hunreadable, hreplaces, hobtained⟩ := expiry_read_from_claims
  have hopaque : Jwt.Unreadable "opaque" := (hunreadable "opaque").mp (by decide +kernel)
  have hserved : (Serving.of .direct 1001 s).result = .ok ⟨"opaque"⟩ := by decide +kernel
  exact ⟨repeatedClaims_claim,
    hexpiry "e30" "a.b" _ _ (by decide) (by decide +kernel) repeatedClaims_claim (by decide),
    hopaque, hreplaces .direct 1001 s ⟨"opaque", 1000⟩ rfl hopaque,
    hobtained .direct [1001] s _ List.mem_cons_self ⟨"opaque"⟩ hserved hopaque⟩

end DeployService
