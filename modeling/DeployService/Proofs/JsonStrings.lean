import DeployService.Proofs.JsonGrammar

/-!
# What a JSON string denotes

The bytes between the quotes of a string denote a text exactly if they spell its characters one
after the other (`Json.decodeText?_eq_some_iff`). Each character stands for itself or is escaped,
and the escapes come in three kinds (`Json.IsSpelling`).
-/

namespace DeployService

open DeployService.Text

namespace Text.Utf8

/-- The byte continues the sequence of a character. -/
def IsContinuation (b : UInt8) : Prop := 0x80 ≤ b.toNat ∧ b.toNat ≤ 0xBF

/-- The first byte of a character does not continue a sequence, and all others do. -/
theorem encodeChar_continues (c : Char) : ∃ b w, String.utf8EncodeChar c = b :: w ∧
    ¬IsContinuation b ∧ ∀ b' ∈ w, IsContinuation b' := by
  have hvalid : c.val.toNat < 0x110000 := by
    have hc : c.val.toNat < 0xD800 ∨ 0xDFFF < c.val.toNat ∧ c.val.toNat < 0x110000 := c.valid
    omega
  have hnext : ∀ n, IsContinuation (UInt8.ofNat (n % 0x40 + 0x80)) := by
    intro n
    rw [IsContinuation, toNat_ofNat (by omega)]
    omega
  have hfirst : ∀ n, n < 0x80 ∨ 0xC0 ≤ n ∧ n < 0x100 → ¬IsContinuation (UInt8.ofNat n) := by
    intro n hn
    rw [IsContinuation, toNat_ofNat (by omega)]
    omega
  have hnone : ∀ b' ∈ ([] : List UInt8), IsContinuation b' := by simp
  unfold String.utf8EncodeChar
  generalize c.val.toNat = v at hvalid
  simp only
  split
  · exact ⟨_, _, rfl, hfirst v (by omega), hnone⟩
  · split
    · refine ⟨_, _, rfl, hfirst _ (by omega), ?_⟩
      simpa only [List.forall_mem_cons, hnext, true_and] using hnone
    · split
      · refine ⟨_, _, rfl, hfirst _ (by omega), ?_⟩
        simpa only [List.forall_mem_cons, hnext, true_and] using hnone
      · refine ⟨_, _, rfl, hfirst _ (by omega), ?_⟩
        simpa only [List.forall_mem_cons, hnext, true_and] using hnone

end Text.Utf8

namespace Json

open Raw Text.Utf8

/-- The escapes of one character: the byte after the backslash, and the character. -/
def escapes : List (UInt8 × Char) :=
  [(0x22, '"'), (0x5C, '\\'), (0x2F, '/'), (0x62, '\x08'), (0x66, '\x0C'), (0x6E, '\n'),
    (0x72, '\r'), (0x74, '\t')]

/-- What a character can be written as in a string. -/
inductive IsSpelling : Char → List UInt8 → Prop where
  /-- The character itself, unless it is a control character, a quote or a backslash. -/
  | plain {c : Char} (hl : 0x20 ≤ c.toNat) (hq : c ≠ '"') (hs : c ≠ '\\') :
    IsSpelling c (String.utf8EncodeChar c)
  | short {e : UInt8} {c : Char} (h : (e, c) ∈ escapes) : IsSpelling c [0x5C, e]
  /-- The number of the character, as four hexadecimal digits. -/
  | quad {h₁ h₂ h₃ h₄ : UInt8} {c : Char}
    (hex : (isHexDigit h₁ && isHexDigit h₂ && isHexDigit h₃ && isHexDigit h₄) = true)
    (hc : hexQuad h₁ h₂ h₃ h₄ = c.toNat) : IsSpelling c [0x5C, 0x75, h₁, h₂, h₃, h₄]
  /-- The two halves of a surrogate pair. -/
  | pair {h₁ h₂ h₃ h₄ l₁ l₂ l₃ l₄ : UInt8} {c : Char}
    (hex : (isHexDigit h₁ && isHexDigit h₂ && isHexDigit h₃ && isHexDigit h₄) = true)
    (lex : (isHexDigit l₁ && isHexDigit l₂ && isHexDigit l₃ && isHexDigit l₄) = true)
    (hh : isHighSurrogate (hexQuad h₁ h₂ h₃ h₄) = true)
    (hl : isLowSurrogate (hexQuad l₁ l₂ l₃ l₄) = true)
    (hc : 0x10000 + (hexQuad h₁ h₂ h₃ h₄ - 0xD800) * 0x400 + (hexQuad l₁ l₂ l₃ l₄ - 0xDC00) =
      c.toNat) :
    IsSpelling c [0x5C, 0x75, h₁, h₂, h₃, h₄, 0x5C, 0x75, l₁, l₂, l₃, l₄]

/-- What a text can be written as in a string: its characters one after the other. -/
inductive AreSpellings : List Char → List UInt8 → Prop where
  | nil : AreSpellings [] []
  | cons {c : Char} {cs : List Char} {t more : List UInt8} (h : IsSpelling c t)
    (hmore : AreSpellings cs more) : AreSpellings (c :: cs) (t ++ more)

/-! ## What is spelled is read -/

theorem escapes_spell : ∀ p ∈ escapes, isEscape p.1 = true ∧
    String.utf8EncodeChar p.2 = [escaped p.1] := by
  decide

theorem IsSpelling.spells {c : Char} {t : List UInt8} (h : IsSpelling c t) : Spells t c := by
  cases h with
  | plain hl hq hs => exact .plain hl hq hs
  | short h =>
    obtain ⟨he, hc⟩ := escapes_spell _ h
    exact .short he hc
  | quad hex hc => exact .quad hex hc
  | pair hex lex hh hl hc => exact .pair hex lex hh hl hc

theorem AreSpellings.quotable {cs : List Char} {t : List UInt8} (h : AreSpellings cs t) :
    Quotable t := by
  have hread : readText? (t ++ [0x22]) = some (t, []) := by
    induction h with
    | nil => rfl
    | cons h _ ih =>
      rw [List.append_assoc, h.spells.read, ih]
      rfl
  exact (quotable_of_readText? hread).1

theorem AreSpellings.unescape? {cs : List Char} {t : List UInt8} (h : AreSpellings cs t) :
    unescape? t = some (encodeChars cs) := by
  induction h with
  | nil => rfl
  | cons h _ ih =>
    rw [h.spells.resolved, ih]
    rfl

/-! ## Only what is spelled is read -/

/-- The second bytes are the first ones with their escapes resolved. The bytes of a character that
is not escaped are looked at one at a time. -/
inductive Resolved : List UInt8 → List UInt8 → Prop where
  | nil : Resolved [] []
  | plain {b : UInt8} {t bytes : List UInt8} (hb : IsPlain b) (h : Resolved t bytes) :
    Resolved (b :: t) (b :: bytes)
  | escape {c : Char} {s t bytes : List UInt8} (hc : IsSpelling c s) (h : Resolved t bytes) :
    Resolved (s ++ t) (String.utf8EncodeChar c ++ bytes)

theorem val_pair {n l : Nat} (hn : isHighSurrogate n = true) (hl : isLowSurrogate l = true) :
    0x10000 + (n - 0xD800) * 0x400 + (l - 0xDC00) =
      (Char.ofNat (0x10000 + (n - 0xD800) * 0x400 + (l - 0xDC00))).toNat := by
  simp only [isHighSurrogate, isLowSurrogate, Bool.and_eq_true, decide_eq_true_eq] at hn hl
  exact (val_ofNat (by omega)).symm

theorem hexByte_lt {b : UInt8} (h : isHexDigit b = true) : hexByte b < 16 := by
  simp only [isHexDigit, isDigit, Bool.or_eq_true, Bool.and_eq_true, decide_eq_true_eq] at h
  unfold hexByte
  split
  · omega
  · split <;> omega

theorem val_quad {h₁ h₂ h₃ h₄ : UInt8}
    (hex : (isHexDigit h₁ && isHexDigit h₂ && isHexDigit h₃ && isHexDigit h₄) = true)
    (hh : ¬isHighSurrogate (hexQuad h₁ h₂ h₃ h₄) = true)
    (hl : ¬isLowSurrogate (hexQuad h₁ h₂ h₃ h₄) = true) :
    hexQuad h₁ h₂ h₃ h₄ = (Char.ofNat (hexQuad h₁ h₂ h₃ h₄)).toNat := by
  have hlt : hexQuad h₁ h₂ h₃ h₄ < 0x10000 := by
    simp only [Bool.and_eq_true] at hex
    obtain ⟨⟨⟨hx₁, hx₂⟩, hx₃⟩, hx₄⟩ := hex
    have := hexByte_lt hx₁
    have := hexByte_lt hx₂
    have := hexByte_lt hx₃
    have := hexByte_lt hx₄
    unfold hexQuad
    omega
  simp only [isHighSurrogate, isLowSurrogate, Bool.and_eq_true, decide_eq_true_eq] at hh hl
  exact (val_ofNat (by omega)).symm

theorem isSpelling_short {e : UInt8} (he : isEscape e = true) :
    ∃ c, IsSpelling c [0x5C, e] ∧ String.utf8EncodeChar c = [escaped e] := by
  have hmem : e ∈ escapes.map (·.1) := by simpa [isEscape, escapes] using he
  obtain ⟨⟨e', c⟩, hc, rfl⟩ := List.mem_map.mp hmem
  exact ⟨c, .short hc, (escapes_spell _ hc).2⟩

theorem resolved_of_unescape? {t bytes : List UInt8} (hq : Quotable t)
    (h : Json.unescape? t = some bytes) : Resolved t bytes := by
  fun_induction Json.unescape? t generalizing bytes with
  | case1 =>
    cases h
    exact .nil
  | case3 h₁ h₂ h₃ h₄ n hn l₁ l₂ l₃ l₄ t l hl =>
    rename_i ih
    obtain ⟨hex, hq⟩ := hq.behind_quad
    obtain ⟨lex, hq⟩ := hq.behind_quad
    obtain ⟨more, hmore, rfl⟩ := Option.map_eq_some_iff.mp h
    exact .escape (.pair hex lex hn hl (val_pair hn hl)) (ih hq hmore)
  | case7 h₁ h₂ h₃ h₄ t n hn hl =>
    rename_i ih
    obtain ⟨hex, hq⟩ := hq.behind_quad
    obtain ⟨more, hmore, rfl⟩ := Option.map_eq_some_iff.mp h
    exact .escape (.quad hex (val_quad hex hn hl)) (ih hq hmore)
  | case9 e t he ih =>
    obtain ⟨more, hmore, rfl⟩ := Option.map_eq_some_iff.mp h
    cases hq with
    | plain hb _ => exact absurd rfl hb.2.2
    | quad => exact absurd rfl he
    | short hescape hq =>
      obtain ⟨c, hc, hbyte⟩ := isSpelling_short hescape
      have hresolved := Resolved.escape hc (ih hq hmore)
      rw [hbyte] at hresolved
      exact hresolved
  | case10 b t hb ih =>
    obtain ⟨more, hmore, rfl⟩ := Option.map_eq_some_iff.mp h
    cases hq with
    | plain hplain hq => exact .plain hplain (ih hq hmore)
    | short | quad => exact absurd rfl hb
  | _ => cases h

/-- Bytes in the middle of a character are not escaped. -/
theorem Resolved.behind {w t rest : List UInt8} (hw : ∀ b ∈ w, IsContinuation b)
    (h : Resolved t (w ++ rest)) : ∃ t', t = w ++ t' ∧ Resolved t' rest := by
  induction w generalizing t with
  | nil => exact ⟨t, rfl, h⟩
  | cons b w ih =>
    have hb := hw b List.mem_cons_self
    generalize hbytes : b :: w ++ rest = bytes at h
    cases h with
    | nil => cases hbytes
    | plain _ h =>
      cases hbytes
      obtain ⟨t', rfl, ht'⟩ := ih (fun b' hb' => hw b' (List.mem_cons_of_mem _ hb')) h
      exact ⟨t', rfl, ht'⟩
    | @escape c _ _ _ _ _ =>
      obtain ⟨b', w', hc, hfirst, -⟩ := encodeChar_continues c
      rw [hc] at hbytes
      obtain ⟨rfl, -⟩ := List.cons.inj hbytes
      exact absurd hb hfirst

/-- A character of which the first byte is not escaped, is not escaped. -/
theorem isSpelling_plain {c : Char} {b : UInt8} {w : List UInt8} (hb : IsPlain b)
    (hc : String.utf8EncodeChar c = b :: w) : IsSpelling c (String.utf8EncodeChar c) := by
  by_cases hascii : c.toNat < 0x80
  · obtain ⟨hcontrol, hquote, hslash⟩ := hb
    rw [encodeChar_ascii hascii] at hc
    cases hc
    rw [toNat_ofNat (by omega)] at hcontrol
    refine .plain hcontrol ?_ ?_
    · rintro rfl
      exact hquote rfl
    · rintro rfl
      exact hslash rfl
  · refine .plain (by omega) ?_ ?_
    · rintro rfl
      exact absurd hascii (by decide)
    · rintro rfl
      exact absurd hascii (by decide)

/-- What is resolved to a text begins with a spelling of its first character. -/
theorem Resolved.first {c : Char} {cs : List Char} {t : List UInt8}
    (h : Resolved t (encodeChars (c :: cs))) :
    ∃ s t', t = s ++ t' ∧ IsSpelling c s ∧ Resolved t' (encodeChars cs) := by
  obtain ⟨b, w, hc, -, hw⟩ := encodeChar_continues c
  have hread := decodeFrom?_encodeChars (c :: cs)
  generalize hbytes : encodeChars (c :: cs) = bytes at h hread
  cases h with
  | nil => cases hread
  | @plain b' t _ hb h =>
    rw [encodeChars_cons, hc] at hbytes
    obtain ⟨rfl, rfl⟩ := List.cons.inj hbytes
    obtain ⟨t', rfl, ht'⟩ := h.behind hw
    exact ⟨_, t', by rw [hc]; rfl, isSpelling_plain hb hc, ht'⟩
  | @escape d s t bytes hd h =>
    rw [decodeFrom?_encodeChar] at hread
    obtain ⟨ds, hds, heq⟩ := Option.map_eq_some_iff.mp hread
    obtain ⟨rfl, rfl⟩ := List.cons.inj heq
    rw [encodeChars_of_decodeFrom? hds] at h
    exact ⟨s, t, rfl, hd, h⟩

theorem Resolved.areSpellings {cs : List Char} {t : List UInt8}
    (h : Resolved t (encodeChars cs)) : AreSpellings cs t := by
  induction cs generalizing t with
  | nil =>
    generalize hbytes : encodeChars [] = bytes at h
    cases h with
    | nil => exact .nil
    | plain _ _ => cases hbytes
    | @escape c _ _ _ _ _ =>
      obtain ⟨b, w, hc, -⟩ := encodeChar_continues c
      rw [hc] at hbytes
      cases hbytes
  | cons c cs ih =>
    obtain ⟨s, t', rfl, hs, ht'⟩ := h.first
    exact .cons hs (ih ht')

/-- A string denotes a text exactly if it spells the characters of the text. -/
theorem decodeText?_eq_some_iff {t : List UInt8} (hq : Quotable t) {s : String} :
    decodeText? t = some s ↔ AreSpellings s.toList t := by
  constructor
  · intro h
    obtain ⟨bytes, hbytes, hdecode⟩ := Option.bind_eq_some_iff.mp h
    rw [decode?_eq_some_iff] at hdecode
    subst hdecode
    exact (resolved_of_unescape? hq hbytes).areSpellings
  · intro h
    rw [decodeText?, h.unescape?, Option.bind_some]
    exact decode?_encode s

/-- The bytes are a document that is a string, and the string denotes the text. -/
def StringDocument (s : String) (bytes : List UInt8) : Prop :=
  ∃ w t w', IsSpace w ∧ AreSpellings s.toList t ∧ IsSpace w' ∧
    bytes = w ++ 0x22 :: (t ++ 0x22 :: w')

theorem stringDocument_iff {s : String} {bytes : List UInt8} :
    StringDocument s bytes ↔ ∃ t, IsElement (.text t) bytes ∧ decodeText? t = some s := by
  constructor
  · rintro ⟨w, t, w', hw, ht, hw', rfl⟩
    have helement := IsElement.mk hw (.text ht.quotable) hw'
    rw [List.cons_append, List.append_assoc] at helement
    exact ⟨t, helement, (decodeText?_eq_some_iff ht.quotable).mpr ht⟩
  · rintro ⟨t, helement, hs⟩
    obtain ⟨hw, hform, hw'⟩ := helement
    cases hform with
    | text hq =>
      refine ⟨_, t, _, hw, (decodeText?_eq_some_iff hq).mp hs, hw', ?_⟩
      rw [List.cons_append, List.append_assoc]
      rfl

end Json

end DeployService
