import DeployService.Text.Utf8

/-!
# Reading UTF-8 back

Decoding inverts encoding, and reads nothing but encodings. One character is read at a time: its
first byte opens a sequence whose bounds admit the bytes that follow, and the bits add up to the
number of the character. What stands after it is not looked at.
-/

namespace DeployService.Text.Utf8

theorem toNat_ofNat {n : Nat} (h : n < 256) : (UInt8.ofNat n).toNat = n := by
  rw [UInt8.toNat_ofNat']
  omega

theorem decodeFrom?_single {b : UInt8} {n : Nat} (hb : b.toNat = n) (h : n < 0x80)
    (rest : List UInt8) :
    decodeFrom? none (b :: rest) = (decodeFrom? none rest).map (Char.ofNat n :: ·) := by
  have hlead : lead b = .single (Char.ofNat n) := by
    unfold lead
    rw [hb]
    exact if_pos h
  simp only [decodeFrom?, hlead]

theorem Pending.admits_eq {p : Pending} {b : UInt8} {n : Nat} (hb : b.toNat = n) (hl : p.low ≤ n)
    (hh : n ≤ p.high) : p.admits b = true := by
  rw [Pending.admits, hb, decide_eq_true hl, decide_eq_true hh]
  rfl

theorem Pending.push_eq {b : UInt8} {n : Nat} (hb : b.toNat = n) (p : Pending) :
    p.push b = p.bits * 64 + (n - 0x80) := by
  rw [← hb]
  rfl

/-- The last byte of an open sequence. -/
theorem decodeFrom?_last {p : Pending} {b : UInt8} {n : Nat} (hb : b.toNat = n) (hm : p.more = 0)
    (hl : p.low ≤ n) (hh : n ≤ p.high) (rest : List UInt8) :
    decodeFrom? (some p) (b :: rest) =
      (decodeFrom? none rest).map (Char.ofNat (p.bits * 64 + (n - 0x80)) :: ·) := by
  have hadmits := Pending.admits_eq hb hl hh
  rw [← Pending.push_eq hb]
  simp only [decodeFrom?, hadmits, hm, if_true]

/-- A byte of an open sequence that is not the last one. -/
theorem decodeFrom?_more {p : Pending} {b : UInt8} {n : Nat} (hb : b.toNat = n) (hm : p.more ≠ 0)
    (hl : p.low ≤ n) (hh : n ≤ p.high) (rest : List UInt8) :
    decodeFrom? (some p) (b :: rest) =
      decodeFrom? (some ⟨p.more - 1, 0x80, 0xBF, p.bits * 64 + (n - 0x80)⟩) rest := by
  have hadmits := Pending.admits_eq hb hl hh
  rw [← Pending.push_eq hb]
  simp only [decodeFrom?, hadmits, hm, if_true, if_false, Pending.next]

theorem decodeFrom?_opens {b : UInt8} {p : Pending} (h : lead b = .opens p) (rest : List UInt8) :
    decodeFrom? none (b :: rest) = decodeFrom? (some p) rest := by
  rw [decodeFrom?, h]

theorem lead_two {b : UInt8} {n : Nat} (hb : b.toNat = n + 0xC0) (hl : 2 ≤ n) (hh : n < 0x20) :
    lead b = .opens ⟨0, 0x80, 0xBF, n⟩ := by
  have h₁ : ¬n + 0xC0 < 0x80 := by omega
  have h₂ : ¬n + 0xC0 < 0xC2 := by omega
  have h₃ : n + 0xC0 < 0xE0 := by omega
  simp only [lead, hb, h₁, h₂, h₃, if_true, if_false, Nat.add_sub_cancel]

/-- The bounds for the second byte of a sequence of three exclude overlong forms and surrogates. -/
theorem lead_three {b : UInt8} {n : Nat} (hb : b.toNat = n + 0xE0) (hh : n < 0x10) :
    lead b = .opens ⟨1, if n = 0 then 0xA0 else 0x80, if n = 0xD then 0x9F else 0xBF, n⟩ := by
  have h₁ : ¬n + 0xE0 < 0x80 := by omega
  have h₂ : ¬n + 0xE0 < 0xC2 := by omega
  have h₃ : ¬n + 0xE0 < 0xE0 := by omega
  have h₄ : n + 0xE0 < 0xF0 := by omega
  simp only [lead, hb, h₁, h₂, h₃, h₄, if_true, if_false, Nat.add_sub_cancel]
  by_cases hz : n = 0
  · simp [hz]
  · by_cases hd : n = 0xD
    · simp [hd]
    · have h₅ : ¬n + 0xE0 = 0xED := by omega
      simp [hz, hd, h₅]

/-- The bounds for the second byte of a sequence of four exclude overlong forms and numbers that are
too large. -/
theorem lead_four {b : UInt8} {n : Nat} (hb : b.toNat = n + 0xF0) (hh : n < 5) :
    lead b = .opens ⟨2, if n = 0 then 0x90 else 0x80, if n = 4 then 0x8F else 0xBF, n⟩ := by
  have hn : n = 0 ∨ n = 1 ∨ n = 2 ∨ n = 3 ∨ n = 4 := by omega
  rcases hn with rfl | rfl | rfl | rfl | rfl <;> simp [lead, hb]

theorem char_ofNat_val (c : Char) : Char.ofNat c.val.toNat = c := Char.ofNat_toNat c

/-- One character is read, and what follows it is left to be read. -/
theorem decodeFrom?_encodeChar (c : Char) (rest : List UInt8) :
    decodeFrom? none (String.utf8EncodeChar c ++ rest) = (decodeFrom? none rest).map (c :: ·) := by
  have hc := char_ofNat_val c
  have hvalid : c.val.toNat < 0xD800 ∨ 0xDFFF < c.val.toNat ∧ c.val.toNat < 0x110000 := c.valid
  unfold String.utf8EncodeChar
  generalize c.val.toNat = v at hc hvalid
  -- the bytes after the first one
  have hlast : (UInt8.ofNat (v % 0x40 + 0x80)).toNat = v % 0x40 + 0x80 := toNat_ofNat (by omega)
  have hmid : (UInt8.ofNat (v / 64 % 0x40 + 0x80)).toNat = v / 64 % 0x40 + 0x80 :=
    toNat_ofNat (by omega)
  have hfar : (UInt8.ofNat (v / 4096 % 0x40 + 0x80)).toNat = v / 4096 % 0x40 + 0x80 :=
    toNat_ofNat (by omega)
  by_cases h₁ : v ≤ 0x7F
  · simp only [h₁, if_true, List.singleton_append]
    rw [decodeFrom?_single (toNat_ofNat (by omega)) (by omega), hc]
  · by_cases h₂ : v ≤ 0x7FF
    · have hbits : v / 64 * 64 + (v % 0x40 + 0x80 - 0x80) = v := by omega
      simp only [h₁, h₂, if_true, if_false, List.cons_append, List.nil_append,
        Nat.mod_eq_of_lt (show v / 64 < 0x20 by omega)]
      rw [decodeFrom?_opens (lead_two (toNat_ofNat (by omega)) (by omega) (by omega)),
        decodeFrom?_last hlast rfl (by simp only; omega) (by simp only; omega)]
      simp only [hbits, hc]
    · by_cases h₃ : v ≤ 0xFFFF
      · have hbits : (v / 4096 * 64 + (v / 64 % 0x40 + 0x80 - 0x80)) * 64 +
            (v % 0x40 + 0x80 - 0x80) = v := by omega
        simp only [h₁, h₂, h₃, if_true, if_false, List.cons_append, List.nil_append,
          Nat.mod_eq_of_lt (show v / 4096 < 0x10 by omega)]
        rw [decodeFrom?_opens (lead_three (toNat_ofNat (by omega)) (by omega)),
          decodeFrom?_more hmid (by simp) (by simp only; split <;> omega)
            (by simp only; split <;> omega),
          decodeFrom?_last hlast rfl (by simp only; omega) (by simp only; omega)]
        simp only [hbits, hc]
      · have hbits : ((v / 262144 * 64 + (v / 4096 % 0x40 + 0x80 - 0x80)) * 64 +
            (v / 64 % 0x40 + 0x80 - 0x80)) * 64 + (v % 0x40 + 0x80 - 0x80) = v := by omega
        simp only [h₁, h₂, h₃, if_false, List.cons_append, List.nil_append,
          Nat.mod_eq_of_lt (show v / 262144 < 0x08 by omega)]
        rw [decodeFrom?_opens (lead_four (toNat_ofNat (by omega)) (by omega)),
          decodeFrom?_more hfar (by simp) (by simp only; split <;> omega)
            (by simp only; split <;> omega),
          decodeFrom?_more hmid (by simp) (by simp only; omega) (by simp only; omega),
          decodeFrom?_last hlast rfl (by simp only; omega) (by simp only; omega)]
        simp only [hbits, hc]

theorem decodeFrom?_encodeChars (cs : List Char) :
    decodeFrom? none (encodeChars cs) = some cs := by
  unfold encodeChars
  induction cs with
  | nil => rfl
  | cons c cs ih => rw [List.flatMap_cons, decodeFrom?_encodeChar, ih, Option.map_some]

/-- Decoding inverts encoding. -/
theorem decode?_encode (s : String) : decode? (encode s) = some s := by
  rw [decode?, encode, decodeFrom?_encodeChars, Option.map_some, String.ofList_toList]

theorem encode_injective {s t : String} (h : encode s = encode t) : s = t :=
  Option.some.inj (by rw [← decode?_encode s, h, decode?_encode])

/-! ## Only encodings are read -/

theorem lead_single {b : UInt8} {c : Char} (h : lead b = .single c) :
    b.toNat < 0x80 ∧ c = Char.ofNat b.toNat := by
  unfold lead at h
  simp only at h
  split at h
  · next hlow =>
    cases h
    exact ⟨hlow, rfl⟩
  · repeat' split at h
    all_goals cases h

/-- What a first byte opens, by the length of the sequence. -/
theorem lead_opens {b : UInt8} {p : Pending} (h : lead b = .opens p) :
    (∃ n, b.toNat = n + 0xC0 ∧ 2 ≤ n ∧ n < 0x20) ∨ (∃ n, b.toNat = n + 0xE0 ∧ n < 0x10) ∨
      ∃ n, b.toNat = n + 0xF0 ∧ n < 5 := by
  by_cases h₁ : b.toNat < 0xC2
  · by_cases hascii : b.toNat < 0x80 <;> simp [lead, hascii, h₁] at h
  · by_cases h₂ : b.toNat < 0xE0
    · exact .inl ⟨b.toNat - 0xC0, by omega, by omega, by omega⟩
    · by_cases h₃ : b.toNat < 0xF0
      · exact .inr (.inl ⟨b.toNat - 0xE0, by omega, by omega⟩)
      · by_cases h₄ : b.toNat < 0xF5
        · exact .inr (.inr ⟨b.toNat - 0xF0, by omega, by omega⟩)
        · have hascii : ¬b.toNat < 0x80 := by omega
          have h₅ : ¬b.toNat < 0xF4 := by omega
          have hne : ¬b.toNat = 0xE0 ∧ ¬b.toNat = 0xED ∧ ¬b.toNat = 0xF0 ∧ ¬b.toNat = 0xF4 := by
            omega
          simp [lead, hascii, h₁, h₂, h₃, h₅, hne] at h

theorem Pending.of_admits {p : Pending} {bytes : List UInt8} {cs : List Char}
    (h : decodeFrom? (some p) bytes = some cs) :
    ∃ b rest, bytes = b :: rest ∧ p.admits b = true := by
  cases bytes with
  | nil => cases h
  | cons b rest =>
    by_cases hb : p.admits b = true
    · exact ⟨b, rest, rfl, hb⟩
    · rw [decodeFrom?, if_neg hb] at h
      cases h

/-- The last byte that an open sequence takes. -/
theorem Pending.ends {low high bits : Nat} {bytes : List UInt8} {cs : List Char}
    (h : decodeFrom? (some ⟨0, low, high, bits⟩) bytes = some cs) :
    ∃ b rest cs', bytes = b :: rest ∧ (low ≤ b.toNat ∧ b.toNat ≤ high) ∧
      cs = Char.ofNat (bits * 64 + (b.toNat - 0x80)) :: cs' ∧
      decodeFrom? none rest = some cs' := by
  obtain ⟨b, rest, rfl, hb⟩ := Pending.of_admits h
  rw [decodeFrom?, if_pos hb, if_pos rfl] at h
  obtain ⟨cs', hcs, rfl⟩ := Option.map_eq_some_iff.mp h
  exact ⟨b, rest, cs', rfl, by simpa [Pending.admits] using hb, rfl, hcs⟩

/-- A byte that an open sequence takes, and that is not the last one. -/
theorem Pending.continues {more low high bits : Nat} {bytes : List UInt8} {cs : List Char}
    (h : decodeFrom? (some ⟨more + 1, low, high, bits⟩) bytes = some cs) :
    ∃ b rest, bytes = b :: rest ∧ (low ≤ b.toNat ∧ b.toNat ≤ high) ∧
      decodeFrom? (some ⟨more, 0x80, 0xBF, bits * 64 + (b.toNat - 0x80)⟩) rest = some cs := by
  obtain ⟨b, rest, rfl, hb⟩ := Pending.of_admits h
  rw [decodeFrom?, if_pos hb, if_neg (Nat.succ_ne_zero more)] at h
  exact ⟨b, rest, rfl, by simpa [Pending.admits] using hb, h⟩

theorem val_ofNat {v : Nat} (h : v < 0xD800 ∨ 0xDFFF < v ∧ v < 0x110000) :
    (Char.ofNat v).val.toNat = v := by
  have hvalid : v.isValidChar := h
  rw [Char.ofNat, dif_pos hvalid]
  rfl

theorem byte_eq {b : UInt8} {n : Nat} (h : b.toNat = n) : UInt8.ofNat n = b := by
  rw [← h, UInt8.ofNat_toNat]

theorem encodeChar_two {b b₂ : UInt8} {n : Nat} (hb : b.toNat = n + 0xC0) (hl : 2 ≤ n)
    (hh : n < 0x20) (h₂ : 0x80 ≤ b₂.toNat ∧ b₂.toNat ≤ 0xBF) :
    String.utf8EncodeChar (Char.ofNat (n * 64 + (b₂.toNat - 0x80))) = [b, b₂] := by
  unfold String.utf8EncodeChar
  rw [val_ofNat (by omega)]
  have h₁ : ¬n * 64 + (b₂.toNat - 0x80) ≤ 0x7F := by omega
  have h₃ : n * 64 + (b₂.toNat - 0x80) ≤ 0x7FF := by omega
  simp only [h₁, h₃, if_true, if_false]
  rw [byte_eq (b := b) (by omega), byte_eq (b := b₂) (by omega)]

theorem encodeChar_three {b b₂ b₃ : UInt8} {n : Nat} (hb : b.toNat = n + 0xE0) (hh : n < 0x10)
    (h₂ : (if n = 0 then 0xA0 else 0x80) ≤ b₂.toNat ∧
      b₂.toNat ≤ (if n = 0xD then 0x9F else 0xBF))
    (h₃ : 0x80 ≤ b₃.toNat ∧ b₃.toNat ≤ 0xBF) :
    String.utf8EncodeChar
      (Char.ofNat ((n * 64 + (b₂.toNat - 0x80)) * 64 + (b₃.toNat - 0x80))) = [b, b₂, b₃] := by
  have hlow : 0x80 ≤ b₂.toNat ∧ (n = 0 → 0xA0 ≤ b₂.toNat) := by split at h₂ <;> omega
  have hhigh : b₂.toNat ≤ 0xBF ∧ (n = 0xD → b₂.toNat ≤ 0x9F) := by
    obtain ⟨-, h₂⟩ := h₂
    split at h₂ <;> omega
  unfold String.utf8EncodeChar
  rw [val_ofNat (by omega)]
  have h₁ : ¬(n * 64 + (b₂.toNat - 0x80)) * 64 + (b₃.toNat - 0x80) ≤ 0x7F := by omega
  have h₄ : ¬(n * 64 + (b₂.toNat - 0x80)) * 64 + (b₃.toNat - 0x80) ≤ 0x7FF := by omega
  have h₅ : (n * 64 + (b₂.toNat - 0x80)) * 64 + (b₃.toNat - 0x80) ≤ 0xFFFF := by omega
  simp only [h₁, h₄, h₅, if_true, if_false]
  rw [byte_eq (b := b) (by omega), byte_eq (b := b₂) (by omega), byte_eq (b := b₃) (by omega)]

theorem encodeChar_four {b b₂ b₃ b₄ : UInt8} {n : Nat} (hb : b.toNat = n + 0xF0) (hh : n < 5)
    (h₂ : (if n = 0 then 0x90 else 0x80) ≤ b₂.toNat ∧ b₂.toNat ≤ (if n = 4 then 0x8F else 0xBF))
    (h₃ : 0x80 ≤ b₃.toNat ∧ b₃.toNat ≤ 0xBF) (h₄ : 0x80 ≤ b₄.toNat ∧ b₄.toNat ≤ 0xBF) :
    String.utf8EncodeChar (Char.ofNat (((n * 64 + (b₂.toNat - 0x80)) * 64 +
      (b₃.toNat - 0x80)) * 64 + (b₄.toNat - 0x80))) = [b, b₂, b₃, b₄] := by
  have hlow : 0x80 ≤ b₂.toNat ∧ (n = 0 → 0x90 ≤ b₂.toNat) := by split at h₂ <;> omega
  have hhigh : b₂.toNat ≤ 0xBF ∧ (n = 4 → b₂.toNat ≤ 0x8F) := by
    obtain ⟨-, h₂⟩ := h₂
    split at h₂ <;> omega
  have hv : 0xFFFF < ((n * 64 + (b₂.toNat - 0x80)) * 64 + (b₃.toNat - 0x80)) * 64 +
      (b₄.toNat - 0x80) ∧ ((n * 64 + (b₂.toNat - 0x80)) * 64 + (b₃.toNat - 0x80)) * 64 +
      (b₄.toNat - 0x80) < 0x110000 := by omega
  unfold String.utf8EncodeChar
  rw [val_ofNat (by omega)]
  simp only [show ¬((n * 64 + (b₂.toNat - 0x80)) * 64 + (b₃.toNat - 0x80)) * 64 +
    (b₄.toNat - 0x80) ≤ 0x7F by omega, show ¬((n * 64 + (b₂.toNat - 0x80)) * 64 +
    (b₃.toNat - 0x80)) * 64 + (b₄.toNat - 0x80) ≤ 0x7FF by omega,
    show ¬((n * 64 + (b₂.toNat - 0x80)) * 64 + (b₃.toNat - 0x80)) * 64 +
    (b₄.toNat - 0x80) ≤ 0xFFFF by omega, if_false]
  rw [byte_eq (b := b) (by omega), byte_eq (b := b₂) (by omega), byte_eq (b := b₃) (by omega),
    byte_eq (b := b₄) (by omega)]

/-- The first character that is read stands encoded at the beginning. -/
theorem decodeFrom?_first {b : UInt8} {bytes : List UInt8} {cs : List Char}
    (h : decodeFrom? none (b :: bytes) = some cs) :
    ∃ c cs' rest, cs = c :: cs' ∧ b :: bytes = String.utf8EncodeChar c ++ rest ∧
      decodeFrom? none rest = some cs' := by
  rw [decodeFrom?] at h
  cases hl : lead b with
  | single c =>
    obtain ⟨hlow, rfl⟩ := lead_single hl
    rw [hl] at h
    obtain ⟨cs', hcs, rfl⟩ := Option.map_eq_some_iff.mp h
    refine ⟨_, cs', bytes, rfl, ?_, hcs⟩
    have hle : b.toNat ≤ 0x7F := by omega
    unfold String.utf8EncodeChar
    rw [val_ofNat (by omega)]
    simp only [hle, if_true, UInt8.ofNat_toNat, List.singleton_append]
  | stray =>
    rw [hl] at h
    cases h
  | opens p =>
    rw [hl] at h
    rcases lead_opens hl with ⟨n, hb, h2, hn⟩ | ⟨n, hb, hn⟩ | ⟨n, hb, hn⟩
    · obtain rfl := Lead.opens.inj ((lead_two hb h2 hn).symm.trans hl)
      obtain ⟨b₂, rest, cs', rfl, h₂, rfl, hcs⟩ := Pending.ends h
      exact ⟨_, cs', rest, rfl, by rw [encodeChar_two hb h2 hn h₂]; rfl, hcs⟩
    · obtain rfl := Lead.opens.inj ((lead_three hb hn).symm.trans hl)
      obtain ⟨b₂, rest, rfl, h₂, h⟩ := Pending.continues h
      obtain ⟨b₃, rest, cs', rfl, h₃, rfl, hcs⟩ := Pending.ends h
      exact ⟨_, cs', rest, rfl, by rw [encodeChar_three hb hn h₂ h₃]; rfl, hcs⟩
    · obtain rfl := Lead.opens.inj ((lead_four hb hn).symm.trans hl)
      obtain ⟨b₂, rest, rfl, h₂, h⟩ := Pending.continues h
      obtain ⟨b₃, rest, rfl, h₃, h⟩ := Pending.continues h
      obtain ⟨b₄, rest, cs', rfl, h₄, rfl, hcs⟩ := Pending.ends h
      exact ⟨_, cs', rest, rfl, by rw [encodeChar_four hb hn h₂ h₃ h₄]; rfl, hcs⟩

theorem encodeChars_of_decodeFrom? {cs : List Char} {bytes : List UInt8}
    (h : decodeFrom? none bytes = some cs) : bytes = encodeChars cs := by
  induction cs generalizing bytes with
  | nil =>
    cases bytes with
    | nil => rfl
    | cons b bytes =>
      obtain ⟨c, cs', rest, hcs, -⟩ := decodeFrom?_first h
      cases hcs
  | cons c cs ih =>
    cases bytes with
    | nil => cases h
    | cons b bytes =>
      obtain ⟨c', cs', rest, hcs, hbytes, hrest⟩ := decodeFrom?_first h
      cases hcs
      rw [hbytes, ih hrest]
      rfl

/-- Bytes are read as a text exactly if they are its encoding. -/
theorem decode?_eq_some_iff {bytes : List UInt8} {s : String} :
    decode? bytes = some s ↔ bytes = encode s := by
  constructor
  · intro h
    obtain ⟨cs, hcs, rfl⟩ := Option.map_eq_some_iff.mp h
    rw [encode, String.toList_ofList]
    exact encodeChars_of_decodeFrom? hcs
  · rintro rfl
    exact decode?_encode s

/-- Where the bytes encode a text, nothing is replaced. -/
theorem decodeLossyFrom_of_decodeFrom? {p : Option Pending} {bytes : List UInt8} {cs : List Char}
    (h : decodeFrom? p bytes = some cs) : decodeLossyFrom p bytes = cs := by
  fun_induction decodeFrom? p bytes generalizing cs with
  | case1 =>
    cases h
    rfl
  | case2 p => cases h
  | case3 b rest c hl ih =>
    obtain ⟨cs', hcs, rfl⟩ := Option.map_eq_some_iff.mp h
    rw [decodeLossyFrom, hl]
    simp only [ih hcs]
  | case4 b rest p hl ih =>
    rw [decodeLossyFrom, hl]
    exact ih h
  | case5 b rest hl => cases h
  | case6 p b rest hb hm ih =>
    obtain ⟨cs', hcs, rfl⟩ := Option.map_eq_some_iff.mp h
    rw [decodeLossyFrom, if_pos hb, if_pos hm, ih hcs]
  | case7 p b rest hb hm ih =>
    rw [decodeLossyFrom, if_pos hb, if_neg hm]
    exact ih h
  | case8 p b rest hb => cases h

theorem decodeLossy_encode (s : String) : decodeLossy (encode s) = s := by
  rw [decodeLossy, encode, decodeLossyFrom_of_decodeFrom? (decodeFrom?_encodeChars s.toList),
    String.ofList_toList]

end DeployService.Text.Utf8
