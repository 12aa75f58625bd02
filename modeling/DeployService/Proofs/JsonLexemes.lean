import DeployService.Json.Decode
import DeployService.Json.Printer
import DeployService.Proofs.DecimalDigits
import DeployService.Proofs.Utf8Reading

/-!
# JSON strings and integers read back

What is printed is read again. A string is read character by character: what a character is written
as, is read without a look at what follows, and resolved to the character (`Json.Spells`). An
integer is written with digits, and the literal of these digits denotes it.
-/

namespace DeployService

open DeployService.Text

namespace Text.Utf8

@[simp] theorem encodeChars_nil : encodeChars [] = [] := rfl

@[simp] theorem encodeChars_cons (c : Char) (cs : List Char) :
    encodeChars (c :: cs) = String.utf8EncodeChar c ++ encodeChars cs := rfl

@[simp] theorem encodeChars_append (cs ds : List Char) :
    encodeChars (cs ++ ds) = encodeChars cs ++ encodeChars ds := List.flatMap_append

/-- A character of ASCII is one byte. -/
theorem encodeChar_ascii {c : Char} (h : c.toNat < 0x80) :
    String.utf8EncodeChar c = [UInt8.ofNat c.toNat] := by
  have hle : c.val.toNat ≤ 0x7F := Nat.le_of_lt_succ h
  unfold String.utf8EncodeChar
  simp only [hle, if_true]
  rfl

/-- No byte of another character is in ASCII. -/
theorem encodeChar_not_ascii {c : Char} (h : 0x80 ≤ c.toNat) {b : UInt8}
    (hb : b ∈ String.utf8EncodeChar c) : 0x80 ≤ b.toNat := by
  have hge : ¬c.val.toNat ≤ 0x7F := Nat.not_le.mpr h
  have hbyte : ∀ n, 0x80 ≤ n → n < 256 → 0x80 ≤ (UInt8.ofNat n).toNat := by
    intro n hn hlt
    rwa [toNat_ofNat hlt]
  unfold String.utf8EncodeChar at hb
  simp only [hge, if_false] at hb
  have hvalid : c.val.toNat < 0x110000 := by
    have hc : c.val.toNat < 0xD800 ∨ 0xDFFF < c.val.toNat ∧ c.val.toNat < 0x110000 := c.valid
    omega
  generalize c.val.toNat = v at hb hvalid
  split at hb
  · simp only [List.mem_cons, List.not_mem_nil, or_false] at hb
    rcases hb with rfl | rfl <;> exact hbyte _ (by omega) (by omega)
  · split at hb
    · simp only [List.mem_cons, List.not_mem_nil, or_false] at hb
      rcases hb with rfl | rfl | rfl <;> exact hbyte _ (by omega) (by omega)
    · simp only [List.mem_cons, List.not_mem_nil, or_false] at hb
      rcases hb with rfl | rfl | rfl | rfl <;> exact hbyte _ (by omega) (by omega)

end Text.Utf8

namespace Json

open Raw Text.Utf8

/-! ## Strings -/

/-- The bytes inside a string are read as they are, and denote a character. -/
structure Spells (bytes : List UInt8) (c : Char) : Prop where
  read : ∀ rest, readText? (bytes ++ rest) =
    (readText? rest).map fun (t, r) => (bytes ++ t, r)
  resolved : ∀ rest, unescape? (bytes ++ rest) =
    (unescape? rest).map (String.utf8EncodeChar c ++ ·)

/-- The byte can stand in a string as it is. -/
def IsPlain (b : UInt8) : Prop := 0x20 ≤ b.toNat ∧ b ≠ 0x22 ∧ b ≠ 0x5C

theorem readText?_plain {bytes : List UInt8} (h : ∀ b ∈ bytes, IsPlain b) (rest : List UInt8) :
    readText? (bytes ++ rest) = (readText? rest).map fun (t, r) => (bytes ++ t, r) := by
  induction bytes with
  | nil => simp
  | cons b bytes ih =>
    obtain ⟨hcontrol, hquote, hslash⟩ := h b List.mem_cons_self
    have hb : ¬b.toNat < 0x20 := Nat.not_lt.mpr hcontrol
    rw [List.cons_append, readText?.eq_def]
    simp only [hquote, hslash, hb, if_false]
    rw [ih fun b' hb' => h b' (List.mem_cons_of_mem _ hb'), Option.map_map]
    rfl

theorem unescape?_plain {bytes : List UInt8} (h : ∀ b ∈ bytes, IsPlain b) (rest : List UInt8) :
    unescape? (bytes ++ rest) = (unescape? rest).map (bytes ++ ·) := by
  induction bytes with
  | nil => simp
  | cons b bytes ih =>
    obtain ⟨-, -, hslash⟩ := h b List.mem_cons_self
    rw [List.cons_append, unescape?.eq_def]
    simp only [hslash, if_false]
    rw [ih fun b' hb' => h b' (List.mem_cons_of_mem _ hb'), Option.map_map]
    rfl

/-- A character that is not escaped. -/
theorem Spells.plain {c : Char} (h : 0x20 ≤ c.toNat) (hq : c ≠ '"') (hs : c ≠ '\\') :
    Spells (String.utf8EncodeChar c) c := by
  have hplain : ∀ b ∈ String.utf8EncodeChar c, IsPlain b := by
    intro b hb
    by_cases hascii : c.toNat < 0x80
    · rw [encodeChar_ascii hascii, List.mem_singleton] at hb
      have hval : b.toNat = c.toNat := by
        rw [hb]
        exact toNat_ofNat (by omega)
      have hne : ∀ d : Char, c ≠ d → d.toNat < 0x80 → b ≠ UInt8.ofNat d.toNat := by
        intro d hd hlt hbd
        rw [hbd, toNat_ofNat (by omega)] at hval
        exact hd (Char.toNat_inj.mp hval.symm)
      exact ⟨by omega, hne '"' hq (by decide), hne '\\' hs (by decide)⟩
    · have hge := encodeChar_not_ascii (by omega) hb
      refine ⟨by omega, ?_, ?_⟩ <;> rintro rfl <;> exact absurd hge (by decide)
  exact ⟨readText?_plain hplain, unescape?_plain hplain⟩

/-- An escape of one character. -/
theorem Spells.short {e : UInt8} {c : Char} (he : isEscape e = true)
    (hc : String.utf8EncodeChar c = [escaped e]) : Spells [0x5C, e] c := by
  have hu : ¬e = 0x75 := by
    rintro rfl
    exact absurd he (by decide)
  constructor
  · intro rest
    rw [List.cons_append, List.singleton_append, readText?.eq_def]
    simp only [he, if_true]
    rfl
  · intro rest
    rw [List.cons_append, List.singleton_append, unescape?.eq_def, hc]
    simp only [hu, if_true, if_false]
    rfl

theorem readText?_quad {h₁ h₂ h₃ h₄ : UInt8}
    (hex : (isHexDigit h₁ && isHexDigit h₂ && isHexDigit h₃ && isHexDigit h₄) = true)
    (rest : List UInt8) :
    readText? (0x5C :: 0x75 :: h₁ :: h₂ :: h₃ :: h₄ :: rest) =
      (readText? rest).map fun (t, r) => (0x5C :: 0x75 :: h₁ :: h₂ :: h₃ :: h₄ :: t, r) := by
  have hquote : ¬(0x5C : UInt8) = 0x22 := by decide
  have hu : isEscape 0x75 = false := by decide
  rw [readText?.eq_def]
  simp only [hquote, hu, hex, Bool.false_eq_true, if_false, if_true]

/-- A character is no half of a surrogate pair. -/
theorem toNat_not_surrogate (c : Char) :
    isHighSurrogate c.toNat = false ∧ isLowSurrogate c.toNat = false := by
  have hvalid : c.toNat < 0xD800 ∨ 0xDFFF < c.toNat ∧ c.toNat < 0x110000 := c.valid
  simp only [isHighSurrogate, isLowSurrogate, Bool.and_eq_false_iff, decide_eq_false_iff_not]
  omega

/-- An escape of four hexadecimal digits. -/
theorem Spells.quad {h₁ h₂ h₃ h₄ : UInt8} {c : Char}
    (hex : (isHexDigit h₁ && isHexDigit h₂ && isHexDigit h₃ && isHexDigit h₄) = true)
    (hc : hexQuad h₁ h₂ h₃ h₄ = c.toNat) : Spells [0x5C, 0x75, h₁, h₂, h₃, h₄] c := by
  obtain ⟨hhigh, hlow⟩ := toNat_not_surrogate c
  refine ⟨readText?_quad hex, fun rest => ?_⟩
  simp only [List.cons_append, List.nil_append]
  rw [unescape?.eq_def]
  simp only [if_true, hc, hhigh, hlow, Bool.false_eq_true, if_false, Char.ofNat_toNat]

/-- Two escapes of four hexadecimal digits, for the halves of a surrogate pair. -/
theorem Spells.pair {h₁ h₂ h₃ h₄ l₁ l₂ l₃ l₄ : UInt8} {c : Char}
    (hex : (isHexDigit h₁ && isHexDigit h₂ && isHexDigit h₃ && isHexDigit h₄) = true)
    (lex : (isHexDigit l₁ && isHexDigit l₂ && isHexDigit l₃ && isHexDigit l₄) = true)
    (hh : isHighSurrogate (hexQuad h₁ h₂ h₃ h₄) = true)
    (hl : isLowSurrogate (hexQuad l₁ l₂ l₃ l₄) = true)
    (hc : 0x10000 + (hexQuad h₁ h₂ h₃ h₄ - 0xD800) * 0x400 + (hexQuad l₁ l₂ l₃ l₄ - 0xDC00) =
      c.toNat) :
    Spells [0x5C, 0x75, h₁, h₂, h₃, h₄, 0x5C, 0x75, l₁, l₂, l₃, l₄] c := by
  constructor
  · intro rest
    simp only [List.cons_append, List.nil_append]
    rw [readText?_quad hex, readText?_quad lex, Option.map_map]
    rfl
  · intro rest
    simp only [List.cons_append, List.nil_append]
    rw [unescape?.eq_def]
    simp only [if_true, hh, hl, hc, Char.ofNat_toNat]

/-- The byte of a hexadecimal digit. -/
def hexDigitByte (d : Nat) : UInt8 := UInt8.ofNat (hexLower d).toNat

theorem hexDigitByte_reads : ∀ d < 16, String.utf8EncodeChar (hexLower d) = [hexDigitByte d] ∧
    isHexDigit (hexDigitByte d) = true ∧ hexByte (hexDigitByte d) = d := by
  decide

/-- What a character is written as, stands for the character. -/
theorem escapeChar_spells (c : Char) : Spells (encodeChars (escapeChar c)) c := by
  unfold escapeChar
  split
  · next hc => exact .short (by decide) (by rw [hc]; decide)
  split
  · next hc => exact .short (by decide) (by rw [hc]; decide)
  split
  · next hcontrol =>
    have hshort : ∀ n, c.toNat = n → ∀ e : UInt8, isEscape e = true → n < 0x80 →
        escaped e = UInt8.ofNat n → Spells [0x5C, e] c := by
      intro n hn e he hlt hesc
      refine .short he ?_
      rw [encodeChar_ascii (by omega), hn, hesc]
    split
    · next h => exact hshort _ h 0x62 (by decide) (by decide) (by decide)
    split
    · next h => exact hshort _ h 0x74 (by decide) (by decide) (by decide)
    split
    · next h => exact hshort _ h 0x6E (by decide) (by decide) (by decide)
    split
    · next h => exact hshort _ h 0x66 (by decide) (by decide) (by decide)
    split
    · next h => exact hshort _ h 0x72 (by decide) (by decide) (by decide)
    · -- the last two of the four digits are those of the number
      obtain ⟨hfirst, hhex1, hval1⟩ := hexDigitByte_reads (c.toNat / 16) (by omega)
      obtain ⟨hlast, hhex2, hval2⟩ := hexDigitByte_reads (c.toNat % 16) (by omega)
      have hbytes : encodeChars ['\\', 'u', '0', '0', hexLower (c.toNat / 16),
          hexLower (c.toNat % 16)] = [0x5C, 0x75, 0x30, 0x30, hexDigitByte (c.toNat / 16),
            hexDigitByte (c.toNat % 16)] := by
        simp only [encodeChars_cons, encodeChars_nil, hfirst, hlast]
        rfl
      rw [hbytes]
      have hzeros : (isHexDigit 0x30 && isHexDigit 0x30) = true := by decide
      refine .quad (by rw [hzeros, hhex1, hhex2]; rfl) ?_
      have hzero : hexByte 0x30 = 0 := by decide
      rw [hexQuad, hval1, hval2, hzero]
      omega
  · next hq hs hcontrol =>
    rw [encodeChars_cons, encodeChars_nil, List.append_nil]
    exact .plain (by omega) hq hs

/-- The bytes between the quotes of a printed text. -/
def spelling (s : String) : List UInt8 := encodeChars (s.toList.flatMap escapeChar)

theorem encodeChars_printText (s : String) :
    encodeChars (printText s) = 0x22 :: (spelling s ++ [0x22]) := by
  rw [printText, List.cons_append, encodeChars_cons, encodeChars_append]
  rfl

/-- A printed text is read up to its closing quote. -/
theorem readText?_spelling (s : String) (rest : List UInt8) :
    readText? (spelling s ++ 0x22 :: rest) = some (spelling s, rest) := by
  unfold spelling
  induction s.toList with
  | nil =>
    rw [List.flatMap_nil, encodeChars_nil, List.nil_append, readText?.eq_def]
    rfl
  | cons c cs ih =>
    rw [List.flatMap_cons, encodeChars_append, List.append_assoc, (escapeChar_spells c).read, ih]
    rfl

theorem decodeText?_spelling (s : String) : decodeText? (spelling s) = some s := by
  have hresolved : ∀ cs : List Char,
      unescape? (encodeChars (cs.flatMap escapeChar)) = some (encodeChars cs) := by
    intro cs
    induction cs with
    | nil => rfl
    | cons c cs ih =>
      rw [List.flatMap_cons, encodeChars_append, (escapeChar_spells c).resolved, ih]
      rfl
  have hdecode : decode? (encodeChars s.toList) = some s := decode?_encode s
  rw [decodeText?, spelling, hresolved, Option.bind_some, hdecode]

/-! ## Integers -/

/-- The byte of a decimal digit. -/
def digitByte (d : Nat) : UInt8 := UInt8.ofNat (decimalChar d).toNat

theorem digitByte_reads : ∀ d < 10, String.utf8EncodeChar (decimalChar d) = [digitByte d] ∧
    isDigit (digitByte d) = true ∧ (digitByte d).toNat - 0x30 = d := by
  decide

theorem encodeChars_digits {ds : List Nat} (h : ∀ d ∈ ds, d < 10) :
    encodeChars (ds.map decimalChar) = ds.map digitByte := by
  induction ds with
  | nil => rfl
  | cons d ds ih =>
    have hd := (digitByte_reads d (h d List.mem_cons_self)).1
    rw [List.map_cons, encodeChars_cons, hd, ih fun d' hd' => h d' (List.mem_cons_of_mem _ hd')]
    rfl

/-- The literal of an integer. -/
def integerLiteral (n : Int) : NumberLiteral := ⟨decide (n < 0), decimalDigits n.natAbs, none, none⟩

/-- What an integer is written as. -/
theorem encodeChars_showInt (n : Int) :
    encodeChars (showInt n).toList =
      (if n < 0 then [0x2D] else []) ++ (decimalDigits n.natAbs).map digitByte := by
  have hnat : ∀ k, encodeChars (showNat k).toList = (decimalDigits k).map digitByte := by
    intro k
    rw [showNat, String.toList_ofList, encodeChars_digits (decimalDigits_lt k)]
  cases n with
  | ofNat k =>
    rw [if_neg (by simp), List.nil_append]
    exact hnat k
  | negSucc k =>
    rw [if_pos (by omega), showInt, String.toList_append, encodeChars_append, hnat]
    rfl

/-- A number starts with no other byte than a sign or a digit. -/
theorem startsNumber_ne {b c : UInt8} (h : b = 0x2D ∨ isDigit b = true) (hd : isDigit c = false)
    (hs : c ≠ 0x2D) : b ≠ c := by
  rintro rfl
  rcases h with rfl | h
  · exact hs rfl
  · rw [hd] at h
    cases h

/-- Digits are taken in as long as their value is a significand. -/
theorem takeDigits_eq (ds : List Nat) (v : Nat)
    (h : ds.foldl (fun v d => v * 10 + d) v ≤ maxSignificand) :
    takeDigits v ds = (ds.foldl (fun v d => v * 10 + d) v, 0) := by
  have hgrows : ∀ (ds : List Nat) (v : Nat), v ≤ ds.foldl (fun v d => v * 10 + d) v := by
    intro ds
    induction ds with
    | nil => exact fun v => Nat.le_refl v
    | cons d ds ih =>
      intro v
      have hnext := ih (v * 10 + d)
      rw [List.foldl_cons]
      omega
  induction ds generalizing v with
  | nil => rfl
  | cons d ds ih =>
    have hfits : v * 10 + d ≤ maxSignificand := Nat.le_trans (hgrows ds _) h
    rw [takeDigits, if_pos hfits]
    exact ih _ h

/-- An integer of 64 bits is denoted by its literal. -/
theorem integerLiteral_value {n : Int} (hl : minInteger ≤ n) (hh : n ≤ maxInteger) :
    (integerLiteral n).value? = some (.integer n) := by
  have hfits : n.natAbs ≤ maxSignificand := by
    unfold minInteger at hl
    unfold maxInteger at hh
    unfold maxSignificand
    omega
  have htake : takeDigits 0 (decimalDigits n.natAbs) = (n.natAbs, 0) := by
    have hvalue : (decimalDigits n.natAbs).foldl (fun v d => v * 10 + d) 0 = n.natAbs :=
      digitsValue_decimalDigits n.natAbs
    have htake := takeDigits_eq (decimalDigits n.natAbs) 0 (by rw [hvalue]; exact hfits)
    rwa [hvalue] at htake
  unfold NumberLiteral.value? integerLiteral
  simp only [htake, if_true]
  by_cases hn : n < 0
  · have hmagnitude : ¬(n.natAbs = 0 ∨ 9223372036854775808 < n.natAbs) := by
      unfold minInteger at hl
      omega
    rw [if_pos (decide_eq_true hn), if_neg hmagnitude]
    have hvalue : -(n.natAbs : Int) = n := by omega
    rw [hvalue]
  · have hvalue : (n.natAbs : Int) = n := by omega
    rw [if_neg (by simpa using hn), hvalue]

end Json

end DeployService
