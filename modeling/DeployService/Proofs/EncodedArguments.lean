import DeployService.Proofs.ArgumentEncoding
import DeployService.Proofs.JsonLexemes

/-!
# The written form of arguments

An argument is written in plain characters and escapes (`IsEncoded`), one byte after the other, so
that writing it is a homomorphism, and what is written can be decoded. It is the form encoding with
an escaped space in place of each plus sign, and no other plus sign is there to be replaced: a plus
sign of the argument itself has been escaped before (`escapeSpaces_formChars`).
-/

namespace DeployService.Url

open DeployService.Text

/-! ## Plain characters and escapes -/

/-- An ASCII letter or digit, an asterisk, a hyphen, a dot or an underscore. -/
def IsPlainChar (c : Char) : Prop :=
  ('a' ≤ c ∧ c ≤ 'z') ∨ ('A' ≤ c ∧ c ≤ 'Z') ∨ ('0' ≤ c ∧ c ≤ '9') ∨
    c = '*' ∨ c = '-' ∨ c = '.' ∨ c = '_'

instance (c : Char) : Decidable (IsPlainChar c) :=
  inferInstanceAs (Decidable (_ ∨ _))

/-- A hexadecimal digit with an upper-case letter. -/
def IsUpperHex (c : Char) : Prop := ('0' ≤ c ∧ c ≤ '9') ∨ ('A' ≤ c ∧ c ≤ 'F')

instance (c : Char) : Decidable (IsUpperHex c) :=
  inferInstanceAs (Decidable (_ ∨ _))

/-- A text of plain characters and escapes. A percent sign stands only at the start of an escape. -/
inductive IsEncoded : List Char → Prop where
  | nil : IsEncoded []
  | plain {c : Char} {cs : List Char} (hc : IsPlainChar c) (h : IsEncoded cs) : IsEncoded (c :: cs)
  | escape {high low : Char} {cs : List Char} (hh : IsUpperHex high) (hl : IsUpperHex low)
    (h : IsEncoded cs) : IsEncoded ('%' :: high :: low :: cs)

theorem isUpperHex_hexUpper : ∀ d : Fin 16, IsUpperHex (hexUpper d) := by decide

theorem isPlainChar_of_isPlain : ∀ b : UInt8, isPlain b = true →
    IsPlainChar (Char.ofNat b.toNat) :=
  forall_byte (by decide +kernel)

theorem IsEncoded.argumentByte (b : UInt8) {cs : List Char} (h : IsEncoded cs) :
    IsEncoded (argumentByte b ++ cs) := by
  unfold Url.argumentByte
  split
  · next hb => exact .plain (isPlainChar_of_isPlain b hb) h
  · have hhigh := isUpperHex_hexUpper ⟨b.toNat / 16, by have := b.toNat_lt; omega⟩
    have hlow := isUpperHex_hexUpper ⟨b.toNat % 16, by omega⟩
    exact .escape hhigh hlow h

theorem isEncoded_argumentChars (cs : List Char) : IsEncoded (argumentChars cs) := by
  rw [argumentChars]
  induction Utf8.encodeChars cs with
  | nil => exact .nil
  | cons b bytes ih => exact ih.argumentByte b

/-- The digits of an escape are plain characters, too. -/
theorem IsEncoded.mem {cs : List Char} (h : IsEncoded cs) :
    ∀ c ∈ cs, IsPlainChar c ∨ c = '%' := by
  have hhex : ∀ c, IsUpperHex c → IsPlainChar c := by
    rintro c (hc | ⟨hlow, hhigh⟩)
    · exact .inr (.inr (.inl hc))
    · exact .inr (.inl ⟨hlow, Char.le_trans hhigh (by decide)⟩)
  induction h with
  | nil => nofun
  | plain hc _ ih => exact List.forall_mem_cons.mpr ⟨.inl hc, ih⟩
  | escape hh hl _ ih =>
    simp only [List.forall_mem_cons]
    exact ⟨.inr trivial, .inl (hhex _ hh), .inl (hhex _ hl), ih⟩

theorem mem_argumentByte {b : UInt8} {c : Char} (h : c ∈ argumentByte b) :
    IsPlainChar c ∨ c = '%' := by
  have hencoded := IsEncoded.nil.argumentByte b
  rw [List.append_nil] at hencoded
  exact hencoded.mem c h

/-! ## Plus signs -/

/-- The text with an escaped space in place of each plus sign. -/
def escapeSpaces (cs : List Char) : List Char :=
  cs.flatMap fun c => if c = '+' then ['%', '2', '0'] else [c]

theorem escapeSpaces_of_not_mem {cs : List Char} (h : '+' ∉ cs) : escapeSpaces cs = cs := by
  induction cs with
  | nil => rfl
  | cons c cs ih =>
    obtain ⟨hc, hcs⟩ := not_or.mp (mt List.mem_cons.mpr h)
    rw [escapeSpaces] at ih
    rw [escapeSpaces, List.flatMap_cons, if_neg (Ne.symm hc), ih hcs, List.singleton_append]

theorem escapeSpaces_formByte (b : UInt8) : escapeSpaces (formByte b) = argumentByte b := by
  unfold formByte
  split
  · next hb =>
    rw [hb]
    decide
  · exact escapeSpaces_of_not_mem fun h => absurd (mem_argumentByte h) (by decide)

/-- The form encoding with its spaces escaped is the encoding of an argument. -/
theorem escapeSpaces_formChars (cs : List Char) :
    escapeSpaces (formChars cs) = argumentChars cs := by
  rw [formChars, argumentChars, escapeSpaces, List.flatMap_assoc]
  exact congrArg (List.flatMap · (Utf8.encodeChars cs)) (funext escapeSpaces_formByte)

/-! ## Texts -/

theorem encodeArgument_eq (s : String) :
    encodeArgument s = String.ofList (escapeSpaces (encodeForm s).toList) := by
  rw [encodeForm, String.toList_ofList, escapeSpaces_formChars]
  rfl

theorem percentDecode_encodeArgument (s : String) :
    percentDecode (encodeArgument s).toList = Utf8.encode s := by
  rw [encodeArgument, String.toList_ofList, percentDecode_argumentChars]
  rfl

theorem encodeArgument_append (s t : String) :
    encodeArgument (s ++ t) = encodeArgument s ++ encodeArgument t := by
  simp only [encodeArgument, argumentChars, String.toList_append, Utf8.encodeChars_append,
    List.flatMap_append, String.ofList_append]

/-- Arguments that are written in the same way have the same bytes. -/
theorem encodeArgument_injective : Function.Injective encodeArgument := by
  intro s t h
  have hbytes := congrArg (fun u : String => percentDecode u.toList) h
  simp only [percentDecode_encodeArgument] at hbytes
  exact Utf8.encode_injective hbytes

/-- **Arguments have a written form of their own.** It is the form encoding with escaped spaces in
place of plus signs. It can be decoded, so that different arguments are written differently; it is
put together of the written forms of the parts; and it consists of plain characters and escapes,
none of which means anything in a URL. -/
theorem arguments_encoded :
    (∀ s, encodeArgument s = String.ofList (escapeSpaces (encodeForm s).toList)) ∧
      (∀ s, percentDecode (encodeArgument s).toList = Utf8.encode s) ∧
      (∀ s t, encodeArgument (s ++ t) = encodeArgument s ++ encodeArgument t) ∧
      (∀ s, IsEncoded (encodeArgument s).toList ∧
        '/' ∉ (encodeArgument s).toList ∧ '?' ∉ (encodeArgument s).toList ∧
        '#' ∉ (encodeArgument s).toList ∧ '+' ∉ (encodeArgument s).toList ∧
        ' ' ∉ (encodeArgument s).toList) ∧
      Function.Injective encodeArgument := by
  refine ⟨encodeArgument_eq, percentDecode_encodeArgument, encodeArgument_append, fun s => ?_,
    encodeArgument_injective⟩
  have hencoded : IsEncoded (encodeArgument s).toList := by
    rw [encodeArgument, String.toList_ofList]
    exact isEncoded_argumentChars s.toList
  have hnot : ∀ c, ¬(IsPlainChar c ∨ c = '%') → c ∉ (encodeArgument s).toList :=
    fun c hc h => hc (hencoded.mem c h)
  exact ⟨hencoded, hnot '/' (by decide), hnot '?' (by decide), hnot '#' (by decide),
    hnot '+' (by decide), hnot ' ' (by decide)⟩

example : encodeArgument "a+b c/é%20" = "a%2Bb%20c%2F%C3%A9%2520" := by decide +kernel

end DeployService.Url
