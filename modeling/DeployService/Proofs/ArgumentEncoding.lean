import DeployService.Proofs.Utf8Reading
import DeployService.Url.Parser

/-!
# Arguments in paths

The encoding of an argument can be decoded (`percentDecode_argumentChars`), and it consists of
characters that stand for themselves in a path (`isInert`). It is a segment of dots only if the
argument itself is: a dot is never written as `%2E`.
-/

namespace DeployService.Url

open DeployService.Text

/-- A property of all bytes can be checked on the numbers below 256. -/
theorem forall_byte {p : UInt8 → Prop} (h : ∀ n : Fin 256, p (UInt8.ofFin n)) (b : UInt8) : p b :=
  h b.toFin

/-! ## Decoding -/

theorem hexValue?_hexUpper : ∀ d : Fin 16, hexValue? (hexUpper d) = some d.val := by decide

theorem percentDecode_percentByte (b : UInt8) (rest : List Char) :
    percentDecode (percentByte b ++ rest) = b :: percentDecode rest := by
  have hhigh : hexValue? (hexUpper (b.toNat / 16)) = some (b.toNat / 16) :=
    hexValue?_hexUpper ⟨b.toNat / 16, by have := b.toNat_lt; omega⟩
  have hlow : hexValue? (hexUpper (b.toNat % 16)) = some (b.toNat % 16) :=
    hexValue?_hexUpper ⟨b.toNat % 16, by omega⟩
  have hb : b.toNat / 16 * 16 + b.toNat % 16 = b.toNat := by omega
  simp only [percentByte, List.cons_append, List.nil_append, percentDecode, hhigh, hlow, hb,
    UInt8.ofNat_toNat]

theorem percentDecode_of_ne {c : Char} (h : c ≠ '%') (rest : List Char) :
    percentDecode (c :: rest) = String.utf8EncodeChar c ++ percentDecode rest := by
  rw [percentDecode]
  intro _ _ _ hc
  exact absurd hc h

theorem plain_byte : ∀ b : UInt8, isPlain b = true →
    Char.ofNat b.toNat ≠ '%' ∧ String.utf8EncodeChar (Char.ofNat b.toNat) = [b] :=
  forall_byte (by decide +kernel)

theorem percentDecode_argumentByte (b : UInt8) (rest : List Char) :
    percentDecode (argumentByte b ++ rest) = b :: percentDecode rest := by
  unfold argumentByte
  split
  · rename_i hb
    obtain ⟨hne, henc⟩ := plain_byte b hb
    rw [List.singleton_append, percentDecode_of_ne hne, henc, List.singleton_append]
  · exact percentDecode_percentByte b rest

theorem percentDecode_flatMap (bytes : List UInt8) :
    percentDecode (bytes.flatMap argumentByte) = bytes := by
  induction bytes with
  | nil => rfl
  | cons b bytes ih => rw [List.flatMap_cons, percentDecode_argumentByte, ih]

/-- Decoding the encoding of an argument gives the bytes of the argument. -/
theorem percentDecode_argumentChars (cs : List Char) :
    percentDecode (argumentChars cs) = Utf8.encodeChars cs :=
  percentDecode_flatMap _

/-! ## Characters that stand for themselves -/

/-- The character stands for itself in the path of a URL: it is neither encoded nor ignored, and no
part of the URL ends at it. -/
def isInert (c : Char) : Bool :=
  c.toNat < 0x80 && !inPath c && !isBreak c && !isOuter c && !"/\\:?#".toList.contains c

theorem argumentByte_inert : ∀ b : UInt8, (argumentByte b).all isInert = true :=
  forall_byte (by decide +kernel)

theorem argumentChars_inert {cs : List Char} {c : Char} (h : c ∈ argumentChars cs) :
    isInert c = true := by
  obtain ⟨b, -, hc⟩ := List.mem_flatMap.mp h
  exact List.all_eq_true.mp (argumentByte_inert b) c hc

/-- An inert character is none of those that end a part of a URL or are changed in a path. -/
theorem isInert_iff (c : Char) : isInert c = true ↔
    c.toNat < 0x80 ∧ inPath c = false ∧ isBreak c = false ∧ isOuter c = false ∧
      c ≠ '/' ∧ c ≠ '\\' ∧ c ≠ ':' ∧ c ≠ '?' ∧ c ≠ '#' := by
  simp [isInert, and_assoc]

theorem encodeWith_inPath_of_inert {cs : List Char} (h : ∀ c ∈ cs, isInert c = true) :
    encodeWith inPath cs = cs := by
  unfold encodeWith
  induction cs with
  | nil => rfl
  | cons c cs ih =>
    obtain ⟨hc, hp, -⟩ := (isInert_iff c).mp (h c (by simp))
    have henc : encodeCharWith inPath c = [c] := by simp [encodeCharWith, hc, hp]
    rw [List.flatMap_cons, henc, ih fun c hc => h c (List.mem_cons_of_mem _ hc),
      List.singleton_append]

/-! ## Segments of dots -/

/-- A byte of an argument in lower case. -/
def loweredByte (b : UInt8) : List Char := (argumentByte b).map Char.toLower

/-- Only the dot is written as a dot, and it is never written in any other way. -/
theorem loweredByte_dot : ∀ b : UInt8,
    (b = 0x2E ∧ loweredByte b = ['.']) ∨
      ((loweredByte b).take 1 ≠ ['.'] ∧ (loweredByte b).take 3 ≠ ['%', '2', 'e'] ∧
        loweredByte b ≠ [] ∧ ((loweredByte b).take 1 = ['%'] → (loweredByte b).length = 3)) :=
  forall_byte (by decide +kernel)

theorem lowered_eq_dot_cons {bytes : List UInt8} {rest : List Char}
    (h : bytes.flatMap loweredByte = '.' :: rest) :
    ∃ bytes', bytes = 0x2E :: bytes' ∧ bytes'.flatMap loweredByte = rest := by
  rcases bytes with _ | ⟨b, bytes⟩
  · cases h
  · rw [List.flatMap_cons] at h
    rcases loweredByte_dot b with ⟨rfl, hb⟩ | ⟨hb, -, hne, -⟩
    · rw [hb, List.singleton_append] at h
      exact ⟨bytes, rfl, (List.cons.inj h).2⟩
    · rcases hl : loweredByte b with _ | ⟨c, cs⟩
      · exact absurd hl hne
      · rw [hl, List.cons_append] at h
        rw [hl, (List.cons.inj h).1] at hb
        exact absurd rfl hb

theorem lowered_ne_escaped_dot {bytes : List UInt8} {rest : List Char} :
    bytes.flatMap loweredByte ≠ '%' :: '2' :: 'e' :: rest := by
  intro h
  rcases bytes with _ | ⟨b, bytes⟩
  · cases h
  · rw [List.flatMap_cons] at h
    rcases loweredByte_dot b with ⟨rfl, hb⟩ | ⟨-, hb, hne, hlen⟩
    · rw [hb] at h
      cases h
    · rcases hl : loweredByte b with _ | ⟨c, cs⟩
      · exact absurd hl hne
      · rw [hl] at h hb hlen
        rw [List.cons_append] at h
        obtain ⟨rfl, htail⟩ := List.cons.inj h
        have hlen' : cs.length = 2 := by simpa using hlen rfl
        have htake : cs = (cs ++ bytes.flatMap loweredByte).take 2 := by simp [← hlen']
        rw [htail] at htake
        exact hb (by rw [htake]; rfl)

theorem lowered_eq_nil {bytes : List UInt8} (h : bytes.flatMap loweredByte = []) : bytes = [] := by
  rcases bytes with _ | ⟨b, bytes⟩
  · rfl
  · rw [List.flatMap_cons] at h
    rcases loweredByte_dot b with ⟨rfl, hb⟩ | ⟨-, -, hne, -⟩
    · rw [hb] at h
      cases h
    · exact absurd (List.append_eq_nil_iff.mp h).1 hne

theorem map_toLower_argumentChars (cs : List Char) :
    (argumentChars cs).map Char.toLower = (Utf8.encodeChars cs).flatMap loweredByte := by
  rw [argumentChars, List.map_flatMap]
  rfl

theorem lowerAscii_ofList (cs : List Char) (s : String) :
    lowerAscii (String.ofList cs) = s ↔ cs.map Char.toLower = s.toList := by
  rw [lowerAscii, String.toList_ofList]
  constructor
  · intro h
    rw [← h, String.toList_ofList]
  · intro h
    rw [h, String.ofList_toList]

theorem isSingleDot_encodeArgument (s : String) :
    isSingleDot (argumentChars s.toList) = true ↔ s = "." := by
  constructor
  · intro h
    have hcases : (argumentChars s.toList).map Char.toLower = ['.'] ∨
        (argumentChars s.toList).map Char.toLower = ['%', '2', 'e'] := by
      simpa [isSingleDot, lowerAscii_ofList] using h
    rw [map_toLower_argumentChars] at hcases
    rcases hcases with h | h
    · obtain ⟨bytes, hb, hrest⟩ := lowered_eq_dot_cons h
      rw [lowered_eq_nil hrest] at hb
      exact Utf8.encode_injective hb
    · exact absurd h lowered_ne_escaped_dot
  · rintro rfl
    decide +kernel

theorem isDoubleDot_encodeArgument (s : String) :
    isDoubleDot (argumentChars s.toList) = true ↔ s = ".." := by
  constructor
  · intro h
    have hcases : (argumentChars s.toList).map Char.toLower = ['.', '.'] ∨
        (argumentChars s.toList).map Char.toLower = ['.', '%', '2', 'e'] ∨
        (argumentChars s.toList).map Char.toLower = ['%', '2', 'e', '.'] ∨
        (argumentChars s.toList).map Char.toLower = ['%', '2', 'e', '%', '2', 'e'] := by
      simpa [isDoubleDot, lowerAscii_ofList] using h
    rw [map_toLower_argumentChars] at hcases
    rcases hcases with h | h | h | h
    · obtain ⟨bytes, hb, hrest⟩ := lowered_eq_dot_cons h
      obtain ⟨bytes', rfl, hrest'⟩ := lowered_eq_dot_cons hrest
      rw [lowered_eq_nil hrest'] at hb
      exact Utf8.encode_injective hb
    · obtain ⟨bytes, hb, hrest⟩ := lowered_eq_dot_cons h
      exact absurd hrest lowered_ne_escaped_dot
    · exact absurd h lowered_ne_escaped_dot
    · exact absurd h lowered_ne_escaped_dot
  · rintro rfl
    decide +kernel

end DeployService.Url
