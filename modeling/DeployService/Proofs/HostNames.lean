import DeployService.Proofs.ArgumentEncoding
import DeployService.Proofs.DecimalDigits
import DeployService.Proofs.Splitting
import DeployService.Text.Blank
import DeployService.Url.Parser

/-!
# Host names

The names of the domain name system are labels of ASCII letters, digits and hyphens with dots
between them. Reading such a name as the host of a URL changes nothing but the case of the letters
(`HostName.readSpecialHost_eq`). Only a label that begins with `xn--` can keep it from being read.
-/

namespace DeployService.Url

open DeployService.Text

/-! ## Characters -/

/-- The character may occur in a label. -/
def isLabelChar (c : Char) : Bool := c.isAlphanum || c == '-'

/-- The character may occur in a host name: in a label or between two labels. -/
def isNameChar (c : Char) : Bool := isLabelChar c || c == '.'

theorem isAscii_of_isNameChar {c : Char} (h : isNameChar c = true) : isAscii c = true := by
  simp only [isNameChar, isLabelChar, Bool.or_eq_true, isAlphanum_iff, beq_iff_eq, Char.le_def,
    UInt32.le_iff_toNat_le] at h
  simp only [isAscii, decide_eq_true_eq]
  rcases h with (((h | h) | h) | rfl) | rfl
  · exact Nat.lt_of_le_of_lt h.2 (by decide)
  · exact Nat.lt_of_le_of_lt h.2 (by decide)
  · exact Nat.lt_of_le_of_lt h.2 (by decide)
  · decide
  · decide

/-- The character stands for itself, up to its case, wherever a host name is read. -/
structure IsHarmless (c : Char) : Prop where
  lower : isNameChar c.toLower = true
  forbidden : isForbidden c = false
  runsLeft : runsLeft c = false
  outer : isOuter c = false
  blank : isBlank c = false
  scheme : isSchemeChar c = true
  label : isLabelChar c = true → isLabelChar c.toLower = true

-- all characters of ASCII are tried
theorem nameChars_tried : ∀ n : Fin 128, isNameChar (Char.ofNat n.val) = true →
    (isNameChar (Char.ofNat n.val).toLower = true ∧ isForbidden (Char.ofNat n.val) = false ∧
      Url.runsLeft (Char.ofNat n.val) = false) ∧
    (isOuter (Char.ofNat n.val) = false ∧ isBlank (Char.ofNat n.val) = false) ∧
    isSchemeChar (Char.ofNat n.val) = true ∧
    (isLabelChar (Char.ofNat n.val) = true → isLabelChar (Char.ofNat n.val).toLower = true) := by
  decide +kernel

theorem isHarmless_of_isNameChar {c : Char} (h : isNameChar c = true) : IsHarmless c := by
  have hlt : c.toNat < 128 := by simpa [isAscii] using isAscii_of_isNameChar h
  have htried := nameChars_tried ⟨c.toNat, hlt⟩
  rw [Char.ofNat_toNat] at htried
  obtain ⟨⟨hlower, hforbidden, hruns⟩, ⟨houter, hblank⟩, hscheme, hlabel⟩ := htried h
  exact ⟨hlower, hforbidden, hruns, houter, hblank, hscheme, hlabel⟩

theorem ne_of_apply {p : Char → Bool} {c d : Char} (h : p c = true) (hd : p d = false) :
    c ≠ d := by
  rintro rfl
  rw [h] at hd
  cases hd

/-! ## The common form -/

theorem commonForm_ascii {cs : List Char} (h : ∀ c ∈ cs, isNameChar c = true) :
    commonForm cs = cs.map Char.toLower := by
  have hfold : cs.flatMap foldChar = cs.map Char.toLower := by
    induction cs with
    | nil => rfl
    | cons c cs ih =>
      have hc : foldChar c = [c.toLower] :=
        if_pos (isAscii_of_isNameChar (h c List.mem_cons_self))
      rw [List.flatMap_cons, List.map_cons, hc, ih fun d hd => h d (List.mem_cons_of_mem _ hd)]
      rfl
  have hascii : (cs.map Char.toLower).all isAscii = true := by
    rw [List.all_map, List.all_eq_true]
    intro c hc
    exact isAscii_of_isNameChar (isHarmless_of_isNameChar (h c hc)).lower
  rw [commonForm, hfold, canonicalForm, if_pos hascii]

/-- A label of ASCII characters is written as it is. -/
theorem Label.ascii_of_read? {forbidden : Char → Bool} {cs : List Char} {label : Label}
    (hcs : cs.all isAscii = true) (h : Label.read? forbidden cs = some label) :
    label.ascii = cs := by
  unfold Label.read? at h
  split at h
  · obtain ⟨shown, -, rfl⟩ := Option.map_eq_some_iff.mp h
    rfl
  · cases h
    exact if_pos hcs

theorem Label.map_ascii_of_read? {forbidden : Char → Bool} {pieces : List (List Char)}
    {labels : List Label} (hp : ∀ cs ∈ pieces, cs.all isAscii = true)
    (h : pieces.mapM (Label.read? forbidden) = some labels) :
    labels.map Label.ascii = pieces := by
  induction pieces generalizing labels with
  | nil =>
    cases h
    rfl
  | cons cs pieces ih =>
    rw [List.mapM_cons] at h
    simp only [bind, Option.bind_eq_some_iff, pure, Option.some.injEq] at h
    obtain ⟨label, hlabel, rest, hrest, rfl⟩ := h
    have hascii := Label.ascii_of_read? (hp cs List.mem_cons_self) hlabel
    rw [List.map_cons, hascii, ih (fun d hd => hp d (List.mem_cons_of_mem _ hd)) hrest]

/-! ## Labels -/

/-- A label of a host name. -/
structure IsLabel (label : List Char) : Prop where
  nonempty : label ≠ []
  all : ∀ c ∈ label, isLabelChar c = true

instance (label : List Char) : Decidable (IsLabel label) :=
  decidable_of_iff (label ≠ [] ∧ label.all isLabelChar = true)
    ⟨fun h => ⟨h.1, List.all_eq_true.mp h.2⟩, fun h => ⟨h.nonempty, List.all_eq_true.mpr h.all⟩⟩

theorem isNameChar_of_isLabelChar {c : Char} (h : isLabelChar c = true) : isNameChar c = true := by
  rw [isNameChar, h, Bool.true_or]

/-- A text in lower case. -/
def lower (cs : List Char) : List Char := cs.map Char.toLower

theorem IsLabel.lower {label : List Char} (h : IsLabel label) : IsLabel (lower label) where
  nonempty := by simpa [Url.lower] using h.nonempty
  all c hc := by
    obtain ⟨d, hd, rfl⟩ := List.mem_map.mp hc
    exact (isHarmless_of_isNameChar (isNameChar_of_isLabelChar (h.all d hd))).label (h.all d hd)

theorem IsLabel.ascii {label : List Char} (h : IsLabel label) : label.all isAscii = true :=
  List.all_eq_true.mpr fun c hc => isAscii_of_isNameChar (isNameChar_of_isLabelChar (h.all c hc))

theorem IsLabel.dot_not_mem {label : List Char} (h : IsLabel label) : '.' ∉ label :=
  fun hmem => absurd (h.all '.' hmem) (by decide)

theorem joinersFit_ascii {cs : List Char} (h : cs.all isAscii = true) (before : List Char) :
    joinersFit before cs = true := by
  induction cs generalizing before with
  | nil => rfl
  | cons c cs ih =>
    obtain ⟨hc, hcs⟩ : isAscii c = true ∧ cs.all isAscii = true := by
      rwa [List.all_cons, Bool.and_eq_true] at h
    have hjoiner : (c != joiner && c != nonJoiner) = true := by
      rw [Bool.and_eq_true, bne_iff_ne, bne_iff_ne]
      constructor
      · rintro rfl
        exact absurd hc (by decide)
      · rintro rfl
        exact absurd hc (by decide)
    rw [joinersFit, hjoiner, ih hcs, Bool.true_or, Bool.and_true]

theorem IsLabel.isPresentable {label : List Char} (h : IsLabel label) :
    isPresentable label = true := by
  have hmark : label.head?.any isMark = false := by
    cases label with
    | nil => rfl
    | cons c cs =>
      have hc : isAscii c = true := List.all_eq_true.mp h.ascii c List.mem_cons_self
      simp [isMark, isNonspacingMark, hc]
  rw [Url.isPresentable, hmark, joinersFit_ascii h.ascii, h.ascii]
  rfl

theorem IsLabel.runsLeft {label : List Char} (h : IsLabel label) :
    label.any Url.runsLeft = false := by
  rw [List.any_eq_false]
  intro c hc
  rw [(isHarmless_of_isNameChar (isNameChar_of_isLabelChar (h.all c hc))).runsLeft]
  exact Bool.false_ne_true

/-- The label does not announce the punycode form of another one. -/
def IsLiteral (label : List Char) : Prop := stripStart? "xn--".toList (lower label) = none

instance (label : List Char) : Decidable (IsLiteral label) := inferInstanceAs (Decidable (_ = none))

/-! ## Labels with dots between them -/

/-- The labels of a name with the dots between them. -/
def dotted (labels : List (List Char)) : List Char := ['.'].intercalate labels

theorem dotted_cons (label next : List Char) (rest : List (List Char)) :
    dotted (label :: next :: rest) = label ++ '.' :: dotted (next :: rest) := by
  simp [dotted, List.intercalate_cons_cons]

theorem dotted_ne_nil {label : List Char} (h : label ≠ []) (rest : List (List Char)) :
    dotted (label :: rest) ≠ [] := by
  cases rest with
  | nil => simpa [dotted] using h
  | cons next rest => simp [dotted_cons]

theorem isNameChar_dotted {labels : List (List Char)} (h : ∀ label ∈ labels, IsLabel label) :
    ∀ c ∈ dotted labels, isNameChar c = true := by
  have hdot : ∀ c ∈ ['.'], isNameChar c = true := List.forall_mem_singleton.mpr rfl
  exact forall_mem_intercalate hdot fun label hl c hc =>
    isNameChar_of_isLabelChar ((h label hl).all c hc)

theorem lower_dotted (labels : List (List Char)) :
    lower (dotted labels) = dotted (labels.map lower) := by
  induction labels with
  | nil => rfl
  | cons label labels ih =>
    cases labels with
    | nil => simp [dotted, lower]
    | cons next rest =>
      have hnext : dotted ((label :: next :: rest).map lower) =
          lower label ++ '.' :: dotted ((next :: rest).map lower) :=
        dotted_cons (lower label) (lower next) (rest.map lower)
      rw [hnext, ← ih, dotted_cons, lower, List.map_append]
      rfl

theorem splitChars_dotted {labels : List (List Char)} (hne : labels ≠ [])
    (h : ∀ label ∈ labels, IsLabel label) : splitChars '.' (dotted labels) = labels := by
  obtain ⟨label, rest, rfl⟩ := List.exists_cons_of_ne_nil hne
  exact splitChars_intercalate fun label hl => (h label hl).dot_not_mem

/-! ## The ASCII form -/

section

variable {labels : List (List Char)} (hne : labels ≠ []) (h : ∀ label ∈ labels, IsLabel label)

include h

theorem lower_labels : ∀ label ∈ labels.map lower, IsLabel label := by
  intro label hl
  obtain ⟨other, ho, rfl⟩ := List.mem_map.mp hl
  exact (h other ho).lower

theorem dotted_allowed :
    ((dotted labels).any fun c => isRefused c || isForbidden c) = false := by
  rw [List.any_eq_false]
  intro c hc
  have hname := isNameChar_dotted h c hc
  simp [isRefused, isAscii_of_isNameChar hname, (isHarmless_of_isNameChar hname).forbidden]

include hne

/-- The ASCII form of a name is found label by label in the name in lower case. -/
theorem asciiName?_dotted : asciiName? isForbidden (dotted labels) =
    ((labels.map lower).mapM (Label.read? isForbidden)).bind fun read =>
      if areCompatible read then some (dotted (read.map Label.ascii)) else none := by
  have hlower := lower_labels h
  have hne' : labels.map lower ≠ [] := by simpa using hne
  have hcommon : commonForm (dotted labels) = dotted (labels.map lower) := by
    rw [commonForm_ascii (isNameChar_dotted h), ← lower_dotted, lower]
  rw [asciiName?]
  simp only [hcommon, dotted_allowed hlower, splitChars_dotted hne' hlower, Bool.false_eq_true,
    if_false]
  rfl

/-- The ASCII form of a name, if it has one, is the name in lower case. -/
theorem eq_of_asciiName? {name : List Char}
    (hname : asciiName? isForbidden (dotted labels) = some name) :
    name = lower (dotted labels) := by
  rw [asciiName?_dotted hne h] at hname
  obtain ⟨read, hread, hname⟩ := Option.bind_eq_some_iff.mp hname
  have hascii : read.map Label.ascii = labels.map lower :=
    Label.map_ascii_of_read? (fun label hl => (lower_labels h label hl).ascii) hread
  split at hname
  · rw [← Option.some.inj hname, hascii, lower_dotted]
  · cases hname

/-- A name of literal labels has an ASCII form. -/
theorem asciiName?_of_literal (hl : ∀ label ∈ labels, IsLiteral label) :
    asciiName? isForbidden (dotted labels) = some (lower (dotted labels)) := by
  obtain ⟨read, hread⟩ : ∃ read : List Label, read = (labels.map lower).map fun cs => ⟨cs, cs⟩ :=
    ⟨_, rfl⟩
  have hpieces : read.map Label.ascii = labels.map lower := by
    rw [hread, List.map_map]
    exact List.map_id' _
  have hmapM : (labels.map lower).mapM (Label.read? isForbidden) = some read := by
    rw [hread]
    refine mapM_eq_some_map fun cs hcs => ?_
    obtain ⟨label, hlabel, rfl⟩ := List.mem_map.mp hcs
    have hliteral : stripStart? "xn--".toList (lower label) = none := hl label hlabel
    simp only [Label.read?, hliteral, (h label hlabel).lower.ascii, if_true]
  have hshown : ∀ label ∈ read, IsLabel label.shown := by
    intro label hmem
    rw [hread] at hmem
    obtain ⟨cs, hcs, rfl⟩ := List.mem_map.mp hmem
    exact lower_labels h cs hcs
  have hcompatible : areCompatible read = true := by
    have hall : read.all (isPresentable ·.shown) = true :=
      List.all_eq_true.mpr fun label hmem => (hshown label hmem).isPresentable
    have hany : read.any (·.shown.any runsLeft) = false := by
      rw [List.any_eq_false]
      intro label hmem
      rw [(hshown label hmem).runsLeft]
      exact Bool.false_ne_true
    rw [areCompatible, hall, hany]
    rfl
  rw [asciiName?_dotted hne h, hmapM, Option.bind_some, if_pos hcompatible, hpieces, lower_dotted]

end

/-! ## Numbers -/

/-- The text denotes a number in an address. -/
def isNumeral : List Char → Bool
  | '0' :: 'x' :: digits => digits.all (hexValue? · |>.isSome)
  | '0' :: 'X' :: digits => digits.all (hexValue? · |>.isSome)
  | digits => digits.all Char.isDigit

theorem isNumeral_of_digits {cs : List Char} (h : cs.all Char.isDigit = true) :
    isNumeral cs = true := by
  unfold isNumeral
  split
  · exact absurd (List.all_eq_true.mp h 'x' (by simp)) (by decide)
  · exact absurd (List.all_eq_true.mp h 'X' (by simp)) (by decide)
  · exact h

theorem isDigit_of_hexValue? {c : Char} {d : Nat} (h : hexValue? c = some d) (hd : d < 10) :
    c.isDigit = true := by
  unfold hexValue? at h
  split at h
  · next hc => exact Char.isDigit_iff_toNat.mpr hc
  · split at h
    · next hc =>
      have hlow : 0x41 ≤ c.toNat := hc.1
      have hvalue : c.toNat - 0x37 = d := Option.some.inj h
      omega
    · split at h
      · next hc =>
        have hlow : 0x61 ≤ c.toNat := hc.1
        have hvalue : c.toNat - 0x57 = d := Option.some.inj h
        omega
      · cases h

theorem forall_of_readDigits? {base n : Nat} {cs : List Char} (h : readDigits? base cs = some n) :
    ∀ c ∈ cs, ∃ d, hexValue? c = some d ∧ d < base := by
  obtain ⟨digits, hdigits, -⟩ := Option.map_eq_some_iff.mp h
  clear h
  induction cs generalizing digits with
  | nil => simp
  | cons c cs ih =>
    rw [List.mapM_cons] at hdigits
    simp only [bind, Option.bind_eq_some_iff, pure, Option.some.injEq] at hdigits
    obtain ⟨d, ⟨value, hvalue, hd⟩, rest, hrest, -⟩ := hdigits
    intro c' hc'
    rcases List.mem_cons.mp hc' with rfl | hc'
    · split at hd
      · next hlt => exact ⟨value, hvalue, hlt⟩
      · cases hd
    · exact ih rest hrest c' hc'

theorem isNumeral_of_ipv4Number? {cs : List Char} (h : (ipv4Number? cs).isSome = true) :
    isNumeral cs = true := by
  have hdigits : ∀ base ≤ 10, ∀ cs : List Char, (readDigits? base cs).isSome = true →
      cs.all Char.isDigit = true := by
    intro base hbase cs hsome
    obtain ⟨n, hn⟩ := Option.isSome_iff_exists.mp hsome
    refine List.all_eq_true.mpr fun c hc => ?_
    obtain ⟨d, hd, hlt⟩ := forall_of_readDigits? hn c hc
    exact isDigit_of_hexValue? hd (Nat.lt_of_lt_of_le hlt hbase)
  have hhex : ∀ digits : List Char, (readDigits? 16 digits).isSome = true →
      digits.all (hexValue? · |>.isSome) = true := by
    intro digits hsome
    obtain ⟨n, hn⟩ := Option.isSome_iff_exists.mp hsome
    refine List.all_eq_true.mpr fun c hc => ?_
    obtain ⟨d, hd, -⟩ := forall_of_readDigits? hn c hc
    rw [hd]
    rfl
  unfold ipv4Number? at h
  split at h
  · rfl
  · exact hhex _ h
  · exact hhex _ h
  · refine isNumeral_of_digits ?_
    rw [List.all_cons, hdigits 8 (by decide) _ h]
    rfl
  · exact isNumeral_of_digits (hdigits 10 (by decide) _ h)

/-- A name whose last label is no number is not taken for an address. -/
theorem endsInNumber_dotted {labels : List (List Char)} (hne : labels ≠ [])
    (h : ∀ label ∈ labels, IsLabel label)
    (hlast : ∀ label ∈ labels.getLast?, isNumeral label = false) :
    endsInNumber (dotted labels) = false := by
  have hparts : dottedParts (dotted labels) = labels := by
    have hend : labels.getLast? ≠ some [] :=
      fun hnil => (h [] (List.mem_of_getLast? hnil)).nonempty rfl
    rw [dottedParts, splitChars_dotted hne h]
    exact if_neg hend
  unfold endsInNumber
  rw [hparts]
  split
  · rfl
  · next last hsome =>
    have hnot : ¬isNumeral last = true := by
      rw [hlast last hsome]
      exact Bool.false_ne_true
    have hdigits : last.all Char.isDigit = false :=
      Bool.eq_false_iff.mpr fun hall => hnot (isNumeral_of_digits hall)
    have hnone : (ipv4Number? last).isSome = false :=
      Bool.eq_false_iff.mpr fun hnumber => hnot (isNumeral_of_ipv4Number? hnumber)
    rw [hdigits, hnone, Bool.and_false, Bool.or_false]

theorem percentDecode_nameChars {cs : List Char} (h : ∀ c ∈ cs, isNameChar c = true) :
    percentDecode cs = Utf8.encodeChars cs := by
  induction cs with
  | nil => rfl
  | cons c cs ih =>
    have hc : c ≠ '%' := ne_of_apply (h c List.mem_cons_self) rfl
    rw [percentDecode_of_ne hc, ih fun d hd => h d (List.mem_cons_of_mem _ hd)]
    rfl

/-! ## Host names -/

/-- A name of at least two labels. Its last label is no number, or else it would be an address. -/
structure HostName where
  first : List Char
  second : List Char
  others : List (List Char)
  wellFormed : ∀ label ∈ first :: second :: others, IsLabel label
  named : ∀ label ∈ (second :: others).getLast?, isNumeral (lower label) = false

namespace HostName

variable (n : HostName)

/-- The labels of the name. -/
def labels : List (List Char) := n.first :: n.second :: n.others

/-- The name without its first label. -/
def domain : List Char := dotted (n.second :: n.others)

/-- The characters of the name. -/
def chars : List Char := n.first ++ '.' :: n.domain

theorem chars_eq : n.chars = dotted n.labels := (dotted_cons n.first n.second n.others).symm

/-- The name has an ASCII form: what begins with `xn--` in it is the punycode form of a label. -/
def HasAsciiForm : Prop := (asciiName? isForbidden n.chars).isSome = true

instance : Decidable n.HasAsciiForm := inferInstanceAs (Decidable (_ = true))

theorem labels_ne_nil : n.labels ≠ [] := List.cons_ne_nil _ _

theorem isLabel_first : IsLabel n.first := n.wellFormed n.first List.mem_cons_self

theorem head?_chars : n.chars.head? = n.first.head? :=
  List.head?_append_of_ne_nil _ n.isLabel_first.nonempty

theorem domain_ne_nil : n.domain ≠ [] :=
  dotted_ne_nil (n.wellFormed n.second (by simp)).nonempty n.others

theorem isNameChar_chars : ∀ c ∈ n.chars, isNameChar c = true := by
  rw [chars_eq]
  exact isNameChar_dotted n.wellFormed

theorem hasAsciiForm_of_literal (h : ∀ label ∈ n.labels, IsLiteral label) : n.HasAsciiForm := by
  rw [HasAsciiForm, chars_eq, asciiName?_of_literal n.labels_ne_nil n.wellFormed h]
  rfl

theorem endsInNumber_lower : endsInNumber (lower n.chars) = false := by
  rw [chars_eq, lower_dotted]
  refine endsInNumber_dotted (by simp [labels]) (lower_labels n.wellFormed) fun label hl => ?_
  rw [List.getLast?_map, labels, List.getLast?_cons_cons] at hl
  obtain ⟨last, hlast, rfl⟩ := Option.map_eq_some_iff.mp hl
  exact n.named last hlast

/-- **A host name is read as it is**, in lower case. -/
theorem readSpecialHost_eq :
    readSpecialHost n.chars =
      if n.HasAsciiForm then .ok (.name (String.ofList (lower n.chars)))
      else .error .invalidName := by
  have hchars := n.isNameChar_chars
  have hhead : n.chars.head? ≠ some '[' := by
    intro hbracket
    exact absurd (hchars '[' (List.mem_of_head? hbracket)) (by decide)
  have hdecode : Utf8.decode? (percentDecode n.chars) = some (String.ofList n.chars) := by
    have hencode := Utf8.decode?_encode (String.ofList n.chars)
    rwa [Utf8.encode, String.toList_ofList, ← percentDecode_nameChars hchars] at hencode
  rw [readSpecialHost, if_neg hhead, hdecode, Option.bind_some, String.toList_ofList]
  -- what is read is the ASCII form, and this can only be the name itself
  by_cases hform : n.HasAsciiForm
  · obtain ⟨name, hname⟩ := Option.isSome_iff_exists.mp hform
    have hlower : name = lower n.chars := by
      rw [chars_eq] at hname ⊢
      exact eq_of_asciiName? n.labels_ne_nil n.wellFormed hname
    obtain ⟨c, rest, hne⟩ : ∃ c rest, lower n.chars = c :: rest := by
      refine List.exists_cons_of_ne_nil ?_
      simp [lower, chars]
    rw [if_pos hform, hname, hlower, hne]
    simp only [← hne, n.endsInNumber_lower, Bool.false_eq_true, if_false]
  · have hnone : asciiName? isForbidden n.chars = none := by
      rwa [HasAsciiForm, Option.isSome_iff_ne_none, not_not] at hform
    rw [if_neg hform, hnone]

end HostName

end DeployService.Url
