import DeployService.Proofs.DecimalDigits
import DeployService.Proofs.TokenFetches
import DeployService.Proofs.Trimming

/-!
# What is added to the product name

A suffix comes from outside and ends up in a header of every request. It is reduced to safe
characters (`reduced`), then to what stands between the spaces at both ends (`IsCore`), and then cut
off (`Sanitizes`). What is left is a safe suffix (`IsSafeSuffix`), and the safe suffixes are the
texts that are left as they are. So whether the product name is allowed in a header does not depend
on the suffix, but on what the build says about itself (`Build.IsVisible`), and a transport that
adds a name of visible characters does not fail on it (`suffixes_sanitized`).
-/

namespace DeployService

open DeployService.Http DeployService.Text

namespace UserAgent

/-! ## Safe characters -/

/-- An ASCII letter or digit, a space, a dot, a hyphen or an underscore. -/
def IsSafeChar (c : Char) : Prop :=
  ('a' ≤ c ∧ c ≤ 'z') ∨ ('A' ≤ c ∧ c ≤ 'Z') ∨ ('0' ≤ c ∧ c ≤ '9') ∨
    c = ' ' ∨ c = '.' ∨ c = '-' ∨ c = '_'

instance (c : Char) : Decidable (IsSafeChar c) :=
  inferInstanceAs (Decidable (_ ∨ _))

/-- The text with spaces in place of its tabs and without all other characters that are not safe. -/
def reduced (cs : List Char) : List Char :=
  cs.filterMap fun c => if c = '\t' then some ' ' else if IsSafeChar c then some c else none

theorem isSafe_iff {c : Char} : isSafe c = true ↔ IsSafeChar c := by
  simp only [isSafe, IsSafeChar, Bool.or_eq_true, isAlphanum_iff, beq_iff_eq, or_assoc]
  tauto

/-- A safe character is visible, or a space. -/
theorem IsSafeChar.visible {c : Char} (h : IsSafeChar c) : 0x20 ≤ c.toNat ∧ c.toNat < 0x7F := by
  simp only [IsSafeChar, Char.le_def, UInt32.le_iff_toNat_le] at h
  rcases h with h | h | h | rfl | rfl | rfl | rfl
  · change 97 ≤ c.toNat ∧ c.toNat ≤ 122 at h
    omega
  · change 65 ≤ c.toNat ∧ c.toNat ≤ 90 at h
    omega
  · change 48 ≤ c.toNat ∧ c.toNat ≤ 57 at h
    omega
  all_goals decide

/-- No blank but the space is safe. -/
theorem IsSafeChar.isBlank_iff {c : Char} (h : IsSafeChar c) : isBlank c = true ↔ c = ' ' := by
  obtain ⟨hlow, hhigh⟩ := h.visible
  constructor
  · intro hb
    simp only [isBlank, Bool.or_eq_true, Bool.and_eq_true, decide_eq_true_eq, beq_iff_eq] at hb
    have hspace : c.toNat = ' '.toNat := by
      change c.toNat = 0x20
      omega
    exact Char.toNat_inj.mp hspace
  · rintro rfl
    rfl

theorem safeChars_eq (cs : List Char) : safeChars cs = reduced cs := by
  induction cs with
  | nil => rfl
  | cons c cs ih =>
    have hspace : isSafe ' ' = true := by decide
    rw [safeChars, List.map_cons, List.filter_cons, reduced, List.filterMap_cons]
    rw [safeChars, reduced] at ih
    by_cases htab : c = '\t'
    · simp only [htab, if_true, hspace, ih]
    · by_cases hsafe : IsSafeChar c
      · simp only [htab, hsafe, if_true, if_false, isSafe_iff.mpr hsafe, ih]
      · have hnot : isSafe c = false := Bool.eq_false_iff.mpr (mt isSafe_iff.mp hsafe)
        simp only [htab, hsafe, hnot, if_false, Bool.false_eq_true, ih]

theorem isSafeChar_of_mem_reduced {cs : List Char} {c : Char} (h : c ∈ reduced cs) :
    IsSafeChar c := by
  rw [← safeChars_eq, safeChars, List.mem_filter] at h
  exact isSafe_iff.mp h.2

theorem reduced_of_safe {cs : List Char} (h : ∀ c ∈ cs, IsSafeChar c) : reduced cs = cs := by
  induction cs with
  | nil => rfl
  | cons c cs ih =>
    have hc : IsSafeChar c := h c List.mem_cons_self
    have htab : c ≠ '\t' := by
      rintro rfl
      exact absurd hc.visible.1 (by decide)
    have hcs := ih fun d hd => h d (List.mem_cons_of_mem c hd)
    rw [reduced] at hcs
    rw [reduced, List.filterMap_cons]
    simp only [htab, hc, if_true, if_false, hcs]

/-! ## Between the spaces -/

/-- The text neither begins nor ends with a space. -/
structure IsTrimmed (cs : List Char) : Prop where
  first : cs.head? ≠ some ' '
  last : cs.getLast? ≠ some ' '

/-- What stands between the spaces at both ends of the reduced text. -/
structure IsCore (cs core : List Char) : Prop where
  between : ∃ n m, reduced cs = List.replicate n ' ' ++ core ++ List.replicate m ' '
  trimmed : IsTrimmed core

theorem eq_spaces {cs : List Char} (h : ∀ c ∈ cs, IsSafeChar c)
    (hb : ∀ c ∈ cs, isBlank c = true) : cs = List.replicate cs.length ' ' :=
  List.eq_replicate_of_mem fun c hc => (h c hc).isBlank_iff.mp (hb c hc)

theorem isTrimmed_iff {cs : List Char} (h : ∀ c ∈ cs, IsSafeChar c) :
    IsTrimmed cs ↔ (∀ c ∈ cs.head?, isBlank c = false) ∧ ∀ c ∈ cs.getLast?, isBlank c = false := by
  have hends : ∀ o : Option Char, (∀ c ∈ o, c ∈ cs) →
      (o ≠ some ' ' ↔ ∀ c ∈ o, isBlank c = false) := by
    intro o ho
    cases o with
    | none => simp
    | some c =>
      have hc := (h c (ho c rfl)).isBlank_iff
      simp [← hc]
  have hboth : IsTrimmed cs ↔ cs.head? ≠ some ' ' ∧ cs.getLast? ≠ some ' ' :=
    ⟨fun ht => ⟨ht.first, ht.last⟩, fun ht => ⟨ht.1, ht.2⟩⟩
  rw [hboth, hends _ fun c => List.mem_of_head?, hends _ fun c => List.mem_of_getLast?]

/-- Trimming safe characters takes spaces away at both ends. -/
theorem trimChars_spaces {cs : List Char} (h : ∀ c ∈ cs, IsSafeChar c) :
    IsTrimmed (trimChars cs) ∧
      ∃ n m, cs = List.replicate n ' ' ++ trimChars cs ++ List.replicate m ' ' := by
  have hsafe : ∀ c ∈ trimChars cs, IsSafeChar c := fun c hc => h c (mem_of_mem_trimChars hc)
  obtain ⟨before, after, hb, ha, heq⟩ := eq_trimChars_between cs
  refine ⟨(isTrimmed_iff hsafe).mpr ⟨trimChars_head cs, trimChars_getLast cs⟩,
    before.length, after.length, ?_⟩
  have hbefore : ∀ c ∈ before, IsSafeChar c := fun c hc => h c (by rw [heq]; simp [hc])
  have hafter : ∀ c ∈ after, IsSafeChar c := fun c hc => h c (by rw [heq]; simp [hc])
  rw [← eq_spaces hbefore hb, ← eq_spaces hafter ha]
  exact heq

theorem trimChars_of_isTrimmed {cs : List Char} (h : ∀ c ∈ cs, IsSafeChar c)
    (ht : IsTrimmed cs) : trimChars cs = cs := by
  obtain ⟨hfirst, hlast⟩ := (isTrimmed_iff h).mp ht
  exact trimChars_of_ends hfirst hlast

theorem isCore_trimChars (cs : List Char) : IsCore cs (trimChars (reduced cs)) := by
  have hsafe : ∀ c ∈ reduced cs, IsSafeChar c := fun c hc => isSafeChar_of_mem_reduced hc
  obtain ⟨htrimmed, hbetween⟩ := trimChars_spaces hsafe
  exact ⟨hbetween, htrimmed⟩

/-- Where a text that begins with no space is cut off, only spaces at the new end go. -/
theorem trimChars_take {core : List Char} (h : ∀ c ∈ core, IsSafeChar c) (ht : IsTrimmed core)
    (n : Nat) : ∃ m, core.take n = trimChars (core.take n) ++ List.replicate m ' ' := by
  have hsafe : ∀ c ∈ core.take n, IsSafeChar c := fun c hc => h c (List.mem_of_mem_take hc)
  obtain ⟨-, k, m, heq⟩ := trimChars_spaces hsafe
  cases k with
  | zero => exact ⟨m, heq⟩
  | succ k =>
    have hhead : (core.take n).head? = some ' ' := by
      rw [heq, List.replicate_succ]
      rfl
    rw [List.head?_take] at hhead
    split at hhead
    · cases hhead
    · exact absurd hhead ht.first

/-! ## Suffixes -/

/-- The text can stand behind the product name as it is. -/
structure IsSafeSuffix (cs : List Char) : Prop where
  chars : ∀ c ∈ cs, IsSafeChar c
  length : cs.length ≤ 128
  trimmed : IsTrimmed cs

/-- What is left of a text `s` as a suffix: the core of the text, or its beginning if it is too
long. Where it is cut off, spaces at the end go, too. -/
structure Sanitizes (s r : List Char) : Prop where
  safe : IsSafeSuffix r
  core : ∃ core, IsCore s core ∧ r <+: core ∧ (core.length ≤ 128 → r = core) ∧
    ∃ n, core.take 128 = r ++ List.replicate n ' '

theorem sanitizeChars_sanitizes (s : List Char) : Sanitizes s (sanitizeChars s) := by
  have hcore := isCore_trimChars s
  have hsafe : ∀ c ∈ trimChars (reduced s), IsSafeChar c :=
    fun c hc => isSafeChar_of_mem_reduced (mem_of_mem_trimChars hc)
  rw [sanitizeChars, safeChars_eq]
  generalize trimChars (reduced s) = core at hcore hsafe
  by_cases hlong : maxSuffixLength < core.length
  · have hcut : ∀ c ∈ core.take 128, IsSafeChar c := fun c hc => hsafe c (List.mem_of_mem_take hc)
    obtain ⟨n, hn⟩ := trimChars_take hsafe hcore.trimmed 128
    have hstart : trimChars (core.take 128) <+: core.take 128 := ⟨_, hn.symm⟩
    have hshort : (trimChars (core.take 128)).length ≤ 128 :=
      le_trans hstart.length_le (List.length_take_le _ _)
    rw [if_pos hlong]
    exact {
      safe := ⟨fun c hc => hcut c (mem_of_mem_trimChars hc), hshort, (trimChars_spaces hcut).1⟩
      core := ⟨core, hcore, hstart.trans (List.take_prefix _ _),
        fun hle => absurd hlong (Nat.not_lt.mpr hle), n, hn⟩ }
  · have hle : core.length ≤ 128 := Nat.not_lt.mp hlong
    rw [if_neg hlong]
    exact {
      safe := ⟨hsafe, hle, hcore.trimmed⟩
      core := ⟨core, hcore, List.prefix_refl _, fun _ => rfl, 0, by
        rw [List.take_of_length_le hle, List.replicate_zero, List.append_nil]⟩ }

theorem sanitizeChars_of_safe {s : List Char} (h : IsSafeSuffix s) : sanitizeChars s = s := by
  rw [sanitizeChars, safeChars_eq, reduced_of_safe h.chars,
    trimChars_of_isTrimmed h.chars h.trimmed]
  exact if_neg (Nat.not_lt.mpr h.length)

theorem sanitize_eq_self_iff {s : String} : sanitize s = s ↔ IsSafeSuffix s.toList := by
  constructor
  · intro h
    have hsafe := (sanitizeChars_sanitizes s.toList).safe
    have hchars : sanitizeChars s.toList = s.toList := by
      rw [← String.toList_inj, sanitize, String.toList_ofList] at h
      exact h
    rwa [hchars] at hsafe
  · intro h
    rw [sanitize, sanitizeChars_of_safe h, String.ofList_toList]

/-! ## The product name -/

/-- The text consists of visible ASCII characters and spaces. -/
def IsVisibleText (s : String) : Prop := ∀ c ∈ s.toList, 0x20 ≤ c.toNat ∧ c.toNat < 0x7F

instance (s : String) : Decidable (IsVisibleText s) := List.decidableBAll _ s.toList

/-- What the build says about itself consists of visible characters. The version is what the tool
for the sources says about the working copy, so that nothing in the program sees to it. -/
structure Build.IsVisible (b : Build) : Prop where
  version : IsVisibleText b.version
  system : IsVisibleText b.system
  architecture : IsVisibleText b.architecture

/-- The text is a header value that begins with the product, and a transport sends every request
under it that can be copied. -/
structure IsSendable (agent : String) : Prop where
  product : ∃ rest, agent = "Multiapps-CF-plugin/" ++ rest
  visible : IsVisibleText agent
  allowed : headerValue? agent = some (literalValue agent)
  sent : ∀ base request, Transport.named agent base request = (do
    let copy ← Call.ofExcept (copyOf request)
    base { copy with headers := copy.headers.insert Http.userAgent (literalValue agent) })

theorem isVisibleText_append {s t : String} :
    IsVisibleText (s ++ t) ↔ IsVisibleText s ∧ IsVisibleText t := by
  simp only [IsVisibleText, String.toList_append, List.forall_mem_append]

theorem isSendable_of_visible {agent rest : String} (hr : agent = "Multiapps-CF-plugin/" ++ rest)
    (hv : IsVisibleText agent) : IsSendable agent := by
  have hallowed : headerValue? agent = some (literalValue agent) :=
    headerValue?_of_text fun c hc => .inr (hv c hc)
  refine ⟨⟨rest, hr⟩, hv, hallowed, fun base request => ?_⟩
  unfold Transport.named
  rw [hallowed]

theorem product_visible_iff {b : Build} : IsVisibleText (product b) ↔ b.IsVisible := by
  have htag : IsVisibleText "Multiapps-CF-plugin/" := by decide +kernel
  have hopen : IsVisibleText " (" := by decide +kernel
  have hspace : IsVisibleText " " := by decide +kernel
  have hclose : IsVisibleText ") rust" := by decide +kernel
  unfold product
  simp only [isVisibleText_append, htag, hopen, hspace, hclose, and_true, true_and]
  exact ⟨fun h => ⟨h.1.1, h.1.2, h.2⟩, fun h => ⟨⟨h.version, h.system⟩, h.architecture⟩⟩

/-- The name of the product is the whole product name, or it is followed by a visible suffix. -/
theorem build_cases (b : Build) (suffix : Option String) :
    ∃ rest, build suffix b = product b ++ rest ∧ IsVisibleText rest := by
  unfold build
  split
  · exact ⟨"", String.append_empty.symm, by decide⟩
  · exact ⟨"", String.append_empty.symm, by decide⟩
  · next suffix' hsuffix =>
    obtain ⟨s, -, rfl⟩ := Option.map_eq_some_iff.mp hsuffix
    refine ⟨" " ++ sanitize s, String.append_assoc, isVisibleText_append.mpr ⟨by decide, ?_⟩⟩
    intro c hc
    rw [sanitize, String.toList_ofList] at hc
    exact ((sanitizeChars_sanitizes s.toList).safe.chars c hc).visible

theorem build_isSendable_iff (b : Build) (suffix : Option String) :
    IsSendable (build suffix b) ↔ b.IsVisible := by
  obtain ⟨rest, hbuild, hrest⟩ := build_cases b suffix
  rw [hbuild, ← product_visible_iff]
  refine ⟨fun h => (isVisibleText_append.mp h.visible).1, fun h => ?_⟩
  have hname : product b ++ rest = "Multiapps-CF-plugin/" ++ (b.version ++ (" (" ++ (b.system ++
      (" " ++ (b.architecture ++ (") rust" ++ rest)))))) := by
    unfold product
    simp only [String.append_assoc]
  exact isSendable_of_visible hname (isVisibleText_append.mpr ⟨h, hrest⟩)

theorem Build.standard_isVisible : Build.standard.IsVisible :=
  ⟨by decide +kernel, by decide +kernel, by decide +kernel⟩

/-- **Any text can be used as a suffix.** It is reduced to a safe suffix, which is what is left of
its safe characters; safe suffixes, and only these, stay as they are. With every suffix, or without
one, the product name can be sent, provided that what the build says about itself is visible, as it
is for the standard build. -/
theorem suffixes_sanitized :
    (∀ s : String, Sanitizes s.toList (sanitize s).toList ∧ sanitize (sanitize s) = sanitize s ∧
      (sanitize s = s ↔ IsSafeSuffix s.toList)) ∧
    (∀ (b : Build) (suffix : Option String), IsSendable (build suffix b) ↔ b.IsVisible) ∧
    ∀ suffix : Option String, IsSendable (build suffix) := by
  refine ⟨fun s => ?_, build_isSendable_iff, fun suffix => ?_⟩
  · have hsanitizes : Sanitizes s.toList (sanitize s).toList := by
      rw [sanitize, String.toList_ofList]
      exact sanitizeChars_sanitizes s.toList
    exact ⟨hsanitizes, sanitize_eq_self_iff.mpr hsanitizes.safe, sanitize_eq_self_iff⟩
  · exact (build_isSendable_iff .standard suffix).mpr Build.standard_isVisible

example : build (some " ci\r\nX-Name:\tyes ") = product ++ " ciX-Name yes" := by decide +kernel

end UserAgent

end DeployService
