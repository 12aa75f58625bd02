import DeployService.Proofs.SettingSources
import Mathlib

/-!
# The size of the chunks

The variables for the size are read as decimal numbers. A text denotes a size if it is a number of
64 bits other than zero (`readChunkSize_eq_ok`). An environment names a size if the first variable
that gives a text gives such a number (`NamesSize`), and in all other environments the size is the
default (`ChunkSizeRules`). So an unusable text in the preferred variable hides the other variable.
-/

namespace DeployService.Settings

open DeployService.Text

/-! ## Numbers -/

/-- The text denotes `n`: its decimal digits, with or without a plus sign before them. -/
def Denotes (cs : List Char) (n : Nat) : Prop :=
  ∃ digits, (cs = digits ∨ cs = '+' :: digits) ∧ IsDecimal digits n

/-- Digits after a number only make it greater. -/
theorem le_foldl_digits (ds : List Nat) (v : Nat) : v ≤ ds.foldl (fun v d => v * 10 + d) v := by
  induction ds generalizing v with
  | nil => exact Nat.le_refl v
  | cons d ds ih =>
    rw [List.foldl_cons]
    have hstep := ih (v * 10 + d)
    omega

/-- Digits are read up to the greatest number of 64 bits. No number that is read on the way is
greater than the last one, and so none is refused too early. -/
theorem readDigitsFrom_eq_ok {v n : Nat} {cs : List Char} (hv : v ≤ maxNumber) :
    readDigitsFrom v cs = .ok n ↔ (∀ c ∈ cs, c.isDigit = true) ∧ n ≤ maxNumber ∧
      (cs.map fun c => c.toNat - 0x30).foldl (fun v d => v * 10 + d) v = n := by
  induction cs generalizing v with
  | nil =>
    simp only [readDigitsFrom, Except.ok.injEq, List.not_mem_nil, false_imp_iff, implies_true,
      List.map_nil, List.foldl_nil, true_and]
    constructor
    · rintro rfl
      exact ⟨hv, rfl⟩
    · exact And.right
  | cons c cs ih =>
    rw [readDigitsFrom, List.forall_mem_cons, List.map_cons, List.foldl_cons]
    cases hd : decimalValue? c with
    | none =>
      have hnot : c.isDigit ≠ true := by
        intro h
        rw [decimalValue?_eq_some.mpr ⟨h, rfl⟩] at hd
        cases hd
      simp [hnot]
    | some d =>
      obtain ⟨hdigit, rfl⟩ := decimalValue?_eq_some.mp hd
      have hle := le_foldl_digits (cs.map fun c => c.toNat - 0x30) (v * 10 + (c.toNat - 0x30))
      simp only [hdigit, true_and]
      by_cases hmax : v * 10 + (c.toNat - 0x30) ≤ maxNumber
      · rw [if_pos hmax, ih hmax]
      · rw [if_neg hmax]
        constructor
        · intro h
          cases h
        · rintro ⟨-, hn, rfl⟩
          omega

theorem readNumber_eq_ok {cs : List Char} {n : Nat} :
    readNumber cs = .ok n ↔ Denotes cs n ∧ n ≤ maxNumber := by
  have hdigits : ∀ ds : List Char, ds ≠ [] →
      (readDigitsFrom 0 ds = .ok n ↔ IsDecimal ds n ∧ n ≤ maxNumber) := by
    intro ds hne
    rw [readDigitsFrom_eq_ok (Nat.zero_le _)]
    constructor
    · rintro ⟨hall, hmax, hvalue⟩
      exact ⟨⟨hne, hall, hvalue⟩, hmax⟩
    · rintro ⟨⟨-, hall, hvalue⟩, hmax⟩
      exact ⟨hall, hmax, hvalue⟩
  have hplus : ∀ ds : List Char, ¬IsDecimal ('+' :: ds) n := by
    intro ds h
    exact absurd (h.all '+' List.mem_cons_self) (by decide)
  unfold readNumber
  split
  · constructor
    · intro h
      cases h
    · rintro ⟨⟨_, rfl | h, hdecimal⟩, -⟩
      · exact absurd rfl hdecimal.nonempty
      · cases h
  · constructor
    · intro h
      cases h
    · rintro ⟨⟨_, rfl | h, hdecimal⟩, -⟩
      · exact absurd hdecimal (hplus [])
      · cases h
        exact absurd rfl hdecimal.nonempty
  · next ds hne =>
    have hds : ds ≠ [] := fun h => hne (by rw [h])
    rw [hdigits ds hds]
    refine and_congr_left fun _ => ⟨fun h => ⟨ds, .inr rfl, h⟩, ?_⟩
    rintro ⟨_, rfl | h, hdecimal⟩
    · exact absurd hdecimal (hplus ds)
    · cases h
      exact hdecimal
  · next hne _ hsign =>
    rw [hdigits cs hne]
    refine and_congr_left fun _ => ⟨fun h => ⟨cs, .inl rfl, h⟩, ?_⟩
    rintro ⟨_, rfl | h, hdecimal⟩
    · exact hdecimal
    · exact absurd h (hsign _)

/-- A text is read as a size if it denotes a number of 64 bits other than zero. -/
theorem readChunkSize_eq_ok {value : String} {n : Nat} :
    readChunkSize value = .ok n ↔ Denotes value.toList n ∧ 1 ≤ n ∧ n < 2 ^ 64 := by
  have hmax : n ≤ maxNumber ↔ n < 2 ^ 64 := by
    rw [maxNumber]
    omega
  rw [← hmax]
  unfold readChunkSize
  cases hread : readNumber value.toList with
  | error fault =>
    constructor
    · intro h
      cases h
    · rintro ⟨hd, -, hn⟩
      rw [readNumber_eq_ok.mpr ⟨hd, hn⟩] at hread
      cases hread
  | ok m =>
    obtain ⟨hd, hm⟩ := readNumber_eq_ok.mp hread
    have hunique : ∀ n, Denotes value.toList n → n ≤ maxNumber → m = n := by
      intro n hd hn
      rw [readNumber_eq_ok.mpr ⟨hd, hn⟩] at hread
      exact (Except.ok.inj hread).symm
    by_cases hzero : m = 0
    · subst hzero
      constructor
      · intro h
        cases h
      · rintro ⟨hd', hpos, hn⟩
        have := hunique n hd' hn
        omega
    · simp only [bind, Except.bind, hzero, if_false, pure, Except.pure, Except.ok.injEq]
      constructor
      · rintro rfl
        exact ⟨hd, Nat.pos_of_ne_zero hzero, hm⟩
      · rintro ⟨hd', -, hn⟩
        exact hunique n hd' hn

/-! ## Sizes -/

/-- The environment names a size: the first variable that gives a text gives the size. -/
def NamesSize (env : Environment) (n : Nat) : Prop :=
  ∃ name value, IsSource env chunkSizeVariables name value ∧ Denotes value.toList n ∧ 1 ≤ n ∧
    n < 2 ^ 64

theorem chunkSize_of_namesSize {env : Environment} {n : Nat} (h : NamesSize env n) :
    (load env).1.chunkSize = n := by
  obtain ⟨name, value, hs, hsize⟩ := h
  obtain ⟨reports, hreads, -⟩ := load_reads env
  have hread : Setting.chunkSize.read value = .ok n := readChunkSize_eq_ok.mpr hsize
  exact ((hreads .chunkSize).source_ok hs hread).1

theorem chunkSize_of_not_namesSize {env : Environment} (h : ∀ n, ¬NamesSize env n) :
    (load env).1.chunkSize = 45 := by
  obtain ⟨reports, hreads, -⟩ := load_reads env
  have hsize := hreads .chunkSize
  generalize hv : Setting.value (load env).1 .chunkSize = v at hsize
  generalize reports .chunkSize = r at hsize
  have hdefault : v = Setting.chunkSize.default := by
    cases hsize with
    | unset => rfl
    | used hs hr => exact absurd ⟨_, _, hs, readChunkSize_eq_ok.mp hr⟩ (h _)
    | refused => rfl
  exact hv.trans hdefault

theorem chunkSize_eq_iff {env : Environment} {n : Nat} :
    (load env).1.chunkSize = n ↔ NamesSize env n ∨ n = 45 ∧ ∀ m, ¬NamesSize env m := by
  by_cases hnames : ∃ m, NamesSize env m
  · obtain ⟨m, hm⟩ := hnames
    rw [chunkSize_of_namesSize hm]
    constructor
    · rintro rfl
      exact .inl hm
    · rintro (hn | ⟨-, hnone⟩)
      · exact (chunkSize_of_namesSize hm).symm.trans (chunkSize_of_namesSize hn)
      · exact absurd hm (hnone m)
  · have hnone : ∀ m, ¬NamesSize env m := fun m hm => hnames ⟨m, hm⟩
    rw [chunkSize_of_not_namesSize hnone]
    constructor
    · rintro rfl
      exact .inr ⟨rfl, hnone⟩
    · rintro (hn | ⟨rfl, -⟩)
      · exact absurd hn (hnone n)
      · rfl

theorem chunkSize_range (env : Environment) :
    1 ≤ (load env).1.chunkSize ∧ (load env).1.chunkSize < 2 ^ 64 := by
  rcases chunkSize_eq_iff.mp (Eq.refl (load env).1.chunkSize) with h | ⟨h, -⟩
  · obtain ⟨-, -, -, -, hrange⟩ := h
    exact hrange
  · omega

/-! ## Written sizes -/

/-- A number as it can be written: zeros before its digits. -/
def written (zeros n : Nat) : List Char := List.replicate zeros '0' ++ (showNat n).toList

theorem isDecimal_written (zeros n : Nat) : IsDecimal (written zeros n) n := by
  have hchars : (showNat n).toList = (decimalDigits n).map decimalChar := String.toList_ofList
  obtain ⟨d, rest, hdigits, -, -⟩ := decimalDigits_head n
  constructor
  · simp [written, hchars, hdigits]
  · intro c hc
    rcases List.mem_append.mp hc with hc | hc
    · rw [List.eq_of_mem_replicate hc]
      decide
    · rw [hchars] at hc
      obtain ⟨d, hd, rfl⟩ := List.mem_map.mp hc
      exact (decimalChar_isDigit d (decimalDigits_lt n d hd)).1
  · have hvalues : (decimalDigits n).map (fun d => (decimalChar d).toNat - 0x30) =
        (decimalDigits n).map id := by
      refine List.map_congr_left fun d hd => ?_
      exact (decimalChar_isDigit d (decimalDigits_lt n d hd)).2
    rw [written, hchars, List.map_append, List.map_replicate, List.map_map, Function.comp_def,
      hvalues, List.map_id]
    exact (digitsValue_zeros zeros _).trans (digitsValue_decimalDigits n)

theorem isBlank_digit {c : Char} (h : c.isDigit = true) : isBlank c = false := by
  have hrange : 48 ≤ c.toNat ∧ c.toNat ≤ 57 := Char.isDigit_iff_toNat.mp h
  rw [← Bool.not_eq_true]
  simp only [isBlank, Bool.or_eq_true, Bool.and_eq_true, decide_eq_true_eq, beq_iff_eq]
  omega

/-- Blanks around digits do not count. -/
theorem gives_digits {before digits after : List Char} (hb : ∀ c ∈ before, isBlank c = true)
    (ha : ∀ c ∈ after, isBlank c = true) (hne : digits ≠ [])
    (hd : ∀ c ∈ digits, c.isDigit = true) :
    (Variable.text (String.ofList (before ++ digits ++ after))).Gives (String.ofList digits) := by
  have hfirst : ∀ c ∈ digits.head?, isBlank c = false :=
    fun c hc => isBlank_digit (hd c (List.mem_of_head? hc))
  have hlast : ∀ c ∈ digits.getLast?, isBlank c = false :=
    fun c hc => isBlank_digit (hd c (List.mem_of_getLast? hc))
  have htrim : trim (String.ofList (before ++ digits ++ after)) = String.ofList digits := by
    rw [trim, String.toList_ofList, trimChars_between hb ha hfirst hlast]
  rw [← htrim]
  obtain ⟨c, rest, rfl⟩ := List.exists_cons_of_ne_nil hne
  refine .text ⟨c, ?_, hfirst c rfl⟩
  simp

/-- The environment with a text in one of its variables. -/
def set (env : Environment) (name : String) (text : List Char) : Environment :=
  Function.update env name (.text (String.ofList text))

theorem namesSize_set {env : Environment} {name : String} {earlier later : List String}
    (hnames : chunkSizeVariables = earlier ++ name :: later)
    (hearlier : ∀ other ∈ earlier, ∀ value, ¬(env other).Gives value) {n : Nat} (hpos : 1 ≤ n)
    (hmax : n < 2 ^ 64) (zeros : Nat) {before after : List Char}
    (hb : ∀ c ∈ before, isBlank c = true) (ha : ∀ c ∈ after, isBlank c = true) :
    NamesSize (set env name (before ++ written zeros n ++ after)) n := by
  have hdecimal := isDecimal_written zeros n
  have hdistinct : chunkSizeVariables.Nodup := by decide
  refine ⟨name, String.ofList (written zeros n), ⟨?_, earlier, later, hnames, ?_⟩, ?_, hpos, hmax⟩
  · rw [set, Function.update_self]
    exact gives_digits hb ha hdecimal.nonempty hdecimal.all
  · intro other ho
    have hne : other ≠ name := by
      rintro rfl
      rw [hnames] at hdistinct
      exact (List.nodup_append.mp hdistinct).2.2 other ho other List.mem_cons_self rfl
    rw [set, Function.update_of_ne hne]
    exact hearlier other ho
  · rw [String.toList_ofList]
    exact ⟨written zeros n, .inl rfl, hdecimal⟩

/-! ## The rules -/

/-- Which size is used in an environment. -/
structure ChunkSizeRules (env : Environment) : Prop where
  range : 1 ≤ (load env).1.chunkSize ∧ (load env).1.chunkSize < 2 ^ 64
  eq_iff : ∀ n, (load env).1.chunkSize = n ↔ NamesSize env n ∨ n = 45 ∧ ∀ m, ¬NamesSize env m
  /-- A text in the preferred variable that is no size leads to the default, whatever the other
  variable gives. -/
  preferred : ∀ value, (env "MULTIAPPS_UPLOAD_CHUNK_SIZE").Gives value →
    (∀ n, Denotes value.toList n → ¬(1 ≤ n ∧ n < 2 ^ 64)) → (load env).1.chunkSize = 45
  /-- A size that is written to the preferred variable, or to the other one where the preferred one
  gives no text, is used. -/
  written : ∀ earlier name later, chunkSizeVariables = earlier ++ name :: later →
    (∀ other ∈ earlier, ∀ value, ¬(env other).Gives value) →
    ∀ n zeros before after, 1 ≤ n → n < 2 ^ 64 → (∀ c ∈ before, isBlank c = true) →
      (∀ c ∈ after, isBlank c = true) →
      (load (set env name (before ++ written zeros n ++ after))).1.chunkSize = n
  /-- No other variable counts for the size. -/
  only : ∀ env' : Environment, (∀ name ∈ chunkSizeVariables, env name = env' name) →
    (load env').1.chunkSize = (load env).1.chunkSize
  /-- The two variables count for no other setting. -/
  others : ∀ env' : Environment, (∀ name ∉ chunkSizeVariables, env name = env' name) →
    ∀ setting : Setting, setting ≠ .chunkSize →
      setting.value (load env').1 = setting.value (load env).1

theorem chunkSize_of_preferred {env : Environment} {value : String}
    (hv : (env "MULTIAPPS_UPLOAD_CHUNK_SIZE").Gives value)
    (h : ∀ n, Denotes value.toList n → ¬(1 ≤ n ∧ n < 2 ^ 64)) :
    (load env).1.chunkSize = 45 := by
  refine chunkSize_of_not_namesSize ?_
  rintro n ⟨name, value', hs, hdenotes, hrange⟩
  have hfirst : IsSource env chunkSizeVariables "MULTIAPPS_UPLOAD_CHUNK_SIZE" value :=
    ⟨hv, [], _, rfl, by simp⟩
  obtain ⟨-, rfl⟩ := hfirst.unique hs
  exact h n hdenotes hrange

/-- **The size of the chunks** is the one that the first variable with a text gives, if this is a
size, and the default in all other cases. -/
theorem chunk_size_selected (env : Environment) : ChunkSizeRules env where
  range := chunkSize_range env
  eq_iff _ := chunkSize_eq_iff
  preferred _ hv h := chunkSize_of_preferred hv h
  written _ _ _ hnames hearlier _ zeros _ _ hpos hmax hb ha :=
    chunkSize_of_namesSize (namesSize_set hnames hearlier hpos hmax zeros hb ha)
  only env' henv := by
    have hsame : Setting.chunkSize.value (load env).1 = Setting.chunkSize.value (load env').1 :=
      value_congr henv
    exact hsame.symm
  others env' henv setting hne := by
    refine (value_congr fun name hn => henv name fun hsize => hne ?_).symm
    exact Setting.eq_of_mem_names hn hsize

end DeployService.Settings
