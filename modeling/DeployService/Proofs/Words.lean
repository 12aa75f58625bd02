import DeployService.Proofs.Trimming

/-!
# Words

A text is a row of words with blanks between them, and perhaps around them (`AreWords`). There is
one way only to read a text so, and it is the one in which the text is split (`words_eq_iff`). Blanks
around the text make no difference.
-/

namespace DeployService.Text

/-- There are only blanks. -/
def AreBlanks (cs : List Char) : Prop := ∀ c ∈ cs, isBlank c = true

theorem AreBlanks.nil : AreBlanks [] := by
  intro c hc
  cases hc

theorem AreBlanks.append {cs ds : List Char} (h : AreBlanks cs) (h' : AreBlanks ds) :
    AreBlanks (cs ++ ds) := by
  intro c hc
  rcases List.mem_append.mp hc with hc | hc
  · exact h c hc
  · exact h' c hc

theorem AreBlanks.cons {c : Char} {cs : List Char} (hc : isBlank c = true) (h : AreBlanks cs) :
    AreBlanks (c :: cs) := by
  intro d hd
  rcases List.mem_cons.mp hd with rfl | hd
  · exact hc
  · exact h d hd

/-- A word: some characters, none of them a blank. -/
structure IsWord (cs : List Char) : Prop where
  nonempty : cs ≠ []
  unblank : ∀ c ∈ cs, isBlank c = false

/-- The text has these words, in this order. A word reaches up to the next blank. -/
inductive AreWords : List (List Char) → List Char → Prop where
  | none {blanks : List Char} (hb : AreBlanks blanks) : AreWords [] blanks
  | cons {blanks word rest : List Char} {words : List (List Char)} (hb : AreBlanks blanks)
    (hw : IsWord word) (hstop : ∀ c ∈ rest.head?, isBlank c = true) (h : AreWords words rest) :
    AreWords (word :: words) (blanks ++ (word ++ rest))

/-! ## Reading words -/

theorem wordsFrom_blanks {blanks : List Char} (h : AreBlanks blanks) (rest : List Char) :
    wordsFrom [] (blanks ++ rest) = wordsFrom [] rest := by
  induction blanks with
  | nil => rfl
  | cons c blanks ih =>
    have hc : isBlank c = true := h c List.mem_cons_self
    have hrest := ih fun d hd => h d (List.mem_cons_of_mem c hd)
    rw [List.cons_append, wordsFrom, if_pos hc, hrest]
    rfl

theorem wordsFrom_letters {cs : List Char} (h : ∀ c ∈ cs, isBlank c = false)
    (word rest : List Char) : wordsFrom word (cs ++ rest) = wordsFrom (cs.reverse ++ word) rest := by
  induction cs generalizing word with
  | nil => rfl
  | cons c cs ih =>
    have hc : ¬isBlank c = true := by simp [h c List.mem_cons_self]
    have hrest := ih (fun d hd => h d (List.mem_cons_of_mem c hd)) (c :: word)
    rw [List.cons_append, wordsFrom, if_neg hc, hrest]
    simp

/-- A word ends where the text ends or a blank follows. -/
theorem wordsFrom_stop {word rest : List Char} (hw : word ≠ [])
    (hstop : ∀ c ∈ rest.head?, isBlank c = true) :
    wordsFrom word rest = word.reverse :: wordsFrom [] rest := by
  have hempty : ¬word.isEmpty = true := by simpa using hw
  cases rest with
  | nil =>
    rw [wordsFrom, if_neg hempty]
    rfl
  | cons c rest =>
    have hc : isBlank c = true := hstop c rfl
    rw [wordsFrom, if_pos hc, if_neg hempty, wordsFrom, if_pos hc]
    rfl

theorem AreWords.wordsFrom {ws : List (List Char)} {cs : List Char} (h : AreWords ws cs) :
    wordsFrom [] cs = ws := by
  induction h with
  | @none blanks hb =>
    have hread := wordsFrom_blanks hb []
    rw [List.append_nil] at hread
    rw [hread]
    rfl
  | @cons blanks word rest words hb hw hstop _ ih =>
    have hne : word.reverse ≠ [] := by simpa using hw.nonempty
    rw [wordsFrom_blanks hb, wordsFrom_letters hw.unblank, List.append_nil,
      wordsFrom_stop hne hstop, List.reverse_reverse, ih]

theorem AreWords.blanks_append {ws : List (List Char)} {blanks cs : List Char}
    (hb : AreBlanks blanks) (h : AreWords ws cs) : AreWords ws (blanks ++ cs) := by
  cases h with
  | none hb' => exact .none (hb.append hb')
  | cons hb' hw hstop h =>
    have hwords := AreWords.cons (hb.append hb') hw hstop h
    rwa [List.append_assoc] at hwords

theorem AreWords.append_blanks {ws : List (List Char)} {cs blanks : List Char}
    (h : AreWords ws cs) (hb : AreBlanks blanks) : AreWords ws (cs ++ blanks) := by
  induction h with
  | none hb' => exact .none (hb'.append hb)
  | @cons before word rest words hb' hw hstop _ ih =>
    have hstop' : ∀ c ∈ (rest ++ blanks).head?, isBlank c = true := by
      intro c hc
      cases rest with
      | nil => exact hb c (List.mem_of_head? hc)
      | cons d rest => exact hstop c hc
    have hwords := AreWords.cons hb' hw hstop' ih
    rwa [← List.append_assoc, ← List.append_assoc, List.append_assoc before] at hwords

/-- What is read while the word `word` is open, its last letter first. -/
theorem areWords_wordsFrom {word : List Char} (hword : ∀ c ∈ word, isBlank c = false)
    (cs : List Char) : AreWords (wordsFrom word cs) (word.reverse ++ cs) := by
  have hisWord : ∀ {w : List Char}, w ≠ [] → (∀ c ∈ w, isBlank c = false) → IsWord w.reverse := by
    intro w hne hw
    exact ⟨by simpa using hne, fun c hc => hw c (List.mem_reverse.mp hc)⟩
  induction cs generalizing word with
  | nil =>
    by_cases hne : word = []
    · subst hne
      exact .none .nil
    · have hempty : ¬word.isEmpty = true := by simpa using hne
      have hlast := AreWords.cons .nil (hisWord hne hword) (by simp) (.none .nil)
      rwa [wordsFrom, if_neg hempty]
  | cons c cs ih =>
    cases hc : isBlank c with
    | false =>
      have hopen : ∀ d ∈ c :: word, isBlank d = false := by
        intro d hd
        rcases List.mem_cons.mp hd with rfl | hd
        · exact hc
        · exact hword d hd
      have hwords := ih hopen
      rw [List.reverse_cons, List.append_assoc, List.singleton_append] at hwords
      rwa [wordsFrom, if_neg (by simp [hc])]
    | true =>
      have hrest : AreWords (wordsFrom [] cs) (c :: cs) :=
        (ih (by simp)).blanks_append (.cons hc .nil)
      by_cases hne : word = []
      · subst hne
        rw [wordsFrom, if_pos hc]
        exact hrest
      · have hempty : ¬word.isEmpty = true := by simpa using hne
        have hwords := AreWords.cons .nil (hisWord hne hword) (by simp [hc]) hrest
        rwa [wordsFrom, if_pos hc, if_neg hempty]

theorem wordsFrom_eq_iff {cs : List Char} {ws : List (List Char)} :
    wordsFrom [] cs = ws ↔ AreWords ws cs := by
  constructor
  · rintro rfl
    exact areWords_wordsFrom (by simp) cs
  · intro h
    exact h.wordsFrom

/-! ## The words of a text -/

theorem words_eq_iff {s : String} {ws : List String} :
    words s = ws ↔ AreWords (ws.map String.toList) s.toList := by
  rw [← wordsFrom_eq_iff, words]
  constructor
  · rintro rfl
    simp [Function.comp_def]
  · intro h
    rw [h]
    simp [Function.comp_def]

theorem AreWords.isWord {ws : List (List Char)} {cs : List Char} (h : AreWords ws cs) :
    ∀ w ∈ ws, IsWord w := by
  induction h with
  | none => simp
  | cons _ hw _ _ ih => exact List.forall_mem_cons.mpr ⟨hw, ih⟩

/-- A word has one word: itself. -/
theorem IsWord.areWords {w : List Char} (h : IsWord w) : AreWords [w] w := by
  have hwords : AreWords [w] ([] ++ (w ++ [])) := .cons .nil h (by simp) (.none .nil)
  rwa [List.nil_append, List.append_nil] at hwords

/-- A text has the same words when it is trimmed. -/
theorem words_trim (s : String) : words (trim s) = words s := by
  obtain ⟨before, after, hb, ha, hs⟩ := eq_trimChars_between s.toList
  have htrimmed := words_eq_iff.mp (Eq.refl (words (trim s)))
  rw [trim, String.toList_ofList] at htrimmed
  have hwords := (htrimmed.blanks_append hb).append_blanks ha
  rw [← hs] at hwords
  exact (words_eq_iff.mpr hwords).symm

end DeployService.Text
