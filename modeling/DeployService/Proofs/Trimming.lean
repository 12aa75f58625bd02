import DeployService.Proofs.Runs
import DeployService.Text.Blank

/-!
# Trimming

A trimmed text is what stands between the blanks at both ends of a text. It neither begins nor ends
with a blank, and it is the only part of the text of which this is true (`trimChars_between`).
-/

namespace DeployService.Text

theorem trimStart_head (cs : List Char) : ∀ c ∈ (trimStart cs).head?, isBlank c = false := by
  intro c hc
  have hnot := List.head?_dropWhile_not isBlank cs
  rw [trimStart] at hc
  rw [Option.mem_def.mp hc] at hnot
  simpa using hnot

/-- A text without its blanks at the start, and the blanks. -/
theorem eq_append_trimStart (cs : List Char) :
    ∃ before, (∀ c ∈ before, isBlank c = true) ∧ cs = before ++ trimStart cs :=
  ⟨cs.takeWhile isBlank, fun c hc => List.all_eq_true.mp List.all_takeWhile c hc,
    List.takeWhile_append_dropWhile.symm⟩

/-- A text without its blanks at the end, and the blanks. -/
theorem eq_trimEnd_append (cs : List Char) :
    ∃ after, (∀ c ∈ after, isBlank c = true) ∧ cs = trimEnd cs ++ after := by
  refine ⟨(cs.reverse.takeWhile isBlank).reverse, fun c hc => ?_, ?_⟩
  · exact List.all_eq_true.mp List.all_takeWhile c (List.mem_reverse.mp hc)
  · rw [trimEnd, ← List.reverse_append, List.takeWhile_append_dropWhile, List.reverse_reverse]

theorem trimEnd_getLast (cs : List Char) : ∀ c ∈ (trimEnd cs).getLast?, isBlank c = false := by
  intro c hc
  rw [trimEnd, List.getLast?_reverse] at hc
  exact trimStart_head cs.reverse c hc

/-- What is trimmed is what stands between blanks. -/
theorem trimChars_between {before name after : List Char} (hb : ∀ c ∈ before, isBlank c = true)
    (ha : ∀ c ∈ after, isBlank c = true) (hfirst : ∀ c ∈ name.head?, isBlank c = false)
    (hlast : ∀ c ∈ name.getLast?, isBlank c = false) :
    trimChars (before ++ name ++ after) = name := by
  have hend : trimEnd (name ++ after) = name := rdropWhile_end hlast ha
  by_cases hname : name = []
  · have hall : ∀ c ∈ before ++ after, isBlank c = true := by
      intro c hc
      exact (List.mem_append.mp hc).elim (hb c) (ha c)
    have hstart : trimStart (before ++ after) = [] := by
      have hdrop := @dropWhile_append_of_head isBlank _ [] hall (by simp)
      rwa [List.append_nil] at hdrop
    rw [hname, List.append_nil, trimChars, hstart]
    rfl
  · obtain ⟨c, cs, rfl⟩ := List.exists_cons_of_ne_nil hname
    have hstart : trimStart (before ++ (c :: cs ++ after)) = c :: cs ++ after :=
      dropWhile_append_of_head hb hfirst
    rw [List.append_assoc, trimChars, hstart, hend]

theorem trimChars_of_ends {cs : List Char} (hfirst : ∀ c ∈ cs.head?, isBlank c = false)
    (hlast : ∀ c ∈ cs.getLast?, isBlank c = false) : trimChars cs = cs := by
  have hnone : ∀ c ∈ ([] : List Char), isBlank c = true := by simp
  have h := trimChars_between hnone hnone hfirst hlast
  rwa [List.nil_append, List.append_nil] at h

theorem trimChars_of_blanks {cs : List Char} (h : ∀ c ∈ cs, isBlank c = true) :
    trimChars cs = [] := by
  have hnone : ∀ c ∈ ([] : List Char), isBlank c = true := by simp
  have hall : trimChars (cs ++ [] ++ []) = [] := trimChars_between h hnone (by simp) (by simp)
  rwa [List.append_nil, List.append_nil] at hall

/-- A text is its trimmed form with blanks around it. -/
theorem eq_trimChars_between (cs : List Char) :
    ∃ before after, (∀ c ∈ before, isBlank c = true) ∧ (∀ c ∈ after, isBlank c = true) ∧
      cs = before ++ trimChars cs ++ after := by
  obtain ⟨before, hb, hstart⟩ := eq_append_trimStart cs
  obtain ⟨after, ha, hend⟩ := eq_trimEnd_append (trimStart cs)
  refine ⟨before, after, hb, ha, ?_⟩
  rw [trimChars, List.append_assoc, ← hend, ← hstart]

theorem trimChars_head (cs : List Char) : ∀ c ∈ (trimChars cs).head?, isBlank c = false := by
  intro c hc
  obtain ⟨after, -, hend⟩ := eq_trimEnd_append (trimStart cs)
  refine trimStart_head cs c ?_
  rw [hend, List.head?_append]
  rw [trimChars, Option.mem_def] at hc
  rw [hc]
  rfl

theorem trimChars_getLast (cs : List Char) : ∀ c ∈ (trimChars cs).getLast?, isBlank c = false :=
  trimEnd_getLast (trimStart cs)

/-- More blanks around a text make no difference. -/
theorem trimChars_around {before cs after : List Char} (hb : ∀ c ∈ before, isBlank c = true)
    (ha : ∀ c ∈ after, isBlank c = true) : trimChars (before ++ cs ++ after) = trimChars cs := by
  obtain ⟨before', after', hb', ha', heq⟩ := eq_trimChars_between cs
  have hbefore : ∀ c ∈ before ++ before', isBlank c = true :=
    fun c hc => (List.mem_append.mp hc).elim (hb c) (hb' c)
  have hafter : ∀ c ∈ after' ++ after, isBlank c = true :=
    fun c hc => (List.mem_append.mp hc).elim (ha' c) (ha c)
  have hcs : before ++ cs ++ after =
      before ++ before' ++ trimChars cs ++ (after' ++ after) := by
    conv_lhs => rw [heq]
    simp only [List.append_assoc]
  rw [hcs, trimChars_between hbefore hafter (trimChars_head cs) (trimChars_getLast cs)]

theorem mem_of_mem_trimChars {cs : List Char} {c : Char} (h : c ∈ trimChars cs) : c ∈ cs := by
  obtain ⟨before, after, -, -, heq⟩ := eq_trimChars_between cs
  rw [heq]
  simp [h]

end DeployService.Text
