import DeployService.Text.Split
import Mathlib.Data.List.Basic

/-!
# Splitting

A text is cut at the first occurrence of a character, and split at all of them. Pieces without the
character are found again in the text that joins them (`splitChars_intercalate`).
-/

namespace DeployService.Text

/-! ## Cutting -/

theorem cutChars?_eq_none {sep : Char} {cs : List Char} (h : sep ∉ cs) :
    cutChars? sep cs = none := by
  induction cs with
  | nil => rfl
  | cons c cs ih =>
    obtain ⟨hc, hcs⟩ : sep ≠ c ∧ sep ∉ cs := by simpa using h
    rw [cutChars?, if_neg (Ne.symm hc), ih hcs]
    rfl

theorem cutChars?_front {sep : Char} {front : List Char} (h : sep ∉ front) (rest : List Char) :
    cutChars? sep (front ++ rest) =
      (cutChars? sep rest).map fun cut => (front ++ cut.1, cut.2) := by
  induction front with
  | nil => simp
  | cons c front ih =>
    obtain ⟨hc, hfront⟩ : sep ≠ c ∧ sep ∉ front := by simpa using h
    rw [List.cons_append, cutChars?, if_neg (Ne.symm hc), ih hfront, Option.map_map]
    rfl

theorem cutChars?_append (sep : Char) (cs : List Char) (h : sep ∉ cs) (rest : List Char) :
    cutChars? sep (cs ++ sep :: rest) = some (cs, rest) := by
  rw [cutChars?_front h, cutChars?, if_pos rfl, Option.map_some, List.append_nil]

/-! ## Splitting -/

theorem splitFrom_append {sep : Char} {cs : List Char} (h : sep ∉ cs) (piece rest : List Char) :
    splitFrom sep piece (cs ++ rest) = splitFrom sep (cs.reverse ++ piece) rest := by
  induction cs generalizing piece with
  | nil => rfl
  | cons c cs ih =>
    obtain ⟨hc, hcs⟩ : sep ≠ c ∧ sep ∉ cs := by simpa using h
    rw [List.cons_append, splitFrom, if_neg (Ne.symm hc), ih hcs]
    simp

theorem splitChars_of_not_mem {sep : Char} {cs : List Char} (h : sep ∉ cs) :
    splitChars sep cs = [cs] := by
  have hsplit := splitFrom_append h [] []
  rw [List.append_nil] at hsplit
  rw [splitChars, hsplit, splitFrom]
  simp

theorem splitChars_append {sep : Char} {cs : List Char} (h : sep ∉ cs) (rest : List Char) :
    splitChars sep (cs ++ sep :: rest) = cs :: splitChars sep rest := by
  rw [splitChars, splitFrom_append h, splitFrom, if_pos rfl]
  simp [splitChars]

theorem length_splitFrom (sep : Char) (piece cs : List Char) :
    (splitFrom sep piece cs).length = cs.count sep + 1 := by
  induction cs generalizing piece with
  | nil => rfl
  | cons c cs ih =>
    rw [splitFrom]
    by_cases hc : c = sep
    · subst hc
      rw [if_pos rfl, List.length_cons, ih, List.count_cons_self]
    · rw [if_neg hc, ih, List.count_cons_of_ne hc]

/-- There is one piece more than there are separators. -/
theorem length_splitOn (sep : Char) (s : String) :
    (splitOn sep s).length = s.toList.count sep + 1 := by
  rw [splitOn, List.length_map, splitChars, length_splitFrom]

/-! ## Joining -/

theorem forall_mem_intercalate {p : Char → Prop} {sep : List Char} {pieces : List (List Char)}
    (hsep : ∀ c ∈ sep, p c) (h : ∀ piece ∈ pieces, ∀ c ∈ piece, p c) :
    ∀ c ∈ sep.intercalate pieces, p c := by
  induction pieces with
  | nil => simp
  | cons piece rest ih =>
    have hrest := ih fun piece' hmem => h piece' (List.mem_cons_of_mem _ hmem)
    cases rest with
    | nil => simpa using h
    | cons next rest =>
      rw [List.intercalate_cons_cons]
      intro c hc
      simp only [List.mem_append] at hc
      rcases hc with (hc | hc) | hc
      · exact h piece List.mem_cons_self c hc
      · exact hsep c hc
      · exact hrest c hc

/-- Pieces that are joined are split again. -/
theorem splitChars_intercalate {sep : Char} {piece : List Char} {pieces : List (List Char)}
    (h : ∀ p ∈ piece :: pieces, sep ∉ p) :
    splitChars sep (List.intercalate [sep] (piece :: pieces)) = piece :: pieces := by
  have hpiece := h piece List.mem_cons_self
  induction pieces generalizing piece with
  | nil => simpa [List.intercalate] using splitChars_of_not_mem hpiece
  | cons next pieces ih =>
    have hnext := ih (fun p hp => h p (List.mem_cons_of_mem _ hp)) (h next (by simp))
    have hjoin : List.intercalate [sep] (piece :: next :: pieces) =
        piece ++ sep :: List.intercalate [sep] (next :: pieces) := by
      simp [List.intercalate]
    rw [hjoin, splitChars_append hpiece, hnext]

end DeployService.Text
