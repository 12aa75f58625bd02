import Mathlib.Data.List.DropRight

/-!
# Runs of characters

What `takeWhile`, `dropWhile` and `rdropWhile` take from a text that is put together of two parts.
They stop at the first character that does not satisfy the condition, so that one of the parts is
all that they look at.
-/

namespace DeployService.Text

variable {p : Char → Bool} {c : Char} {cs rest : List Char}

/-! ## Runs before a stop -/

theorem takeWhile_before_stop (hc : p c = false) (front rest : List Char) :
    (front ++ c :: rest).takeWhile p = front.takeWhile p := by
  induction front with
  | nil => simp [hc]
  | cons d front ih =>
    rw [List.cons_append, List.takeWhile_cons, List.takeWhile_cons, ih]

theorem dropWhile_before_stop (hc : p c = false) (front rest : List Char) :
    (front ++ c :: rest).dropWhile p = front.dropWhile p ++ c :: rest := by
  induction front with
  | nil => simp [hc]
  | cons d front ih =>
    rw [List.cons_append, List.dropWhile_cons, List.dropWhile_cons, ih]
    split <;> rfl

theorem rdropWhile_before_stop (hc : p c = false) (front rest : List Char) :
    (front ++ c :: rest).rdropWhile p = front ++ c :: rest.rdropWhile p := by
  have hreverse : (front ++ c :: rest).reverse = rest.reverse ++ c :: front.reverse := by simp
  rw [List.rdropWhile, hreverse, dropWhile_before_stop hc]
  simp [List.rdropWhile]

/-! ## Runs as one of the parts -/

theorem dropWhile_of_head (h : ∀ c ∈ cs.head?, p c = false) : cs.dropWhile p = cs := by
  cases cs with
  | nil => rfl
  | cons c cs => rw [List.dropWhile_cons_of_neg (by simp [h c rfl])]

theorem takeWhile_append_stop (h : ∀ c ∈ cs, p c = true) (hc : p c = false) :
    (cs ++ c :: rest).takeWhile p = cs := by
  rw [List.takeWhile_append_of_pos h, List.takeWhile_cons_of_neg (by simp [hc]), List.append_nil]

theorem takeWhile_append_of_head (h : ∀ c ∈ cs, p c = true)
    (hrest : ∀ c ∈ rest.head?, p c = false) : (cs ++ rest).takeWhile p = cs := by
  cases rest with
  | nil => rw [List.append_nil, List.takeWhile_eq_self_iff.mpr h]
  | cons c rest => exact takeWhile_append_stop h (hrest c rfl)

theorem dropWhile_append_of_head (h : ∀ c ∈ cs, p c = true)
    (hrest : ∀ c ∈ rest.head?, p c = false) : (cs ++ rest).dropWhile p = rest := by
  rw [List.dropWhile_append_of_pos h, dropWhile_of_head hrest]

theorem rdropWhile_end (h : ∀ c ∈ cs.getLast?, p c = false) (hrest : ∀ c ∈ rest, p c = true) :
    (cs ++ rest).rdropWhile p = cs := by
  have hreverse : ∀ c ∈ cs.reverse.head?, p c = false := by
    rw [List.head?_reverse]
    exact h
  have hall : ∀ c ∈ rest.reverse, p c = true := fun c hc => hrest c (List.mem_reverse.mp hc)
  rw [List.rdropWhile, List.reverse_append, dropWhile_append_of_head hall hreverse,
    List.reverse_reverse]

/-! ## Texts that nothing is taken from -/

theorem dropWhile_front (hne : cs ≠ []) (h : ∀ c ∈ cs, p c = false) (rest : List Char) :
    (cs ++ rest).dropWhile p = cs ++ rest := by
  refine dropWhile_of_head fun c hc => ?_
  rw [List.head?_append_of_ne_nil _ hne] at hc
  exact h c (List.mem_of_head? hc)

theorem rdropWhile_front (hne : cs ≠ []) (h : ∀ c ∈ cs.getLast?, p c = false)
    (rest : List Char) : (cs ++ rest).rdropWhile p = cs ++ rest.rdropWhile p := by
  have hlast := h _ (List.getLast?_eq_some_getLast hne)
  rw [← List.dropLast_append_getLast hne, List.append_assoc, List.append_assoc]
  exact rdropWhile_before_stop hlast _ rest

end DeployService.Text
