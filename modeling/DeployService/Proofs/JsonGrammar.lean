import DeployService.Proofs.JsonNumbers

/-!
# What is read as a JSON document

The grammar of JSON over bytes, as a relation between a tree and the bytes that it can be written
as (`Raw.IsForm`, and `Raw.IsElement` with white space around it), and the proof that the reader
reads exactly these (`Raw.read?_eq_some_iff`).

The reader descends with a bound on its steps. Every step takes a byte at least, so the number of
bytes is bound enough: both directions are inductions on the bound that speak of values, elements
and members at once (`Raw.ReadsForms`, `Raw.IsReadFrom`).
-/

namespace DeployService.Json.Raw

theorem map_read_eq_some {α β : Type} (f : α → β) {o : Option (α × List UInt8)} {b : β}
    {rest : List UInt8} (h : (o.map fun (a, r) => (f a, r)) = some (b, rest)) :
    ∃ a, o = some (a, rest) ∧ f a = b := by
  obtain ⟨⟨a, r⟩, ho, heq⟩ := Option.map_eq_some_iff.mp h
  cases heq
  exact ⟨a, ho, rfl⟩

/-! ## White space -/

/-- There is only white space. -/
def IsSpace (w : List UInt8) : Prop := ∀ b ∈ w, isSpace b = true

theorem IsSpace.nil : IsSpace [] := by
  intro b hb
  cases hb

theorem IsSpace.append {w w' : List UInt8} (h : IsSpace w) (h' : IsSpace w') :
    IsSpace (w ++ w') := by
  intro b hb
  rcases List.mem_append.mp hb with hb | hb
  · exact h b hb
  · exact h' b hb

theorem skipSpace_append {w : List UInt8} (hw : IsSpace w) (s : List UInt8) :
    skipSpace (w ++ s) = skipSpace s :=
  List.dropWhile_append_of_pos hw

theorem skipSpace_cons {b : UInt8} (hb : isSpace b = false) (s : List UInt8) :
    skipSpace (b :: s) = b :: s := by
  rw [skipSpace, List.dropWhile_cons_of_neg (by rw [hb]; decide)]

theorem eq_space_append (s : List UInt8) : ∃ w, IsSpace w ∧ s = w ++ skipSpace s := by
  refine ⟨s.takeWhile isSpace, fun b hb => ?_, List.takeWhile_append_dropWhile.symm⟩
  exact List.all_eq_true.mp List.all_takeWhile b hb

/-- What is read after the white space at the beginning, stands behind white space. -/
theorem eq_space_of_skipSpace {s tail : List UInt8} {b : UInt8} (h : skipSpace s = b :: tail) :
    ∃ w, IsSpace w ∧ s = w ++ b :: tail := by
  obtain ⟨w, hw, hs⟩ := eq_space_append s
  rw [h] at hs
  exact ⟨w, hw, hs⟩

/-! ## Strings -/

/-- The bytes may stand between the quotes of a string: no control character, no quote, and a
backslash only in an escape. -/
inductive Quotable : List UInt8 → Prop where
  | nil : Quotable []
  | plain {b : UInt8} {t : List UInt8} (hb : IsPlain b) (h : Quotable t) : Quotable (b :: t)
  | short {e : UInt8} {t : List UInt8} (he : isEscape e = true) (h : Quotable t) :
    Quotable (0x5C :: e :: t)
  | quad {h₁ h₂ h₃ h₄ : UInt8} {t : List UInt8}
    (hex : (isHexDigit h₁ && isHexDigit h₂ && isHexDigit h₃ && isHexDigit h₄) = true)
    (h : Quotable t) : Quotable (0x5C :: 0x75 :: h₁ :: h₂ :: h₃ :: h₄ :: t)

theorem Quotable.behind_quad {h₁ h₂ h₃ h₄ : UInt8} {t : List UInt8}
    (h : Quotable (0x5C :: 0x75 :: h₁ :: h₂ :: h₃ :: h₄ :: t)) :
    (isHexDigit h₁ && isHexDigit h₂ && isHexDigit h₃ && isHexDigit h₄) = true ∧ Quotable t := by
  cases h with
  | plain hb _ => exact absurd rfl hb.2.2
  | short he _ => exact absurd he (by decide)
  | quad hex h => exact ⟨hex, h⟩

theorem readText?_quotable {t : List UInt8} (h : Quotable t) (rest : List UInt8) :
    readText? (t ++ 0x22 :: rest) = some (t, rest) := by
  induction h with
  | nil =>
    rw [List.nil_append, readText?.eq_def]
    rfl
  | plain hb _ ih =>
    obtain ⟨hcontrol, hquote, hslash⟩ := hb
    rw [List.cons_append, readText?.eq_def]
    simp only [hquote, hslash, Nat.not_lt.mpr hcontrol, if_false, ih, Option.map_some]
  | short he _ ih =>
    rw [List.cons_append, List.cons_append, readText?.eq_def]
    simp only [he, if_true, ih, Option.map_some]
    rfl
  | quad hex _ ih =>
    simp only [List.cons_append]
    rw [readText?_quad hex, ih, Option.map_some]

theorem quotable_of_readText? {s t rest : List UInt8} (h : readText? s = some (t, rest)) :
    Quotable t ∧ s = t ++ 0x22 :: rest := by
  fun_induction readText? s generalizing t with
  | case2 rest =>
    cases h
    exact ⟨.nil, rfl⟩
  | case4 e s he _ ih =>
    obtain ⟨u, hu, rfl⟩ := map_read_eq_some (0x5C :: e :: ·) h
    obtain ⟨hq, hs⟩ := ih hu
    exact ⟨.short he hq, by rw [hs]; rfl⟩
  | case5 h₁ h₂ h₃ h₄ s hex _ _ ih =>
    obtain ⟨u, hu, rfl⟩ := map_read_eq_some (0x5C :: 0x75 :: h₁ :: h₂ :: h₃ :: h₄ :: ·) h
    obtain ⟨hq, hs⟩ := ih hu
    exact ⟨.quad hex hq, by rw [hs]; rfl⟩
  | case10 b s hquote hslash hcontrol ih =>
    obtain ⟨u, hu, rfl⟩ := map_read_eq_some (b :: ·) h
    obtain ⟨hq, hs⟩ := ih hu
    exact ⟨.plain ⟨Nat.not_lt.mp hcontrol, hquote, hslash⟩ hq, by rw [hs]; rfl⟩
  | _ => cases h

/-! ## Values -/

mutual

/-- The bytes that a value can be written as. -/
inductive IsForm : Raw → List UInt8 → Prop where
  | null : IsForm .null [0x6E, 0x75, 0x6C, 0x6C]
  | yes : IsForm (.bool true) [0x74, 0x72, 0x75, 0x65]
  | no : IsForm (.bool false) [0x66, 0x61, 0x6C, 0x73, 0x65]
  | number {l : NumberLiteral} {t : List UInt8} (h : IsNumber l t) : IsForm (.number l) t
  | text {t : List UInt8} (h : Quotable t) : IsForm (.text t) (0x22 :: (t ++ [0x22]))
  | noElements {w : List UInt8} (hw : IsSpace w) : IsForm (.array []) (0x5B :: (w ++ [0x5D]))
  | array {items : List Raw} {t : List UInt8} (h : AreElements items t) :
    IsForm (.array items) (0x5B :: (t ++ [0x5D]))
  | noMembers {w : List UInt8} (hw : IsSpace w) : IsForm (.object []) (0x7B :: (w ++ [0x7D]))
  | object {members : List (List UInt8 × Raw)} {t : List UInt8} (h : AreMembers members t) :
    IsForm (.object members) (0x7B :: (t ++ [0x7D]))

/-- A value with white space around it. -/
inductive IsElement : Raw → List UInt8 → Prop where
  | mk {r : Raw} {w t w' : List UInt8} (hw : IsSpace w) (h : IsForm r t) (hw' : IsSpace w') :
    IsElement r (w ++ (t ++ w'))

/-- What stands between the brackets of an array that has elements. -/
inductive AreElements : List Raw → List UInt8 → Prop where
  | last {r : Raw} {t : List UInt8} (h : IsElement r t) : AreElements [r] t
  | more {r : Raw} {items : List Raw} {t more : List UInt8} (h : IsElement r t)
    (hmore : AreElements items more) : AreElements (r :: items) (t ++ 0x2C :: more)

/-- A name and a value with a colon between them. -/
inductive IsMember : List UInt8 × Raw → List UInt8 → Prop where
  | mk {name : List UInt8} {r : Raw} {w w' t : List UInt8} (hw : IsSpace w) (hn : Quotable name)
    (hw' : IsSpace w') (h : IsElement r t) :
    IsMember (name, r) (w ++ 0x22 :: (name ++ 0x22 :: (w' ++ 0x3A :: t)))

/-- What stands between the braces of an object that has members. -/
inductive AreMembers : List (List UInt8 × Raw) → List UInt8 → Prop where
  | last {m : List UInt8 × Raw} {t : List UInt8} (h : IsMember m t) : AreMembers [m] t
  | more {m : List UInt8 × Raw} {members : List (List UInt8 × Raw)} {t more : List UInt8}
    (h : IsMember m t) (hmore : AreMembers members more) :
    AreMembers (m :: members) (t ++ 0x2C :: more)

end

theorem IsElement.bare {r : Raw} {t : List UInt8} (h : IsForm r t) : IsElement r t := by
  have helement := IsElement.mk .nil h .nil
  rwa [List.nil_append, List.append_nil] at helement

/-- A value does not begin with white space, nor with a closing bracket. -/
theorem IsForm.head {r : Raw} {t : List UInt8} (h : IsForm r t) :
    ∃ b tail, t = b :: tail ∧ isSpace b = false ∧ b ≠ 0x5D := by
  cases h with
  | number h =>
    obtain ⟨b, tail, rfl, hb⟩ := h.head
    have hspace : isSpace b = false := by
      simp [isSpace, startsNumber_ne hb (c := 0x20) rfl (by decide),
        startsNumber_ne hb (c := 0x09) rfl (by decide),
        startsNumber_ne hb (c := 0x0A) rfl (by decide),
        startsNumber_ne hb (c := 0x0D) rfl (by decide)]
    exact ⟨b, tail, rfl, hspace, startsNumber_ne hb rfl (by decide)⟩
  | _ => exact ⟨_, _, rfl, by decide, by decide⟩

theorem IsForm.skipSpace {r : Raw} {t : List UInt8} (h : IsForm r t) (rest : List UInt8) :
    Raw.skipSpace (t ++ rest) = t ++ rest := by
  obtain ⟨b, tail, rfl, hb, -⟩ := h.head
  exact skipSpace_cons hb _

theorem IsElement.head {r : Raw} {t : List UInt8} (h : IsElement r t) (rest : List UInt8) :
    ∃ b tail, Raw.skipSpace (t ++ rest) = b :: tail ∧ b ≠ 0x5D := by
  obtain @⟨r, w, t, w', hw, h, -⟩ := h
  rw [List.append_assoc, skipSpace_append hw, List.append_assoc, h.skipSpace]
  obtain ⟨b, tail, rfl, -, hb⟩ := h.head
  exact ⟨b, _, rfl, hb⟩

theorem AreElements.head {items : List Raw} {t : List UInt8} (h : AreElements items t)
    (rest : List UInt8) : ∃ b tail, Raw.skipSpace (t ++ rest) = b :: tail ∧ b ≠ 0x5D := by
  cases h with
  | last h => exact h.head rest
  | more h _ =>
    rw [List.append_assoc]
    exact h.head _

theorem IsMember.head {m : List UInt8 × Raw} {t : List UInt8} (h : IsMember m t)
    (rest : List UInt8) : ∃ tail, Raw.skipSpace (t ++ rest) = 0x22 :: tail := by
  obtain ⟨hw, -, -, -⟩ := h
  rw [List.append_assoc, skipSpace_append hw]
  exact ⟨_, skipSpace_cons rfl _⟩

theorem AreMembers.head {members : List (List UInt8 × Raw)} {t : List UInt8}
    (h : AreMembers members t) (rest : List UInt8) :
    ∃ tail, Raw.skipSpace (t ++ rest) = 0x22 :: tail := by
  cases h with
  | last h => exact h.head rest
  | more h _ =>
    rw [List.append_assoc]
    exact h.head _

/-! ## Every form is read -/

theorem EndsNumber.space {w rest : List UInt8} (hw : IsSpace w) (hr : EndsNumber rest) :
    EndsNumber (w ++ rest) := by
  cases w with
  | nil => exact hr
  | cons b w =>
    intro b' hb
    cases hb
    have hspace : b = 0x20 ∨ b = 0x09 ∨ b = 0x0A ∨ b = 0x0D := by
      simpa [isSpace, or_assoc] using hw b List.mem_cons_self
    rcases hspace with rfl | rfl | rfl | rfl <;> decide

/-- A number is what starts with a sign or a digit. -/
theorem readValue?_number {b : UInt8} {tail : List UInt8} {fuel : Nat}
    (h : b = 0x2D ∨ isDigit b = true) :
    readValue? (fuel + 1) (b :: tail) =
      (readNumber? (b :: tail)).map fun (l, r) => (.number l, r) := by
  rw [readValue?.eq_def]
  simp only [startsNumber_ne h (c := 0x22) rfl (by decide),
    startsNumber_ne h (c := 0x5B) rfl (by decide), startsNumber_ne h (c := 0x7B) rfl (by decide),
    startsNumber_ne h (c := 0x6E) rfl (by decide), startsNumber_ne h (c := 0x74) rfl (by decide),
    startsNumber_ne h (c := 0x66) rfl (by decide), if_false]

theorem readValue?_array {fuel : Nat} {b : UInt8} {s tail : List UInt8}
    (hs : skipSpace s = b :: tail) :
    readValue? (fuel + 1) (0x5B :: s) =
      if b = 0x5D then some (.array [], tail)
      else (readItems? fuel (b :: tail)).map fun (items, r) => (.array items, r) := by
  have hquote : ¬(0x5B : UInt8) = 0x22 := by decide
  rw [readValue?.eq_def]
  simp only [hquote, if_true, if_false, hs]

theorem readValue?_object {fuel : Nat} {b : UInt8} {s tail : List UInt8}
    (hs : skipSpace s = b :: tail) :
    readValue? (fuel + 1) (0x7B :: s) =
      if b = 0x7D then some (.object [], tail)
      else (readMembers? fuel (b :: tail)).map fun (members, r) => (.object members, r) := by
  have hquote : ¬(0x7B : UInt8) = 0x22 := by decide
  have hbracket : ¬(0x7B : UInt8) = 0x5B := by decide
  rw [readValue?.eq_def]
  simp only [hquote, hbracket, if_true, if_false, hs]

/-- Every form of at most `n` bytes is read in `n` steps. In brackets it takes one step more. -/
structure ReadsForms (n : Nat) : Prop where
  value : ∀ {r t} rest, IsForm r t → t.length ≤ n → EndsNumber rest →
    readValue? n (t ++ rest) = some (r, rest)
  items : ∀ {items t} rest, AreElements items t → t.length < n →
    readItems? n (skipSpace (t ++ 0x5D :: rest)) = some (items, rest)
  members : ∀ {members t} rest, AreMembers members t → t.length < n →
    readMembers? n (skipSpace (t ++ 0x7D :: rest)) = some (members, rest)

section

variable {n : Nat}

theorem ReadsForms.element (ih : ReadsForms n) {r : Raw} {t : List UInt8} (rest : List UInt8)
    (h : IsElement r t) (hn : t.length ≤ n) (hr : EndsNumber rest) :
    ∃ w, IsSpace w ∧ readValue? n (skipSpace (t ++ rest)) = some (r, w ++ rest) := by
  obtain @⟨r, w, t, w', hw, h, hw'⟩ := h
  simp only [List.length_append] at hn
  refine ⟨w', hw', ?_⟩
  rw [List.append_assoc, skipSpace_append hw, List.append_assoc, h.skipSpace]
  exact ih.value _ h (by omega) (.space hw' hr)

theorem ReadsForms.value_succ (ih : ReadsForms n) {r : Raw} {t : List UInt8} (rest : List UInt8)
    (h : IsForm r t) (hn : t.length ≤ n + 1) (hr : EndsNumber rest) :
    readValue? (n + 1) (t ++ rest) = some (r, rest) := by
  cases h with
  | null => rfl
  | yes => rfl
  | no => rfl
  | number h =>
    obtain ⟨b, tail, rfl, hb⟩ := h.head
    have hread := readNumber?_form h hr
    rw [List.cons_append] at hread ⊢
    rw [readValue?_number hb, hread, Option.map_some]
  | @text t h =>
    rw [List.cons_append, List.append_assoc, readValue?.eq_def]
    simp only [if_true, List.singleton_append, readText?_quotable h, Option.map_some]
  | @noElements w hw =>
    have hskip : skipSpace (w ++ 0x5D :: rest) = 0x5D :: rest := by
      rw [skipSpace_append hw, skipSpace_cons (b := 0x5D) rfl]
    rw [List.cons_append, List.append_assoc, List.singleton_append, readValue?_array hskip,
      if_pos rfl]
  | @array items t h =>
    simp only [List.length_cons, List.length_append] at hn
    have hitems := ih.items rest h (by omega)
    obtain ⟨b, tail, hskip, hb⟩ := h.head (0x5D :: rest)
    rw [hskip] at hitems
    rw [List.cons_append, List.append_assoc, List.singleton_append, readValue?_array hskip,
      if_neg hb, hitems, Option.map_some]
  | @noMembers w hw =>
    have hskip : skipSpace (w ++ 0x7D :: rest) = 0x7D :: rest := by
      rw [skipSpace_append hw, skipSpace_cons (b := 0x7D) rfl]
    rw [List.cons_append, List.append_assoc, List.singleton_append, readValue?_object hskip,
      if_pos rfl]
  | @object members t h =>
    simp only [List.length_cons, List.length_append] at hn
    have hmembers := ih.members rest h (by omega)
    obtain ⟨tail, hskip⟩ := h.head (0x7D :: rest)
    rw [hskip] at hmembers
    rw [List.cons_append, List.append_assoc, List.singleton_append, readValue?_object hskip,
      if_neg (by decide), hmembers, Option.map_some]

theorem ReadsForms.items_succ (ih : ReadsForms n) {items : List Raw} {t : List UInt8}
    (rest : List UInt8) (h : AreElements items t) (hn : t.length < n + 1) :
    readItems? (n + 1) (skipSpace (t ++ 0x5D :: rest)) = some (items, rest) := by
  cases h with
  | last h =>
    obtain ⟨w, hw, hvalue⟩ :=
      ih.element (0x5D :: rest) h (by omega) (.cons (.inr (.inl rfl)) rest)
    rw [readItems?, hvalue]
    simp only [skipSpace_append hw, skipSpace_cons (b := 0x5D) rfl, if_true]
  | @more r items t more h hmore =>
    simp only [List.length_append, List.length_cons] at hn
    obtain ⟨w, hw, hvalue⟩ :=
      ih.element (0x2C :: (more ++ 0x5D :: rest)) h (by omega) (.cons (.inl rfl) _)
    have hitems := ih.items rest hmore (by omega)
    have hnot : ¬(0x2C : UInt8) = 0x5D := by decide
    rw [List.append_assoc, List.cons_append, readItems?, hvalue]
    simp only [skipSpace_append hw, skipSpace_cons (b := 0x2C) rfl, hnot, if_true, if_false,
      hitems, Option.map_some]

/-- A member is read up to what follows its value. -/
theorem ReadsForms.member (ih : ReadsForms n) {name t : List UInt8} {r : Raw}
    (rest : List UInt8) (h : IsMember (name, r) t) (hn : t.length ≤ n) (hr : EndsNumber rest) :
    ∃ s w, skipSpace (t ++ rest) = 0x22 :: s ∧ IsSpace w ∧
      ∃ colon v, readText? s = some (name, colon) ∧ skipSpace colon = 0x3A :: v ∧
        readValue? n (skipSpace v) = some (r, w ++ rest) := by
  obtain @⟨name, r, w, w', t, hw, hq, hw', h⟩ := h
  simp only [List.length_append, List.length_cons] at hn
  obtain ⟨w₁, hw₁, hvalue⟩ := ih.element rest h (by omega) hr
  have hskip : skipSpace ((w ++ 0x22 :: (name ++ 0x22 :: (w' ++ 0x3A :: t))) ++ rest) =
      0x22 :: (name ++ 0x22 :: (w' ++ 0x3A :: (t ++ rest))) := by
    simp only [List.append_assoc, List.cons_append]
    rw [skipSpace_append hw, skipSpace_cons (b := 0x22) rfl]
  have hcolon : skipSpace (w' ++ 0x3A :: (t ++ rest)) = 0x3A :: (t ++ rest) := by
    rw [skipSpace_append hw', skipSpace_cons (b := 0x3A) rfl]
  exact ⟨_, w₁, hskip, hw₁, _, _, readText?_quotable hq _, hcolon, hvalue⟩

theorem ReadsForms.members_succ (ih : ReadsForms n) {members : List (List UInt8 × Raw)}
    {t : List UInt8} (rest : List UInt8) (h : AreMembers members t) (hn : t.length < n + 1) :
    readMembers? (n + 1) (skipSpace (t ++ 0x7D :: rest)) = some (members, rest) := by
  cases h with
  | @last m t h =>
    obtain ⟨s, w, hskip, hw, colon, v, hname, hcolon, hvalue⟩ :=
      ih.member (0x7D :: rest) h (by omega) (.cons (.inr (.inr rfl)) rest)
    rw [hskip, readMembers?.eq_def]
    simp only [if_true, hname, hcolon, hvalue, skipSpace_append hw,
      skipSpace_cons (b := 0x7D) rfl]
  | @more m members t more h hmore =>
    simp only [List.length_append, List.length_cons] at hn
    obtain ⟨s, w, hskip, hw, colon, v, hname, hcolon, hvalue⟩ :=
      ih.member (0x2C :: (more ++ 0x7D :: rest)) h (by omega) (.cons (.inl rfl) _)
    have hmembers := ih.members rest hmore (by omega)
    have hnot : ¬(0x2C : UInt8) = 0x7D := by decide
    rw [List.append_assoc, List.cons_append, hskip, readMembers?.eq_def]
    simp only [if_true, if_false, hname, hcolon, hvalue, skipSpace_append hw,
      skipSpace_cons (b := 0x2C) rfl, hnot, hmembers, Option.map_some]

end

theorem readsForms (n : Nat) : ReadsForms n := by
  induction n with
  | zero =>
    constructor
    · intro r t rest h hn _
      obtain ⟨b, tail, rfl, -⟩ := h.head
      cases hn
    · intro items t rest _ hn
      cases hn
    · intro members t rest _ hn
      cases hn
  | succ n ih => exact ⟨ih.value_succ, ih.items_succ, ih.members_succ⟩

/-! ## Only forms are read -/

/-- What is read in `n` steps are forms. -/
structure IsReadFrom (n : Nat) : Prop where
  value : ∀ {s r rest}, readValue? n s = some (r, rest) → ∃ t, s = t ++ rest ∧ IsForm r t
  items : ∀ {s items rest}, readItems? n (skipSpace s) = some (items, rest) →
    ∃ t, s = t ++ 0x5D :: rest ∧ AreElements items t
  members : ∀ {s members rest}, readMembers? n (skipSpace s) = some (members, rest) →
    ∃ t, s = t ++ 0x7D :: rest ∧ AreMembers members t

section

variable {n : Nat}

theorem IsReadFrom.element (ih : IsReadFrom n) {s rest tail : List UInt8} {r : Raw} {c : UInt8}
    (h : readValue? n (skipSpace s) = some (r, rest)) (hr : skipSpace rest = c :: tail) :
    ∃ t, s = t ++ c :: tail ∧ IsElement r t := by
  obtain ⟨t, hs, ht⟩ := ih.value h
  obtain ⟨w, hw, hspace⟩ := eq_space_append s
  obtain ⟨w', hw', rfl⟩ := eq_space_of_skipSpace hr
  exact ⟨_, by rw [hspace, hs]; simp only [List.append_assoc], .mk hw ht hw'⟩

theorem IsReadFrom.value_succ (ih : IsReadFrom n) {s rest : List UInt8} {r : Raw}
    (h : readValue? (n + 1) s = some (r, rest)) : ∃ t, s = t ++ rest ∧ IsForm r t := by
  cases s with
  | nil => cases h
  | cons b s =>
    rw [readValue?.eq_def] at h
    simp only at h
    split at h
    · next hb =>
      obtain ⟨t, ht, rfl⟩ := map_read_eq_some Raw.text h
      obtain ⟨hq, rfl⟩ := quotable_of_readText? ht
      exact ⟨_, by rw [hb, List.cons_append, List.append_assoc]; rfl, .text hq⟩
    split at h
    · next hb =>
      split at h
      · cases h
      · next c tail hskip =>
        split at h
        · next hc =>
          cases h
          obtain ⟨w, hw, rfl⟩ := eq_space_of_skipSpace hskip
          exact ⟨_, by rw [hb, hc, List.cons_append, List.append_assoc]; rfl, .noElements hw⟩
        · rw [← hskip] at h
          obtain ⟨items, hi, rfl⟩ := map_read_eq_some Raw.array h
          obtain ⟨t, rfl, hitems⟩ := ih.items hi
          exact ⟨_, by rw [hb, List.cons_append, List.append_assoc]; rfl, .array hitems⟩
    split at h
    · next hb =>
      split at h
      · cases h
      · next c tail hskip =>
        split at h
        · next hc =>
          cases h
          obtain ⟨w, hw, rfl⟩ := eq_space_of_skipSpace hskip
          exact ⟨_, by rw [hb, hc, List.cons_append, List.append_assoc]; rfl, .noMembers hw⟩
        · rw [← hskip] at h
          obtain ⟨members, hm, rfl⟩ := map_read_eq_some Raw.object h
          obtain ⟨t, rfl, hmembers⟩ := ih.members hm
          exact ⟨_, by rw [hb, List.cons_append, List.append_assoc]; rfl, .object hmembers⟩
    -- the three literals
    split at h
    · next hb =>
      split at h
      · cases h
        exact ⟨_, by rw [hb]; rfl, .null⟩
      · cases h
    split at h
    · next hb =>
      split at h
      · cases h
        exact ⟨_, by rw [hb]; rfl, .yes⟩
      · cases h
    split at h
    · next hb =>
      split at h
      · cases h
        exact ⟨_, by rw [hb]; rfl, .no⟩
      · cases h
    · obtain ⟨l, hl, rfl⟩ := map_read_eq_some Raw.number h
      obtain ⟨t, ht, hnumber⟩ := form_of_readNumber? hl
      exact ⟨t, ht, .number hnumber⟩

theorem IsReadFrom.items_succ (ih : IsReadFrom n) {s rest : List UInt8} {items : List Raw}
    (h : readItems? (n + 1) (skipSpace s) = some (items, rest)) :
    ∃ t, s = t ++ 0x5D :: rest ∧ AreElements items t := by
  rw [readItems?.eq_def] at h
  simp only at h
  split at h
  · cases h
  · next r s' hr =>
    split at h
    · cases h
    · next c tail hskip =>
      obtain ⟨t, rfl, ht⟩ := ih.element hr hskip
      split at h
      · next hc =>
        cases h
        exact ⟨t, by rw [hc], .last ht⟩
      split at h
      · next hc =>
        obtain ⟨more, hi, rfl⟩ := map_read_eq_some (r :: ·) h
        obtain ⟨u, rfl, hmore⟩ := ih.items hi
        exact ⟨_, by rw [hc, List.append_assoc]; rfl, .more ht hmore⟩
      · cases h

theorem IsReadFrom.members_succ (ih : IsReadFrom n) {s rest : List UInt8}
    {members : List (List UInt8 × Raw)}
    (h : readMembers? (n + 1) (skipSpace s) = some (members, rest)) :
    ∃ t, s = t ++ 0x7D :: rest ∧ AreMembers members t := by
  rw [readMembers?.eq_def] at h
  simp only at h
  split at h
  · cases h
  next q s' hquote =>
  obtain ⟨w, hw, rfl⟩ := eq_space_of_skipSpace hquote
  split at h
  · next hq =>
    split at h
    · cases h
    next name s₁ hname =>
    obtain ⟨hquotable, rfl⟩ := quotable_of_readText? hname
    split at h
    · cases h
    next colon s₂ hcolon =>
    obtain ⟨w', hw', rfl⟩ := eq_space_of_skipSpace hcolon
    split at h
    · next hc =>
      split at h
      · cases h
      next r s₃ hr =>
      split at h
      · cases h
      next d tail hskip =>
      obtain ⟨t, rfl, ht⟩ := ih.element hr hskip
      have hmember := IsMember.mk hw hquotable hw' ht
      split at h
      · next hd =>
        cases h
        refine ⟨_, ?_, .last hmember⟩
        rw [hq, hc, hd]
        simp only [List.cons_append, List.append_assoc]
      split at h
      · next hd =>
        obtain ⟨more, hm, rfl⟩ := map_read_eq_some ((name, r) :: ·) h
        obtain ⟨u, rfl, hmore⟩ := ih.members hm
        refine ⟨_, ?_, .more hmember hmore⟩
        rw [hq, hc, hd]
        simp only [List.cons_append, List.append_assoc]
      · cases h
    · cases h
  · cases h

end

theorem isReadFrom (n : Nat) : IsReadFrom n := by
  induction n with
  | zero =>
    constructor
    · intro s r rest h
      cases h
    · intro s items rest h
      cases h
    · intro s members rest h
      cases h
  | succ n ih => exact ⟨ih.value_succ, ih.items_succ, ih.members_succ⟩

/-- **Exactly the documents are read**: a value with white space around it, and nothing else. -/
theorem read?_eq_some_iff {r : Raw} {bytes : List UInt8} :
    read? bytes = some r ↔ IsElement r bytes := by
  constructor
  · intro h
    rw [read?] at h
    split at h
    · next r' rest hread =>
      split at h
      · next hrest =>
        cases h
        obtain ⟨t, hs, ht⟩ := (isReadFrom _).value hread
        obtain ⟨w, hw, hbytes⟩ := eq_space_append bytes
        obtain ⟨w', hw', hempty⟩ := eq_space_append rest
        rw [List.isEmpty_iff.mp hrest, List.append_nil] at hempty
        rw [hbytes, hs]
        exact .mk hw ht (hempty ▸ hw')
      · cases h
    · cases h
  · intro h
    obtain ⟨w, hw, hread⟩ := (readsForms (bytes.length + 1)).element [] h
      (Nat.le_succ _) .nil
    have hend := skipSpace_append hw []
    have hnil : skipSpace [] = [] := rfl
    rw [List.append_nil] at hread
    rw [read?, hread]
    simp only [hend, hnil, List.isEmpty_nil, if_true]

end DeployService.Json.Raw
