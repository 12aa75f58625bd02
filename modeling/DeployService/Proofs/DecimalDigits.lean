import DeployService.Text.Digits

/-!
# Decimal digits

The digits of a number denote it, and so they do behind any number of zeros (`digitsValue_zeros`).
Written as characters, they are read back one by one (`decimalChar_isDigit`), and a text of them as
a number (`IsDecimal.readNat?`).
-/

namespace DeployService.Text

/-! ## Digits of numbers -/

theorem decimalDigits_lt (n : Nat) : ∀ d ∈ decimalDigits n, d < 10 := by
  induction n using decimalDigits.induct with
  | case1 n h =>
    intro d hd
    rw [decimalDigits, if_pos h, List.mem_singleton] at hd
    omega
  | case2 n h ih =>
    intro d hd
    rw [decimalDigits, if_neg h] at hd
    rcases List.mem_append.mp hd with hd | hd
    · exact ih d hd
    · rw [List.mem_singleton] at hd
      omega

/-- There are no leading zeros. -/
theorem decimalDigits_head (n : Nat) :
    ∃ d rest, decimalDigits n = d :: rest ∧ (0 < n → d ≠ 0) ∧ (n = 0 → rest = []) := by
  induction n using decimalDigits.induct with
  | case1 n h =>
    rw [decimalDigits, if_pos h]
    exact ⟨n, [], rfl, by omega, fun _ => rfl⟩
  | case2 n h ih =>
    obtain ⟨d, rest, hd, hne, -⟩ := ih
    rw [decimalDigits, if_neg h, hd]
    exact ⟨d, rest ++ [n % 10], rfl, fun _ => hne (by omega), by omega⟩

theorem digitsValue_decimalDigits (n : Nat) : digitsValue 10 (decimalDigits n) = n := by
  induction n using decimalDigits.induct with
  | case1 n h =>
    rw [decimalDigits, if_pos h]
    simp [digitsValue]
  | case2 n h ih =>
    rw [decimalDigits, if_neg h, digitsValue, List.foldl_append]
    rw [digitsValue] at ih
    rw [ih]
    simp only [List.foldl_cons, List.foldl_nil]
    omega

theorem digitsValue_zeros (zeros : Nat) (digits : List Nat) :
    digitsValue 10 (List.replicate zeros 0 ++ digits) = digitsValue 10 digits := by
  induction zeros with
  | zero => rw [List.replicate_zero, List.nil_append]
  | succ zeros ih =>
    rw [List.replicate_succ, List.cons_append, digitsValue, List.foldl_cons]
    exact ih

/-! ## Characters -/

theorem isAlphanum_iff {c : Char} : c.isAlphanum = true ↔
    (('A' ≤ c ∧ c ≤ 'Z') ∨ ('a' ≤ c ∧ c ≤ 'z')) ∨ ('0' ≤ c ∧ c ≤ '9') := by
  have hupper : c.isUpper = true ↔ 'A' ≤ c ∧ c ≤ 'Z' := decide_eq_true_iff
  have hlower : c.isLower = true ↔ 'a' ≤ c ∧ c ≤ 'z' :=
    Bool.and_eq_true_iff.trans (and_congr decide_eq_true_iff decide_eq_true_iff)
  have hdigit : c.isDigit = true ↔ '0' ≤ c ∧ c ≤ '9' :=
    Bool.and_eq_true_iff.trans (and_congr decide_eq_true_iff decide_eq_true_iff)
  have halpha : c.isAlpha = true ↔ c.isUpper = true ∨ c.isLower = true := Bool.or_eq_true_iff
  have hboth : c.isAlphanum = true ↔ c.isAlpha = true ∨ c.isDigit = true := Bool.or_eq_true_iff
  rw [hboth, halpha, hupper, hlower, hdigit]

theorem decimalValue?_eq_some {c : Char} {d : Nat} :
    decimalValue? c = some d ↔ c.isDigit = true ∧ c.toNat - 0x30 = d := by
  have hdigit : c.isDigit = true ↔ '0' ≤ c ∧ c ≤ '9' := by
    simp [Char.isDigit, Char.le_def]
  rw [decimalValue?, hdigit]
  split
  · next h => simp [h]
  · next h => simp [h]

theorem decimalChar_isDigit : ∀ d < 10,
    (decimalChar d).isDigit = true ∧ (decimalChar d).toNat - 0x30 = d := by
  decide

/-! ## Texts of digits -/

/-- The text consists of one or more decimal digits, which denote `n`. -/
structure IsDecimal (digits : List Char) (n : Nat) : Prop where
  nonempty : digits ≠ []
  all : ∀ c ∈ digits, c.isDigit = true
  value : digitsValue 10 (digits.map fun c => c.toNat - 0x30) = n

theorem mapM_eq_some_map {α β : Type} {f : α → Option β} {g : α → β} {as : List α}
    (h : ∀ a ∈ as, f a = some (g a)) : as.mapM f = some (as.map g) := by
  induction as with
  | nil => rfl
  | cons a as ih =>
    rw [List.mapM_cons, h a List.mem_cons_self, ih fun a' ha' => h a' (List.mem_cons_of_mem _ ha')]
    rfl

theorem IsDecimal.readNat? {digits : List Char} {n : Nat} (h : IsDecimal digits n) :
    readNat? digits = some n := by
  have hvalues : digits.mapM decimalValue? = some (digits.map fun c => c.toNat - 0x30) :=
    mapM_eq_some_map fun c hc => decimalValue?_eq_some.mpr ⟨h.all c hc, rfl⟩
  have hempty : digits.isEmpty = false := List.isEmpty_eq_false_iff.mpr h.nonempty
  rw [Text.readNat?, hempty, hvalues, ← h.value]
  rfl

end DeployService.Text
