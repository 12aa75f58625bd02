import DeployService.Proofs.JsonLexemes

/-!
# The numbers of JSON

What a number can be written as (`Raw.IsNumber`): a sign or none, digits of which the first is zero
only if it stands alone, a fraction, and an exponent. A number is read up to the first byte that
cannot belong to it, and nothing else is read as a number.
-/

namespace DeployService.Json.Raw

/-- Decimal digits, at least one. -/
def AreDigits (ds : List Nat) : Prop := ds ≠ [] ∧ ∀ d ∈ ds, d < 10

/-- The fraction of a number. -/
inductive IsFraction : Option (List Nat) → List UInt8 → Prop where
  | none : IsFraction none []
  | some {ds : List Nat} (h : AreDigits ds) : IsFraction (some ds) (0x2E :: ds.map digitByte)

/-- The exponent of a number, with its mark in either case. -/
inductive IsExponent : Option (Bool × List Nat) → List UInt8 → Prop where
  | none : IsExponent none []
  | plain {mark : UInt8} {ds : List Nat} (hm : mark = 0x65 ∨ mark = 0x45) (h : AreDigits ds) :
    IsExponent (some (false, ds)) (mark :: ds.map digitByte)
  | up {mark : UInt8} {ds : List Nat} (hm : mark = 0x65 ∨ mark = 0x45) (h : AreDigits ds) :
    IsExponent (some (false, ds)) (mark :: 0x2B :: ds.map digitByte)
  | down {mark : UInt8} {ds : List Nat} (hm : mark = 0x65 ∨ mark = 0x45) (h : AreDigits ds) :
    IsExponent (some (true, ds)) (mark :: 0x2D :: ds.map digitByte)

/-- A number: only the digit zero may begin with zero. -/
inductive IsNumber : NumberLiteral → List UInt8 → Prop where
  | mk (negative : Bool) {whole : List Nat} {fraction : Option (List Nat)}
    {exponent : Option (Bool × List Nat)} {f e : List UInt8} (hw : AreDigits whole)
    (hz : whole.head? = some 0 → whole = [0]) (hf : IsFraction fraction f)
    (he : IsExponent exponent e) :
    IsNumber ⟨negative, whole, fraction, exponent⟩
      ((if negative then [0x2D] else []) ++ whole.map digitByte ++ f ++ e)

/-- No digit follows. -/
def NoDigit (rest : List UInt8) : Prop := ∀ b ∈ rest.head?, isDigit b = false

/-- Nothing follows that would belong to a number. -/
def EndsNumber (rest : List UInt8) : Prop :=
  ∀ b ∈ rest.head?, isDigit b = false ∧ b ≠ 0x2E ∧ b ≠ 0x65 ∧ b ≠ 0x45

theorem EndsNumber.nil : EndsNumber [] := by
  intro b hb
  cases hb

theorem EndsNumber.cons {b : UInt8} (h : b = 0x2C ∨ b = 0x5D ∨ b = 0x7D) (rest : List UInt8) :
    EndsNumber (b :: rest) := by
  intro b' hb
  cases hb
  rcases h with rfl | rfl | rfl <;> decide

theorem EndsNumber.noDigit {rest : List UInt8} (h : EndsNumber rest) : NoDigit rest :=
  fun b hb => (h b hb).1

theorem digitByte_toNat_sub {b : UInt8} (h : isDigit b = true) :
    b.toNat - 0x30 < 10 ∧ digitByte (b.toNat - 0x30) = b := by
  obtain ⟨hl, hh⟩ : 0x30 ≤ b.toNat ∧ b.toNat ≤ 0x39 := by simpa [isDigit] using h
  have hlt : b.toNat - 0x30 < 10 := by omega
  refine ⟨hlt, ?_⟩
  have hd := (digitByte_reads _ hlt).2.2
  have hdigit := (digitByte_reads _ hlt).2.1
  obtain ⟨hl', -⟩ : 0x30 ≤ (digitByte (b.toNat - 0x30)).toNat ∧ _ := by
    simpa [isDigit] using hdigit
  exact UInt8.toNat_inj.mp (by omega)

theorem digits_map {ds : List Nat} (h : ∀ d ∈ ds, d < 10) {rest : List UInt8}
    (hr : NoDigit rest) : digits (ds.map digitByte ++ rest) = (ds, rest) := by
  have hall : ∀ b ∈ ds.map digitByte, isDigit b = true := by
    intro b hb
    obtain ⟨d, hd, rfl⟩ := List.mem_map.mp hb
    exact (digitByte_reads d (h d hd)).2.1
  have hstop : rest.takeWhile isDigit = [] ∧ rest.dropWhile isDigit = rest := by
    cases rest with
    | nil => exact ⟨rfl, rfl⟩
    | cons b rest => simp [hr b rfl]
  have hvalues : (ds.map digitByte).map (fun b => b.toNat - 0x30) = ds := by
    rw [List.map_map]
    refine (List.map_congr_left fun d hd => ?_).trans (List.map_id ds)
    exact (digitByte_reads d (h d hd)).2.2
  rw [digits, List.takeWhile_append_of_pos hall, List.dropWhile_append_of_pos hall, hstop.1,
    hstop.2, List.append_nil, hvalues]

theorem of_digits {s rest : List UInt8} {ds : List Nat} (h : digits s = (ds, rest)) :
    s = ds.map digitByte ++ rest ∧ ∀ d ∈ ds, d < 10 := by
  cases h
  have hdigit : ∀ b ∈ s.takeWhile isDigit, isDigit b = true :=
    fun b hb => List.all_eq_true.mp List.all_takeWhile b hb
  refine ⟨?_, fun d hd => ?_⟩
  · have hbytes : ((s.takeWhile isDigit).map fun b => b.toNat - 0x30).map digitByte =
        s.takeWhile isDigit := by
      rw [List.map_map]
      refine (List.map_congr_left fun b hb => ?_).trans (List.map_id _)
      exact (digitByte_toNat_sub (hdigit b hb)).2
    rw [hbytes, List.takeWhile_append_dropWhile]
  · obtain ⟨b, hb, rfl⟩ := List.mem_map.mp hd
    exact (digitByte_toNat_sub (hdigit b hb)).1

/-! ## Every number is read -/

theorem readFraction?_form {fraction : Option (List Nat)} {f rest : List UInt8}
    (h : IsFraction fraction f) (hd : NoDigit rest) (hp : ∀ b ∈ rest.head?, b ≠ 0x2E) :
    readFraction? (f ++ rest) = some (fraction, rest) := by
  cases h with
  | none =>
    cases rest with
    | nil => rfl
    | cons b rest => rw [List.nil_append, readFraction?, if_neg (hp b rfl)]
  | @some ds h =>
    have hne : ds.isEmpty = false := List.isEmpty_eq_false_iff.mpr h.1
    rw [List.cons_append, readFraction?, if_pos rfl, digits_map h.2 hd]
    simp only [hne, Bool.false_eq_true, if_false]

theorem digitByte_not_sign {ds : List Nat} (h : ∀ d ∈ ds, d < 10) {b : UInt8}
    (hb : b ∈ (ds.map digitByte).head?) : b ≠ 0x2D ∧ b ≠ 0x2B := by
  cases ds with
  | nil => cases hb
  | cons d ds =>
    cases hb
    have hdigit := (digitByte_reads d (h d List.mem_cons_self)).2.1
    constructor <;> intro heq <;> rw [heq] at hdigit <;> exact absurd hdigit (by decide)

theorem readExponent?_form {exponent : Option (Bool × List Nat)} {e rest : List UInt8}
    (h : IsExponent exponent e) (hd : NoDigit rest)
    (hp : ∀ b ∈ rest.head?, b ≠ 0x65 ∧ b ≠ 0x45) :
    readExponent? (e ++ rest) = some (exponent, rest) := by
  cases h with
  | none =>
    cases rest with
    | nil => rfl
    | cons b rest =>
      have hb : ¬(b = 0x65 ∨ b = 0x45) := not_or.mpr (hp b rfl)
      rw [List.nil_append, readExponent?.eq_def]
      simp only [hb, if_false]
  | @plain mark ds hm h =>
    obtain ⟨d, ds', rfl⟩ := List.exists_cons_of_ne_nil h.1
    have hsign := digitByte_not_sign h.2 (b := digitByte d) rfl
    have hread := digits_map h.2 hd
    rw [List.map_cons, List.cons_append] at hread
    rw [List.cons_append, List.map_cons, List.cons_append, readExponent?.eq_def]
    simp only [hm, hsign.1, hsign.2, hread, if_true, if_false]
    rfl
  | @up mark ds hm h =>
    have hne : ds.isEmpty = false := List.isEmpty_eq_false_iff.mpr h.1
    have hsign : ¬(0x2B : UInt8) = 0x2D := by decide
    rw [List.cons_append, List.cons_append, readExponent?.eq_def]
    simp only [hm, hsign, digits_map h.2 hd, hne, Bool.false_eq_true, if_true, if_false]
  | @down mark ds hm h =>
    have hne : ds.isEmpty = false := List.isEmpty_eq_false_iff.mpr h.1
    rw [List.cons_append, List.cons_append, readExponent?.eq_def]
    simp only [hm, digits_map h.2 hd, hne, Bool.false_eq_true, if_true, if_false]

theorem readUnsigned?_form (negative : Bool) {whole : List Nat} {fraction : Option (List Nat)}
    {exponent : Option (Bool × List Nat)} {f e rest : List UInt8} (hw : AreDigits whole)
    (hz : whole.head? = some 0 → whole = [0]) (hf : IsFraction fraction f)
    (he : IsExponent exponent e) (hr : EndsNumber rest) :
    readUnsigned? negative (whole.map digitByte ++ (f ++ (e ++ rest))) =
      some (⟨negative, whole, fraction, exponent⟩, rest) := by
  have hexponent := readExponent?_form he hr.noDigit fun b hb => (hr b hb).2.2
  -- what follows the fraction is the exponent or the end of the number
  have hafter : ∀ b ∈ (e ++ rest).head?, isDigit b = false ∧ b ≠ 0x2E := by
    intro b hb
    cases he with
    | none => exact ⟨(hr b hb).1, (hr b hb).2.1⟩
    | plain hm _ | up hm _ | down hm _ =>
      cases hb
      rcases hm with rfl | rfl <;> decide
  have hfraction := readFraction?_form hf (fun b hb => (hafter b hb).1) fun b hb => (hafter b hb).2
  have hpoint : NoDigit (f ++ (e ++ rest)) := by
    intro b hb
    cases hf with
    | none => exact (hafter b hb).1
    | some _ =>
      cases hb
      decide
  rw [readUnsigned?, digits_map hw.2 hpoint]
  split
  · next h => exact absurd (Prod.mk.inj h).1 hw.1
  · next h =>
    obtain ⟨rfl, -⟩ := Prod.mk.inj h
    cases hz rfl
  · next h =>
    cases h
    rw [hfraction]
    simp only [Option.bind_eq_bind, Option.bind_some, hexponent]
    rfl

/-- A number does not begin with white space, and its first byte tells it from other values. -/
theorem IsNumber.head {l : NumberLiteral} {t : List UInt8} (h : IsNumber l t) :
    ∃ b tail, t = b :: tail ∧ (b = 0x2D ∨ isDigit b = true) := by
  cases h with
  | @mk negative whole _ _ f e hw _ _ _ =>
    obtain ⟨d, ds, rfl⟩ := List.exists_cons_of_ne_nil hw.1
    cases negative with
    | true => exact ⟨0x2D, _, rfl, .inl rfl⟩
    | false => exact ⟨_, _, rfl, .inr (digitByte_reads d (hw.2 d List.mem_cons_self)).2.1⟩

theorem readNumber?_form {l : NumberLiteral} {t rest : List UInt8} (h : IsNumber l t)
    (hr : EndsNumber rest) : readNumber? (t ++ rest) = some (l, rest) := by
  cases h with
  | @mk negative whole fraction exponent f e hw hz hf he =>
    have hread := readUnsigned?_form negative hw hz hf he hr
    cases negative with
    | true =>
      rw [if_pos rfl]
      simp only [List.cons_append, List.nil_append, List.append_assoc]
      rw [readNumber?, if_pos rfl]
      exact hread
    | false =>
      obtain ⟨d, ds, rfl⟩ := List.exists_cons_of_ne_nil hw.1
      have hsign := (digitByte_not_sign hw.2 (b := digitByte d) rfl).1
      simp only [Bool.false_eq_true, if_false, List.nil_append, List.append_assoc]
      rw [List.map_cons, List.cons_append] at hread ⊢
      rw [readNumber?, if_neg hsign]
      exact hread

/-! ## Only numbers are read -/

theorem form_of_readFraction? {fraction : Option (List Nat)} {s rest : List UInt8}
    (h : readFraction? s = some (fraction, rest)) :
    ∃ f, s = f ++ rest ∧ IsFraction fraction f := by
  cases s with
  | nil =>
    cases h
    exact ⟨[], rfl, .none⟩
  | cons b s =>
    rw [readFraction?] at h
    by_cases hb : b = 0x2E
    · rw [if_pos hb] at h
      rcases hd : digits s with ⟨ds, r⟩
      rw [hd] at h
      simp only at h
      split at h
      · cases h
      · next hne =>
        cases h
        obtain ⟨hs, hlt⟩ := of_digits hd
        have hds : AreDigits ds := ⟨fun hnil => hne (by rw [hnil]; rfl), hlt⟩
        exact ⟨_, by rw [hb, hs]; rfl, .some hds⟩
    · rw [if_neg hb] at h
      cases h
      exact ⟨[], rfl, .none⟩

theorem form_of_readExponent? {exponent : Option (Bool × List Nat)} {s rest : List UInt8}
    (h : readExponent? s = some (exponent, rest)) :
    ∃ e, s = e ++ rest ∧ IsExponent exponent e := by
  have hdigits : ∀ {down : Bool} {t : List UInt8},
      (if (digits t).1.isEmpty then none else some (some (down, (digits t).1), (digits t).2)) =
        some (exponent, rest) →
      ∃ ds, t = ds.map digitByte ++ rest ∧ AreDigits ds ∧ exponent = some (down, ds) := by
    intro down t ht
    rcases hd : digits t with ⟨ds, r⟩
    obtain ⟨hs, hlt⟩ := of_digits hd
    rw [hd] at ht
    split at ht
    · cases ht
    · next hne =>
      cases ht
      exact ⟨ds, hs, ⟨fun hnil => hne (by rw [hnil]; rfl), hlt⟩, rfl⟩
  cases s with
  | nil =>
    cases h
    exact ⟨[], rfl, .none⟩
  | cons mark s =>
    rw [readExponent?.eq_def] at h
    by_cases hm : mark = 0x65 ∨ mark = 0x45
    · simp only [hm, if_true] at h
      rcases s with _ | ⟨sign, s⟩
      · cases h
      · by_cases hminus : sign = 0x2D
        · simp only [hminus, if_true] at h
          obtain ⟨ds, rfl, hds, rfl⟩ := hdigits h
          exact ⟨_, by rw [hminus]; rfl, .down hm hds⟩
        · by_cases hplus : sign = 0x2B
          · have hsign : ¬(0x2B : UInt8) = 0x2D := by decide
            simp only [hplus, hsign, if_true, if_false] at h
            obtain ⟨ds, rfl, hds, rfl⟩ := hdigits h
            exact ⟨_, by rw [hplus]; rfl, .up hm hds⟩
          · simp only [hminus, hplus, if_false] at h
            obtain ⟨ds, hs, hds, rfl⟩ := hdigits h
            exact ⟨_, by rw [hs]; rfl, .plain hm hds⟩
    · simp only [hm, if_false] at h
      cases h
      exact ⟨[], rfl, .none⟩

theorem form_of_readUnsigned? {negative : Bool} {l : NumberLiteral} {s rest : List UInt8}
    (h : readUnsigned? negative s = some (l, rest)) :
    ∃ t, s = t ++ rest ∧ IsNumber l ((if negative then [0x2D] else []) ++ t) := by
  rw [readUnsigned?] at h
  split at h
  · cases h
  · cases h
  · next whole r hnil hzero hd =>
    obtain ⟨hs, hlt⟩ := of_digits hd
    rcases hf : readFraction? r with _ | ⟨fraction, r₁⟩
    · rw [hf] at h
      cases h
    · rw [hf] at h
      simp only [Option.bind_eq_bind, Option.bind_some] at h
      rcases he : readExponent? r₁ with _ | ⟨exponent, r₂⟩
      · rw [he] at h
        cases h
      · rw [he] at h
        cases h
        obtain ⟨f, rfl, hfform⟩ := form_of_readFraction? hf
        obtain ⟨e, rfl, heform⟩ := form_of_readExponent? he
        have hw : AreDigits whole := ⟨hnil, hlt⟩
        have hz : whole.head? = some 0 → whole = [0] := by
          intro hhead
          match whole, hhead, hzero with
          | [0], _, _ => rfl
          | 0 :: d :: ds, _, hzero => exact absurd rfl (hzero d ds)
        refine ⟨whole.map digitByte ++ (f ++ e), by rw [hs]; simp, ?_⟩
        have hform := IsNumber.mk negative hw hz hfform heform
        simpa only [List.append_assoc] using hform

theorem form_of_readNumber? {l : NumberLiteral} {s rest : List UInt8}
    (h : readNumber? s = some (l, rest)) : ∃ t, s = t ++ rest ∧ IsNumber l t := by
  cases s with
  | nil => cases h
  | cons b s =>
    rw [readNumber?] at h
    by_cases hb : b = 0x2D
    · rw [if_pos hb] at h
      obtain ⟨t, rfl, ht⟩ := form_of_readUnsigned? h
      exact ⟨_, by rw [hb]; rfl, ht⟩
    · rw [if_neg hb] at h
      obtain ⟨t, hs, ht⟩ := form_of_readUnsigned? h
      exact ⟨t, hs, ht⟩

end DeployService.Json.Raw
