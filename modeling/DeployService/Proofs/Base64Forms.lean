import DeployService.Text.Base64
import Mathlib

/-!
# What is read as Base64

Bytes have one form in Base64 (`Base64.encode`): their bits in groups of six, filled up with zeros at
the end, and each group as the character for it. A text is read exactly if it is the form of some
bytes, and then it yields these (`Base64.decode?_eq_some_iff`).
-/

namespace DeployService.Text.Base64

/-- The character for six bits. -/
def digit (n : Nat) : Char :=
  if n < 26 then Char.ofNat (0x41 + n)
  else if n < 52 then Char.ofNat (0x47 + n)
  else if n < 62 then Char.ofNat (n - 4)
  else if n = 62 then '-'
  else '_'

/-- The bits of bytes in groups of six. Three bytes make four groups. -/
def sextets : List UInt8 → List Nat
  | [] => []
  | [a] => [a.toNat / 4, a.toNat % 4 * 16]
  | [a, b] => [a.toNat / 4, a.toNat % 4 * 16 + b.toNat / 16, b.toNat % 16 * 4]
  | a :: b :: c :: rest =>
    a.toNat / 4 :: (a.toNat % 4 * 16 + b.toNat / 16) :: (b.toNat % 16 * 4 + c.toNat / 64) ::
      c.toNat % 64 :: sextets rest

/-- The form of bytes in Base64. -/
def encode (bytes : List UInt8) : String := String.ofList ((sextets bytes).map digit)

/-! ## Characters -/

theorem value?_digit : ∀ n < 64, value? (digit n) = some n := by
  decide +kernel

theorem digit_ne_dot : ∀ n < 64, digit n ≠ '.' := by
  decide +kernel

theorem value?_eq_some_iff {c : Char} {n : Nat} : value? c = some n ↔ n < 64 ∧ c = digit n := by
  have hle : ∀ {c d : Char}, c ≤ d ↔ c.toNat ≤ d.toNat := Iff.rfl
  constructor
  · intro h
    have hchar : ∀ k, k = c.toNat → Char.ofNat k = c := by
      rintro k rfl
      exact Char.ofNat_toNat c
    unfold value? at h
    split at h
    · next hc =>
      obtain ⟨hlow, hhigh⟩ : 0x41 ≤ c.toNat ∧ c.toNat ≤ 0x5A := hc
      obtain rfl := Option.some.inj h
      refine ⟨by omega, ?_⟩
      rw [digit, if_pos (by omega), hchar _ (by omega)]
    · split at h
      · next hc =>
        obtain ⟨hlow, hhigh⟩ : 0x61 ≤ c.toNat ∧ c.toNat ≤ 0x7A := hc
        obtain rfl := Option.some.inj h
        refine ⟨by omega, ?_⟩
        rw [digit, if_neg (by omega), if_pos (by omega), hchar _ (by omega)]
      · split at h
        · next hc =>
          obtain ⟨hlow, hhigh⟩ : 0x30 ≤ c.toNat ∧ c.toNat ≤ 0x39 := hc
          obtain rfl := Option.some.inj h
          refine ⟨by omega, ?_⟩
          rw [digit, if_neg (by omega), if_neg (by omega), if_pos (by omega), hchar _ (by omega)]
        · split at h
          · next hc =>
            obtain rfl := Option.some.inj h
            exact ⟨by omega, hc⟩
          · split at h
            · next hc =>
              obtain rfl := Option.some.inj h
              exact ⟨by omega, hc⟩
            · cases h
  · rintro ⟨hn, rfl⟩
    exact value?_digit n hn

theorem mapM_value?_eq_some_iff {cs : List Char} {ns : List Nat} :
    cs.mapM value? = some ns ↔ (∀ n ∈ ns, n < 64) ∧ cs = ns.map digit := by
  induction cs generalizing ns with
  | nil =>
    cases ns with
    | nil => simp
    | cons n ns => simp
  | cons c cs ih =>
    rw [List.mapM_cons]
    simp only [bind, Option.bind_eq_some_iff, value?_eq_some_iff, ih, pure, Option.some.injEq]
    constructor
    · rintro ⟨n, ⟨hn, rfl⟩, ns, ⟨hns, rfl⟩, rfl⟩
      exact ⟨List.forall_mem_cons.mpr ⟨hn, hns⟩, rfl⟩
    · rintro ⟨hall, hcs⟩
      cases ns with
      | nil => cases hcs
      | cons n ns =>
        obtain ⟨hn, hns⟩ := List.forall_mem_cons.mp hall
        obtain ⟨rfl, rfl⟩ := List.cons.inj hcs
        exact ⟨n, ⟨hn, rfl⟩, ns, ⟨hns, rfl⟩, rfl⟩

/-! ## Groups of six bits -/

theorem ofNat_eq_of_toNat {n : Nat} {b : UInt8} (h : n = b.toNat) : UInt8.ofNat n = b := by
  rw [h, UInt8.ofNat_toNat]

/-- The first byte of three is in the first group and in two bits of the second one. -/
theorem first_of_groups (a : UInt8) {r : Nat} (hr : r < 16) :
    UInt8.ofNat (a.toNat / 4 * 4 + (a.toNat % 4 * 16 + r) / 16) = a :=
  ofNat_eq_of_toNat (by omega)

theorem second_of_groups (b : UInt8) (n : Nat) {r : Nat} (hr : r < 4) :
    UInt8.ofNat ((n * 16 + b.toNat / 16) % 16 * 16 + (b.toNat % 16 * 4 + r) / 4) = b := by
  have hb := b.toNat_lt
  exact ofNat_eq_of_toNat (by omega)

theorem third_of_groups (c : UInt8) (n : Nat) :
    UInt8.ofNat ((n * 4 + c.toNat / 64) % 4 * 64 + c.toNat % 64) = c := by
  have hc := c.toNat_lt
  exact ofNat_eq_of_toNat (by omega)

theorem sextets_lt (bytes : List UInt8) : ∀ n ∈ sextets bytes, n < 64 := by
  fun_induction sextets bytes with
  | case1 => simp
  | case2 a =>
    have ha := a.toNat_lt
    simp only [List.forall_mem_cons]
    exact ⟨by omega, by omega, by simp⟩
  | case3 a b =>
    have ha := a.toNat_lt
    have hb := b.toNat_lt
    simp only [List.forall_mem_cons]
    exact ⟨by omega, by omega, by omega, by simp⟩
  | case4 a b c rest ih =>
    have ha := a.toNat_lt
    have hb := b.toNat_lt
    have hc := c.toNat_lt
    simp only [List.forall_mem_cons]
    exact ⟨by omega, by omega, by omega, by omega, ih⟩

theorem bytesOf?_sextets (bytes : List UInt8) : bytesOf? (sextets bytes) = some bytes := by
  fun_induction sextets bytes with
  | case1 => rfl
  | case2 a =>
    have hfirst := first_of_groups a (r := 0) (by omega)
    rw [bytesOf?, if_pos (by omega)]
    rw [Nat.add_zero] at hfirst
    rw [hfirst]
  | case3 a b =>
    have hb := b.toNat_lt
    have hfirst := first_of_groups a (r := b.toNat / 16) (by omega)
    have hsecond := second_of_groups b (a.toNat % 4) (r := 0) (by omega)
    rw [Nat.add_zero] at hsecond
    rw [bytesOf?, if_pos (by omega), hfirst, hsecond]
  | case4 a b c rest ih =>
    have hb := b.toNat_lt
    have hc := c.toNat_lt
    have hfirst := first_of_groups a (r := b.toNat / 16) (by omega)
    have hsecond := second_of_groups b (a.toNat % 4) (r := c.toNat / 64) (by omega)
    rw [bytesOf?, ih, Option.map_some, hfirst, hsecond, third_of_groups c (b.toNat % 16)]

/-- Groups of six bits that form bytes are the groups of these. -/
theorem sextets_of_bytesOf? {ns : List Nat} {bytes : List UInt8} (hns : ∀ n ∈ ns, n < 64)
    (h : bytesOf? ns = some bytes) : sextets bytes = ns := by
  fun_induction bytesOf? ns generalizing bytes with
  | case1 =>
    cases h
    rfl
  | case2 => cases h
  | case3 a b hover =>
    cases h
    simp only [List.forall_mem_cons] at hns
    obtain ⟨ha, hb, -⟩ := hns
    have hfirst := UInt8.toNat_ofNat_of_lt' (show a * 4 + b / 16 < 256 by omega)
    simp only [sextets, hfirst, List.cons.injEq, and_true]
    exact ⟨by omega, by omega⟩
  | case4 => cases h
  | case5 a b c hover =>
    cases h
    simp only [List.forall_mem_cons] at hns
    obtain ⟨ha, hb, hc, -⟩ := hns
    have hfirst := UInt8.toNat_ofNat_of_lt' (show a * 4 + b / 16 < 256 by omega)
    have hsecond := UInt8.toNat_ofNat_of_lt' (show b % 16 * 16 + c / 4 < 256 by omega)
    simp only [sextets, hfirst, hsecond, List.cons.injEq, and_true]
    exact ⟨by omega, by omega, by omega⟩
  | case6 => cases h
  | case7 a b c d rest ih =>
    obtain ⟨later, hlater, rfl⟩ := Option.map_eq_some_iff.mp h
    simp only [List.forall_mem_cons] at hns
    obtain ⟨ha, hb, hc, hd, hrest⟩ := hns
    have hfirst := UInt8.toNat_ofNat_of_lt' (show a * 4 + b / 16 < 256 by omega)
    have hsecond := UInt8.toNat_ofNat_of_lt' (show b % 16 * 16 + c / 4 < 256 by omega)
    have hthird := UInt8.toNat_ofNat_of_lt' (show c % 4 * 64 + d < 256 by omega)
    simp only [sextets, hfirst, hsecond, hthird, ih hrest hlater, List.cons.injEq, and_true]
    exact ⟨by omega, by omega, by omega, by omega⟩

/-! ## Texts -/

theorem decode?_eq_some_iff {s : String} {bytes : List UInt8} :
    decode? s = some bytes ↔ s = encode bytes := by
  have htext : s = encode bytes ↔ s.toList = (sextets bytes).map digit := by
    rw [encode, ← String.toList_inj, String.toList_ofList]
  rw [htext, decode?, Option.bind_eq_some_iff]
  constructor
  · rintro ⟨ns, hns, hbytes⟩
    obtain ⟨hlt, hs⟩ := mapM_value?_eq_some_iff.mp hns
    rw [hs, sextets_of_bytesOf? hlt hbytes]
  · intro hs
    exact ⟨sextets bytes, mapM_value?_eq_some_iff.mpr ⟨sextets_lt bytes, hs⟩,
      bytesOf?_sextets bytes⟩

theorem dot_not_mem_encode (bytes : List UInt8) : '.' ∉ (encode bytes).toList := by
  rw [encode, String.toList_ofList]
  intro hmem
  obtain ⟨n, hn, hdot⟩ := List.mem_map.mp hmem
  exact digit_ne_dot n (sextets_lt bytes n hn) hdot

theorem encode_ne_empty {bytes : List UInt8} (h : bytes ≠ []) : encode bytes ≠ "" := by
  intro hempty
  have hdecode := decode?_eq_some_iff.mpr hempty.symm
  have hnothing : decode? "" = some [] := rfl
  exact h (Option.some.inj (hdecode.symm.trans hnothing))

end DeployService.Text.Base64
