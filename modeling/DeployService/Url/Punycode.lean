/-!
# Punycode

The ASCII form of a label with characters outside ASCII. The ASCII characters come first, then a
hyphen if there were any, then one number for each of the other characters, in the order of their
code points: how many insertions would be possible before that one. Each number is written in
digits of base 36 whose thresholds follow a bias that adapts to the numbers written so far.
-/

namespace DeployService.Url.Punycode

/-- The character of a digit: `a` to `z`, then `0` to `9`. -/
def digitChar (d : Nat) : Char := if d < 26 then Char.ofNat (0x61 + d) else Char.ofNat (0x16 + d)

/-- The value of a digit, in either case. -/
def digitValue? (c : Char) : Option Nat :=
  let n := c.toNat
  if 0x61 ≤ n ∧ n ≤ 0x7A then some (n - 0x61)
  else if 0x41 ≤ n ∧ n ≤ 0x5A then some (n - 0x41)
  else if 0x30 ≤ n ∧ n ≤ 0x39 then some (n - 0x16)
  else none

/-- The threshold of the digit at position `k` (a multiple of 36, from 36 on): between 1 and 26. -/
def threshold (k bias : Nat) : Nat :=
  if k ≤ bias then 1 else if bias + 26 ≤ k then 26 else k - bias

theorem threshold_pos (k bias : Nat) : 1 ≤ threshold k bias := by grind [threshold]

/-- Divides `delta` by 35 until it is at most 455 and adds 36 to `k` each time. -/
def scale (delta k : Nat) : Nat × Nat :=
  if 455 < delta then scale (delta / 35) (k + 36) else (delta, k)
termination_by delta

/-- The bias after the number `delta`, when `count` characters have been placed. -/
def adapt (delta count : Nat) (first : Bool) : Nat :=
  let halved := if first then delta / 700 else delta / 2
  let (d, k) := scale (halved + halved / count) 0
  k + 36 * d / (d + 38)

/-- The digits of a number from position `k` on. -/
def digits (bias q k : Nat) : List Char :=
  if q < threshold k bias then [digitChar q]
  else
    digitChar (threshold k bias + (q - threshold k bias) % (36 - threshold k bias)) ::
      digits bias ((q - threshold k bias) / (36 - threshold k bias)) (k + 36)
termination_by q
decreasing_by
  have := threshold_pos k bias
  exact Nat.lt_of_le_of_lt (Nat.div_le_self _ _) (by omega)

/-- What is known while the characters are written one after the other. -/
structure Progress where
  /-- The insertions skipped since the last number. -/
  delta : Nat
  /-- The bias in force. -/
  bias : Nat
  /-- How many characters have been placed. -/
  placed : Nat
  /-- No number has been written yet. -/
  first : Bool
  /-- What has been written. -/
  output : List Char

/-- One pass over the label for the code point `n`: a smaller character is one more insertion to
skip, and the code point itself is written. -/
def Progress.visit (n : Nat) (p : Progress) (c : Nat) : Progress :=
  if c < n then { p with delta := p.delta + 1 }
  else if c = n then
    { delta := 0
      bias := adapt p.delta (p.placed + 1) p.first
      placed := p.placed + 1
      first := false
      output := p.output ++ digits p.bias p.delta 36 }
  else p

/-- Writes the characters of the code points in `todo`, which are distinct and ascending. `from` is
the least code point that has not been considered. -/
def writeFrom (label : List Nat) (start : Nat) (p : Progress) : List Nat → List Char
  | [] => p.output
  | n :: todo =>
    let p := { p with delta := p.delta + (n - start) * (p.placed + 1) }
    let p := label.foldl (Progress.visit n) p
    writeFrom label (n + 1) { p with delta := p.delta + 1 } todo

/-- The punycode form of a label. -/
def encode (label : List Char) : List Char :=
  let ascii := label.filter (·.toNat < 0x80)
  let others := ((label.filter (0x80 ≤ ·.toNat)).map Char.toNat).mergeSort.eraseDups
  let start := if ascii.isEmpty then [] else ascii ++ ['-']
  writeFrom (label.map Char.toNat) 0x80
    { delta := 0, bias := 72, placed := ascii.length, first := true, output := start } others

/-- Numbers and the weights of their digits stay below this bound. -/
def numberBound : Nat := 4294967296

/-- Reads the digits of a number from position `k` on: the number, and the rest of the text. -/
def readNumber? (bias : Nat) : (i weight k : Nat) → List Char → Option (Nat × List Char)
  | _, _, _, [] => none
  | i, weight, k, c :: rest => do
    let d ← digitValue? c
    let t := threshold k bias
    if numberBound ≤ i + d * weight then none
    else if d < t then some (i + d * weight, rest)
    else if numberBound ≤ weight * (36 - t) then none
    else readNumber? bias (i + d * weight) (weight * (36 - t)) (k + 36) rest

theorem readNumber?_length {bias : Nat} {cs : List Char} :
    ∀ {i weight k n : Nat} {rest : List Char},
      readNumber? bias i weight k cs = some (n, rest) → rest.length < cs.length := by
  induction cs with
  | nil => intro i weight k n rest h; simp [readNumber?] at h
  | cons c cs ih =>
    intro i weight k n rest h
    simp only [readNumber?, Option.bind_eq_bind, Option.bind_eq_some_iff] at h
    obtain ⟨d, _, h⟩ := h
    split at h
    · simp at h
    · split at h
      · simp_all
      · split at h
        · simp at h
        · have := ih h
          simp only [List.length_cons]
          omega

/-- Reads the numbers of the characters outside ASCII and inserts each one into the label. -/
def readFrom? (label : List Char) (n i bias : Nat) (first : Bool) (cs : List Char) :
    Option (List Char) :=
  if cs.isEmpty then some label
  else
    match _h : readNumber? bias i 1 36 cs with
    | none => none
    | some (total, rest) =>
      let length := label.length + 1
      let code := n + total / length
      if code.isValidChar then
        readFrom? (label.insertIdx (total % length) (Char.ofNat code)) code
          (total % length + 1) (adapt (total - i) length first) false rest
      else none
termination_by cs.length
decreasing_by exact readNumber?_length _h

/-- The label that a punycode form denotes. A hyphen ends the ASCII characters only if there are
any. -/
def decode? (cs : List Char) : Option (List Char) :=
  let tail := (cs.reverse.takeWhile (· ≠ '-')).reverse
  let basic := cs.take (cs.length - tail.length - 1)
  if cs.contains '-' && basic.isEmpty then none
  else if basic.all (·.toNat < 0x80) then readFrom? basic 0x80 0 72 true tail
  else none

end DeployService.Url.Punycode
