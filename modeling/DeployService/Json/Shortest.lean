import DeployService.Text.Digits

/-!
# The shortest decimal of a floating-point number

A binary floating-point number is written with the fewest digits that read back to it, and of those
with the ones nearest to it. The number is taken apart into `m * 2 ^ q`; the real numbers that round
to it form an interval around it, which contains its ends exactly when `m` is even. For one digit,
two digits and so on, the two neighbours of the number on the grid of that many digits are tested
against this interval with exact arithmetic on natural numbers. Seventeen digits always suffice.
-/

namespace DeployService.Json

/-- A positive number `m * 2 ^ q` with the interval of the reals that round to it. -/
structure Binary where
  /-- The significand. -/
  m : Nat
  /-- The binary exponent. -/
  q : Int
  /-- The next smaller number is only half as far away as the next larger one. -/
  narrow : Bool

/-- The significand and exponent of a finite positive number. -/
def Binary.ofBits (bits : UInt64) : Binary :=
  let e := (bits >>> 52 &&& 0x7FF).toNat
  let f := (bits &&& 0xFFFFFFFFFFFFF).toNat
  if e = 0 then ⟨f, -1074, false⟩
  else ⟨f + 4503599627370496, (e : Int) - 1075, f == 0 && e != 1⟩

/-- A positive rational number, as numerator and denominator. -/
structure Ratio where
  num : Nat
  den : Nat

/-- The number `k * 2 ^ e`. -/
def Ratio.scaled (k : Nat) (e : Int) : Ratio :=
  match e with
  | .ofNat n => ⟨k * Nat.pow 2 n, 1⟩
  | .negSucc n => ⟨k, Nat.pow 2 (n + 1)⟩

/-- The number `d * 10 ^ e`. -/
def Ratio.decimal (d : Nat) (e : Int) : Ratio :=
  match e with
  | .ofNat n => ⟨d * Nat.pow 10 n, 1⟩
  | .negSucc n => ⟨d, Nat.pow 10 (n + 1)⟩

/-- The order of two positive rational numbers. -/
def Ratio.compare (a b : Ratio) : Ordering := Ord.compare (a.num * b.den) (b.num * a.den)

/-- Whether the decimal `d * 10 ^ e` is one of the reals that round to the number. -/
def Binary.holds (x : Binary) (d : Nat) (e : Int) : Bool :=
  let low := Ratio.scaled (4 * x.m - if x.narrow then 1 else 2) (x.q - 2)
  let high := Ratio.scaled (4 * x.m + 2) (x.q - 2)
  let v := Ratio.decimal d e
  let even := x.m % 2 == 0
  (match v.compare low with
    | .lt => false
    | .eq => even
    | .gt => true) &&
  (match v.compare high with
    | .gt => false
    | .eq => even
    | .lt => true)

/-- The whole part of the number divided by `10 ^ e`. -/
def Binary.floorAt (x : Binary) (e : Int) : Nat :=
  let v := Ratio.scaled x.m x.q
  match e with
  | .ofNat n => v.num / (v.den * Nat.pow 10 n)
  | .negSucc n => v.num * Nat.pow 10 (n + 1) / v.den

/-- Whether `d + 1` is nearer than `d` to the number divided by `10 ^ e`; of two equally near ones
the even one counts as nearer. -/
def Binary.upperNearer (x : Binary) (d : Nat) (e : Int) : Bool :=
  match (Ratio.scaled (2 * x.m) x.q).compare (Ratio.decimal (2 * d + 1) e) with
  | .lt => false
  | .gt => true
  | .eq => d % 2 == 1

/-- The neighbour of the number on the grid of `10 ^ e` that reads back, if there is one; the nearer
one if both do. -/
def Binary.neighbour? (x : Binary) (e : Int) : Option Nat :=
  let d := x.floorAt e
  match x.holds d e && d != 0, x.holds (d + 1) e with
  | true, true => some (if x.upperNearer d e then d + 1 else d)
  | true, false => some d
  | false, true => some (d + 1)
  | false, false => none

/-- The number of decimal digits of the whole part, or the negative number of zeros after the point:
the least `k` with `x < 10 ^ k`, searched downwards from `k`. -/
def Binary.magnitude (x : Binary) : Nat → Int → Int
  | 0, k => k
  | fuel + 1, k =>
    if (Ratio.scaled x.m x.q).compare (Ratio.decimal 1 (k - 1)) == .lt then x.magnitude fuel (k - 1)
    else k

/-- The digits and the decimal exponent of the shortest decimal, trying `count` digits first. -/
def Binary.search (x : Binary) (magnitude : Int) : Nat → Nat → Nat × Int
  | 0, count => (x.floorAt (magnitude - count), magnitude - count)
  | fuel + 1, count =>
    match x.neighbour? (magnitude - count) with
    | some d => (d, magnitude - count)
    | none => x.search magnitude fuel (count + 1)

/-- The shortest decimal `d * 10 ^ e` that reads back to the number. -/
def Binary.shortest (x : Binary) : Nat × Int := x.search (x.magnitude 700 310) 17 1

/-- Drops trailing zeros from the digits of `d * 10 ^ e`; `fuel` bounds their number. -/
def dropZeros : Nat → Nat → Int → Nat × Int
  | 0, d, e => (d, e)
  | fuel + 1, d, e => if d % 10 = 0 ∧ d ≠ 0 then dropZeros fuel (d / 10) (e + 1) else (d, e)

/-- The text of the positive decimal `d * 10 ^ e`. Numbers from `10 ^ -5` up to `10 ^ 16` are
written positionally and always with a point; the others have one digit before the point, no point
if there is only one digit, and an exponent without a plus sign. -/
def layout (d : Nat) (e : Int) : String :=
  let digits := (Text.decimalDigits d).map Text.decimalChar
  let length : Int := digits.length
  let point := length + e
  if 0 ≤ e ∧ point ≤ 16 then
    String.ofList (digits ++ List.replicate e.toNat '0') ++ ".0"
  else if 0 < point ∧ point ≤ 16 then
    String.ofList (digits.take point.toNat) ++ "." ++ String.ofList (digits.drop point.toNat)
  else if -5 < point ∧ point ≤ 0 then
    "0." ++ String.ofList (List.replicate (-point).toNat '0' ++ digits)
  else
    let mark := "e" ++ Text.showInt (point - 1)
    match digits with
    | [] => "0.0"
    | [first] => String.ofList [first] ++ mark
    | first :: rest => String.ofList [first] ++ "." ++ String.ofList rest ++ mark

/-- The text of a finite floating-point number: the shortest decimal that reads back, with a sign
for negative numbers and for the negative zero. -/
def showFloat (x : Float) : String :=
  let bits := x.toBits
  let sign := if bits >>> 63 == 1 then "-" else ""
  let magnitude := bits &&& 0x7FFFFFFFFFFFFFFF
  if magnitude == 0 then sign ++ "0.0"
  else
    let (d, e) := (Binary.ofBits magnitude).shortest
    let (d, e) := dropZeros 20 d e
    sign ++ layout d e

end DeployService.Json
