import DeployService.Text.Digits

/-!
# JSON numbers

A number literal is kept as it is written: its sign and its digits. What it denotes is decided
later, since a member that nobody reads may hold a number that no type can represent.

A literal without fraction and exponent denotes an integer if it lies in the 64-bit range, with one
exception: `-0` denotes the floating-point number `-0.0`. Every other literal denotes a
floating-point number. Its significand is the longest run of leading digits that fits into 64 bits;
it is converted to binary and then scaled by powers of ten, so the result may differ from the
nearest number in the last bit. A literal beyond the floating-point range denotes nothing.
-/

namespace DeployService.Json

/-- A number as it is written. -/
structure NumberLiteral where
  /-- The literal starts with a minus sign. -/
  negative : Bool
  /-- The digits before the point. -/
  whole : List Nat
  /-- The digits after the point, if there is one. -/
  fraction : Option (List Nat)
  /-- Whether the exponent is negative, and its digits, if there is one. -/
  exponent : Option (Bool × List Nat)

/-- What a number literal denotes. -/
inductive Number where
  /-- An integer of at most 64 bits. -/
  | integer (n : Int)
  /-- A floating-point number. -/
  | float (x : Float)

/-- The greatest significand. -/
def maxSignificand : Nat := 18446744073709551615

/-- A power of ten as a floating-point number. -/
def powerOfTen (k : Nat) : Float := Float.ofScientific 1 false k

/-- Divides by `10 ^ k`, in steps of at most `10 ^ 308`; `fuel` bounds the number of steps. -/
def scaleDown : Nat → Float → Nat → Float
  | 0, x, _ => x
  | fuel + 1, x, k =>
    if k ≤ 308 then x / powerOfTen k
    else if x == 0.0 then x
    else scaleDown fuel (x / powerOfTen 308) (k - 308)

/-- The floating-point number `significand * 10 ^ exponent`, if it is finite. -/
def scale (significand : Nat) (exponent : Int) : Option Float :=
  let x := Float.ofNat significand
  match exponent with
  | .ofNat k =>
    if k ≤ 308 then
      let y := x * powerOfTen k
      if y.isInf then none else some y
    else if x == 0.0 then some x
    else none
  | .negSucc k => some (scaleDown (k / 308 + 2) x (k + 1))

/-- Reads digits into a significand for as long as it fits, and counts the digits left over. -/
def takeDigits : Nat → List Nat → Nat × Nat
  | significand, [] => (significand, 0)
  | significand, d :: rest =>
    if significand * 10 + d ≤ maxSignificand then takeDigits (significand * 10 + d) rest
    else (significand, rest.length + 1)

/-- The value of an exponent; the greatest exponent stands for all beyond it. -/
def exponentValue (negative : Bool) (digits : List Nat) : Int :=
  let e : Int := Text.digitsValue 10 digits
  if negative then -e else e

/-- The exponents from here on are out of every range. -/
def exponentLimit : Int := 2147483647

/-- The number that significand, decimal exponent and written exponent denote. -/
def floatValue (negative : Bool) (significand : Nat) (exponent : Int)
    (written : Option (Bool × List Nat)) : Option Float :=
  let magnitude : Option Float :=
    match written with
    | none => scale significand exponent
    | some (down, digits) =>
      let e := exponentValue down digits
      if exponentLimit < e then if significand = 0 then some 0.0 else none
      else if e < -exponentLimit then some 0.0
      else scale significand (exponent + e)
  magnitude.map fun x => if negative then -x else x

/-- What a literal denotes, or nothing if it is beyond the floating-point range. -/
def NumberLiteral.value? (l : NumberLiteral) : Option Number :=
  let (significand, dropped) := takeDigits 0 l.whole
  match l.fraction, l.exponent with
  | none, none =>
    if dropped = 0 then
      if l.negative then
        if significand = 0 ∨ 9223372036854775808 < significand then
          some (.float (-(Float.ofNat significand)))
        else some (.integer (-(significand : Int)))
      else some (.integer significand)
    else (floatValue l.negative significand dropped none).map .float
  | none, some e => (floatValue l.negative significand dropped (some e)).map .float
  | some digits, e =>
    let (significand, left) := takeDigits significand digits
    let read := digits.length - left
    (floatValue l.negative significand ((dropped : Int) - read) e).map .float

end DeployService.Json
