/-!
# Digits

Decimal and hexadecimal digits, as values and as characters: the digits of a number, most
significant first, and the value of a run of digits.
-/

namespace DeployService.Text

/-- The decimal digits of a number, most significant first; zero has the one digit `0`. -/
def decimalDigits (n : Nat) : List Nat :=
  if n < 10 then [n] else decimalDigits (n / 10) ++ [n % 10]

/-- The number that a run of digits denotes in the given base, most significant first. -/
def digitsValue (base : Nat) (digits : List Nat) : Nat := digits.foldl (fun v d => v * base + d) 0

/-- The character of a decimal digit. -/
def decimalChar (d : Nat) : Char := Char.ofNat (0x30 + d)

/-- The value of a decimal digit. -/
def decimalValue? (c : Char) : Option Nat :=
  if '0' ≤ c ∧ c ≤ '9' then some (c.toNat - 0x30) else none

/-- A natural number in decimal, without leading zeros. -/
def showNat (n : Nat) : String := String.ofList ((decimalDigits n).map decimalChar)

/-- An integer in decimal, with a sign only if it is negative. -/
def showInt : Int → String
  | .ofNat n => showNat n
  | .negSucc n => "-" ++ showNat (n + 1)

/-- The upper-case character of a hexadecimal digit. -/
def hexUpper (d : Nat) : Char := if d < 10 then Char.ofNat (0x30 + d) else Char.ofNat (0x37 + d)

/-- The lower-case character of a hexadecimal digit. -/
def hexLower (d : Nat) : Char := if d < 10 then Char.ofNat (0x30 + d) else Char.ofNat (0x57 + d)

/-- The value of a hexadecimal digit, in either case. -/
def hexValue? (c : Char) : Option Nat :=
  if '0' ≤ c ∧ c ≤ '9' then some (c.toNat - 0x30)
  else if 'A' ≤ c ∧ c ≤ 'F' then some (c.toNat - 0x37)
  else if 'a' ≤ c ∧ c ≤ 'f' then some (c.toNat - 0x57)
  else none

/-- The hexadecimal digits of a number, most significant first; zero has the one digit `0`. -/
def hexDigits (n : Nat) : List Nat :=
  if n < 16 then [n] else hexDigits (n / 16) ++ [n % 16]

/-- A number in lower-case hexadecimal, without leading zeros. -/
def showHex (n : Nat) : String := String.ofList ((hexDigits n).map hexLower)

/-- The number that a text of one or more decimal digits denotes. -/
def readNat? (cs : List Char) : Option Nat :=
  if cs.isEmpty then none else (cs.mapM decimalValue?).map (digitsValue 10)

end DeployService.Text
