import DeployService.Text.Digits
import DeployService.Text.Split

/-!
# Hosts

A host is a name or an address. Addresses are numbers: an IPv4 address is written as four numbers
with dots, an IPv6 address as eight pieces of 16 bits in brackets, where the longest run of two or
more zero pieces (the first one, of several) is left out.

An IPv4 address can be written in many ways: with fewer than four numbers, the last one covering
the remaining bytes, and each number in decimal, octal (after `0`) or hexadecimal (after `0x`).
-/

namespace DeployService.Url

open DeployService.Text

/-- The host of a URL. -/
inductive Host where
  /-- A name, not necessarily that of a machine in the domain name system. It may be empty. -/
  | name (text : String)
  /-- An IPv4 address. -/
  | ipv4 (address : Nat)
  /-- An IPv6 address, as its pieces. -/
  | ipv6 (pieces : List Nat)
  deriving DecidableEq, Repr

/-! ## IPv4 addresses -/

/-- The number that digits denote in a base of at most sixteen. -/
def readDigits? (base : Nat) (cs : List Char) : Option Nat :=
  (cs.mapM fun c => (hexValue? c).bind fun d => if d < base then some d else none).map
    (digitsValue base)

/-- A number of an IPv4 address: hexadecimal after `0x`, octal after another `0`, else decimal. A
mark without digits after it denotes zero. -/
def ipv4Number? : List Char → Option Nat
  | [] => none
  | '0' :: 'x' :: cs => readDigits? 16 cs
  | '0' :: 'X' :: cs => readDigits? 16 cs
  | '0' :: c :: cs => readDigits? 8 (c :: cs)
  | cs => readDigits? 10 cs

/-- The parts of a name between its dots, without an empty last part. -/
def dottedParts (cs : List Char) : List (List Char) :=
  let parts := splitChars '.' cs
  if parts.getLast? = some [] then parts.dropLast else parts

/-- A name denotes an IPv4 address, or nothing, when its last part is a number. -/
def endsInNumber (cs : List Char) : Bool :=
  match (dottedParts cs).getLast? with
  | none => false
  | some last => (!last.isEmpty && last.all Char.isDigit) || (ipv4Number? last).isSome

/-- The address that the numbers denote. All but the last one are single bytes, and the last one
covers the remaining bytes. -/
def ipv4OfNumbers? (numbers : List Nat) : Option Nat :=
  match numbers.getLast? with
  | none => none
  | some last =>
    let bytes := numbers.dropLast
    if 4 < numbers.length then none
    else if bytes.any (255 < ·) then none
    else if Nat.pow 256 (4 - bytes.length) ≤ last then none
    else some (digitsValue 256 bytes * Nat.pow 256 (4 - bytes.length) + last)

/-- The IPv4 address that a name denotes. -/
def readIpv4? (cs : List Char) : Option Nat :=
  ((dottedParts cs).mapM ipv4Number?).bind ipv4OfNumbers?

/-- The four bytes of an IPv4 address with dots between them. -/
def showIpv4 (address : Nat) : String :=
  ".".intercalate
    ([address / 16777216, address / 65536, address / 256, address].map fun n => showNat (n % 256))

/-! ## IPv6 addresses -/

/-- A piece of an IPv6 address: one to four hexadecimal digits. -/
def ipv6Piece? (cs : List Char) : Option Nat :=
  if cs.isEmpty || 4 < cs.length then none else readDigits? 16 cs

/-- A byte of the dotted form that may end an IPv6 address: decimal, without leading zeros. -/
def dottedByte? (cs : List Char) : Option Nat :=
  match cs with
  | [] => none
  | '0' :: _ :: _ => none
  | _ => (readDigits? 10 cs).bind fun n => if n ≤ 255 then some n else none

/-- The last two pieces of an IPv6 address in dotted form. -/
def dottedPieces? (cs : List Char) : Option (List Nat) :=
  match (splitChars '.' cs).mapM dottedByte? with
  | some [a, b, c, d] => some [a * 256 + b, c * 256 + d]
  | _ => none

/-- The pieces between the colons. The last one may stand for two pieces in dotted form. -/
def ipv6Pieces? : List (List Char) → Option (List Nat)
  | [] => some []
  | [last] => if last.contains '.' then dottedPieces? last else (ipv6Piece? last).map ([·])
  | piece :: rest => do
    let n ← ipv6Piece? piece
    let ns ← ipv6Pieces? rest
    return n :: ns

/-- One side of the gap in an IPv6 address, which may be empty. -/
def ipv6Side? (cs : List Char) : Option (List Nat) :=
  if cs.isEmpty then some [] else ipv6Pieces? (splitChars ':' cs)

/-- The pieces of the IPv6 address that the text between the brackets denotes. Two colons stand for
one or more zero pieces. -/
def readIpv6? (cs : List Char) : Option (List Nat) :=
  match cutCharsAt? [':', ':'] cs with
  | some (left, right) => do
    let before ← if left.contains '.' then none else ipv6Side? left
    let after ← ipv6Side? right
    if before.length + after.length ≤ 7 then
      some (before ++ List.replicate (8 - before.length - after.length) 0 ++ after)
    else none
  | none => do
    let pieces ← ipv6Pieces? (splitChars ':' cs)
    if pieces.length = 8 then some pieces else none

/-- The length of the run of zero pieces at the start. -/
def zeroRun (pieces : List Nat) : Nat := (pieces.takeWhile (· == 0)).length

/-- The longest run of zero pieces, as its start and length; of several the first one. -/
def longestZeroRun (pieces : List Nat) : Nat × Nat :=
  (List.range pieces.length).foldl
    (fun best i =>
      let run := zeroRun (pieces.drop i)
      if best.2 < run then (i, run) else best) (0, 0)

/-- Pieces in hexadecimal with colons between them. -/
def showPieces (pieces : List Nat) : String := ":".intercalate (pieces.map showHex)

/-- An IPv6 address without the brackets. -/
def showIpv6 (pieces : List Nat) : String :=
  let (start, length) := longestZeroRun pieces
  if length < 2 then showPieces pieces
  else showPieces (pieces.take start) ++ "::" ++ showPieces (pieces.drop (start + length))

/-! ## The text of a host -/

/-- A host as it is written in a URL. -/
def Host.text : Host → String
  | .name text => text
  | .ipv4 address => showIpv4 address
  | .ipv6 pieces => "[" ++ showIpv6 pieces ++ "]"

end DeployService.Url
