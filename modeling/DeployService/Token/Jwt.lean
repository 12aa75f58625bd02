import DeployService.Json.Decode
import DeployService.Text.Base64
import DeployService.Text.Split

/-!
# When a token expires

A signed token has at least three parts with dots between them. The second one holds its claims, a
JSON document in Base64. The claim `exp` is the time at which the token expires, in seconds since
1970. It is read as a binary floating-point number, cut off to an integer and brought into 64 bits.
-/

namespace DeployService.Jwt

open DeployService.Text

/-- The claims of a token. -/
def claims? (token : String) : Option Json :=
  match splitOn '.' token with
  | header :: payload :: _ :: _ =>
    if header = "" ∨ payload = "" then none else (Base64.decode? payload).bind Json.ofBytes?
  | _ => none

/-- The binary floating-point number nearest to a natural number: one of at most 53 significant
bits. A number halfway between two of them goes to the one with an even last bit. -/
def nearestFloat (n : Nat) : Nat :=
  if n < 9007199254740992 then n
  else
    let unit := Nat.pow 2 (Nat.log2 n - 52)
    let q := n / unit
    let r := n % unit
    if 2 * r < unit ∨ (2 * r = unit ∧ q % 2 = 0) then q * unit else (q + 1) * unit

/-- The integer of 64 bits that is nearest to the given one. -/
def saturate (n : Int) : Int := max Int64.minValue.toInt (min Int64.maxValue.toInt n)

/-- A floating-point number without its fraction, as far as it has 64 bits. What is no number counts
as zero. -/
def wholePart (x : Float) : Int :=
  if x < 0 then -((-x).toUInt64.toNat : Int) else x.toUInt64.toNat

/-- A number as a time. -/
def seconds? : Json → Option Int
  | .integer n => some (saturate (n.sign * nearestFloat n.natAbs))
  | .float x => some (saturate (wholePart x))
  | _ => none

/-- When a token expires. -/
def expiry? (token : String) : Option Int :=
  ((claims? token).bind (·.member? "exp")).bind seconds?

end DeployService.Jwt
