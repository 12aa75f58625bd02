import DeployService.Error
import DeployService.Http.Message
import DeployService.Json.Decode
import DeployService.Text.Split

/-!
# Prepared answers

What becomes of the requests can be laid down beforehand, one JSON object for each request. Its
members `status`, `headers` and `body` (or `body_hex`) describe a response, and a member `cut` says
why its body breaks off; a member `fail` says that the request fails instead, and why.
-/

namespace DeployService.Replay

open DeployService.Http DeployService.Text

/-- The text of a member of an object. -/
def text? (j : Json) (name : String) : Option String :=
  match j.member? name with
  | some (.text s) => some s
  | _ => none

/-- The elements of an array. -/
def itemsOf : Json → List Json
  | .array items => items
  | _ => []

/-- The elements of a member of an object. -/
def items (j : Json) (name : String) : List Json := ((j.member? name).map itemsOf).getD []

/-- A name and a value. -/
def pair? (j : Json) : Option (String × String) :=
  match itemsOf j with
  | [.text name, .text value] => some (name, value)
  | _ => none

/-- The headers of a message. -/
def headers (j : Json) : Headers :=
  ((items j "headers").filterMap pair?).map fun (name, value) =>
    (lowerAscii name, Utf8.encode value)

/-- The bytes that pairs of hexadecimal digits denote. -/
def bytesOfHex : List Char → List UInt8
  | a :: b :: rest =>
    UInt8.ofNat ((hexValue? a).getD 0 * 16 + (hexValue? b).getD 0) :: bytesOfHex rest
  | _ => []

/-- A response. Without a status it is a success. -/
def response (j : Json) : Response :=
  { status :=
      match j.member? "status" with
      | some (.integer n) => n.toNat
      | _ => 200
    headers := headers j
    body :=
      match text? j "body_hex" with
      | some hex => bytesOfHex hex.toList
      | none => Utf8.encode ((text? j "body").getD "")
    cut := text? j "cut" }

/-- What becomes of a request. -/
def answer (j : Json) : Except Error Response :=
  match text? j "fail" with
  | some message => .error (.plain message)
  | none => .ok (response j)

/-- What becomes of the requests from the one with the number `start` on, and of all others. -/
def answers (start : Nat) (prepared : List Json) (others : Error) (n : Nat) :
    Except Error Response :=
  match prepared[n - start]? with
  | some j => answer j
  | none => .error others

end DeployService.Replay
