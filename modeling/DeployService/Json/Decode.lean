import DeployService.Json.Basic
import DeployService.Json.Raw
import DeployService.Text.Utf8

/-!
# Reading JSON values

What a document denotes: the text of a string with its escapes resolved, and the value of a whole
tree. A string must be UTF-8 and its surrogates must come in pairs; a number must lie in the
floating-point range; and at most `maxDepth` arrays and objects may be open at once. Of several
members with one name the last one counts.
-/

namespace DeployService.Json

/-- How many arrays and objects may be open at once. -/
def maxDepth : Nat := 127

/-- The value of a byte that is a hexadecimal digit. -/
def hexByte (b : UInt8) : Nat :=
  if b.toNat ≤ 0x39 then b.toNat - 0x30
  else if b.toNat ≤ 0x46 then b.toNat - 0x37
  else b.toNat - 0x57

/-- The number that four hexadecimal digits denote. -/
def hexQuad (h1 h2 h3 h4 : UInt8) : Nat :=
  ((hexByte h1 * 16 + hexByte h2) * 16 + hexByte h3) * 16 + hexByte h4

/-- The byte that an escape of one character stands for. -/
def escaped (e : UInt8) : UInt8 :=
  if e = 0x62 then 0x08
  else if e = 0x66 then 0x0C
  else if e = 0x6E then 0x0A
  else if e = 0x72 then 0x0D
  else if e = 0x74 then 0x09
  else e

/-- The number is the first half of a surrogate pair. -/
def isHighSurrogate (n : Nat) : Bool := 0xD800 ≤ n && n < 0xDC00

/-- The number is the second half of a surrogate pair. -/
def isLowSurrogate (n : Nat) : Bool := 0xDC00 ≤ n && n < 0xE000

/-- Resolves the escapes between the quotes of a string. The first half of a surrogate pair must be
followed by the second half, and the second half may not stand alone. -/
def unescape? : List UInt8 → Option (List UInt8)
  | [] => some []
  | b :: rest =>
    if b = 0x5C then
      match rest with
      | [] => none
      | e :: rest =>
        if e = 0x75 then
          match rest with
          | h1 :: h2 :: h3 :: h4 :: rest =>
            let n := hexQuad h1 h2 h3 h4
            if isHighSurrogate n then
              match rest with
              | 0x5C :: 0x75 :: l1 :: l2 :: l3 :: l4 :: rest =>
                let l := hexQuad l1 l2 l3 l4
                if isLowSurrogate l then
                  (unescape? rest).map
                    (String.utf8EncodeChar
                      (Char.ofNat (0x10000 + (n - 0xD800) * 0x400 + (l - 0xDC00))) ++ ·)
                else none
              | _ => none
            else if isLowSurrogate n then none
            else (unescape? rest).map (String.utf8EncodeChar (Char.ofNat n) ++ ·)
          | _ => none
        else (unescape? rest).map (escaped e :: ·)
    else (unescape? rest).map (b :: ·)

/-- The text that the bytes between the quotes of a string denote. -/
def decodeText? (bytes : List UInt8) : Option String := (unescape? bytes).bind Text.Utf8.decode?

/-- What a number literal denotes, as a value. -/
def ofNumber : Number → Json
  | .integer n => .integer n
  | .float x => .float x

mutual

/-- The value of a tree in which at most `depth` arrays and objects are open at once. -/
def ofRaw? : Nat → Raw → Option Json
  | _, .null => some .null
  | _, .bool b => some (.bool b)
  | _, .number l => l.value?.map ofNumber
  | _, .text t => (decodeText? t).map .text
  | 0, .array _ => none
  | depth + 1, .array items => (ofItems? depth items).map .array
  | 0, .object _ => none
  | depth + 1, .object members => (ofMembers? depth members).map fun ms => .object (sortMembers ms)

/-- The values of the elements of an array. -/
def ofItems? : Nat → List Raw → Option (List Json)
  | _, [] => some []
  | depth, r :: rest => do
    let v ← ofRaw? depth r
    let vs ← ofItems? depth rest
    return v :: vs

/-- The members of an object, in the order in which they are written. -/
def ofMembers? : Nat → List (List UInt8 × Raw) → Option (List (String × Json))
  | _, [] => some []
  | depth, (n, r) :: rest => do
    let name ← decodeText? n
    let v ← ofRaw? depth r
    let vs ← ofMembers? depth rest
    return (name, v) :: vs

end

/-- The value that a document denotes. -/
def ofBytes? (bytes : List UInt8) : Option Json := (Raw.read? bytes).bind (ofRaw? maxDepth)

/-- The value that the text of a document denotes. -/
def ofText? (s : String) : Option Json := ofBytes? (Text.Utf8.encode s)

end DeployService.Json
