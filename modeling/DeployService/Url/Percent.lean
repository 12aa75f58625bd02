import DeployService.Text.Digits
import DeployService.Text.Utf8

/-!
# Percent encoding

A byte that may not stand in a part of a URL is written as `%` and two upper-case hexadecimal
digits. Each part has its own set of characters that are encoded; characters outside ASCII are
encoded everywhere, byte by byte.

An *argument* is text that becomes one path segment: everything but ASCII letters, digits and
`*`, `-`, `.`, `_` is encoded, so that it can hold no separator. In a *form* (the pairs of a query)
a space is written as `+` instead.
-/

namespace DeployService.Url

/-- A byte as `%` and two hexadecimal digits. -/
def percentByte (b : UInt8) : List Char :=
  ['%', Text.hexUpper (b.toNat / 16), Text.hexUpper (b.toNat % 16)]

/-- A character in a part of a URL: itself, or its bytes encoded if it is outside ASCII or in the
given set. -/
def encodeCharWith (set : Char → Bool) (c : Char) : List Char :=
  if c.toNat < 0x80 && !set c then [c] else (String.utf8EncodeChar c).flatMap percentByte

/-- A text in a part of a URL. -/
def encodeWith (set : Char → Bool) (cs : List Char) : List Char := cs.flatMap (encodeCharWith set)

/-! ## The sets of the parts -/

/-- The control characters. -/
def inControls (c : Char) : Bool := c.toNat < 0x20 || c.toNat == 0x7F

/-- What is encoded in a fragment. The last character is the grave accent. -/
def inFragment (c : Char) : Bool := inControls c || " \"<>".toList.contains c || c.toNat == 0x60

/-- What is encoded in a query. -/
def inQuery (c : Char) : Bool := inControls c || " \"#<>".toList.contains c

/-- What is encoded in the query of a URL with a special scheme. The last one is the apostrophe. -/
def inSpecialQuery (c : Char) : Bool := inQuery c || c.toNat == 0x27

/-- What is encoded in a path. The last two are the braces. -/
def inPath (c : Char) : Bool :=
  inFragment c || "#?".toList.contains c || c.toNat == 0x7B || c.toNat == 0x7D

/-- What is encoded in a user name or password. -/
def inUserinfo (c : Char) : Bool := inPath c || "/:;=@[\\]^|".toList.contains c

/-! ## Arguments and forms -/

/-- The byte is written as it is in an argument: an ASCII letter or digit, or one of `*`, `-`, `.`
and `_`. -/
def isPlain (b : UInt8) : Bool :=
  let n := b.toNat
  (0x30 ≤ n && n ≤ 0x39) || (0x41 ≤ n && n ≤ 0x5A) || (0x61 ≤ n && n ≤ 0x7A) ||
    n == 0x2A || n == 0x2D || n == 0x2E || n == 0x5F

/-- A byte of an argument. -/
def argumentByte (b : UInt8) : List Char :=
  if isPlain b then [Char.ofNat b.toNat] else percentByte b

/-- The characters of an argument as a path segment. -/
def argumentChars (cs : List Char) : List Char := (Text.Utf8.encodeChars cs).flatMap argumentByte

/-- A text as one path segment. -/
def encodeArgument (s : String) : String := String.ofList (argumentChars s.toList)

/-- A byte of a form. -/
def formByte (b : UInt8) : List Char := if b = 0x20 then ['+'] else argumentByte b

/-- The characters of a key or value of a form. -/
def formChars (cs : List Char) : List Char := (Text.Utf8.encodeChars cs).flatMap formByte

/-- A key or value of a form. -/
def encodeForm (s : String) : String := String.ofList (formChars s.toList)

/-! ## Decoding -/

/-- The bytes of a text in which every `%` with two hexadecimal digits after it stands for one
byte. Any other `%` stands for itself. -/
def percentDecode : List Char → List UInt8
  | [] => []
  | '%' :: h :: l :: rest =>
    match Text.hexValue? h, Text.hexValue? l with
    | some a, some b => UInt8.ofNat (a * 16 + b) :: percentDecode rest
    | _, _ => 0x25 :: percentDecode (h :: l :: rest)
  | c :: rest => String.utf8EncodeChar c ++ percentDecode rest

end DeployService.Url
