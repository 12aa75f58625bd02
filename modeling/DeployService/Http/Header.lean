import DeployService.Text.Utf8

/-!
# Headers

The headers of a message, in order. Names are in lower case; a name may occur several times. A value
is a sequence of bytes. Setting a header (`Headers.insert`) replaces every value that it had.

Not every text may be a value: control characters other than the tab are not allowed
(`headerValue?`). A value counts as text only if it is visible ASCII, spaces and tabs
(`headerText?`).
-/

namespace DeployService.Http

/-- The value of a header. -/
abbrev HeaderValue := List UInt8

/-- The headers of a message, each with its name in lower case. -/
abbrev Headers := List (String × HeaderValue)

namespace Headers

/-- Sets a header to one value. -/
def insert (name : String) (value : HeaderValue) (headers : Headers) : Headers :=
  headers.filter (·.1 ≠ name) ++ [(name, value)]

/-- Sets a header if there is a value for it. -/
def insertSome (name : String) (value : Option HeaderValue) (headers : Headers) : Headers :=
  match value with
  | some value => headers.insert name value
  | none => headers

/-- All values of a header, in order. -/
def getAll (name : String) (headers : Headers) : List HeaderValue :=
  (headers.filter (·.1 = name)).map (·.2)

/-- The first value of a header. -/
def get? (name : String) (headers : Headers) : Option HeaderValue := (headers.getAll name).head?

end Headers

/-! ## Values and names -/

/-- The byte may occur in a header value: a tab, or any byte that is no control character. -/
def isValueByte (b : UInt8) : Bool := b == 0x09 || (0x20 ≤ b.toNat && b != 0x7F)

/-- The text as a header value, if it is allowed there. -/
def headerValue? (s : String) : Option HeaderValue :=
  let bytes := Text.Utf8.encode s
  if bytes.all isValueByte then some bytes else none

/-- A fixed text as a header value. -/
def literalValue (s : String) : HeaderValue := Text.Utf8.encode s

/-- The byte is visible ASCII, a space or a tab. -/
def isTextByte (b : UInt8) : Bool := b == 0x09 || (0x20 ≤ b.toNat && b.toNat < 0x7F)

/-- A header value as text, if it is one. -/
def headerText? (value : HeaderValue) : Option String :=
  if value.all isTextByte then some (String.ofList (value.map fun b => Char.ofNat b.toNat))
  else none

/-- The first value of a header as text, if it is one. -/
def Headers.text? (name : String) (headers : Headers) : Option String :=
  (headers.get? name).bind headerText?

/-- The character may occur in a header name. The last one is the grave accent. -/
def isNameChar (c : Char) : Bool :=
  c.isAlphanum || "!#$%&'*+-.^_|~".toList.contains c || c.toNat == 0x60

/-- The name of a header in lower case, if the text is one: it is not empty and not longer than
65535 bytes. -/
def headerName? (s : String) : Option String :=
  let cs := s.toList
  if !cs.isEmpty && cs.all isNameChar && cs.length ≤ 65535 then
    some (String.ofList (cs.map Char.toLower))
  else none

/-! ## The headers that the client sets or reads -/

/-- The media type that the client accepts. -/
def accept : String := "accept"

/-- The credential. -/
def authorization : String := "authorization"

/-- The media type of a body. -/
def contentType : String := "content-type"

/-- The value of the header is a secret, which is not shown. -/
def isSecret (name : String) : Bool := name == authorization

/-- The cookies of a request. -/
def cookie : String := "cookie"

/-- Where a created resource is found. -/
def location : String := "location"

/-- A cookie that the server asks to keep. -/
def setCookie : String := "set-cookie"

/-- The product that sends a request. -/
def userAgent : String := "user-agent"

end DeployService.Http
