import DeployService.Url.Basic
import DeployService.Url.International

/-!
# Reading URLs

An absolute URL is read from the left: the scheme, the authority (user information, host and port),
the path, the query and the fragment. Spaces and control characters around the text and tabs and
line breaks inside it are ignored. Each part is brought into its encoded form; in the path, segments
of one or two dots are resolved.
-/

namespace DeployService.Url

open DeployService.Text

/-- Why a text is no URL. -/
inductive Fault where
  /-- There is no host where one is needed. -/
  | emptyHost
  /-- The host name has no ASCII form. -/
  | invalidName
  /-- The port is no number, or too large. -/
  | invalidPort
  /-- The host ends in a number and is no IPv4 address. -/
  | invalidIpv4
  /-- What stands in brackets is no IPv6 address. -/
  | invalidIpv6
  /-- The host has a character that it may not have. -/
  | invalidCharacter
  | noScheme
  deriving DecidableEq, Repr

/-- The text of a fault. -/
def Fault.message : Fault → String
  | .emptyHost => "empty host"
  | .invalidName => "invalid international domain name"
  | .invalidPort => "invalid port number"
  | .invalidIpv4 => "invalid IPv4 address"
  | .invalidIpv6 => "invalid IPv6 address"
  | .invalidCharacter => "invalid domain character"
  | .noScheme => "relative URL without a base"

/-! ## Scheme -/

/-- A space or a control character of ASCII other than the last one. -/
def isOuter (c : Char) : Bool := c.toNat ≤ 0x20

/-- A tab or a line break. -/
def isBreak (c : Char) : Bool := c == '\t' || c == '\n' || c == '\r'

/-- The text without what is ignored in it. -/
def relevant (s : String) : List Char :=
  (((s.toList.dropWhile isOuter).reverse.dropWhile isOuter).reverse).filter (!isBreak ·)

/-- The character may occur in a scheme. -/
def isSchemeChar (c : Char) : Bool := c.isAlphanum || c == '+' || c == '-' || c == '.'

/-- The scheme in lower case, and what follows its colon. -/
def readScheme? (cs : List Char) : Option (List Char × List Char) :=
  match cs with
  | [] => none
  | c :: _ =>
    if c.isAlpha then
      match cutChars? ':' cs with
      | some (scheme, rest) =>
        if scheme.all isSchemeChar then some (scheme.map Char.toLower, rest) else none
      | none => none
    else none

/-! ## Authority -/

/-- The character ends an authority. -/
def endsAuthority (kind : Kind) (c : Char) : Bool :=
  c == '/' || c == '?' || c == '#' || (c == '\\' && kind.isSpecial)

/-- What stands before and after the last `@`, if there is one. -/
def cutLastAt? (cs : List Char) : Option (List Char × List Char) :=
  if cs.contains '@' then
    let after := (cs.reverse.takeWhile (· ≠ '@')).reverse
    some (cs.take (cs.length - after.length - 1), after)
  else none

/-- The user name and the password. An empty password counts as none. -/
def readUserinfo (cs : List Char) : String × Option String :=
  let encoded (part : List Char) : String := String.ofList (encodeWith inUserinfo part)
  match cutChars? ':' cs with
  | none => (encoded cs, none)
  | some (name, []) => (encoded name, none)
  | some (name, password) => (encoded name, some (encoded password))

/-- The host, and what follows it from its colon on. A colon in brackets belongs to the host. -/
def cutHost (inBrackets : Bool) : List Char → List Char × List Char
  | [] => ([], [])
  | c :: rest =>
    if c = ':' ∧ !inBrackets then ([], c :: rest)
    else
      let inBrackets := if c = '[' then true else if c = ']' then false else inBrackets
      let (host, after) := cutHost inBrackets rest
      (c :: host, after)

/-- The host in brackets. -/
def readBracketed (cs : List Char) : Except Fault Host :=
  if cs.getLast? = some ']' then
    match readIpv6? cs.tail.dropLast with
    | some pieces => .ok (.ipv6 pieces)
    | none => .error .invalidIpv6
  else .error .invalidIpv6

/-- The host of a URL with a special scheme: a name or an address. -/
def readSpecialHost (cs : List Char) : Except Fault Host :=
  if cs.head? = some '[' then readBracketed cs
  else
    match (Utf8.decode? (percentDecode cs)).bind fun s => asciiName? isForbidden s.toList with
    | none => .error .invalidName
    | some [] => .error .emptyHost
    | some name =>
      if endsInNumber name then
        match readIpv4? name with
        | some address => .ok (.ipv4 address)
        | none => .error .invalidIpv4
      else .ok (.name (String.ofList name))

/-- The character may not occur in a host of a URL whose scheme is not special. -/
def isOpaqueForbidden (c : Char) : Bool :=
  c.toNat == 0 || isBreak c || " #/:<>?@[\\]^|".toList.contains c

/-- The host of a URL whose scheme is not special: an IPv6 address or a text that is not interpreted
further. -/
def readOtherHost (cs : List Char) : Except Fault Host :=
  if cs.head? = some '[' then readBracketed cs
  else if cs.any isOpaqueForbidden then .error .invalidCharacter
  else .ok (.name (String.ofList (encodeWith inControls cs)))

/-- The host of a URL of the given kind. Only a file may have none. -/
def readHost (kind : Kind) (cs : List Char) : Except Fault Host :=
  match kind with
  | .special => if cs.isEmpty then .error .emptyHost else readSpecialHost cs
  | .file => do
    if cs.isEmpty then return .name ""
    let host ← readSpecialHost cs
    return if host = .name "localhost" then .name "" else host
  | .other => readOtherHost cs

/-- The port of an authority, given the colon and the digits after the host. The default port and an
empty one count as none. -/
def readPort (scheme : String) : List Char → Except Fault (Option Nat)
  | [] => .ok none
  | _ :: [] => .ok none
  | _ :: digits =>
    match readNat? digits with
    | none => .error .invalidPort
    | some n =>
      if 65535 < n then .error .invalidPort
      else .ok (if defaultPort? scheme = some n then none else some n)

/-- An authority. -/
structure Authority where
  /-- The user name, empty if there is none. -/
  username : String
  password : Option String
  host : Host
  port : Option Nat

/-- Reads an authority, and returns what stands after its port: nothing, or in a URL whose scheme is
not special a path that begins with a backslash. Nothing may announce a host that is not there:
neither user information, nor the colon of a port, nor an `@` alone that is not the end of the URL.
-/
def readAuthority (scheme : String) (isEnd : Bool) (cs : List Char) :
    Except Fault (Authority × List Char) := do
  let kind := Kind.ofScheme scheme
  let (userinfo, hostPort) :=
    match cutLastAt? cs with
    | some (userinfo, hostPort) => (some userinfo, hostPort)
    | none => (none, cs)
  if userinfo = some [] ∧ hostPort = [] ∧ !isEnd then throw .emptyHost
  let (username, password) := readUserinfo (userinfo.getD [])
  let (hostChars, portChars) := cutHost false hostPort
  let host ← readHost kind hostChars
  if host = .name "" ∧ portChars ≠ [] then throw .emptyHost
  let port ← readPort scheme (portChars.takeWhile (· ≠ '\\'))
  if host = .name "" ∧ (username ≠ "" ∨ password.isSome) then throw .emptyHost
  return ({ username, password, host, port }, portChars.dropWhile (· ≠ '\\'))

/-! ## Path -/

/-- The segment is one dot. -/
def isSingleDot (segment : List Char) : Bool :=
  [".", "%2e"].contains (lowerAscii (String.ofList segment))

/-- The segment is two dots. -/
def isDoubleDot (segment : List Char) : Bool :=
  ["..", ".%2e", "%2e.", "%2e%2e"].contains (lowerAscii (String.ofList segment))

/-- The segment is a letter and a colon or a bar. -/
def isDriveLetter : List Char → Bool
  | [letter, mark] => letter.isAlpha && (mark == ':' || mark == '|')
  | _ => false

/-- The segments without the last one. A drive letter stays. -/
def shorten (kind : Kind) (done : List (List Char)) : List (List Char) :=
  match kind, done with
  | .file, [segment] => if isDriveLetter segment then done else []
  | _, _ => done.dropLast

/-- A further segment after the ones in `done`. -/
def pushSegment (kind : Kind) (done : List (List Char)) (segment : List Char) :
    List (List Char) :=
  if kind = .file ∧ done.isEmpty ∧ isDriveLetter segment then [segment.take 1 ++ [':']]
  else done ++ [encodeWith inPath segment]

/-- The segments of a path, with the ones of dots resolved. Dots at the end leave an empty segment,
so that the path still ends in a slash. -/
def resolveDots (kind : Kind) (done : List (List Char)) : List (List Char) → List (List Char)
  | [] => done
  | [last] =>
    if isDoubleDot last then shorten kind done ++ [[]]
    else if isSingleDot last then done ++ [[]]
    else pushSegment kind done last
  | segment :: rest =>
    if isDoubleDot segment then resolveDots kind (shorten kind done) rest
    else if isSingleDot segment then resolveDots kind done rest
    else resolveDots kind (pushSegment kind done segment) rest

/-- The segments of a path without empty ones at the start, but at least one. -/
def dropEmptyStart (segments : List (List Char)) : List (List Char) :=
  match segments.dropWhile List.isEmpty with
  | [] => [[]]
  | segments => segments

/-- The pieces of a path after its first slash. -/
def pathPieces (kind : Kind) (cs : List Char) : List (List Char) :=
  splitChars '/' (if kind.isSpecial then cs.map fun c => if c = '\\' then '/' else c else cs)

/-- Reads the path after an authority. The slash before the first segment may be missing. The path
of a special URL always has a segment. -/
def readPath (kind : Kind) (cs : List Char) : List String :=
  let segments :=
    match cs with
    | [] => if kind.isSpecial then [[]] else []
    | c :: rest =>
      resolveDots kind [] (pathPieces kind
        (if c = '/' ∨ (c = '\\' ∧ kind.isSpecial) then rest else c :: rest))
  (if kind = .file then dropEmptyStart segments else segments).map String.ofList

/-! ## The whole URL -/

/-- What precedes the query and the fragment, the query and the fragment. -/
def cutEnd (kind : Kind) (cs : List Char) : List Char × Option String × Option String :=
  let (beforeFragment, fragment) :=
    match cutChars? '#' cs with
    | some (before, after) => (before, some (String.ofList (encodeWith inFragment after)))
    | none => (cs, none)
  match cutChars? '?' beforeFragment with
  | some (before, query) =>
    let set := if kind.isSpecial then inSpecialQuery else inQuery
    (before, some (String.ofList (encodeWith set query)), fragment)
  | none => (beforeFragment, none, fragment)

/-- The character is a slash, or counts as one in a special URL. -/
def isSlash (c : Char) : Bool := c == '/' || c == '\\'

/-- What follows the scheme of a URL, up to the query: the authority with its slashes, if there is
one, and the path. The URL may end there. -/
def readHierarchy (scheme : String) (isEnd : Bool) (cs : List Char) :
    Except Fault (Option Authority × Path) := do
  let kind := Kind.ofScheme scheme
  let withAuthority (rest : List Char) : Except Fault (Option Authority × Path) := do
    let after := rest.dropWhile (!endsAuthority kind ·)
    let (authority, start) ←
      readAuthority scheme (isEnd && after.isEmpty) (rest.takeWhile (!endsAuthority kind ·))
    return (some authority, .segments (readPath kind (start ++ after)))
  match kind with
  | .special => withAuthority (cs.dropWhile isSlash)
  | .file =>
    let nowhere : Authority := { username := "", password := none, host := .name "", port := none }
    match cs with
    | a :: b :: rest =>
      if isSlash a && isSlash b then
        let name := rest.takeWhile (!endsAuthority kind ·)
        if isDriveLetter name then return (some nowhere, .segments (readPath kind rest))
        let host ← readHost kind name
        let path := readPath kind (rest.dropWhile (!endsAuthority kind ·))
        let host := if (path.head?.map fun s => isDriveLetter s.toList) = some true then
          .name "" else host
        return (some { nowhere with host }, .segments path)
      else return (some nowhere, .segments (readPath kind cs))
    | _ => return (some nowhere, .segments (readPath kind cs))
  | .other =>
    match cs with
    | '/' :: '/' :: rest => withAuthority rest
    | '/' :: _ => return (none, .segments (readPath kind cs))
    | _ => return (none, .rootless (String.ofList (encodeWith inControls cs)))

/-- Reads an absolute URL. -/
def parse (s : String) : Except Fault Url := do
  match readScheme? (relevant s) with
  | none => throw .noScheme
  | some (scheme, rest) =>
    let scheme := String.ofList scheme
    let (hierarchy, query, fragment) := cutEnd (Kind.ofScheme scheme) rest
    let (authority, path) ← readHierarchy scheme (query.isNone && fragment.isNone) hierarchy
    return {
      scheme, path, query, fragment
      username := authority.elim "" Authority.username
      password := authority.bind Authority.password
      host := authority.map Authority.host
      port := authority.bind Authority.port }

end DeployService.Url
