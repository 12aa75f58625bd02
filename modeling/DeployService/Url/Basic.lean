import DeployService.Url.Host
import DeployService.Url.Percent

/-!
# URLs

A URL with its parts told apart. The path is a list of segments, each with a slash before it, except
in a URL such as `mailto:…` whose path is *rootless*: one text that does not begin with a slash.
Every part is stored in its encoded form, so that `Url.text` only puts the parts together.

A scheme is *special* when its URLs always have an authority. A special scheme has a default port,
which is never stored.
-/

namespace DeployService

namespace Url

/-- The path of a URL. -/
inductive Path where
  /-- Segments, each of which has a slash before it. -/
  | segments (list : List String)
  /-- A text that does not begin with a slash. -/
  | rootless (text : String)
  deriving DecidableEq, Repr

/-- A path as it is written. -/
def Path.text : Path → String
  | .segments list => String.join (list.map ("/" ++ ·))
  | .rootless text => text

end Url

open DeployService.Url in
/-- A URL. -/
structure Url where
  /-- The scheme in lower case. -/
  scheme : String
  /-- The user name, empty if there is none. -/
  username : String
  /-- The password, if there is one. It is not empty. -/
  password : Option String
  /-- The host, if the URL has an authority. -/
  host : Option Host
  /-- The port, if it is not the scheme's default port. -/
  port : Option Nat
  path : Path
  /-- The query, without its question mark. -/
  query : Option String
  /-- The fragment, without its number sign. -/
  fragment : Option String
  deriving DecidableEq, Repr

namespace Url

/-- How the URLs of a scheme are read. -/
inductive Kind where
  /-- There is always an authority, and a backslash counts as a slash. -/
  | special
  /-- Like a special scheme, for files: the host may be empty, and there may be a drive letter. -/
  | file
  /-- Any other scheme. -/
  | other
  deriving DecidableEq, Repr

/-- The kind of a scheme. -/
def Kind.ofScheme (scheme : String) : Kind :=
  if scheme = "file" then .file
  else if ["http", "https", "ws", "wss", "ftp"].contains scheme then .special
  else .other

/-- A backslash counts as a slash, and the path is never empty. -/
def Kind.isSpecial : Kind → Bool
  | .other => false
  | _ => true

/-- The port that a URL of the scheme has when it names none. -/
def defaultPort? (scheme : String) : Option Nat :=
  if scheme = "http" ∨ scheme = "ws" then some 80
  else if scheme = "https" ∨ scheme = "wss" then some 443
  else if scheme = "ftp" then some 21
  else none

/-- The text of the host, if there is one that is not empty. -/
def hostText? (u : Url) : Option String :=
  match u.host with
  | some (.name "") => none
  | some host => some host.text
  | none => none

/-- The host is a name and not an address. -/
def hasNamedHost (u : Url) : Bool :=
  match u.host with
  | some (.name _) => true
  | _ => false

/-- The user name and password, with the sign that ends them. -/
def userinfoText (u : Url) : String :=
  match u.password with
  | some password => u.username ++ ":" ++ password ++ "@"
  | none => if u.username = "" then "" else u.username ++ "@"

/-- The slashes, user information, host and port; nothing if the URL has no authority. A path that
begins with two slashes and follows no authority is set off by `/.`, or it would be read as one. -/
def authorityText (u : Url) : String :=
  match u.host with
  | some host =>
    "//" ++ u.userinfoText ++ host.text ++
      (match u.port with
      | some port => ":" ++ Text.showNat port
      | none => "")
  | none =>
    match u.path with
    | .segments ("" :: _ :: _) => "/."
    | _ => ""

/-- A part that may be missing, with the sign that announces it. -/
def announced (sign : String) : Option String → String
  | some part => sign ++ part
  | none => ""

/-- The text of a URL. -/
def text (u : Url) : String :=
  u.scheme ++ ":" ++ u.authorityText ++ u.path.text ++ announced "?" u.query ++
    announced "#" u.fragment

/-- A key and a value of a query. -/
def pairText (pair : String × String) : String := encodeForm pair.1 ++ "=" ++ encodeForm pair.2

/-- The URL with pairs added at the end of its query. -/
def appendPairs (u : Url) (pairs : List (String × String)) : Url :=
  match pairs with
  | [] => u
  | _ =>
    let added := "&".intercalate (pairs.map pairText)
    match u.query with
    | some query => { u with query := some (if query = "" then added else query ++ "&" ++ added) }
    | none => { u with query := some added }

/-- The URL with the given path of segments and with neither query nor fragment. A rootless path
stays rootless: its first slash is encoded. -/
def atPath (u : Url) (segments : List String) : Url :=
  let path :=
    match u.path with
    | .segments _ => Path.segments segments
    | .rootless _ => Path.rootless ("%2F" ++ "/".intercalate segments)
  { u with path, query := none, fragment := none }

end Url

end DeployService
