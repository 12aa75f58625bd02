import DeployService.Http.Cookie
import DeployService.Http.Header
import DeployService.Url.Basic
import DeployService.Url.International

/-!
# The cookie jar

The cookies of a client. A cookie is stored under its domain, path and name, and a later one with
the same three replaces it; one that has expired only removes what it would replace. A server can
set cookies only for its own host or for a domain that the host belongs to.

A request gets the cookies whose domain and path match its URL, that have not expired, and that its
scheme allows. `Jar.cookies` is their header; `Jar.store` takes in the `Set-Cookie` headers of a
response.
-/

namespace DeployService.Http

open DeployService.Text

/-- The hosts that a cookie is sent to. -/
inductive CookieScope where
  /-- The host that set it. -/
  | host (name : String)
  /-- A domain: the host of that name and the hosts below it. -/
  | domain (name : String)
  deriving DecidableEq, Repr

/-- The name of the host or domain. -/
def CookieScope.name : CookieScope → String
  | .host name => name
  | .domain name => name

/-- A stored cookie. -/
structure StoredCookie where
  name : String
  value : String
  /-- The hosts that it is sent to. -/
  scope : CookieScope
  /-- The path that it is for. -/
  path : String
  /-- It is sent over secure connections only. -/
  secure : Bool
  /-- It is used by the HTTP schemes only. -/
  httpOnly : Bool
  /-- When it expires, in milliseconds since 1970; never if there is no such time. -/
  expires : Option Int
  deriving DecidableEq, Repr

/-- The cookies of a client, the oldest one first. -/
structure Jar where
  /-- The stored cookies. -/
  cookies : List StoredCookie
  deriving DecidableEq, Repr

/-- A jar without cookies. -/
def Jar.empty : Jar := ⟨[]⟩

/-! ## Matching -/

/-- The URL has one of the HTTP schemes. -/
def isHttp (url : Url) : Bool := hasStart "http" url.scheme

/-- The connection to the URL cannot be listened to: it is encrypted or stays on the machine. -/
def isSecure (url : Url) : Bool :=
  url.scheme == "https" ||
    match url.host with
    | some (.name name) => name == "localhost"
    | some (.ipv4 address) => address / 16777216 == 127
    | some (.ipv6 pieces) => pieces == [0, 0, 0, 0, 0, 0, 0, 1]
    | none => false

/-- The host of the URL is one that the cookie is sent to. A domain has hosts below it only if they
are names. -/
def CookieScope.admits (scope : CookieScope) (url : Url) : Bool :=
  match url.hostText? with
  | none => false
  | some text =>
    match scope with
    | .host name => name == text
    | .domain name => name == text || (url.hasNamedHost && hasEnd ("." ++ name) text)

/-- The path of the URL lies at or below the cookie's path. -/
def pathAdmits (path : String) (url : Url) : Bool :=
  match url.path with
  | .rootless _ => false
  | .segments _ =>
    match stripStart? path.toList url.path.text.toList with
    | none => false
    | some rest => rest.isEmpty || hasEnd "/" path || rest.head? == some '/'

/-- The path that a cookie is for when it names none: the URL's path without its last segment. -/
def defaultPath (url : Url) : String :=
  match url.path with
  | .rootless _ => "/"
  | .segments list =>
    if list.length ≤ 1 then "/" else (Url.Path.segments list.dropLast).text

/-- The cookie is sent with a request to the URL at the time `now`. -/
def StoredCookie.admits (c : StoredCookie) (now : Int) (url : Url) : Bool :=
  (match c.expires with
    | some time => now < time
    | none => true) &&
    c.scope.admits url && pathAdmits c.path url && (!c.secure || isSecure url) &&
    (!c.httpOnly || isHttp url)

/-! ## The jar -/

/-- Two cookies of which the later one replaces the earlier one. -/
def StoredCookie.sameKey (c d : StoredCookie) : Bool :=
  c.scope.name == d.scope.name && c.path == d.path && c.name == d.name

/-- The hosts that a cookie set by the URL is sent to, or none if the cookie may not be set. -/
def scopeOf? (c : SetCookie) (url : Url) : Option CookieScope :=
  let own := url.hostText?.map CookieScope.host
  match c.domain with
  | none => own
  | some domain =>
    match (Url.asciiName? (fun _ => false) (trim domain).toList).map String.ofList with
    | none => none
    | some "" => own
    | some "." => own
    | some name =>
      let scope := CookieScope.domain (dropDot name)
      if scope.admits url then some scope else none

/-- The time at which a cookie expires, in milliseconds. An age takes precedence over a date. -/
def expiryOf (c : SetCookie) (now : Int) : Option Int :=
  match c.maxAge, c.expires with
  | some age, _ => some (now + age * 1000)
  | none, some time => some (time * 1000)
  | none, none => none

/-- The cookie that a header asks to store, if the URL may set it. -/
def StoredCookie.ofSetCookie? (c : SetCookie) (now : Int) (url : Url) : Option StoredCookie :=
  if c.httpOnly && !isHttp url then none
  else
    (scopeOf? c url).map fun scope =>
      { name := c.name
        value := c.value
        scope
        path :=
          match c.path with
          | some path => if hasStart "/" path then path else defaultPath url
          | none => defaultPath url
        secure := c.secure
        httpOnly := c.httpOnly
        expires := expiryOf c now }

/-- Stores a cookie. It replaces the one with the same domain, path and name, unless that one is
reserved for the HTTP schemes and the URL has another scheme. -/
def Jar.insert (jar : Jar) (c : StoredCookie) (now : Int) (url : Url) : Jar :=
  if jar.cookies.any (fun d => d.sameKey c && d.httpOnly) && !isHttp url then jar
  else
    let others := jar.cookies.filter fun d => !d.sameKey c
    match c.expires with
    | some time => if time ≤ now then ⟨others⟩ else ⟨others ++ [c]⟩
    | none => ⟨others ++ [c]⟩

/-- Takes in one `Set-Cookie` header of a response from the URL. One that cannot be read, or whose
cookie may not be set, changes nothing. -/
def Jar.storeOne (now : Int) (url : Url) (jar : Jar) (header : HeaderValue) : Jar :=
  match (Utf8.decode? header).bind SetCookie.ofText? with
  | none => jar
  | some c =>
    match StoredCookie.ofSetCookie? c now url with
    | none => jar
    | some stored => jar.insert stored now url

/-- Takes in the `Set-Cookie` headers of a response from the URL. -/
def Jar.store (jar : Jar) (now : Int) (url : Url) (headers : List HeaderValue) : Jar :=
  headers.foldl (Jar.storeOne now url) jar

/-- A cookie in a header. -/
def StoredCookie.text (c : StoredCookie) : String := c.name ++ "=" ++ c.value

/-- The cookie header of a request to the URL, if there is a cookie for it. -/
def Jar.header? (jar : Jar) (now : Int) (url : Url) : Option HeaderValue :=
  match jar.cookies.filter (·.admits now url) with
  | [] => none
  | cookies => headerValue? ("; ".intercalate (cookies.map StoredCookie.text))

end DeployService.Http
