import WorkspaceGateway.Url.Percent

/-!
# URLs

A URL has a scheme, perhaps an authority, a path, and perhaps a query and a fragment, each kept
in its normal written form. Under a special scheme every URL has a host and a path, a backslash
is a slash, and the port of the scheme goes without saying.
-/

set_option autoImplicit false

namespace WorkspaceGateway

/-- The part of a URL after `//`. A host may be empty under a scheme that is not special. -/
structure Authority where
  username : String
  password : Option String
  host : String
  /-- The port, unless it is the scheme's own. -/
  port : Option Nat
  deriving DecidableEq, Repr

inductive UrlPath where
  | segments (parts : List (List Char))
  | flat (text : List Char)
  deriving DecidableEq, Repr

structure Url where
  scheme : String
  authority : Option Authority
  path : UrlPath
  query : Option String
  fragment : Option String
  deriving DecidableEq, Repr

inductive UrlError where
  | emptyHost
  | badDomain
  | badPort
  | badIpv4
  | badIpv6
  | badDomainCharacter
  | noScheme
  deriving DecidableEq, Repr

namespace UrlError

def message : UrlError → String
  | emptyHost => "empty host"
  | badDomain => "invalid international domain name"
  | badPort => "invalid port number"
  | badIpv4 => "invalid IPv4 address"
  | badIpv6 => "invalid IPv6 address"
  | badDomainCharacter => "invalid domain character"
  | noScheme => "relative URL without a base"

end UrlError

namespace UrlPath

def text : UrlPath → List Char
  | segments parts => parts.flatMap ('/' :: ·)
  | flat t => t

end UrlPath

namespace Url

def isSpecialScheme (scheme : String) : Bool :=
  ["http", "https", "ws", "wss", "ftp", "file"].contains scheme

def schemePort? (scheme : String) : Option Nat :=
  if scheme = "http" || scheme = "ws" then some 80
  else if scheme = "https" || scheme = "wss" then some 443
  else if scheme = "ftp" then some 21
  else none

def host? (u : Url) : Option String :=
  u.authority.bind fun a => if a.host.isEmpty then none else some a.host

def port? (u : Url) : Option Nat := u.authority.bind Authority.port

def pathText (u : Url) : String := String.ofList u.path.text

def authorityText (a : Authority) : String :=
  let userinfo := match a.password with
    | some p => a.username ++ ":" ++ p ++ "@"
    | none => if a.username.isEmpty then "" else a.username ++ "@"
  let port := match a.port with
    | some n => ":" ++ toString n
    | none => ""
  userinfo ++ a.host ++ port

/-- The URL in full. A path that begins with two slashes does not follow the scheme directly. -/
def text (u : Url) : String :=
  let lead := match u.authority with
    | some a => "//" ++ authorityText a
    | none => match u.path with
      | .segments ([] :: _ :: _) => "/."
      | _ => ""
  let query := match u.query with
    | some q => "?" ++ q
    | none => ""
  let fragment := match u.fragment with
    | some f => "#" ++ f
    | none => ""
  u.scheme ++ ":" ++ lead ++ u.pathText ++ query ++ fragment

end Url

end WorkspaceGateway
