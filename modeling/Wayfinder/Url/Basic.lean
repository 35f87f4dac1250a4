/-!
# URLs

The parts of an absolute URL, already in the form in which they are written.  A URL whose path does
not start with a slash is opaque: nothing can be resolved against it but a fragment.
-/

namespace Wayfinder

/-- Who and where: user, password, host and port.  A file may have an empty host. -/
structure Authority where
  user : String := ""
  password : Option String := none
  host : String := ""
  port : Option Nat := none
deriving DecidableEq

/-- The parts of an absolute URL. -/
structure Url where
  scheme : String
  authority : Option Authority
  path : String
  query : Option String := none
  fragment : Option String := none
deriving DecidableEq

/-- Why a text is no URL. -/
inductive UrlError where
  | relativeWithoutBase
  | relativeWithOpaqueBase
  | emptyHost
  | invalidDomain
  | invalidDomainCharacter
  | invalidPort
  | invalidIpv4
  | invalidIpv6
deriving DecidableEq, Repr

def UrlError.message : UrlError → String
  | relativeWithoutBase => "relative URL without a base"
  | relativeWithOpaqueBase => "relative URL with a cannot-be-a-base base"
  | emptyHost => "empty host"
  | invalidDomain => "invalid international domain name"
  | invalidDomainCharacter => "invalid domain character"
  | invalidPort => "invalid port number"
  | invalidIpv4 => "invalid IPv4 address"
  | invalidIpv6 => "invalid IPv6 address"

/-- The authority as it stands behind the two slashes. -/
def Authority.serialize (a : Authority) : String :=
  let user := if a.user = "" ∧ a.password = none then ""
    else a.user ++ a.password.elim "" (":" ++ ·) ++ "@"
  user ++ a.host ++ a.port.elim "" (":" ++ toString ·)

namespace Url

/-- Whether nothing but a fragment can be resolved against the URL. -/
def isOpaque (u : Url) : Bool := u.authority.isNone && u.path.toList.head? ≠ some '/'

/-- The URL as text.  Without an authority a path that starts with two slashes is put behind `/.`,
so that it is not taken for one. -/
def serialize (u : Url) : String :=
  let start := match u.authority with
    | some a => "//" ++ a.serialize
    | none => if ['/', '/'].isPrefixOf u.path.toList then "/." else ""
  u.scheme ++ ":" ++ start ++ u.path ++ u.query.elim "" ("?" ++ ·) ++ u.fragment.elim "" ("#" ++ ·)

instance : ToString Url := ⟨serialize⟩

/-- Schemes whose URLs always name a host, or a file. -/
def isSpecial (scheme : String) : Bool :=
  scheme = "http" || scheme = "https" || scheme = "ws" || scheme = "wss" || scheme = "ftp"
    || scheme = "file"

/-- The port that a URL of a scheme has if it names none. -/
def defaultPort? (scheme : String) : Option Nat :=
  if scheme = "http" ∨ scheme = "ws" then some 80
  else if scheme = "https" ∨ scheme = "wss" then some 443
  else if scheme = "ftp" then some 21
  else none

end Url

end Wayfinder
