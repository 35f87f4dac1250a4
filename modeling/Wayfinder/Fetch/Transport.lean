import Wayfinder.Text.Utf8
import Wayfinder.Url.Percent
import Wayfinder.Url.Basic

/-!
# Transports

A transport is asked for a URL and either gets an answer or fails to get one.  The status of an
answer is there at once.  The body follows, and it may break off: whoever reads it will see.  `τ` is
the state of what the transport talks to.
-/

namespace Wayfinder

variable {τ : Type}

/-- Why a request got no answer. -/
inductive TransportError where
  /-- the URL cannot be asked for at all -/
  | unsendable (url : Url)
  /-- the request was begun and came to nothing -/
  | notSent (url : Url)
deriving DecidableEq

def TransportError.message : TransportError → String
  | unsendable url => "builder error for url (" ++ url.serialize ++ ")"
  | notSent url => "error sending request for url (" ++ url.serialize ++ ")"

/-- An answer to a request. -/
structure Response where
  status : Nat
  /-- the bytes of the body, or nothing if it breaks off before its end -/
  body : Option (List UInt8)
deriving DecidableEq

/-- Whether the status is one of success. -/
def Response.isSuccess (r : Response) : Bool := 200 ≤ r.status && r.status < 300

/-- Asks for a URL. -/
abbrev Transport (τ : Type) := Url → τ → Except TransportError Response × τ

namespace Url

/-- The URL as it is requested: user and password are not part of it, but for a user that is no
text. -/
def withoutCredentials (u : Url) : Url :=
  let isText (s : String) : Bool := (Text.readUtf8? (decode s.toList)).isSome
  { u with authority := u.authority.map fun a =>
      if isText a.user then { a with user := "", password := none } else a }

/-- Whether a host can stand in the address of a request. -/
def isSendableHost (host : String) : Bool :=
  !host.toList.any (· ∈ ['"', '\x60', '\x7b', '\x7d'])

/-- Whether a URL can be asked for. -/
def isSendable (u : Url) : Bool :=
  (u.scheme = "http" || u.scheme = "https") && u.authority.any fun a => isSendableHost a.host

end Url

namespace Transport

/-- A transport over a network: what the network cannot be asked for fails at once. -/
def ofNetwork (network : Url → τ → Option Response × τ) : Transport τ := fun u s =>
  let u := u.withoutCredentials
  if u.isSendable then
    match network u s with
    | (some r, s) => (.ok r, s)
    | (none, s) => (.error (.notSent u), s)
  else (.error (.unsendable u), s)

/-- A transport over a network that gives no answers. -/
def unreachable : Transport τ := ofNetwork fun _ s => (none, s)

end Transport

end Wayfinder
