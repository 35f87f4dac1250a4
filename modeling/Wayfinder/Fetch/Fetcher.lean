import Wayfinder.Fetch.Transport
import Wayfinder.Json.Parser
import Wayfinder.Keyed
import Wayfinder.Page.Document
import Wayfinder.Url.Parser

/-!
# Fetching

A fetcher asks a transport for URLs, which may be relative to its base.  The bodies of texts that
were fetched are remembered under their absolute URLs, for all fetchers together; whether a
remembered body will do is said at each call.  Nothing is forgotten but on demand, and a request
that fails changes nothing.
-/

namespace Wayfinder

variable {τ : Type}

/-! ## Errors -/

inductive FetchError where
  | invalidUrl (text : String) (cause : UrlError)
  | notFound (url : Url)
  | status (url : Url) (code : Nat)
  | noAnswer (cause : TransportError)
  /-- a body broke off, or it does not hold what is read -/
  | undecodable
deriving DecidableEq

def FetchError.message : FetchError → String
  | invalidUrl text cause => "Invalid URL: " ++ text ++ ": " ++ cause.message
  | notFound url => "404 no response: " ++ url.serialize
  | status url code => "HTTP " ++ toString code ++ " from " ++ url.serialize
  | noAnswer cause => "HTTP error: " ++ cause.message
  | undecodable => "HTTP error: error decoding response body"

/-! ## Remembered bodies -/

/-- Bodies by the text of their absolute URLs. -/
abbrev BodyCache := Keyed String

/-- What all fetchers share: the bodies that are remembered and what the transport talks to. -/
structure Web (τ : Type) where
  cache : BodyCache := []
  wire : τ

/-- Remember a body. -/
def Web.remember (u : Url) (body : String) (w : Web τ) : Web τ :=
  { w with cache := w.cache.put u.serialize body }

/-- Forget the body of a URL. -/
def Web.forget (u : Url) (w : Web τ) : Web τ := { w with cache := w.cache.erase u.serialize }

/-- Forget all bodies. -/
def Web.forgetAll (w : Web τ) : Web τ := { w with cache := [] }

/-- The remembered body of a URL. -/
def Web.remembered? (u : Url) (w : Web τ) : Option String := w.cache.find? u.serialize

/-! ## Requests -/

/-- What an answer comes to: a status that is not one of success is an error. -/
def Response.accept (u : Url) (r : Response) : Except FetchError Response :=
  if r.status = 404 then .error (.notFound u)
  else if r.isSuccess then .ok r
  else .error (.status u r.status)

/-- The JSON value that bytes hold. -/
def Json.ofBytes (bytes : List UInt8) : Except FetchError Json :=
  match (Text.readUtf8? bytes).map Json.parse with
  | some (.ok v) => .ok v
  | _ => .error .undecodable

/-- Read the body up to its end. -/
def Response.bytes (r : Response) : Except FetchError (List UInt8) :=
  match r.body with
  | some bytes => .ok bytes
  | none => .error .undecodable

/-- Read the body as text. -/
def Response.text (r : Response) : Except FetchError String := r.bytes.map Text.decodeUtf8

/-- Read the body as a JSON value. -/
def Response.json (r : Response) : Except FetchError Json := r.bytes.bind Json.ofBytes

/-- Ask for a URL. -/
def Transport.get (send : Transport τ) (u : Url) (w : Web τ) : Except FetchError Response × Web τ :=
  match send u w.wire with
  | (.ok r, wire) => (r.accept u, { w with wire })
  | (.error e, wire) => (.error (.noAnswer e), { w with wire })

/-- Asks for URLs that may be relative to a base. -/
structure Fetcher where
  base : Option Url := none
deriving DecidableEq, Inhabited

namespace Fetcher

variable [DomainMapping]

/-- The absolute URL that a text denotes. -/
def resolve (f : Fetcher) (text : String) : Except FetchError Url :=
  match Url.parseWith f.base text with
  | .ok u => .ok u
  | .error e => .error (.invalidUrl text e)

variable (send : Transport τ) (f : Fetcher)

/-- Fetch an answer, whose body is still to be read. -/
def fetch (text : String) (w : Web τ) : Except FetchError Response × Web τ :=
  match f.resolve text with
  | .ok u => send.get u w
  | .error e => (.error e, w)

/-- Fetch a body as text.  With `useCache` a remembered body will do.  What is asked for is the URL
that the text of the resolved one denotes. -/
def fetchText (text : String) (useCache : Bool) (w : Web τ) : Except FetchError String × Web τ :=
  match f.resolve text with
  | .error e => (.error e, w)
  | .ok u =>
    match if useCache then w.remembered? u else none with
    | some body => (.ok body, w)
    | none =>
      match f.fetch send u.serialize w with
      | (.error e, w) => (.error e, w)
      | (.ok r, w) =>
        match r.text with
        | .ok body => (.ok body, w.remember u body)
        | .error e => (.error e, w)

/-- Fetch a JSON value.  Remembered bodies are neither used nor changed. -/
def fetchJson (text : String) (w : Web τ) : Except FetchError Json × Web τ :=
  match f.fetch send text w with
  | (.ok r, w) => (r.json, w)
  | (.error e, w) => (.error e, w)

/-- Replace the markup of a node by a fetched text; a failure leaves it as it was. -/
def fill (text : String) (useCache : Bool) (node : String) (w : Web τ) :
    Except FetchError Unit × String × Web τ :=
  match f.fetchText send text useCache w with
  | (.ok html, w) => (.ok (), (MarkupEdit.replace html).apply node, w)
  | (.error e, w) => (.error e, node, w)

/-! ## Remembering by hand -/

/-- Remember a body for a URL. -/
def prime (text body : String) (w : Web τ) : Except FetchError Unit × Web τ :=
  match f.resolve text with
  | .ok u => (.ok (), w.remember u body)
  | .error e => (.error e, w)

/-- The body remembered for a URL, if it is one. -/
def cached? (text : String) (w : Web τ) : Option String :=
  match f.resolve text with
  | .ok u => w.remembered? u
  | .error _ => none

/-- Forget the body of a URL, if it is one. -/
def invalidate (text : String) (w : Web τ) : Web τ :=
  match f.resolve text with
  | .ok u => w.forget u
  | .error _ => w

end Fetcher

end Wayfinder
