import Wayfinder.Json.Decoder
import Wayfinder.Navigation.Navigator
import Wayfinder.Route.Resolver
import Wayfinder.Text.Blank
import Wayfinder.Url.Parser

/-!
# Configuration of a site

A configuration text overlays the defaults: a field that it leaves out keeps its default.  An
application without a name is refused.
-/

namespace Wayfinder

structure Config where
  /-- the start of every page title -/
  appName : String := "only.js"
  /-- redirects followed before a navigation fails -/
  maxRedirects : Nat := defaultMaxRedirects
  /-- the filter of the log -/
  logFilter : String := "info"
  /-- the base of relative URLs -/
  fetchBaseUrl : Option Url := none
deriving DecidableEq, Inhabited

inductive ConfigError where
  /-- the text holds no configuration -/
  | malformed (text : String) (fault : Json.Fault)
  | blankAppName

namespace Config

/-- The title of the page of a path. -/
def titleFor (c : Config) (path : RoutePath) : String := c.appName ++ " | " ++ path.join

/-- The navigator of a site that shows the error of a failure that no fallback takes care of. -/
def navigator {ω : Type} (c : Config) (s : Sitemap (Handler (Host ω)) (Fallback (Host ω))) :
    Navigator ω where
  resolver := ⟨some s, .showError, c.maxRedirects⟩
  title := c.titleFor

/-! ## JSON -/

def urlDecoder [DomainMapping] : Decoder Url :=
  .scalar "a string representing an URL" fun s =>
    match Url.parse s with
    | .ok u => .ok u
    | .error e => .error (e.message ++ ": " ++ Text.quoted s)

def toJson (c : Config) : Json :=
  .object [("app_name", .string c.appName), ("max_redirects", .ofNat c.maxRedirects),
    ("log_filter", .string c.logFilter),
    ("fetch_base_url", c.fetchBaseUrl.elim .null (.string ·.serialize))]

/-- The fields of a configuration that have been read. -/
structure Draft where
  appName : Option String := none
  maxRedirects : Option Nat := none
  logFilter : Option String := none
  fetchBaseUrl : Option (Option Url) := none

/-- A draft over the defaults. -/
def Draft.overlay (d : Draft) (c : Config) : Config where
  appName := d.appName.getD c.appName
  maxRedirects := d.maxRedirects.getD c.maxRedirects
  logFilter := d.logFilter.getD c.logFilter
  fetchBaseUrl := d.fetchBaseUrl.getD c.fetchBaseUrl

def record [DomainMapping] : Decoder.Record Draft Config where
  name := "Config"
  fields :=
    [Decoder.field "app_name" .string (·.appName) fun x d => { d with appName := some x },
     Decoder.field "max_redirects" .size (·.maxRedirects) fun x d =>
       { d with maxRedirects := some x },
     Decoder.field "log_filter" .string (·.logFilter) fun x d => { d with logFilter := some x },
     Decoder.field "fetch_base_url" (.option urlDecoder) (·.fetchBaseUrl) fun x d =>
       { d with fetchBaseUrl := some x }]
  blank := {}
  finish d := .ok (d.overlay {})
  shortList := true

def decoder [DomainMapping] : Decoder Config := record.decoder

/-- The configuration that a text holds. -/
def parse [DomainMapping] (text : String) : Except ConfigError Config :=
  match decoder.decodeText text with
  | .error fault => .error (.malformed text fault)
  | .ok c => if Text.allBlank c.appName then .error .blankAppName else .ok c

end Config

end Wayfinder
