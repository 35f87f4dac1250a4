import Wayfinder.Journal.Store
import Wayfinder.Navigation.Replay
import Wayfinder.Site.Config

/-!
# Errors of a site

What can go wrong on a site, by the part of the site in which it does.
-/

namespace Wayfinder

inductive SiteError where
  | sitemap (e : SitemapError)
  | tab (e : TabError)
  | journal (e : JournalError)
  | fetch (e : FetchError)
  | navigation (e : NavigateError)
  | history (e : HistoryError)
  | malformed (text : String) (fault : Json.Fault)
  | config (message : String)

namespace SiteError

def message : SiteError → String
  | sitemap e => "Sitemap error: " ++ e.message
  | tab e => "Tab error: " ++ e.message
  | journal e => "Journal error: " ++ e.message
  | fetch e => "Fetch error: " ++ e.message
  | navigation e => "Navigation error: " ++ e.message
  | history e => "History error: " ++ e.message
  | malformed text fault => "Serialization error: " ++ fault.message text.toList
  | config m => "Configuration error: " ++ m

def ofConfig : ConfigError → SiteError
  | .malformed text fault => malformed text fault
  | .blankAppName => config "app_name cannot be empty"

end SiteError

/-- The JSON value that a text holds. -/
def readJson (text : String) : Except SiteError Json :=
  match Json.parse text with
  | .ok v => .ok v
  | .error fault => .error (.malformed text fault)

/-- The configuration that a text holds. -/
def readConfig [DomainMapping] (text : String) : Except SiteError Config :=
  match Config.parse text with
  | .ok c => .ok c
  | .error e => .error (.ofConfig e)

end Wayfinder
