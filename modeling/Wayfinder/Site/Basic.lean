import Wayfinder.Site.Error

/-!
# Sites

A site is a sitemap under a configuration.  Its navigator selects the tabs of the top-level pages,
and its fetcher starts from the base that the configuration names.  `SiteState` is what a site acts
on: a host, its journals and the web.
-/

namespace Wayfinder

variable {ω τ : Type}

structure Site (ω : Type) where
  config : Config
  sitemap : Sitemap (Handler (Host ω)) (Fallback (Host ω))

/-- The page and the tabs, the journals, and what the fetchers share. -/
structure SiteState (ω τ : Type) where
  host : Host ω
  journals : Journals := []
  web : Web τ

namespace Site

variable (s : Site ω)

def navigator : Navigator ω := { s.config.navigator s.sitemap with selectTab := some Host.selectTab }

def fetcher : Fetcher := ⟨s.config.fetchBaseUrl⟩

/-- The tabs that the navigator selects. -/
def tabs : TabBar (Page ω) := .ofSitemap s.sitemap

/-- The site on a page that has just been opened. -/
def start (page : Page ω) (wire : τ) : SiteState ω τ := ⟨⟨page, s.tabs⟩, [], [], wire⟩

/-- Navigate to a path and record its page in the history. -/
def navigate (path : RoutePath) (st : SiteState ω τ) :
    Except SiteError Navigation × SiteState ω τ :=
  match s.navigator.navigate path st.host with
  | (.ok nav, host) => (.ok nav, { st with host })
  | (.error e, host) => (.error (.navigation e), { st with host })

end Site

end Wayfinder
