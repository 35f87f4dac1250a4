import Wayfinder.Page.Document
import Wayfinder.Page.History
import Wayfinder.Tabs.TabBar

/-!
# Hosts

What a navigation acts on: a page with its document and history, and a tab bar.  `ω` is what the
handlers and callbacks of a site keep for themselves.
-/

namespace Wayfinder

variable {ω : Type}

/-- A document, its history, the time of day, and what handlers keep. -/
structure Page (ω : Type) where
  document : Document := {}
  history : History := {}
  now : Timestamp := .epoch
  notes : ω

/-- A page and the tab bar above it, whose callbacks act on the page. -/
structure Host (ω : Type) where
  page : Page ω
  tabs : TabBar (Page ω) := .ofNames []

namespace Page

def setTitle (title : String) (p : Page ω) : Page ω :=
  { p with document := p.document.setTitle title }

def edit (e : MarkupEdit) (p : Page ω) : Page ω := { p with document := p.document.edit e }

/-- Push the page of a path onto the history. -/
def pushState (path : RoutePath) (title : String) (p : Page ω) : Page ω :=
  { p with history := p.history.push ⟨⟨path⟩, title, path.toUrl, p.now⟩ }

end Page

namespace Host

/-- Change the page. -/
def onPage (f : Page ω → Page ω) (h : Host ω) : Host ω := { h with page := f h.page }

/-- Select a path in the tab bar. -/
def selectTab (path : RoutePath) (h : Host ω) : Host ω :=
  let (tabs, page) := h.tabs.select path h.page
  ⟨page, tabs⟩

end Host

end Wayfinder
