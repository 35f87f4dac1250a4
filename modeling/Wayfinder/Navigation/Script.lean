import Wayfinder.Keyed
import Wayfinder.Navigation.Navigator

/-!
# Scripted sites

Handlers, fallbacks and tab callbacks given as data.  A script is a list of effects on the page, of
which the first failure ends it.  Each routine first notes in the trace of its page that it runs and
what it sees there.
-/

namespace Wayfinder

/-! ## Traces -/

/-- What a scripted site notes. -/
inductive Event where
  /-- a handler runs: the path that remains, the title and the length of the history -/
  | handler (label : Nat) (remaining : RoutePath) (title : String) (historyLength : Nat)
  /-- a fallback runs: the path, the error and whether it is a miss -/
  | fallback (label : Nat) (path : RoutePath) (error : String) (isMiss : Bool)
  /-- a callback is told of a tab; the name is that of the tab selected at that time -/
  | tab (tab : Tab) (current : Option String)
  /-- a path is about to be shown, over the title of the page before -/
  | shown (path : RoutePath) (title : String)

/-- Events in the order in which they happened. -/
abbrev Trace := List Event

/-- Add an event to the trace of a page. -/
def Page.note (e : Event) (p : Page Trace) : Page Trace := { p with notes := p.notes ++ [e] }

/-! ## Scripts -/

/-- One effect of a script. -/
inductive Effect where
  | edit (e : MarkupEdit)
  | title (text : String)
  | fail (failure : Failure)
deriving DecidableEq

/-- A document after an effect, unless the effect is a failure. -/
def Effect.run : Effect → Document → Except Failure Unit × Document
  | edit e, d => (.ok (), d.edit e)
  | title text, d => (.ok (), d.setTitle text)
  | fail failure, d => (.error failure, d)

/-- When a routine acts, and the effects that it has. -/
structure Script where
  timing : Timing := .onCall
  effects : List Effect := []
deriving Inhabited

/-- A document after effects in order up to the first failure. -/
def runEffects : List Effect → Document → Except Failure Unit × Document
  | [], d => (.ok (), d)
  | e :: es, d =>
    match e.run d with
    | (.ok (), d) => runEffects es d
    | (.error f, d) => (.error f, d)

/-- A page after an effect applied to it directly. -/
def Page.applyEffect (e : Effect) (p : Page Trace) : Page Trace :=
  { p with document := (e.run p.document).2 }

namespace Script

/-- Note an event and run the effects on the page. -/
def act (s : Script) (e : Event) (h : Host Trace) : Except Failure Unit × Host Trace :=
  let page := h.page.note e
  let (result, document) := runEffects s.effects page.document
  (result, { h with page := { page with document } })

def handler (label : Nat) (s : Script) : Handler (Host Trace) where
  label := some label
  timing := s.timing
  action remaining h :=
    s.act (.handler label remaining h.page.document.title h.page.history.length) h

def fallback (label : Nat) (s : Script) : Fallback (Host Trace) where
  label := some label
  timing := s.timing
  action | (path, error), h => s.act (.fallback label path error.message error.isMiss) h

/-- A tab callback that notes what it is told of and then, if `again` has a path under the name of
the tab, selects that path. -/
def tabCallback (again : Keyed RoutePath) : Callback (Page Trace) := fun tab tabs page =>
  let current := (tabs.find? (·.selected)).map (·.name)
  let page := page.note (.tab tab current)
  match again.find? tab.name with
  | some path => .select path page fun _ page => .done page
  | none => .done page

/-- Callbacks of a tab bar that note what they are told of. -/
def withNotes (b : TabBar (Page Trace)) : TabBar (Page Trace) :=
  { b with onSelect := some (tabCallback []), onDeselect := some (tabCallback []) }

/-- Note that a path is about to be shown. -/
def noteShown (path : RoutePath) (h : Host Trace) : Host Trace :=
  h.onPage fun p => p.note (.shown path p.document.title)

end Script

/-- A way to make a title of a path. -/
inductive TitleFormat where
  | length
  | head
  | url
deriving DecidableEq

def TitleFormat.apply : TitleFormat → RoutePath → String
  | length, p => "[" ++ toString p.length ++ "]"
  | head, p => p.head?.getD "(root)"
  | url, p => p.toUrl

end Wayfinder
