import Wayfinder.Json.Decoder
import Wayfinder.Route.Path

/-!
# Tabs

A tab stands for a top-level segment.  It matches the paths that start with that segment.
-/

namespace Wayfinder

structure Tab where
  name : String
  selected : Bool := false
deriving DecidableEq, Inhabited

namespace Tab

/-- The path that a click on the tab leads to. -/
def route (t : Tab) : RoutePath := .ofSegments [t.name]

/-- Whether the tab stands for the first segment of a path. -/
def isFor (t : Tab) (p : RoutePath) : Bool := p.head? = some t.name

/-- The tab after a path has been selected. -/
def after (p : RoutePath) (t : Tab) : Tab := { t with selected := t.isFor p }

/-- What selecting a path tells about the tab, if anything: the tab with its new flag.  A matching
tab is told of even if it was selected before, another one only if it was. -/
def event? (p : RoutePath) (t : Tab) : Option Tab :=
  if t.isFor p || t.selected then some (t.after p) else none

/-! ## JSON -/

def toJson (t : Tab) : Json := .object [("name", .string t.name), ("selected", .bool t.selected)]

/-- The fields of a tab that have been read. -/
structure Draft where
  name : Option String := none
  selected : Option Bool := none

def record : Decoder.Record Draft Tab where
  name := "Tab"
  fields :=
    [Decoder.field "name" .string (·.name) fun x d => { d with name := some x },
     Decoder.field "selected" .bool (·.selected) fun x d => { d with selected := some x }]
  blank := {}
  finish
    | ⟨some name, some selected⟩ => .ok ⟨name, selected⟩
    | ⟨none, _⟩ => .error "name"
    | ⟨_, none⟩ => .error "selected"

def decoder : Decoder Tab := record.decoder

end Tab

end Wayfinder
