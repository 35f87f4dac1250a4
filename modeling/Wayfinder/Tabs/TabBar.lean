import Wayfinder.Route.Sitemap
import Wayfinder.Tabs.Tab

/-!
# Tab bars

A tab bar holds a list of tabs and up to two callbacks, one for tabs that become selected and one
for tabs that cease to be.  `TabBar.select` first sets the flags of all tabs and then tells of each
change, in the order of the tabs.

A callback may look at the tabs and select again, as often as it likes; a `Reaction` is what it
does.  The selections that it makes run to their end, with all their callbacks, before it goes on,
and before the enclosing selection tells of its next tab.  `nesting` bounds how deep selections may
nest; `none` means that the bound was too small.
-/

namespace Wayfinder

variable {σ : Type}

/-! ## Callbacks -/

/-- What a callback does with a state `σ`: it comes to an end, or it selects a path and goes on
with the tabs and the state that it finds afterwards. -/
inductive Reaction (σ : Type) where
  | done (s : σ)
  | select (path : RoutePath) (s : σ) (next : List Tab → σ → Reaction σ)

/-- A callback is called with a tab, all tabs as they are at that time, and the state. -/
abbrev Callback (σ : Type) := Tab → List Tab → σ → Reaction σ

structure TabBar (σ : Type) where
  tabs : List Tab
  onSelect : Option (Callback σ) := none
  onDeselect : Option (Callback σ) := none

instance : Inhabited (TabBar σ) := ⟨⟨[], none, none⟩⟩

inductive TabError where
  | notFound (name : String)
deriving DecidableEq

def TabError.message : TabError → String
  | .notFound name => "Tab not found: " ++ name

namespace TabBar

/-- A bar of unselected tabs. -/
def ofNames (names : List String) : TabBar σ := ⟨names.map (⟨·, false⟩), none, none⟩

/-- A bar with one tab for each top-level page that a path may end at. -/
def ofSitemap {H F : Type} (s : Sitemap H F) : TabBar σ :=
  ofNames ((s.root.tree.children.filter (·.2.slots.hasTarget)).map (·.1))

/-- The first tab of a name. -/
def find (b : TabBar σ) (name : String) : Except TabError Tab :=
  match b.tabs.find? (·.name = name) with
  | some t => .ok t
  | none => .error (.notFound name)

/-- The first selected tab. -/
def selected? (b : TabBar σ) : Option Tab := b.tabs.find? (·.selected)

/-- The callback that is told of a tab with its new flag. -/
def callbackFor (b : TabBar σ) (event : Tab) : Option (Callback σ) :=
  if event.selected then b.onSelect else b.onDeselect

/-! ## Selection -/

/-- The tabs and the state. -/
abbrev Scene (σ : Type) := List Tab × σ

/-- Follow a reaction to its end, where `select` makes its selections. -/
def react (select : RoutePath → Scene σ → Option (Scene σ)) :
    Reaction σ → List Tab → Option (Scene σ)
  | .done s, tabs => some (tabs, s)
  | .select path s next, tabs =>
    match select path (tabs, s) with
    | some (tabs, s) => react select (next tabs s) tabs
    | none => none

/-- Tell of events in order. -/
def deliver (b : TabBar σ) (select : RoutePath → Scene σ → Option (Scene σ)) :
    (events : List Tab) → Scene σ → Option (Scene σ)
  | [], scene => some scene
  | e :: es, (tabs, s) =>
    match b.callbackFor e with
    | none => deliver b select es (tabs, s)
    | some callback => (react select (callback e tabs s) tabs).bind (deliver b select es)

/-- Select a path among tabs in a state, with the callbacks of a bar. -/
def selectWithin (b : TabBar σ) : (nesting : Nat) → RoutePath → Scene σ → Option (Scene σ)
  | 0, _, _ => none
  | nesting + 1, path, (tabs, s) =>
    b.deliver (b.selectWithin nesting) (tabs.filterMap (·.event? path))
      (tabs.map (·.after path), s)

/-- Select the tab for the first segment of a path and deselect every other one. -/
def select? (nesting : Nat) (path : RoutePath) (b : TabBar σ) (s : σ) : Option (TabBar σ × σ) :=
  (b.selectWithin nesting path (b.tabs, s)).map fun (tabs, s) => ({ b with tabs }, s)

/-- How deep selections may nest. -/
def nestingLimit : Nat := 4096

/-- Select a path.  Selections that nest too deep are not begun. -/
def select (path : RoutePath) (b : TabBar σ) (s : σ) : TabBar σ × σ :=
  (b.select? nestingLimit path s).getD (b, s)

end TabBar

end Wayfinder
