import Wayfinder.Navigation.Handler
import Wayfinder.Navigation.Host

/-!
# Navigation

One navigation, end to end:

1. resolve the path;
2. select its tab, set the title and, if the page is to be recorded, push it onto the history;
3. run the queue, one entry after the other, up to the first failure;
4. hand a failure to the resolution's fallback.

Only a fallback that fails makes a navigation fail.
-/

namespace Wayfinder

variable {ω : Type}

/-- How a navigation ended: nothing failed, or the fallback took care of it. -/
inductive Outcome where
  | completed
  | recovered
deriving DecidableEq

/-- A navigation that did not fail: the path that is shown, and the redirects that led to it. -/
structure Navigation where
  path : RoutePath
  redirects : Nat
  outcome : Outcome
deriving DecidableEq

/-- The fallback of a navigation failed. -/
structure NavigateError where
  path : RoutePath
  cause : Failure
deriving DecidableEq

def NavigateError.message (e : NavigateError) : String :=
  "Fallback handler failed for /" ++ e.path.join ++ ": " ++ e.cause.text

/-- Shows the paths of a site on a host. -/
structure Navigator (ω : Type) where
  resolver : Resolver (Handler (Host ω)) (Fallback (Host ω))
  /-- What is told of every path that is shown. -/
  selectTab : Option (RoutePath → Host ω → Host ω) := none
  title : RoutePath → String

/-- Shows the error in the body of the page. -/
def Fallback.showError : Fallback (Host ω) where
  label := none
  timing := .onCall
  action | (_, error), h => (.ok (), h.onPage (Page.edit (.replace error.message)))

namespace Navigator

/-- Run queued entries in order up to the first failure. -/
def runQueue : List (QueueEntry (Handler (Host ω))) → Host ω →
    Except NavigationError Unit × Host ω
  | [], h => (.ok (), h)
  | .miss e :: _, h => (.error (.miss e), h)
  | .action _ _ handler remaining :: queue, h =>
    match handler.run remaining h with
    | (.ok (), h) => runQueue queue h
    | (.error f, h) => (.error (.handler f), h)

/-- What happens before the queue runs. -/
def enter (n : Navigator ω) (path : RoutePath) (record : Bool) (h : Host ω) : Host ω :=
  let h := n.selectTab.elim h (· path h)
  let h := h.onPage (Page.setTitle (n.title path))
  if record then h.onPage (Page.pushState path (n.title path)) else h

/-- Show what a path resolved to. -/
def present (n : Navigator ω) (r : Resolution (Handler (Host ω)) (Fallback (Host ω)))
    (record : Bool) (h : Host ω) : Except NavigateError Navigation × Host ω :=
  match runQueue r.queue (n.enter r.path record h) with
  | (.ok (), h) => (.ok ⟨r.path, r.redirects, .completed⟩, h)
  | (.error e, h) =>
    match r.fallback.run (r.path, e) h with
    | (.ok (), h) => (.ok ⟨r.path, r.redirects, .recovered⟩, h)
    | (.error cause, h) => (.error ⟨r.path, cause⟩, h)

/-- Navigate to a path. -/
def load (n : Navigator ω) (path : RoutePath) (record : Bool) (h : Host ω) :
    Except NavigateError Navigation × Host ω :=
  n.present (n.resolver.resolve path) record h

/-- Navigate to a path and record its page in the history. -/
def navigate (n : Navigator ω) (path : RoutePath) (h : Host ω) :
    Except NavigateError Navigation × Host ω :=
  n.load path true h

end Navigator

end Wayfinder
