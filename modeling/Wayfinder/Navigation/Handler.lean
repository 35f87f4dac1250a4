import Wayfinder.Route.Resolver

/-!
# Handlers

A handler is a routine that acts on a state and succeeds or fails.  It is called first and awaited
then: an immediate routine acts when it is called, a deferred one when it is awaited.  A route
handler is called with the path that remains below its node, a fallback with the path of the
navigation and the error that ended it.
-/

namespace Wayfinder

variable {σ ι : Type}

/-! ## Errors -/

/-- Why a routine failed.  The text of a failure within a context is the context alone. -/
inductive Failure where
  | message (text : String)
  | within (context : String) (cause : Failure)
deriving DecidableEq

def Failure.text : Failure → String
  | message t => t
  | within context _ => context

/-- Why a navigation is handed to its fallback. -/
inductive NavigationError where
  | miss (error : ResolutionError)
  | handler (failure : Failure)
deriving DecidableEq

namespace NavigationError

def message : NavigationError → String
  | miss e => e.message
  | handler f => f.text

def isMiss : NavigationError → Bool
  | miss _ => true
  | handler _ => false

end NavigationError

/-! ## Routines -/

/-- A change of state that succeeds or fails; a failure does not undo what was done before it. -/
abbrev Action (σ : Type) := σ → Except Failure Unit × σ

/-- When a routine acts. -/
inductive Timing where
  | onCall
  | onAwait
deriving DecidableEq

/-- A routine called with an `ι`.  Two routines are the same if they have the same label. -/
structure Routine (σ ι : Type) where
  label : Option Nat
  timing : Timing
  action : ι → Action σ

/-- A routine that has been called and not yet awaited. -/
inductive Pending (σ : Type) where
  | settled (result : Except Failure Unit)
  | waiting (action : Action σ)

/-- Await a routine that has been called. -/
def Pending.await : Pending σ → Action σ
  | settled result, s => (result, s)
  | waiting action, s => action s

namespace Routine

def call (r : Routine σ ι) (input : ι) (s : σ) : Pending σ × σ :=
  match r.timing with
  | .onCall => let (result, s) := r.action input s; (.settled result, s)
  | .onAwait => (.waiting (r.action input), s)

/-- Call a routine and await it at once. -/
def run (r : Routine σ ι) (input : ι) (s : σ) : Except Failure Unit × σ :=
  let (pending, s) := r.call input s
  pending.await s

/-- Whether two values stand for the same routine. -/
def isSame (r₁ r₂ : Routine σ ι) : Bool := r₁.label.isSome && r₁.label = r₂.label

/-- Awaited at once, a routine does what its action does, whenever it acts. -/
@[simp] theorem run_eq (r : Routine σ ι) (input : ι) (s : σ) : r.run input s = r.action input s := by
  unfold run call
  cases r.timing <;> rfl

end Routine

/-- Called with the path that remains below its node. -/
abbrev Handler (σ : Type) := Routine σ RoutePath

/-- Called with the path of a navigation and the error that ended it. -/
abbrev Fallback (σ : Type) := Routine σ (RoutePath × NavigationError)

/-- A fallback that accepts every error. -/
def Fallback.ignore : Fallback σ := ⟨none, .onCall, fun _ s => (.ok (), s)⟩

end Wayfinder
