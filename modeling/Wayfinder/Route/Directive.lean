/-!
# Sitemap directives

    .*   wildcard      fires at every visited node
    ..   target        fires at the node that ends the path
    .!   terminal      fires at a node that is passed through, and ends the descent there
    ./   intermediate  fires at a node that is passed through

A node may list some directives in an order of its own; `Directive.completeOrder` adds the others
in the default order.
-/

namespace Wayfinder

inductive Directive where
  | wildcard
  | target
  | terminal
  | intermediate
deriving DecidableEq, Repr, Inhabited

namespace Directive

/-- The order in which a node's directives are evaluated unless it says otherwise. -/
def defaultOrder : List Directive := [wildcard, target, terminal, intermediate]

/-- The key by which a sitemap names the directive. -/
def key : Directive → String
  | wildcard => ".*"
  | target => ".."
  | terminal => ".!"
  | intermediate => "./"

instance : ToString Directive := ⟨key⟩

/-- The directive that a key names. -/
def ofKey? (k : String) : Option Directive := defaultOrder.find? (·.key = k)

/-- Said of a key that names no directive. -/
def unknownKey (k : String) : String := "Unknown directive: " ++ k

/-- The directive that a key names, or what to say of the key. -/
def parse (k : String) : Except String Directive :=
  match ofKey? k with
  | some d => .ok d
  | none => .error (unknownKey k)

/-- Whether a directive fires at a node, given whether the node ends the path. -/
def firesAt : Directive → (isTarget : Bool) → Bool
  | wildcard, _ => true
  | target, isTarget => isTarget
  | terminal, isTarget => !isTarget
  | intermediate, isTarget => !isTarget

/-- A listed order, then the directives that it leaves out in the default order. -/
def completeOrder (listed : List Directive) : List Directive :=
  listed ++ defaultOrder.filter (· ∉ listed)

theorem ofKey?_key (d : Directive) : ofKey? d.key = some d := by cases d <;> decide

/-- Every directive has a place in a completed order. -/
theorem mem_completeOrder (listed : List Directive) (d : Directive) : d ∈ completeOrder listed := by
  by_cases h : d ∈ listed
  · simp [completeOrder, h]
  · cases d <;> simp [completeOrder, defaultOrder, h]

end Directive

end Wayfinder
