import Wayfinder.Keyed
import Wayfinder.Route.Path
import Wayfinder.Route.Directive
import Wayfinder.Text.Quoted

/-!
# Sitemaps

A sitemap is a tree of nodes.  A node has slots, one for each directive, one for the fallback that
applies below it, and one for an order of its own; and it has children under distinct names.  `H`
is the type of the handlers that a site keeps in its slots and `F` that of its fallbacks.

`SitemapNode` is described by a list of clauses, of which the last one for a slot counts.
`Sitemap.ofNode` accepts a node as a root if no order in its tree lists a directive twice and
every child has a name that a path can hold; otherwise it reports the first fault in preorder.
-/

namespace Wayfinder

variable {H F : Type}

/-! ## Trees -/

/-- What a node does when a path ends at it. -/
inductive RouteTarget (H : Type) where
  | handler (h : H)
  | redirect (dest : RoutePath)

/-- What a node holds of its own. -/
structure Slots (H F : Type) where
  wildcard : Option H := none
  target : Option (RouteTarget H) := none
  intermediate : Option H := none
  terminal : Option H := none
  notFound : Option F := none
  order : Option (List Directive) := none

/-- Whether a path may end at the node because of its `..` slot. -/
def Slots.hasTarget (s : Slots H F) : Bool := s.target.isSome

/-- Whether a path that ends at the node finds something to do there. -/
def Slots.isPage (s : Slots H F) : Bool := s.wildcard.isSome || s.hasTarget

/-- The order in which the node's directives are evaluated. -/
def Slots.directiveOrder (s : Slots H F) : List Directive :=
  match s.order with
  | some listed => Directive.completeOrder listed
  | none => Directive.defaultOrder

/-- A node's slots and its children by name. -/
inductive Tree (H F : Type) where
  | node (slots : Slots H F) (children : List (String × Tree H F))

namespace Tree

def slots : Tree H F → Slots H F
  | .node s _ => s

def children : Tree H F → Keyed (Tree H F)
  | .node _ cs => cs

/-- The child of a name. -/
def child? (t : Tree H F) (name : String) : Option (Tree H F) := t.children.find? name

/-- The tree below a node that a list of names leads to. -/
def descend (t : Tree H F) : List String → Option (Tree H F)
  | [] => some t
  | name :: names => (t.child? name).bind (·.descend names)

mutual

/-- Children have distinct names at every level. -/
def Distinct : Tree H F → Prop
  | .node _ cs => (cs.map Prod.fst).Nodup ∧ DistinctAll cs

/-- Each of the trees has distinct names at every level. -/
def DistinctAll : List (String × Tree H F) → Prop
  | [] => True
  | (_, t) :: cs => t.Distinct ∧ DistinctAll cs

end

theorem distinctAll_iff {cs : List (String × Tree H F)} :
    DistinctAll cs ↔ ∀ e ∈ cs, e.2.Distinct := by
  induction cs with
  | nil => simp [DistinctAll]
  | cons e cs ih => obtain ⟨n, t⟩ := e; simp [DistinctAll, ih]

end Tree

/-! ## Nodes and their clauses -/

/-- A tree whose children have distinct names at every level. -/
structure SitemapNode (H F : Type) where
  tree : Tree H F
  distinct : tree.Distinct

/-- One clause of a node's description.  `target` and `redirect` write the same slot. -/
inductive Clause (H F : Type) where
  | wildcard (h : H)
  | target (h : H)
  | redirect (dest : RoutePath)
  | intermediate (h : H)
  | terminal (h : H)
  | notFound (f : F)
  | order (listed : List Directive)
  | child (name : String) (node : SitemapNode H F)

/-- The slots after a clause. -/
def Slots.put (s : Slots H F) : Clause H F → Slots H F
  | .wildcard h => { s with wildcard := some h }
  | .target h => { s with target := some (.handler h) }
  | .redirect dest => { s with target := some (.redirect dest) }
  | .intermediate h => { s with intermediate := some h }
  | .terminal h => { s with terminal := some h }
  | .notFound f => { s with notFound := some f }
  | .order listed => { s with order := some listed }
  | .child _ _ => s

/-- The children after a clause: a second child of a name takes the place of the first. -/
def putChild (cs : Keyed (Tree H F)) : Clause H F → Keyed (Tree H F)
  | .child name node => cs.put name node.tree
  | _ => cs

namespace SitemapNode

/-- A node without slots and children. -/
def empty : SitemapNode H F := ⟨.node {} [], by simp [Tree.Distinct, Tree.DistinctAll]⟩

instance : Inhabited (SitemapNode H F) := ⟨empty⟩

/-- The node after one more clause. -/
def apply (n : SitemapNode H F) (c : Clause H F) : SitemapNode H F where
  tree := .node (n.tree.slots.put c) (putChild n.tree.children c)
  distinct := by
    obtain ⟨⟨s, cs⟩, hd⟩ := n
    rw [Tree.Distinct, Tree.distinctAll_iff] at hd ⊢
    cases c with
    | child name node =>
      refine ⟨Keyed.nodup_keys_put hd.1, fun e he => ?_⟩
      rcases Keyed.mem_put he with rfl | he
      · exact node.distinct
      · exact hd.2 e he
    | _ => exact hd

/-- The node that a list of clauses describes. -/
def ofClauses (cs : List (Clause H F)) : SitemapNode H F := cs.foldl apply empty

def slots (n : SitemapNode H F) : Slots H F := n.tree.slots

/-- The names of the children in order. -/
def childNames (n : SitemapNode H F) : List String := n.tree.children.keys

theorem nodup_childNames (n : SitemapNode H F) : n.childNames.Nodup := by
  obtain ⟨⟨s, cs⟩, hd⟩ := n
  exact hd.1

end SitemapNode

/-! ## Validation -/

/-- Why a tree is refused: the joined path of the faulty node, and what is wrong there. -/
inductive SitemapError where
  | invalidSegment (parent : String) (name : String)
  | duplicateDirective (node : String) (directive : Directive)
deriving DecidableEq

def SitemapError.message : SitemapError → String
  | .invalidSegment parent name =>
    "Invalid segment name " ++ Text.quoted name ++ " under /" ++ parent
  | .duplicateDirective node directive =>
    "Directive " ++ directive.key ++ " listed twice in the order of /" ++ node

/-- Whether a child of this name can be reached by a path and is not mistaken for a directive. -/
def isChildName (name : String) : Bool :=
  name ≠ "" && name.toList.head? ≠ some '.' && separator ∉ name.toList

/-- The first element of a list that is also among `seen` or earlier in the list. -/
def firstRepeat {α : Type} [DecidableEq α] (seen : List α) : List α → Option α
  | [] => none
  | a :: l => if a ∈ seen then some a else firstRepeat (a :: seen) l

/-- The fault of a node's own order. -/
def Slots.fault? (place : RoutePath) (s : Slots H F) : Option SitemapError :=
  (s.order.bind (firstRepeat [])).map (.duplicateDirective place.join)

namespace Tree

mutual

/-- The first fault of a tree in preorder; `place` leads to its root. -/
def fault? (place : RoutePath) : Tree H F → Option SitemapError
  | .node s cs => (s.fault? place).or (childrenFault? place cs)

/-- The first fault of children and the trees below them: a child's name comes before its tree. -/
def childrenFault? (place : RoutePath) : List (String × Tree H F) → Option SitemapError
  | [] => none
  | (name, t) :: cs =>
    if isChildName name then (t.fault? (place.child name)).or (childrenFault? place cs)
    else some (.invalidSegment place.join name)

end

end Tree

/-- A tree without faults. -/
structure Sitemap (H F : Type) where
  root : SitemapNode H F
  faultless : root.tree.fault? .root = none

namespace Sitemap

/-- The sitemap of a root, or its first fault. -/
def ofNode (root : SitemapNode H F) : Except SitemapError (Sitemap H F) :=
  match h : root.tree.fault? .root with
  | none => .ok ⟨root, h⟩
  | some e => .error e

/-- The node that a path leads to. -/
def node? (s : Sitemap H F) (p : RoutePath) : Option (Tree H F) := s.root.tree.descend p.segments

end Sitemap

end Wayfinder
