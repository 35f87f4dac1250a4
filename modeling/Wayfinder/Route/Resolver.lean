import Wayfinder.Route.Sitemap

/-!
# Resolution

A walk threads a path through a sitemap, one segment at a time, and queues the handlers that fire.
At each node, in this order:

1. the node's own fallback becomes the current one;
2. the walk ends with a miss if there is no node, or if the path ends at a node that is no page;
3. the node's directives are evaluated in its order: a redirect ends the walk, a terminal handler
   stops the descent but not the rest of its node;
4. the walk goes on to the child that the next segment names.

`Resolver.resolve` walks again from the root after each redirect, as long as redirects are left.
-/

namespace Wayfinder

variable {H F : Type}

/-- Why a path resolves to nothing. -/
inductive ResolutionError where
  | notFound
  | tooManyRedirects (limit : Nat)
deriving DecidableEq, Repr

def ResolutionError.message : ResolutionError → String
  | .notFound => "404 page not found."
  | .tooManyRedirects limit => "Too many redirects (limit " ++ toString limit ++ ")"

/-- A handler to run, with the directive and the node that hold it and the path that remains below
the node; or the point at which the queue fails. -/
inductive QueueEntry (H : Type) where
  | action (directive : Directive) (node : RoutePath) (handler : H) (remaining : RoutePath)
  | miss (error : ResolutionError)

def QueueEntry.isMiss : QueueEntry H → Bool
  | .action .. => false
  | .miss _ => true

/-- What one walk yields. -/
inductive Walk (H F : Type) where
  | done (queue : List (QueueEntry H)) (fallback : F)
  | redirect (dest : RoutePath) (fallback : F)

/-! ## One node -/

/-- What evaluating a node's directives yields: a redirect, or the handlers that fire and whether
the descent stops. -/
inductive Visit (H : Type) where
  | redirect (dest : RoutePath)
  | fired (handlers : List (Directive × H)) (stop : Bool)

/-- Put a handler, if there is one, before what the later directives yield. -/
def Visit.before (d : Directive) (h : Option H) (stop : Bool) : Visit H → Visit H
  | .redirect dest => .redirect dest
  | .fired hs s => .fired ((h.map (d, ·)).toList ++ hs) (stop || s)

/-- Evaluate directives in order at a node with these slots. -/
def Slots.visit (s : Slots H F) (isTarget : Bool) : List Directive → Visit H
  | [] => .fired [] false
  | d :: ds =>
    if d.firesAt isTarget then
      match d with
      | .wildcard => (s.visit isTarget ds).before d s.wildcard false
      | .intermediate => (s.visit isTarget ds).before d s.intermediate false
      | .terminal => (s.visit isTarget ds).before d s.terminal s.terminal.isSome
      | .target =>
        match s.target with
        | some (.redirect dest) => .redirect dest
        | some (.handler h) => (s.visit isTarget ds).before d (some h) false
        | none => s.visit isTarget ds
    else s.visit isTarget ds

/-! ## One walk -/

/-- Walk on from a node at depth `depth` of `path`, below which the segments `rest` remain. -/
def walkFrom (path : RoutePath) (fallback : F) (queue : List (QueueEntry H)) (depth : Nat) :
    List String → Option (Tree H F) → Walk H F
  | _, none => .done (queue ++ [.miss .notFound]) fallback
  | rest, some t =>
    let fallback := t.slots.notFound.getD fallback
    let isTarget := rest.isEmpty
    if isTarget && !t.slots.isPage then .done (queue ++ [.miss .notFound]) fallback
    else match t.slots.visit isTarget t.slots.directiveOrder with
      | .redirect dest => .redirect dest fallback
      | .fired handlers stop =>
        let queue := queue ++ handlers.map fun (d, h) =>
          .action d (path.take depth) h (path.drop depth)
        match rest with
        | [] => .done queue fallback
        | name :: rest =>
          if stop then .done queue fallback
          else walkFrom path fallback queue (depth + 1) rest (t.child? name)

/-! ## Redirects -/

/-- Redirects followed before a resolution fails, unless a site says otherwise. -/
def defaultMaxRedirects : Nat := 16

/-- Resolves paths against a sitemap.  Without a sitemap every path misses at the root. -/
structure Resolver (H F : Type) where
  sitemap : Option (Sitemap H F)
  defaultFallback : F
  maxRedirects : Nat := defaultMaxRedirects

/-- What a path resolves to. -/
structure Resolution (H F : Type) where
  queue : List (QueueEntry H)
  /-- The most specific fallback on the last walk, or the resolver's default. -/
  fallback : F
  /-- The path of the last walk. -/
  path : RoutePath
  redirects : Nat

/-- Whether the resolution ends in a miss. -/
def Resolution.isMiss (r : Resolution H F) : Bool := r.queue.getLast?.any (·.isMiss)

namespace Resolver

/-- The walk of a path. -/
def walk (r : Resolver H F) (path : RoutePath) : Walk H F :=
  walkFrom path r.defaultFallback [] 0 path.segments (r.sitemap.map (·.root.tree))

/-- Resolve a path reached by `redirects` redirects with `left` more allowed. -/
def follow (r : Resolver H F) (redirects : Nat) : (left : Nat) → RoutePath → Resolution H F
  | left, path =>
    match r.walk path with
    | .done queue fallback => ⟨queue, fallback, path, redirects⟩
    | .redirect dest fallback =>
      match left with
      | 0 => ⟨[.miss (.tooManyRedirects r.maxRedirects)], fallback, path, redirects⟩
      | left + 1 => r.follow (redirects + 1) left dest

/-- Resolve a path. -/
def resolve (r : Resolver H F) (path : RoutePath) : Resolution H F :=
  r.follow 0 r.maxRedirects path

end Resolver

end Wayfinder
