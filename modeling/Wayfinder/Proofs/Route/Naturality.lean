import Wayfinder.Proofs.Route.Locality

/-!
# Resolution looks at no handler

A site may keep anything as its handlers and fallbacks: resolution hands them on and never looks at
them.  So to put other ones in their places before a path is resolved is to do it afterwards:

    (r.map f g).resolve p = (r.resolve p).map f g                                     (resolve_map)

Two sites that differ in their handlers only take a path the same way, through the same redirects,
to queues that differ in their handlers only.
-/

namespace Wayfinder

variable {H H' F F' : Type} (f : H → H') (g : F → F')

/-! ## Other handlers in the same places -/

def RouteTarget.map : RouteTarget H → RouteTarget H'
  | handler h => handler (f h)
  | redirect dest => redirect dest

def Slots.map (s : Slots H F) : Slots H' F' where
  wildcard := s.wildcard.map f
  target := s.target.map (.map f)
  intermediate := s.intermediate.map f
  terminal := s.terminal.map f
  notFound := s.notFound.map g
  order := s.order

namespace Tree

mutual

def map : Tree H F → Tree H' F'
  | .node s cs => .node (s.map f g) (mapAll cs)

def mapAll : List (String × Tree H F) → List (String × Tree H' F')
  | [] => []
  | (name, t) :: cs => (name, t.map) :: mapAll cs

end

theorem mapAll_eq (cs : List (String × Tree H F)) :
    mapAll f g cs = cs.map fun (name, t) => (name, map f g t) := by
  induction cs with
  | nil => rfl
  | cons e cs ih => rw [mapAll, ih, List.map_cons]

@[simp] theorem slots_map (t : Tree H F) : (t.map f g).slots = t.slots.map f g := by
  cases t
  rfl

theorem child?_map (t : Tree H F) (name : String) :
    (t.map f g).child? name = (t.child? name).map (.map f g) := by
  cases t with
  | node s cs =>
    show Keyed.find? (mapAll f g cs) name = _
    rw [mapAll_eq]
    exact Keyed.find?_map_value (fun _ => map f g) cs name

mutual

theorem distinct_map : (t : Tree H F) → (t.map f g).Distinct ↔ t.Distinct
  | .node s cs => by
    have hkeys : (mapAll f g cs).map Prod.fst = cs.map Prod.fst := by
      rw [mapAll_eq, List.map_map]
      rfl
    rw [map, Distinct, Distinct, hkeys, distinctAll_map cs]

theorem distinctAll_map : (cs : List (String × Tree H F)) →
    DistinctAll (mapAll f g cs) ↔ DistinctAll cs
  | [] => Iff.rfl
  | (name, t) :: cs => by rw [mapAll, DistinctAll, DistinctAll, distinct_map t, distinctAll_map cs]

end

mutual

/-- No fault is the fault of a handler. -/
theorem fault?_map : (t : Tree H F) → (place : RoutePath) →
    (t.map f g).fault? place = t.fault? place
  | .node s cs, place => by
    rw [map, fault?, fault?, childrenFault?_map cs place]
    rfl

theorem childrenFault?_map : (cs : List (String × Tree H F)) → (place : RoutePath) →
    childrenFault? place (mapAll f g cs) = childrenFault? place cs
  | [], _ => rfl
  | (name, t) :: cs, place => by
    rw [mapAll, childrenFault?, childrenFault?, fault?_map t, childrenFault?_map cs]

end

end Tree

def Sitemap.map (s : Sitemap H F) : Sitemap H' F' where
  root := ⟨s.root.tree.map f g, (Tree.distinct_map f g _).2 s.root.distinct⟩
  faultless := (Tree.fault?_map f g _ _).trans s.faultless

def QueueEntry.map : QueueEntry H → QueueEntry H'
  | action directive node handler remaining => action directive node (f handler) remaining
  | miss error => miss error

def Visit.map : Visit H → Visit H'
  | redirect dest => redirect dest
  | fired handlers stop => fired (handlers.map fun e => (e.1, f e.2)) stop

def Walk.map : Walk H F → Walk H' F'
  | done queue fallback => done (queue.map (.map f)) (g fallback)
  | redirect dest fallback => redirect dest (g fallback)

def Resolution.map (r : Resolution H F) : Resolution H' F' where
  queue := r.queue.map (.map f)
  fallback := g r.fallback
  path := r.path
  redirects := r.redirects

def Resolver.map (r : Resolver H F) : Resolver H' F' where
  sitemap := r.sitemap.map (.map f g)
  defaultFallback := g r.defaultFallback
  maxRedirects := r.maxRedirects

/-! ## One node -/

theorem Slots.isPage_map (s : Slots H F) : (s.map f g).isPage = s.isPage := by
  simp only [isPage, hasTarget, map, Option.isSome_map]

theorem Slots.notFound_map (s : Slots H F) : (s.map f g).notFound = s.notFound.map g := rfl

theorem Slots.directiveOrder_map (s : Slots H F) : (s.map f g).directiveOrder = s.directiveOrder :=
  rfl

theorem Visit.before_map (v : Visit H) (d : Directive) (h : Option H) (stop : Bool) :
    (v.map f).before d (h.map f) stop = (v.before d h stop).map f := by
  cases v with
  | redirect dest => rfl
  | fired handlers s => cases h <;> rfl

theorem Slots.visit_map (s : Slots H F) (isTarget : Bool) (ds : List Directive) :
    (s.map f g).visit isTarget ds = (s.visit isTarget ds).map f := by
  induction ds with
  | nil => rfl
  | cons d ds ih =>
    unfold visit
    by_cases hd : d.firesAt isTarget
    · simp only [hd, if_true, ih]
      cases d with
      | wildcard => exact Visit.before_map f _ _ s.wildcard false
      | intermediate => exact Visit.before_map f _ _ s.intermediate false
      | terminal =>
        rw [← Visit.before_map, show (s.map f g).terminal = s.terminal.map f from rfl,
          Option.isSome_map]
      | target =>
        rw [show (s.map f g).target = s.target.map (.map f) from rfl]
        cases s.target with
        | none => rfl
        | some target =>
          cases target with
          | handler h => exact Visit.before_map f _ _ (some h) false
          | redirect dest => rfl
    · simp only [hd, ih]
      rfl

/-! ## Walks and redirects -/

theorem QueueEntry.map_actions (queue : List (QueueEntry H)) (node remaining : RoutePath)
    (handlers : List (Directive × H)) :
    queue.map (QueueEntry.map f) ++ (handlers.map fun e => (e.1, f e.2)).map
        (fun e => QueueEntry.action e.1 node e.2 remaining) =
      (queue ++ handlers.map fun e => QueueEntry.action e.1 node e.2 remaining).map
        (QueueEntry.map f) := by
  rw [List.map_append, List.map_map, List.map_map]
  rfl

theorem QueueEntry.map_miss (queue : List (QueueEntry H)) (e : ResolutionError) :
    queue.map (QueueEntry.map f) ++ [QueueEntry.miss e] =
      (queue ++ [QueueEntry.miss e]).map (QueueEntry.map f) := by
  rw [List.map_append]
  rfl

section
variable (path : RoutePath) (fallback : F) (queue : List (QueueEntry H)) (depth : Nat)
  (rest : List String)

theorem walkFrom_map_none :
    walkFrom path (g fallback) (queue.map (.map f)) depth rest none =
      (walkFrom path fallback queue depth rest (none : Option (Tree H F))).map f g := by
  cases rest <;> exact congrArg (Walk.done · (g fallback)) (QueueEntry.map_miss f queue .notFound)

/-- One node, where the walk goes on from its children alike. -/
theorem walkFrom_map_some (t : Tree H F)
    (hchild : ∀ name below, rest = name :: below → ∀ (fallback : F) (queue : List (QueueEntry H)),
      walkFrom path (g fallback) (queue.map (.map f)) (depth + 1) below
          ((t.child? name).map (.map f g)) =
        (walkFrom path fallback queue (depth + 1) below (t.child? name)).map f g) :
    walkFrom path (g fallback) (queue.map (.map f)) depth rest (some (t.map f g)) =
      (walkFrom path fallback queue depth rest (some t)).map f g := by
  have hfallback := Option.getD_map g fallback t.slots.notFound
  unfold walkFrom
  simp only [Tree.slots_map, Slots.isPage_map, Slots.directiveOrder_map, Slots.visit_map,
    Slots.notFound_map, hfallback]
  split
  · exact congrArg (Walk.done · _) (QueueEntry.map_miss f queue .notFound)
  · cases t.slots.visit _ t.slots.directiveOrder with
    | redirect dest => rfl
    | fired handlers stop =>
      simp only [Visit.map, QueueEntry.map_actions, Tree.child?_map]
      cases rest with
      | nil => rfl
      | cons name below =>
        cases stop with
        | true => rfl
        | false => exact hchild name below rfl _ _

theorem walkFrom_map (t : Option (Tree H F)) :
    walkFrom path (g fallback) (queue.map (.map f)) depth rest (t.map (.map f g)) =
      (walkFrom path fallback queue depth rest t).map f g := by
  induction rest generalizing fallback queue depth t with
  | nil =>
    cases t with
    | none => exact walkFrom_map_none f g path fallback queue depth []
    | some t =>
      refine walkFrom_map_some f g path fallback queue depth [] t ?_
      intro _ _ hrest
      cases hrest
  | cons name below ih =>
    cases t with
    | none => exact walkFrom_map_none f g path fallback queue depth (name :: below)
    | some t =>
      refine walkFrom_map_some f g path fallback queue depth (name :: below) t ?_
      rintro _ _ ⟨rfl, rfl⟩ fallback queue
      exact ih fallback queue (depth + 1) (t.child? name)

end

namespace Resolver

variable (r : Resolver H F)

theorem walk_map (p : RoutePath) : (r.map f g).walk p = (r.walk p).map f g := by
  have htree : (r.map f g).sitemap.map (·.root.tree) =
      (r.sitemap.map (·.root.tree)).map (.map f g) := by
    unfold map
    cases r.sitemap <;> rfl
  rw [walk, htree]
  exact walkFrom_map f g p r.defaultFallback [] 0 p.segments _

theorem follow_map (redirects left : Nat) (p : RoutePath) :
    (r.map f g).follow redirects left p = (r.follow redirects left p).map f g := by
  induction left generalizing redirects p with
  | zero =>
    unfold follow
    rw [walk_map]
    cases r.walk p <;> rfl
  | succ left ih =>
    unfold follow
    rw [walk_map]
    cases r.walk p with
    | done queue fallback => rfl
    | redirect dest fallback => exact ih (redirects + 1) dest

/-- Handlers may be put in their places before or after a path is resolved. -/
theorem resolve_map (p : RoutePath) : (r.map f g).resolve p = (r.resolve p).map f g :=
  r.follow_map f g 0 r.maxRedirects p

end Resolver

end Wayfinder
