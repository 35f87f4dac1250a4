import Mathlib.Data.Nat.Find
import Wayfinder.Route.Resolver

/-!
# What a walk finds

A walk of a path passes the nodes at the path's prefixes, from the root on, up to the first depth
at which the path ends, there is no node, or a node that is passed through is terminal.  What it
yields depends on those nodes alone:

    r.walk p = .redirect dest _            if the path ends at a node that redirects to dest
    r.walk p = .done (r.expectedQueue p) _ otherwise                            (walk_eq)

The proof follows the walk one node at a time: `walkAt_succ` is the step to the next node and
`walkAt_end` the end.
-/

namespace Wayfinder

variable {H F : Type}

/-! ## The nodes on the way -/

/-- The handler that a node holds for a directive; a redirect is none. -/
def Slots.handler? (s : Slots H F) : Directive → Option H
  | .wildcard => s.wildcard
  | .target =>
    match s.target with
    | some (.handler h) => some h
    | _ => none
  | .terminal => s.terminal
  | .intermediate => s.intermediate

/-- Where a node redirects the paths that end at it. -/
def Slots.redirect? (s : Slots H F) : Option RoutePath :=
  match s.target with
  | some (.redirect dest) => some dest
  | _ => none

/-- The handlers that fire at a node, in the order of the listed directives. -/
def Slots.firing (s : Slots H F) (isTarget : Bool) (listed : List Directive) :
    List (Directive × H) :=
  (listed.filter (·.firesAt isTarget)).filterMap fun d => (s.handler? d).map (d, ·)

/-- The queue entries of handlers that fire at depth `d` of a path. -/
def RoutePath.actionsAt (p : RoutePath) (d : Nat) (fired : List (Directive × H)) :
    List (QueueEntry H) :=
  fired.map fun (directive, h) => .action directive (p.take d) h (p.drop d)

namespace Resolver

/-- The node at the first `d` segments of a path. -/
def node? (r : Resolver H F) (p : RoutePath) (d : Nat) : Option (Tree H F) :=
  r.sitemap.bind (·.node? (p.take d))

/-- A walk that has come to depth `d` ends there. -/
def EndsAt (r : Resolver H F) (p : RoutePath) (d : Nat) : Prop :=
  d = p.length ∨ (r.node? p d).isNone ∨
    d < p.length ∧ (r.node? p d).any (·.slots.terminal.isSome)

instance (r : Resolver H F) (p : RoutePath) : DecidablePred (r.EndsAt p) := fun d =>
  inferInstanceAs (Decidable (d = p.length ∨ (r.node? p d).isNone ∨
    d < p.length ∧ (r.node? p d).any (·.slots.terminal.isSome)))

/-- The depth at which the walk of a path ends. -/
def depth (r : Resolver H F) (p : RoutePath) : Nat :=
  Nat.find (⟨p.length, Or.inl rfl⟩ : ∃ d, r.EndsAt p d)

/-- What the node at depth `d` adds to the queue. -/
def entriesAt (r : Resolver H F) (p : RoutePath) (d : Nat) : List (QueueEntry H) :=
  match r.node? p d with
  | none => []
  | some t => p.actionsAt d (t.slots.firing (d = p.length) t.slots.directiveOrder)

/-- The walk of a path ends where there is no node, or the path at a node that is no page. -/
def misses (r : Resolver H F) (p : RoutePath) : Bool :=
  match r.node? p (r.depth p) with
  | none => true
  | some t => r.depth p = p.length && !t.slots.isPage

/-- What the nodes up to the end of the walk add to the queue, and the miss if there is one. -/
def expectedQueue (r : Resolver H F) (p : RoutePath) : List (QueueEntry H) :=
  (List.range (r.depth p + 1)).flatMap (r.entriesAt p) ++
    if r.misses p then [.miss .notFound] else []

/-- The path ends the walk, at a node that redirects to `dest`. -/
def RedirectsTo (r : Resolver H F) (p dest : RoutePath) : Prop :=
  r.depth p = p.length ∧ ∃ t, r.node? p p.length = some t ∧ t.slots.target = some (.redirect dest)

/-- The fallback that holds below the first `d` nodes of a path. -/
def fallbackBelow (r : Resolver H F) (p : RoutePath) : (d : Nat) → F
  | 0 => r.defaultFallback
  | d + 1 => ((r.node? p d).bind (·.slots.notFound)).getD (r.fallbackBelow p d)

end Resolver

/-! ## One node -/

theorem Slots.mem_directiveOrder (s : Slots H F) (d : Directive) : d ∈ s.directiveOrder := by
  unfold Slots.directiveOrder
  split
  · exact Directive.mem_completeOrder _ d
  · cases d <;> decide

theorem Slots.firing_cons (s : Slots H F) (isTarget : Bool) (d : Directive)
    (ds : List Directive) :
    s.firing isTarget (d :: ds) =
      (if d.firesAt isTarget then ((s.handler? d).map (d, ·)).toList else []) ++
        s.firing isTarget ds := by
  unfold Slots.firing
  cases hf : d.firesAt isTarget
  · simp [hf]
  · cases hh : s.handler? d <;> simp [hf, hh]

theorem Slots.redirect?_eq_some_iff (s : Slots H F) (dest : RoutePath) :
    s.redirect? = some dest ↔ s.target = some (.redirect dest) := by
  unfold Slots.redirect?
  rcases s.target with _ | (h | dest') <;> simp

/-- At a node that is passed through every handler that fires is queued, and the descent stops if
one of them is the terminal handler. -/
theorem Slots.visit_false (s : Slots H F) (ds : List Directive) :
    s.visit false ds =
      .fired (s.firing false ds) (decide (.terminal ∈ ds) && s.terminal.isSome) := by
  induction ds with
  | nil => rfl
  | cons d ds ih =>
    rw [Slots.firing_cons]
    cases d <;>
      simp [Slots.visit, Directive.firesAt, Visit.before, Slots.handler?, ih]

/-- Where a path ends, a redirect prevails over all handlers, whatever the order. -/
theorem Slots.visit_true_redirect (s : Slots H F) (dest : RoutePath)
    (hs : s.target = some (.redirect dest)) (ds : List Directive) (hd : .target ∈ ds) :
    s.visit true ds = .redirect dest := by
  induction ds with
  | nil => cases hd
  | cons d ds ih =>
    cases d with
    | target => simp [Slots.visit, Directive.firesAt, hs]
    | _ =>
      -- what stands before the redirect is evaluated, but nothing of it is kept
      have hd' : Directive.target ∈ ds := by simpa using hd
      simp [Slots.visit, Directive.firesAt, ih hd', Visit.before]

/-- Where a path ends at a node without a redirect, every handler that fires is queued. -/
theorem Slots.visit_true_fired (s : Slots H F) (hs : s.redirect? = none) (ds : List Directive) :
    s.visit true ds = .fired (s.firing true ds) false := by
  induction ds with
  | nil => rfl
  | cons d ds ih =>
    rw [Slots.firing_cons]
    cases d with
    | target =>
      rcases ht : s.target with _ | (h | dest)
      · simp [Slots.visit, Directive.firesAt, Slots.handler?, ih, ht]
      · simp [Slots.visit, Directive.firesAt, Slots.handler?, Visit.before, ih, ht]
      · rw [(s.redirect?_eq_some_iff dest).2 ht] at hs
        cases hs
    | _ => simp [Slots.visit, Directive.firesAt, Slots.handler?, Visit.before, ih]

/-- Nothing fires where a path ends at a node that is no page. -/
theorem Slots.firing_true_of_not_isPage (s : Slots H F) (hs : s.isPage = false)
    (ds : List Directive) : s.firing true ds = [] := by
  obtain ⟨hw, ht⟩ : s.wildcard = none ∧ s.target = none := by
    simpa [Slots.isPage, Slots.hasTarget] using hs
  induction ds with
  | nil => rfl
  | cons d ds ih =>
    rw [Slots.firing_cons, ih]
    cases d <;> simp [Directive.firesAt, Slots.handler?, hw, ht]

/-! ## One step of a walk -/

section
variable (path : RoutePath) (f : F) (queue : List (QueueEntry H)) (d : Nat)

theorem walkFrom_pass (name : String) (rest : List String) (t : Tree H F)
    (ht : t.slots.terminal = none) :
    walkFrom path f queue d (name :: rest) (some t) =
      walkFrom path (t.slots.notFound.getD f)
        (queue ++ path.actionsAt d (t.slots.firing false t.slots.directiveOrder)) (d + 1) rest
        (t.child? name) := by
  simp [walkFrom, Slots.visit_false, ht, RoutePath.actionsAt]

theorem walkFrom_terminal (name : String) (rest : List String) (t : Tree H F)
    (ht : t.slots.terminal.isSome) :
    walkFrom path f queue d (name :: rest) (some t) =
      .done (queue ++ path.actionsAt d (t.slots.firing false t.slots.directiveOrder))
        (t.slots.notFound.getD f) := by
  simp [walkFrom, Slots.visit_false, ht, Slots.mem_directiveOrder, RoutePath.actionsAt]

theorem walkFrom_redirect (t : Tree H F) (dest : RoutePath)
    (ht : t.slots.target = some (.redirect dest)) :
    walkFrom path f queue d [] (some t) = .redirect dest (t.slots.notFound.getD f) := by
  simp [walkFrom, Slots.isPage, Slots.hasTarget, ht,
    Slots.visit_true_redirect t.slots dest ht _ (Slots.mem_directiveOrder _ _)]

theorem walkFrom_target (t : Tree H F) (ht : t.slots.redirect? = none) :
    walkFrom path f queue d [] (some t) =
      .done (queue ++ path.actionsAt d (t.slots.firing true t.slots.directiveOrder) ++
        if t.slots.isPage then [] else [.miss .notFound]) (t.slots.notFound.getD f) := by
  cases hp : t.slots.isPage
  · simp [walkFrom, hp, Slots.firing_true_of_not_isPage, RoutePath.actionsAt]
  · simp [walkFrom, hp, Slots.visit_true_fired _ ht, RoutePath.actionsAt]

end

/-! ## From node to node -/

theorem Tree.descend_concat (t : Tree H F) (names : List String) (name : String) :
    t.descend (names ++ [name]) = (t.descend names).bind (·.child? name) := by
  induction names generalizing t with
  | nil => cases h : t.child? name <;> simp [Tree.descend, h]
  | cons n names ih =>
    cases h : t.child? n with
    | none => simp [Tree.descend, h]
    | some c => simp [Tree.descend, h, ih]

namespace Resolver

variable (r : Resolver H F) (p : RoutePath)

theorem node?_zero : r.node? p 0 = r.sitemap.map (·.root.tree) := by
  unfold node?
  cases r.sitemap <;> rfl

theorem node?_succ (d : Nat) (hd : d < p.segments.length) :
    r.node? p (d + 1) = (r.node? p d).bind (·.child? p.segments[d]) := by
  unfold node?
  cases r.sitemap with
  | none => rfl
  | some s =>
    show s.root.tree.descend (p.segments.take (d + 1)) =
      (s.root.tree.descend (p.segments.take d)).bind _
    rw [← Tree.descend_concat, List.take_append_getElem]

/-! ## The end of a walk -/

theorem endsAt_depth : r.EndsAt p (r.depth p) := Nat.find_spec _

theorem depth_le_of_endsAt (d : Nat) (h : r.EndsAt p d) : r.depth p ≤ d := Nat.find_min' _ h

theorem depth_le_length : r.depth p ≤ p.length := r.depth_le_of_endsAt p _ (Or.inl rfl)

/-- Before its end a walk passes through nodes that are not terminal. -/
theorem node?_of_lt_depth (d : Nat) (hd : d < r.depth p) :
    ∃ t, r.node? p d = some t ∧ t.slots.terminal = none := by
  have hlen := r.depth_le_length p
  have hne : ¬ r.EndsAt p d := Nat.find_min _ hd
  unfold EndsAt at hne
  cases hn : r.node? p d with
  | none => simp [hn] at hne
  | some t =>
    refine ⟨t, rfl, ?_⟩
    simp only [hn, Option.isNone_some, Option.any_some, not_or, not_and] at hne
    simpa using hne.2.2 (by omega)

/-! ## The walk, one node at a time -/

/-- The walk from depth `d` on, with what the nodes before have left. -/
def walkAt (d : Nat) : Walk H F :=
  walkFrom p (r.fallbackBelow p d) ((List.range d).flatMap (r.entriesAt p)) d
    (p.segments.drop d) (r.node? p d)

theorem walk_eq_walkAt : r.walk p = r.walkAt p 0 := by
  unfold walk walkAt
  rw [node?_zero]
  rfl

/-- The queue grows by the entries of one node. -/
theorem queue_succ (d : Nat) (t : Tree H F) (ht : r.node? p d = some t) :
    (List.range (d + 1)).flatMap (r.entriesAt p) =
      (List.range d).flatMap (r.entriesAt p) ++
        p.actionsAt d (t.slots.firing (d = p.length) t.slots.directiveOrder) := by
  rw [List.range_succ, List.flatMap_append]
  simp [entriesAt, ht]

theorem fallbackBelow_succ (d : Nat) (t : Tree H F) (ht : r.node? p d = some t) :
    r.fallbackBelow p (d + 1) = t.slots.notFound.getD (r.fallbackBelow p d) := by
  simp [fallbackBelow, ht]

/-- A node at which the walk does not end hands it on to the next. -/
theorem walkAt_succ (d : Nat) (hd : d < r.depth p) : r.walkAt p d = r.walkAt p (d + 1) := by
  obtain ⟨t, ht, hterm⟩ := r.node?_of_lt_depth p d hd
  have hlen : d < p.segments.length := Nat.lt_of_lt_of_le hd (r.depth_le_length p)
  have hne : ¬ d = p.length := Nat.ne_of_lt hlen
  have hnext : r.node? p (d + 1) = t.child? p.segments[d] := by
    rw [node?_succ r p d hlen, ht, Option.bind_some]
  unfold walkAt
  rw [hnext, ht, List.drop_eq_getElem_cons hlen, walkFrom_pass _ _ _ _ _ _ _ hterm,
    r.queue_succ p d t ht, r.fallbackBelow_succ p d t ht, decide_eq_false hne]

/-- The walk reaches every depth up to its end. -/
theorem walk_eq_walkAt_of_le (d : Nat) (hd : d ≤ r.depth p) : r.walk p = r.walkAt p d := by
  induction d with
  | zero => exact r.walk_eq_walkAt p
  | succ d ih => rw [ih (by omega), r.walkAt_succ p d (by omega)]

/-- The most specific fallback on the walk of a path. -/
def nearestFallback : F := r.fallbackBelow p (r.depth p + 1)

theorem misses_of_node (t : Tree H F) (ht : r.node? p (r.depth p) = some t) :
    r.misses p = (r.depth p = p.length && !t.slots.isPage) := by
  unfold misses
  rw [ht]

theorem walkAt_depth_none (hn : r.node? p (r.depth p) = none) :
    r.walkAt p (r.depth p) = .done (r.expectedQueue p) (r.nearestFallback p) := by
  have hq : r.expectedQueue p =
      (List.range (r.depth p)).flatMap (r.entriesAt p) ++ [.miss .notFound] := by
    simp [expectedQueue, misses, hn, List.range_succ, entriesAt]
  have hf : r.nearestFallback p = r.fallbackBelow p (r.depth p) := by
    simp [nearestFallback, fallbackBelow, hn]
  rw [hq, hf]
  unfold walkAt
  rw [hn, walkFrom]

/-- A walk that ends above the end of its path has come to a terminal node. -/
theorem walkAt_depth_terminal (t : Tree H F) (ht : r.node? p (r.depth p) = some t)
    (hd : r.depth p ≠ p.length) :
    r.walkAt p (r.depth p) = .done (r.expectedQueue p) (r.nearestFallback p) := by
  have hlen : r.depth p < p.segments.length := Nat.lt_of_le_of_ne (r.depth_le_length p) hd
  have hterm : t.slots.terminal.isSome := by
    rcases r.endsAt_depth p with h | h | ⟨-, h⟩
    · exact absurd h hd
    · simp [ht] at h
    · simpa [ht] using h
  have hq : r.expectedQueue p = (List.range (r.depth p)).flatMap (r.entriesAt p) ++
      p.actionsAt (r.depth p) (t.slots.firing false t.slots.directiveOrder) := by
    unfold expectedQueue
    rw [r.queue_succ p _ t ht, r.misses_of_node p t ht]
    simp [hd]
  unfold walkAt nearestFallback
  rw [r.fallbackBelow_succ p _ t ht, hq, ht, List.drop_eq_getElem_cons hlen,
    walkFrom_terminal _ _ _ _ _ _ _ hterm]

/-- A walk to the end of its path, at a node that does not redirect. -/
theorem walkAt_depth_target (t : Tree H F) (ht : r.node? p (r.depth p) = some t)
    (hd : r.depth p = p.length) (hr : t.slots.redirect? = none) :
    r.walkAt p (r.depth p) = .done (r.expectedQueue p) (r.nearestFallback p) := by
  have hq : r.expectedQueue p = (List.range (r.depth p)).flatMap (r.entriesAt p) ++
      p.actionsAt (r.depth p) (t.slots.firing true t.slots.directiveOrder) ++
        if t.slots.isPage then [] else [.miss .notFound] := by
    unfold expectedQueue
    rw [r.queue_succ p _ t ht, r.misses_of_node p t ht]
    cases hp : t.slots.isPage <;> simp [hd]
  have hdrop : p.segments.drop (r.depth p) = [] := List.drop_eq_nil_of_le (Nat.le_of_eq hd.symm)
  unfold walkAt nearestFallback
  rw [r.fallbackBelow_succ p _ t ht, hq, ht, hdrop, walkFrom_target _ _ _ _ _ hr]

theorem walkAt_depth_redirect (t : Tree H F) (ht : r.node? p (r.depth p) = some t)
    (hd : r.depth p = p.length) (dest : RoutePath)
    (hr : t.slots.target = some (.redirect dest)) :
    r.walkAt p (r.depth p) = .redirect dest (r.nearestFallback p) := by
  have hdrop : p.segments.drop (r.depth p) = [] := List.drop_eq_nil_of_le (Nat.le_of_eq hd.symm)
  unfold walkAt nearestFallback
  rw [r.fallbackBelow_succ p _ t ht, ht, hdrop, walkFrom_redirect _ _ _ _ _ _ hr]

/-! ## The whole walk -/

/-- A walk asks for a redirect, or it queues what the nodes on its way hold. -/
theorem walk_eq :
    (∃ dest, r.RedirectsTo p dest ∧ r.walk p = .redirect dest (r.nearestFallback p)) ∨
      (∀ dest, ¬ r.RedirectsTo p dest) ∧
        r.walk p = .done (r.expectedQueue p) (r.nearestFallback p) := by
  rw [r.walk_eq_walkAt_of_le p _ (Nat.le_refl _)]
  cases ht : r.node? p (r.depth p) with
  | none =>
    refine Or.inr ⟨?_, r.walkAt_depth_none p ht⟩
    rintro dest ⟨hd, t, hn, -⟩
    rw [← hd, ht] at hn
    cases hn
  | some t =>
    by_cases hd : r.depth p = p.length
    · cases hr : t.slots.redirect? with
      | none =>
        refine Or.inr ⟨?_, r.walkAt_depth_target p t ht hd hr⟩
        rintro dest ⟨-, t', hn, hr'⟩
        rw [← hd, ht] at hn
        cases hn
        rw [(t.slots.redirect?_eq_some_iff dest).2 hr'] at hr
        cases hr
      | some dest =>
        have htarget : t.slots.target = some (.redirect dest) :=
          (t.slots.redirect?_eq_some_iff dest).1 hr
        exact Or.inl ⟨dest, ⟨hd, t, hd ▸ ht, htarget⟩,
          r.walkAt_depth_redirect p t ht hd dest htarget⟩
    · exact Or.inr ⟨fun dest h => hd h.1, r.walkAt_depth_terminal p t ht hd⟩

theorem redirectsTo_unique (dest dest' : RoutePath) (h : r.RedirectsTo p dest)
    (h' : r.RedirectsTo p dest') : dest = dest' := by
  obtain ⟨-, t, ht, hd⟩ := h
  obtain ⟨-, t', ht', hd'⟩ := h'
  rw [ht] at ht'
  cases ht'
  rw [hd] at hd'
  cases hd'
  rfl

theorem walk_eq_redirect_iff (dest : RoutePath) (f : F) :
    r.walk p = .redirect dest f ↔ r.RedirectsTo p dest ∧ f = r.nearestFallback p := by
  rcases r.walk_eq p with ⟨dest', hto, hw⟩ | ⟨hto, hw⟩ <;> rw [hw]
  · constructor
    · intro h
      cases h
      exact ⟨hto, rfl⟩
    · rintro ⟨h, rfl⟩
      rw [r.redirectsTo_unique p dest' dest hto h]
  · constructor
    · intro h
      cases h
    · rintro ⟨h, -⟩
      exact absurd h (hto dest)

theorem walk_eq_done_iff (queue : List (QueueEntry H)) (f : F) :
    r.walk p = .done queue f ↔
      (∀ dest, ¬ r.RedirectsTo p dest) ∧ queue = r.expectedQueue p ∧ f = r.nearestFallback p := by
  rcases r.walk_eq p with ⟨dest, hto, hw⟩ | ⟨hto, hw⟩ <;> rw [hw]
  · constructor
    · intro h
      cases h
    · rintro ⟨h, -⟩
      exact absurd hto (h dest)
  · constructor
    · intro h
      cases h
      exact ⟨hto, rfl, rfl⟩
    · rintro ⟨-, rfl, rfl⟩
      rfl

/-- **The meaning of a walk.**  It asks for the redirect of the node at which its path ends, if it
comes there and there is one; otherwise it queues, node by node up to its end, the handlers that
fire.  Without a sitemap it misses at the root. -/
theorem walk_characterization :
    (∀ dest, (∃ f, r.walk p = .redirect dest f) ↔ r.RedirectsTo p dest) ∧
    (∀ queue, (∃ f, r.walk p = .done queue f) ↔
      (∀ dest, ¬ r.RedirectsTo p dest) ∧ queue = r.expectedQueue p) ∧
    ∀ f limit, (⟨none, f, limit⟩ : Resolver H F).walk p = .done [.miss .notFound] f := by
  refine ⟨fun dest => ?_, fun queue => ?_, fun f limit => by unfold walk walkFrom; rfl⟩
  · simp only [walk_eq_redirect_iff, exists_and_left, exists_eq, and_true]
  · simp only [walk_eq_done_iff, exists_and_left, exists_eq, and_true]

end Resolver

end Wayfinder
