import Mathlib.Data.List.Nodup
import Wayfinder.Proofs.Route.Locality
import Wayfinder.Proofs.Route.Queue

/-!
# Orders of directives

A node may list its directives in an order of its own.  A completed order is a permutation of all
directives, so orders have no say in what a walk does: two sitemaps that differ in nothing but
orders resolve every path alike, up to the places of handlers of the same node in the queue.

    s'.root.tree.unordered = s.root.tree.unordered →
      (r.resolve p).SameUpToOrder ((r.withSitemap (some s')).resolve p)     (resolve_reordered)

The two walks are run side by side, as for locality: they see nodes that agree up to their orders
(`nodes_of_unordered`), so they end at the same depth and queue the same handlers node by node
(`entriesAt_nodewisePerm`).
-/

namespace Wayfinder

variable {H F : Type}

/-! ## Definitions -/

/-- The slots without an order of their own. -/
def Slots.unordered (s : Slots H F) : Slots H F := { s with order := none }

namespace Tree

mutual

/-- The tree without any orders. -/
def unordered : Tree H F → Tree H F
  | .node s cs => .node s.unordered (unorderedAll cs)

/-- The trees without any orders, under the same names. -/
def unorderedAll : List (String × Tree H F) → List (String × Tree H F)
  | [] => []
  | (name, t) :: cs => (name, t.unordered) :: unorderedAll cs

end

end Tree

/-- Handlers of the same node change places; everything else stays where it is. -/
inductive NodewisePerm : List (QueueEntry H) → List (QueueEntry H) → Prop
  | nil : NodewisePerm [] []
  | cons (e : QueueEntry H) {queue queue' : List (QueueEntry H)}
      (hq : NodewisePerm queue queue') : NodewisePerm (e :: queue) (e :: queue')
  | swap (node : RoutePath) (d d' : Directive) (h h' : H) (rest rest' : RoutePath)
      (queue : List (QueueEntry H)) :
      NodewisePerm (.action d node h rest :: .action d' node h' rest' :: queue)
        (.action d' node h' rest' :: .action d node h rest :: queue)
  | trans {queue queue' queue'' : List (QueueEntry H)} (hq : NodewisePerm queue queue')
      (hq' : NodewisePerm queue' queue'') : NodewisePerm queue queue''

/-- Two resolutions that differ only in the places of handlers of the same node. -/
structure Resolution.SameUpToOrder (res res' : Resolution H F) : Prop where
  path_eq : res'.path = res.path
  redirects_eq : res'.redirects = res.redirects
  fallback_eq : res'.fallback = res.fallback
  isMiss_eq : res'.isMiss = res.isMiss
  errors_eq : res'.queue.filter (·.isMiss) = res.queue.filter (·.isMiss)
  queue : NodewisePerm res.queue res'.queue

/-! ## Permutations within nodes -/

namespace NodewisePerm

theorem refl (queue : List (QueueEntry H)) : NodewisePerm queue queue := by
  induction queue with
  | nil => exact .nil
  | cons e queue ih => exact .cons e ih

theorem append_left (front : List (QueueEntry H)) {queue queue' : List (QueueEntry H)}
    (h : NodewisePerm queue queue') : NodewisePerm (front ++ queue) (front ++ queue') := by
  induction front with
  | nil => exact h
  | cons e front ih => exact .cons e ih

theorem append_right {queue queue' : List (QueueEntry H)} (h : NodewisePerm queue queue')
    (rest : List (QueueEntry H)) : NodewisePerm (queue ++ rest) (queue' ++ rest) := by
  induction h with
  | nil => exact refl rest
  | cons e _ ih => exact .cons e ih
  | swap node d d' h h' r r' queue => exact .swap node d d' h h' r r' (queue ++ rest)
  | trans _ _ ih ih' => exact .trans ih ih'

theorem append {front front' queue queue' : List (QueueEntry H)}
    (hf : NodewisePerm front front') (hq : NodewisePerm queue queue') :
    NodewisePerm (front ++ queue) (front' ++ queue') :=
  .trans (hf.append_right queue) (hq.append_left front')

theorem flatMap {α : Type} (l : List α) (f g : α → List (QueueEntry H))
    (h : ∀ a ∈ l, NodewisePerm (f a) (g a)) : NodewisePerm (l.flatMap f) (l.flatMap g) := by
  induction l with
  | nil => exact .nil
  | cons a l ih =>
    rw [List.flatMap_cons, List.flatMap_cons]
    exact (h a List.mem_cons_self).append (ih fun b hb => h b (List.mem_cons_of_mem a hb))

/-- The handlers that fire at one node may come in any order. -/
theorem actionsAt (p : RoutePath) (d : Nat) {fired fired' : List (Directive × H)}
    (h : fired.Perm fired') : NodewisePerm (p.actionsAt d fired) (p.actionsAt d fired') := by
  induction h with
  | nil => exact .nil
  | cons e _ ih => exact .cons _ ih
  | swap e e' fired => exact .swap _ _ _ _ _ _ _ _
  | trans _ _ ih ih' => exact .trans ih ih'

/-- Errors stay where they are. -/
theorem isMiss_eq {queue queue' : List (QueueEntry H)} (h : NodewisePerm queue queue') :
    queue'.map (·.isMiss) = queue.map (·.isMiss) := by
  induction h with
  | nil => rfl
  | cons e _ ih => rw [List.map_cons, List.map_cons, ih]
  | swap => rfl
  | trans _ _ ih ih' => exact ih'.trans ih

theorem errors_eq {queue queue' : List (QueueEntry H)} (h : NodewisePerm queue queue') :
    queue'.filter (·.isMiss) = queue.filter (·.isMiss) := by
  induction h with
  | nil => rfl
  | cons e _ ih => rw [List.filter_cons, List.filter_cons, ih]
  | swap => rfl
  | trans _ _ ih ih' => exact ih'.trans ih

end NodewisePerm

theorem Resolution.isMiss_of_nodewisePerm (res res' : Resolution H F)
    (h : NodewisePerm res.queue res'.queue) : res'.isMiss = res.isMiss := by
  have hany : ∀ queue : List (QueueEntry H),
      queue.getLast?.any (·.isMiss) = (queue.map (·.isMiss)).getLast?.any id := by
    intro queue
    rw [List.getLast?_map, Option.any_map]
    rfl
  unfold Resolution.isMiss
  rw [hany, hany, h.isMiss_eq]

/-! ## Orders -/

/-- The order of a node of a sitemap is a permutation of all directives. -/
theorem Sitemap.directiveOrder_perm (s : Sitemap H F) (p : RoutePath) (t : Tree H F)
    (ht : s.node? p = some t) : t.slots.directiveOrder.Perm Directive.defaultOrder := by
  refine (List.perm_ext_iff_of_nodup (s.nodup_directiveOrder p t ht) (by decide)).2 fun d => ?_
  exact iff_of_true (t.slots.mem_directiveOrder d) (by cases d <;> decide)

theorem Slots.firing_perm (s : Slots H F) (isTarget : Bool) {listed listed' : List Directive}
    (h : listed.Perm listed') : (s.firing isTarget listed).Perm (s.firing isTarget listed') :=
  (h.filter _).filterMap _

theorem Slots.firing_unordered (s : Slots H F) : s.unordered.firing = s.firing := by
  have hh : s.unordered.handler? = s.handler? := by
    funext d
    cases d <;> rfl
  funext isTarget listed
  unfold Slots.firing
  rw [hh]

namespace Tree

theorem find?_unorderedAll (cs : Keyed (Tree H F)) (name : String) :
    Keyed.find? (unorderedAll cs) name = (cs.find? name).map unordered := by
  induction cs with
  | nil => rfl
  | cons e cs ih =>
    obtain ⟨k, t⟩ := e
    by_cases hk : k = name
    · simp [unorderedAll, Keyed.find?, hk]
    · simpa [unorderedAll, Keyed.find?, hk] using ih

theorem slots_unordered (t : Tree H F) : t.unordered.slots = t.slots.unordered := by
  cases t
  rfl

theorem child?_unordered (t : Tree H F) (name : String) :
    t.unordered.child? name = (t.child? name).map unordered := by
  cases t with
  | node s cs => exact find?_unorderedAll cs name

theorem slotsAt?_unordered (t : Tree H F) (names : List String) :
    t.unordered.slotsAt? names = (t.slotsAt? names).map Slots.unordered := by
  induction names generalizing t with
  | nil => exact congrArg some t.slots_unordered
  | cons name names ih =>
    rw [slotsAt?_cons, slotsAt?_cons, child?_unordered]
    cases t.child? name with
    | none => rfl
    | some c => exact ih c

end Tree

/-! ## Two walks -/

namespace Resolver

section
variable (r r' : Resolver H F)
  (h : ∀ names, (r.slotsAt? names).map Slots.unordered = (r'.slotsAt? names).map Slots.unordered)
  (q : RoutePath) (d : Nat)

include h

/-- Both resolvers have a node at a place, with the same slots up to an order, or neither has. -/
theorem nodes_of_unordered :
    r.node? q d = none ∧ r'.node? q d = none ∨
      ∃ t t', r.node? q d = some t ∧ r'.node? q d = some t' ∧
        t.slots.unordered = t'.slots.unordered :=
  r.nodes_of_agree r' q d Slots.unordered (h _)

theorem part_of_unordered {α : Type} (part : Slots H F → α)
    (hpart : ∀ s, part s.unordered = part s) (names : List String) :
    (r.slotsAt? names).map part = (r'.slotsAt? names).map part := by
  have hmap : ∀ o : Option (Slots H F), o.map part = (o.map Slots.unordered).map part := by
    intro o
    cases o with
    | none => rfl
    | some s => exact congrArg some (hpart s).symm
  rw [hmap, hmap (r'.slotsAt? names), h]

theorem depth_of_unordered : r'.depth q = r.depth q :=
  r.depth_congr r' q fun _ _ => r.part_of_unordered r' h Slots.terminal (fun _ => rfl) _

theorem nearestFallback_of_unordered (hf : r'.defaultFallback = r.defaultFallback) :
    r'.nearestFallback q = r.nearestFallback q := by
  unfold nearestFallback
  rw [r.depth_of_unordered r' h q]
  exact r.fallbackBelow_congr r' q _ hf fun _ _ =>
    r.part_of_unordered r' h Slots.notFound (fun _ => rfl) _

theorem misses_of_unordered : r'.misses q = r.misses q := by
  unfold misses
  rw [r.depth_of_unordered r' h q]
  rcases r.nodes_of_unordered r' h q (r.depth q) with ⟨ht, ht'⟩ | ⟨t, t', ht, ht', hslots⟩
  · rw [ht, ht']
  · have hpage : t.slots.isPage = t'.slots.isPage :=
      show t.slots.unordered.isPage = t'.slots.unordered.isPage from congrArg _ hslots
    simp only [ht, ht', hpage]

theorem redirectsTo_of_unordered (dest : RoutePath) (hto : r.RedirectsTo q dest) :
    r'.RedirectsTo q dest := by
  obtain ⟨hd, t, ht, hs⟩ := hto
  rcases r.nodes_of_unordered r' h q q.length with ⟨hnone, -⟩ | ⟨t₀, t', ht₀, ht', hslots⟩
  · rw [ht] at hnone
    cases hnone
  · rw [ht] at ht₀
    cases ht₀
    have htarget : t.slots.target = t'.slots.target :=
      show t.slots.unordered.target = t'.slots.unordered.target from congrArg _ hslots
    exact ⟨(r.depth_of_unordered r' h q).trans hd, t', ht', htarget ▸ hs⟩

/-- A node queues the same handlers in either order. -/
theorem entriesAt_nodewisePerm : NodewisePerm (r.entriesAt q d) (r'.entriesAt q d) := by
  rcases r.nodes_of_unordered r' h q d with ⟨ht, ht'⟩ | ⟨t, t', ht, ht', hslots⟩
  · simp only [entriesAt, ht, ht']
    exact .nil
  · obtain ⟨s, -, hn⟩ := Option.bind_eq_some_iff.1 ht
    obtain ⟨s', -, hn'⟩ := Option.bind_eq_some_iff.1 ht'
    have hfiring : t'.slots.firing = t.slots.firing := by
      rw [← t.slots.firing_unordered, hslots, t'.slots.firing_unordered]
    have horder : t.slots.directiveOrder.Perm t'.slots.directiveOrder :=
      (s.directiveOrder_perm _ t hn).trans (s'.directiveOrder_perm _ t' hn').symm
    rw [r.entriesAt_of_node q d t ht, r'.entriesAt_of_node q d t' ht', hfiring]
    exact .actionsAt q d (t.slots.firing_perm _ horder)

theorem expectedQueue_nodewisePerm : NodewisePerm (r.expectedQueue q) (r'.expectedQueue q) := by
  unfold expectedQueue
  rw [r.misses_of_unordered r' h q, r.depth_of_unordered r' h q]
  exact (NodewisePerm.flatMap _ _ _ fun d _ => r.entriesAt_nodewisePerm r' h q d).append_right _

/-- Either both walks ask for the same redirect, or both are done with the same up to order. -/
theorem walks_of_unordered (hf : r'.defaultFallback = r.defaultFallback) :
    (∃ dest f, r.walk q = .redirect dest f ∧ r'.walk q = .redirect dest f) ∨
      ∃ queue queue' f, r.walk q = .done queue f ∧ r'.walk q = .done queue' f ∧
        NodewisePerm queue queue' := by
  have hfall := r.nearestFallback_of_unordered r' h q hf
  rcases r.walk_eq q with ⟨dest, hto, hw⟩ | ⟨hto, hw⟩
  · refine Or.inl ⟨dest, _, hw, (r'.walk_eq_redirect_iff q dest _).2 ⟨?_, hfall.symm⟩⟩
    exact r.redirectsTo_of_unordered r' h q dest hto
  · have hto' : ∀ dest, ¬ r'.RedirectsTo q dest := fun dest hto' =>
      hto dest (r'.redirectsTo_of_unordered r (fun names => (h names).symm) q dest hto')
    exact Or.inr ⟨_, _, _, hw, (r'.walk_eq_done_iff q _ _).2 ⟨hto', rfl, hfall.symm⟩,
      r.expectedQueue_nodewisePerm r' h q⟩

/-! ## Two resolutions -/

theorem next?_of_unordered (hf : r'.defaultFallback = r.defaultFallback) :
    r'.next? q = r.next? q := by
  rcases r.walks_of_unordered r' h q hf with ⟨dest, f, hw, hw'⟩ | ⟨queue, queue', f, hw, hw', -⟩
  · rw [r.next?_of_redirect q dest f hw, r'.next?_of_redirect q dest f hw']
  · rw [r.next?_of_done q queue f hw, r'.next?_of_done q queue' f hw']

theorem chain?_of_unordered (hf : r'.defaultFallback = r.defaultFallback) (i : Nat) :
    r'.chain? q i = r.chain? q i := by
  induction i with
  | zero => rfl
  | succ i ih =>
    rw [chain?, chain?, ih]
    cases r.chain? q i with
    | none => rfl
    | some q' => exact r.next?_of_unordered r' h q' hf

theorem sameUpToOrder_of_unordered (hf : r'.defaultFallback = r.defaultFallback)
    (hl : r'.maxRedirects = r.maxRedirects) : (r.resolve q).SameUpToOrder (r'.resolve q) := by
  have hchain := r.chain?_of_unordered r' h q hf
  rcases r.resolve_cases q with ⟨k, hk, p, queue, f, hc, hw, he⟩ | ⟨p, dest, f, hc, hw, he⟩
  · rcases r.walks_of_unordered r' h p hf with ⟨_, _, hw₁, -⟩ | ⟨_, queue', _, hw₁, hw', hq⟩ <;>
      rw [hw] at hw₁ <;> cases hw₁
    have he' := r'.resolve_of_done q k (hl ▸ hk) p ((hchain k).trans hc) queue' f hw'
    rw [he, he']
    exact ⟨rfl, rfl, rfl, Resolution.isMiss_of_nodewisePerm _ _ hq, hq.errors_eq, hq⟩
  · rcases r.walks_of_unordered r' h p hf with ⟨_, _, hw₁, hw'⟩ | ⟨_, _, _, hw₁, -⟩ <;>
      rw [hw] at hw₁ <;> cases hw₁
    have he' := r'.resolve_of_redirect q p dest (by rw [hl, hchain, hc]) f hw'
    rw [he, he', hl]
    exact ⟨rfl, rfl, rfl, rfl, rfl, .refl _⟩

end

/-! ## What an order cannot do -/

/-- Whatever the order, a visited node queues every handler that fires there; a terminal one keeps
none of the others from being queued. -/
theorem mem_queue_of_fires (r : Resolver H F) (q : RoutePath) (queue : List (QueueEntry H)) (f : F)
    (hw : r.walk q = .done queue f) (d : Nat) (hd : d ≤ r.depth q) (t : Tree H F)
    (ht : r.node? q d = some t) (directive : Directive) (handler : H)
    (hh : t.slots.handler? directive = some handler) (hfires : directive.firesAt (d = q.length)) :
    .action directive (q.take d) handler (q.drop d) ∈ queue := by
  obtain ⟨-, rfl, -⟩ := (r.walk_eq_done_iff q queue f).1 hw
  refine List.mem_append_left _ (List.mem_flatMap.2 ⟨d, List.mem_range.2 (by omega), ?_⟩)
  rw [r.entriesAt_of_node q d t ht]
  refine List.mem_map.2 ⟨(directive, handler), ?_, rfl⟩
  exact (t.slots.mem_firing _ _ _ _).2 ⟨⟨t.slots.mem_directiveOrder directive, hfires⟩, hh⟩

/-- **Orders only reorder.**  Two sitemaps that differ in nothing but the orders of their nodes
resolve a path alike, up to the places of handlers of the same node.  No order hides a redirect, and
none keeps a handler that fires at a visited node out of the queue. -/
theorem resolve_reordered (r : Resolver H F) (s s' : Sitemap H F) (hs : r.sitemap = some s)
    (h : s'.root.tree.unordered = s.root.tree.unordered) (p : RoutePath) :
    (r.resolve p).SameUpToOrder ((r.withSitemap (some s')).resolve p) ∧
    (∀ q, (r.withSitemap (some s')).next? q = r.next? q) ∧
    ∀ q queue f, (r.withSitemap (some s')).walk q = .done queue f →
      ∀ d ≤ (r.withSitemap (some s')).depth q, ∀ t,
        (r.withSitemap (some s')).node? q d = some t → ∀ directive handler,
          t.slots.handler? directive = some handler → directive.firesAt (d = q.length) →
            .action directive (q.take d) handler (q.drop d) ∈ queue := by
  have hslots : ∀ names, (r.slotsAt? names).map Slots.unordered =
      ((r.withSitemap (some s')).slotsAt? names).map Slots.unordered := by
    intro names
    unfold slotsAt? withSitemap
    rw [hs, Option.bind_some, Option.bind_some, ← Tree.slotsAt?_unordered,
      ← Tree.slotsAt?_unordered, h]
  exact ⟨r.sameUpToOrder_of_unordered _ hslots p rfl rfl,
    fun q => r.next?_of_unordered _ hslots q rfl,
    fun q queue f hw d hd t ht directive handler hh hfires =>
      mem_queue_of_fires _ q queue f hw d hd t ht directive handler hh hfires⟩

end Resolver

/-! ## A shop that opens with its terminal handler -/

def salePath : RoutePath := ⟨["sale"], by decide⟩

def shelfPath : RoutePath := ⟨["shop", "shelf"], by decide⟩

/-- Under the root, `sale` redirects to `shop/shelf`, and `shop` is terminal.  The three nodes have
the orders `top`, `sale` and `shop`. -/
def shopTree (top sale shop : List Directive) : Tree Nat Nat :=
  .node { wildcard := some 0, intermediate := some 1, order := some top }
    [("sale", .node { target := some (.redirect shelfPath), order := some sale } []),
     ("shop", .node ⟨some 3, none, some 4, some 5, none, some shop⟩ [])]

theorem distinct_shopTree (top sale shop : List Directive) : (shopTree top sale shop).Distinct := by
  simp [shopTree, Tree.Distinct, Tree.DistinctAll]

/-- The terminal handler of `shop` comes last. -/
def shopMap : Sitemap Nat Nat where
  root := ⟨shopTree [] [] [.intermediate, .wildcard], distinct_shopTree _ _ _⟩
  faultless := by rfl

/-- The terminal handler of `shop` comes first, and the handlers of the root change places. -/
def sortedShopMap : Sitemap Nat Nat where
  root := ⟨shopTree [.intermediate] [.wildcard, .target] [.terminal], distinct_shopTree _ _ _⟩
  faultless := by rfl

def shop : Resolver Nat Nat := ⟨some shopMap, 9, 1⟩

/-- The queues differ, and all five handlers are in both. -/
theorem shop_resolve_sorted :
    sortedShopMap.root.tree.unordered = shopMap.root.tree.unordered ∧
    (shop.resolve salePath).SameUpToOrder
      ((shop.withSitemap (some sortedShopMap)).resolve salePath) ∧
    queueSlots (shop.resolve salePath).queue =
      [(.root, .wildcard), (.root, .intermediate), (⟨["shop"], by decide⟩, .intermediate),
        (⟨["shop"], by decide⟩, .wildcard), (⟨["shop"], by decide⟩, .terminal)] ∧
    queueSlots ((shop.withSitemap (some sortedShopMap)).resolve salePath).queue =
      [(.root, .intermediate), (.root, .wildcard), (⟨["shop"], by decide⟩, .terminal),
        (⟨["shop"], by decide⟩, .wildcard), (⟨["shop"], by decide⟩, .intermediate)] := by
  refine ⟨rfl, (Resolver.resolve_reordered shop shopMap sortedShopMap rfl rfl salePath).1, ?_, ?_⟩
  · decide +kernel
  · decide +kernel

end Wayfinder
