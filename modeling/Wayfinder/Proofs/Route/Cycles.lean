import Mathlib.Data.Finset.Card
import Wayfinder.Proofs.Route.Redirects

/-!
# Cycles of redirects

A chain of redirects passes only nodes that redirect.  If it is longer than there are such nodes,
it comes to a path twice, and from there it goes round for ever.  So a limit that is no less than
the number of redirecting nodes cuts off cycles and nothing else:

    (chain? p (redirectPlaces.length + 1)).isSome → some path of the chain comes twice
                                                                         (chain?_repeats)
    some path of the chain comes twice → (chain? p n).isSome             (chain?_isSome_of_repeat)
-/

namespace Wayfinder

variable {H F : Type}

/-! ## The nodes of a tree -/

namespace Tree

mutual

/-- The nodes in preorder: the names that lead to each, and its slots. -/
def nodes : Tree H F → List (List String × Slots H F)
  | .node s cs => ([], s) :: childNodes cs

/-- The nodes of children and below them. -/
def childNodes : List (String × Tree H F) → List (List String × Slots H F)
  | [] => []
  | (name, t) :: cs => t.nodes.map (fun e => (name :: e.1, e.2)) ++ childNodes cs

end

theorem mem_childNodes_of_find? (cs : Keyed (Tree H F)) (name : String) (t : Tree H F)
    (hf : cs.find? name = some t) (names : List String) (s : Slots H F)
    (h : (names, s) ∈ t.nodes) : (name :: names, s) ∈ childNodes cs := by
  induction cs with
  | nil => cases hf
  | cons e cs ih =>
    obtain ⟨k, c⟩ := e
    unfold childNodes
    unfold Keyed.find? at hf
    split at hf
    · rename_i hk
      cases hf
      exact List.mem_append_left _ (List.mem_map.2 ⟨(names, s), h, by rw [hk]⟩)
    · exact List.mem_append_right _ (ih hf)

/-- The node that a list of names leads to is listed under these names. -/
theorem mem_nodes_of_descend (t t' : Tree H F) (names : List String)
    (h : t.descend names = some t') : (names, t'.slots) ∈ t.nodes := by
  induction names generalizing t with
  | nil =>
    cases h
    cases t'
    exact List.mem_cons_self
  | cons name names ih =>
    obtain ⟨c, hc, hd⟩ := Option.bind_eq_some_iff.1 h
    cases t
    exact List.mem_cons_of_mem _ (mem_childNodes_of_find? _ name c hc names _ (ih c hd))

end Tree

/-- Where the nodes of a sitemap are that redirect. -/
def Sitemap.redirectPlaces (s : Sitemap H F) : List (List String) :=
  (s.root.tree.nodes.filter (·.2.redirect?.isSome)).map Prod.fst

namespace Resolver

/-- Where the nodes of the resolver's sitemap are that redirect. -/
def redirectPlaces (r : Resolver H F) : List (List String) :=
  r.sitemap.elim [] (·.redirectPlaces)

section
variable (r : Resolver H F) (p : RoutePath)

/-- A path that redirects leads to a node that does. -/
theorem mem_redirectPlaces_of_next? (dest : RoutePath) (h : r.next? p = some dest) :
    p.segments ∈ r.redirectPlaces := by
  obtain ⟨f, hw⟩ := r.walk_of_next?_some p dest h
  obtain ⟨⟨-, t, ht, htarget⟩, -⟩ := (r.walk_eq_redirect_iff p dest f).1 hw
  obtain ⟨s, hs, hn⟩ := Option.bind_eq_some_iff.1 ht
  have hnode : (p.segments, t.slots) ∈ s.root.tree.nodes := by
    apply Tree.mem_nodes_of_descend
    rw [← hn]
    unfold Sitemap.node?
    rw [RoutePath.segments_take, RoutePath.length, List.take_length]
  unfold redirectPlaces
  rw [hs]
  refine List.mem_map.2 ⟨_, List.mem_filter.2 ⟨hnode, ?_⟩, rfl⟩
  rw [(t.slots.redirect?_eq_some_iff dest).2 htarget]
  rfl

/-! ## Long chains -/

/-- A chain with more redirects than there are redirecting nodes comes to some path twice. -/
theorem chain?_repeats (h : (r.chain? p (r.redirectPlaces.length + 1)).isSome) :
    ∃ i j q, i < j ∧ r.chain? p i = some q ∧ r.chain? p j = some q := by
  let place : Nat → Option (List String) := fun i => (r.chain? p i).map (·.segments)
  have hplace : ∀ i ∈ Finset.range (r.redirectPlaces.length + 1),
      place i ∈ r.redirectPlaces.toFinset.image some := by
    intro i hi
    obtain ⟨dest, hdest⟩ := Option.isSome_iff_exists.1
      (r.chain?_isSome_of_le p (i + 1) _ (Finset.mem_range.1 hi) h)
    obtain ⟨q, hq, hnext⟩ := Option.bind_eq_some_iff.1 hdest
    refine Finset.mem_image.2 ⟨q.segments, ?_, by simp [place, hq]⟩
    exact List.mem_toFinset.2 (r.mem_redirectPlaces_of_next? q dest hnext)
  have hcard : (r.redirectPlaces.toFinset.image some).card <
      (Finset.range (r.redirectPlaces.length + 1)).card := by
    rw [Finset.card_range]
    exact Nat.lt_succ_of_le (Finset.card_image_le.trans (List.toFinset_card_le _))
  obtain ⟨i, hi, j, hj, hne, heq⟩ :=
    Finset.exists_ne_map_eq_of_card_lt_of_maps_to hcard hplace
  have hij : r.chain? p i = r.chain? p j :=
    Option.map_injective (fun _ _ => RoutePath.ext) heq
  obtain ⟨q, hq⟩ := Option.isSome_iff_exists.1
    (r.chain?_isSome_of_le p i _ (Nat.le_of_lt (Finset.mem_range.1 hi)) h)
  rcases Nat.lt_or_gt_of_ne hne with hlt | hlt
  · exact ⟨i, j, q, hlt, hq, hij ▸ hq⟩
  · exact ⟨j, i, q, hlt, hij ▸ hq, hq⟩

/-- A chain that comes to a path twice does not end. -/
theorem chain?_isSome_of_repeat (i j : Nat) (q : RoutePath) (hij : i < j)
    (hi : r.chain? p i = some q) (hj : r.chain? p j = some q) (n : Nat) :
    (r.chain? p n).isSome := by
  induction n using Nat.strong_induction_on with
  | _ n ih =>
    by_cases hn : n ≤ j
    · exact r.chain?_isSome_of_le p n j hn (by rw [hj]; rfl)
    · -- one round less leads to the same path
      have hback : r.chain? p n = r.chain? p (i + (n - j)) := by
        conv => lhs; rw [show n = j + (n - j) by omega]
        rw [chain?_add, chain?_add, hi, hj]
      rw [hback]
      exact ih _ (by omega)

theorem isCutOff_withLimit_iff (limit : Nat) :
    ((r.withLimit limit).resolve p).IsCutOff ↔ (r.chain? p (limit + 1)).isSome := by
  rw [isCutOff_resolve_iff, chain?_withLimit]
  rfl

/-- A path that resolves without being cut off takes no more redirects than there are nodes that
redirect, whatever the limit. -/
theorem redirects_le_of_not_isCutOff (h : ¬ (r.resolve p).IsCutOff) :
    (r.resolve p).redirects ≤ r.redirectPlaces.length := by
  obtain ⟨k, -, q, queue, f, hc, hw, he⟩ := r.resolve_of_not_isCutOff p h
  rw [he]
  by_contra hlt
  obtain ⟨i, j, q', hij, hi, hj⟩ := r.chain?_repeats p
    (r.chain?_isSome_of_le p _ k (Nat.lt_of_not_le hlt) (by rw [hc]; rfl))
  have hmore := r.chain?_isSome_of_repeat p i j q' hij hi hj (k + 1)
  rw [chain?, hc, Option.bind_some, r.next?_of_done q queue f hw] at hmore
  cases hmore

/-- **Only cycles are cut off** by a limit that is no less than the number of redirecting nodes. -/
theorem isCutOff_iff_cycle (hr : r.redirectPlaces.length ≤ r.maxRedirects) :
    ((r.resolve p).IsCutOff ↔ ∀ limit, ((r.withLimit limit).resolve p).IsCutOff) ∧
    ((r.resolve p).IsCutOff ↔
      ∃ i j q, i < j ∧ r.chain? p i = some q ∧ r.chain? p j = some q) ∧
    ((∃ k, r.chain? p k = none) → ¬ (r.resolve p).IsCutOff) ∧
    ∀ limit, ¬ ((r.withLimit limit).resolve p).IsCutOff →
      ((r.withLimit limit).resolve p).redirects ≤ r.redirectPlaces.length := by
  have hcycle : (r.resolve p).IsCutOff →
      ∃ i j q, i < j ∧ r.chain? p i = some q ∧ r.chain? p j = some q := by
    intro h
    have hlong := (r.isCutOff_resolve_iff p).1 h
    exact r.chain?_repeats p (r.chain?_isSome_of_le p _ _ (Nat.succ_le_succ hr) hlong)
  have hendless : (∃ i j q, i < j ∧ r.chain? p i = some q ∧ r.chain? p j = some q) →
      ∀ n, (r.chain? p n).isSome := by
    rintro ⟨i, j, q, hij, hi, hj⟩ n
    exact r.chain?_isSome_of_repeat p i j q hij hi hj n
  refine ⟨⟨fun h limit => ?_, fun h => ?_⟩, ⟨hcycle, fun h => ?_⟩, ?_, fun limit h => ?_⟩
  · exact (r.isCutOff_withLimit_iff p limit).2 (hendless (hcycle h) _)
  · exact h r.maxRedirects
  · exact (r.isCutOff_resolve_iff p).2 (hendless h _)
  · rintro ⟨k, hk⟩ h
    have hsome := hendless (hcycle h) k
    rw [hk] at hsome
    cases hsome
  · exact (r.withLimit limit).redirects_le_of_not_isCutOff p h

end

end Resolver

/-! ## Two pages that redirect to each other -/

def leftPath : RoutePath := ⟨["left"], by decide⟩

def rightPath : RoutePath := ⟨["right"], by decide⟩

/-- Under the root, `left` redirects to `right` and `right` to `left`. -/
def seesaw : Resolver Unit Unit where
  sitemap := some
    { root :=
        { tree := .node {}
            [("left", .node { target := some (.redirect rightPath) } []),
             ("right", .node { target := some (.redirect leftPath) } [])]
          distinct := by simp [Tree.Distinct, Tree.DistinctAll] }
      faultless := by rfl }
  defaultFallback := ()
  maxRedirects := 2

/-- The limit of the seesaw is the number of its redirecting nodes, and no limit is enough. -/
theorem seesaw_isCutOff :
    seesaw.redirectPlaces.length ≤ seesaw.maxRedirects ∧
      ∀ limit, ((seesaw.withLimit limit).resolve leftPath).IsCutOff := by
  have hle : seesaw.redirectPlaces.length ≤ seesaw.maxRedirects := by decide
  have hcut : (seesaw.resolve leftPath).IsCutOff :=
    (seesaw.isCutOff_resolve_iff leftPath).2 (by decide +kernel)
  exact ⟨hle, (Resolver.isCutOff_iff_cycle seesaw leftPath hle).1.1 hcut⟩

end Wayfinder
