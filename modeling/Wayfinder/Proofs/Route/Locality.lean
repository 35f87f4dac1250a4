import Mathlib.Data.List.Basic
import Wayfinder.Proofs.Keyed
import Wayfinder.Proofs.Route.Redirects

/-!
# What a resolution looks at

A resolution looks at the slots of the nodes that its walks visit, and at nothing else.  So two
sitemaps that agree at the places visited in one resolve the path alike, and whatever is done to the
children of a node, as long as the visited ones stay, goes unnoticed:

    (∀ names, r.Visits p names → (r.withSitemap s).slotsAt? names = r.slotsAt? names) →
      (r.withSitemap s).resolve p = r.resolve p                              (resolve_congr)

The proof runs both resolutions side by side: walks that see the same slots end at the same depth
(`depth_congr`) with the same result (`walk_congr`), so the two chains of redirects stay together
(`chain?_congr`).
-/

namespace Wayfinder

variable {H F : Type}

/-! ## Definitions -/

namespace Tree

/-- The slots of the node that a list of names leads to. -/
def slotsAt? (t : Tree H F) (names : List String) : Option (Slots H F) :=
  (t.descend names).map (·.slots)

/-- The tree with other children below the node that a list of names leads to. -/
def editChildren (g : Keyed (Tree H F) → Keyed (Tree H F)) : List String → Tree H F → Tree H F
  | [], .node s cs => .node s (g cs)
  | name :: names, .node s cs =>
    .node s (cs.map fun (k, t) => (k, if k = name then t.editChildren g names else t))

end Tree

namespace Resolver

/-- The resolver over another sitemap. -/
def withSitemap (r : Resolver H F) (s : Option (Sitemap H F)) : Resolver H F :=
  { r with sitemap := s }

/-- The slots of the node that a list of names leads to. -/
def slotsAt? (r : Resolver H F) (names : List String) : Option (Slots H F) :=
  r.sitemap.bind (·.root.tree.slotsAt? names)

/-- Some walk on the way to the resolution of `p` comes to the node that `names` lead to, or finds
that there is none. -/
def Visits (r : Resolver H F) (p : RoutePath) (names : List String) : Prop :=
  ∃ i ≤ r.maxRedirects, ∃ q, r.chain? p i = some q ∧ ∃ d ≤ r.depth q, names = q.segments.take d

end Resolver

/-! ## Two walks -/

namespace Resolver

section
variable (r r' : Resolver H F) (q : RoutePath) (d : Nat)

theorem slotsAt?_take : r.slotsAt? (q.segments.take d) = (r.node? q d).map (·.slots) := by
  unfold slotsAt? node? Sitemap.node? Tree.slotsAt?
  cases r.sitemap <;> rfl

/-- Where two resolvers agree on a part of the slots, both have a node there or neither has. -/
theorem nodes_of_agree {α : Type} (part : Slots H F → α)
    (h : (r.slotsAt? (q.segments.take d)).map part =
      (r'.slotsAt? (q.segments.take d)).map part) :
    r.node? q d = none ∧ r'.node? q d = none ∨
      ∃ t t', r.node? q d = some t ∧ r'.node? q d = some t' ∧ part t.slots = part t'.slots := by
  rw [slotsAt?_take, slotsAt?_take] at h
  cases ht : r.node? q d <;> cases ht' : r'.node? q d <;> simp [ht, ht'] at h ⊢
  exact h

/-- Whether a walk ends at a node hangs on the node's terminal slot alone. -/
theorem endsAt_congr
    (h : (r.slotsAt? (q.segments.take d)).map Slots.terminal =
      (r'.slotsAt? (q.segments.take d)).map Slots.terminal) : r.EndsAt q d ↔ r'.EndsAt q d := by
  unfold EndsAt
  rcases r.nodes_of_agree r' q d Slots.terminal h with ⟨ht, ht'⟩ | ⟨t, t', ht, ht', hterm⟩
  · rw [ht, ht']
  · simp [ht, ht', hterm]

theorem depth_congr
    (h : ∀ d ≤ r.depth q, (r.slotsAt? (q.segments.take d)).map Slots.terminal =
      (r'.slotsAt? (q.segments.take d)).map Slots.terminal) : r'.depth q = r.depth q := by
  have hle : r'.depth q ≤ r.depth q :=
    r'.depth_le_of_endsAt q _ ((r.endsAt_congr r' q _ (h _ (Nat.le_refl _))).1 (r.endsAt_depth q))
  refine Nat.le_antisymm hle (r.depth_le_of_endsAt q _ ?_)
  exact (r.endsAt_congr r' q _ (h _ hle)).2 (r'.endsAt_depth q)

theorem entriesAt_congr
    (h : r.slotsAt? (q.segments.take d) = r'.slotsAt? (q.segments.take d)) :
    r'.entriesAt q d = r.entriesAt q d := by
  unfold entriesAt
  rcases r.nodes_of_agree r' q d id (congrArg _ h) with ⟨ht, ht'⟩ | ⟨t, t', ht, ht', hslots⟩
  · rw [ht, ht']
  · simp only [ht, ht', show t.slots = t'.slots from hslots]

theorem fallbackBelow_congr (hf : r'.defaultFallback = r.defaultFallback)
    (h : ∀ e < d, (r.slotsAt? (q.segments.take e)).map Slots.notFound =
      (r'.slotsAt? (q.segments.take e)).map Slots.notFound) :
    r'.fallbackBelow q d = r.fallbackBelow q d := by
  induction d with
  | zero => exact hf
  | succ d ih =>
    unfold fallbackBelow
    rw [ih fun e he => h e (Nat.lt_succ_of_lt he)]
    rcases r.nodes_of_agree r' q d Slots.notFound (h d (Nat.lt_succ_self d)) with
      ⟨ht, ht'⟩ | ⟨t, t', ht, ht', hfall⟩
    · rw [ht, ht']
    · simp only [ht, ht', Option.bind_some, hfall]

variable (h : ∀ d ≤ r.depth q, r.slotsAt? (q.segments.take d) = r'.slotsAt? (q.segments.take d))

include h

theorem depth_eq_of_agree : r'.depth q = r.depth q :=
  r.depth_congr r' q fun d hd => congrArg (Option.map Slots.terminal) (h d hd)

theorem misses_congr : r'.misses q = r.misses q := by
  unfold misses
  rw [r.depth_eq_of_agree r' q h]
  rcases r.nodes_of_agree r' q _ id (congrArg _ (h _ (Nat.le_refl _))) with
    ⟨ht, ht'⟩ | ⟨t, t', ht, ht', hslots⟩
  · rw [ht, ht']
  · simp only [ht, ht', show t.slots = t'.slots from hslots]

theorem expectedQueue_congr : r'.expectedQueue q = r.expectedQueue q := by
  unfold expectedQueue
  rw [r.misses_congr r' q h, r.depth_eq_of_agree r' q h]
  congr 1
  refine List.flatMap_congr fun d hd => r.entriesAt_congr r' q d (h d ?_)
  exact Nat.le_of_lt_succ (List.mem_range.1 hd)

theorem redirectsTo_of_agree (dest : RoutePath) (hto : r.RedirectsTo q dest) :
    r'.RedirectsTo q dest := by
  obtain ⟨hd, t, ht, hs⟩ := hto
  rcases r.nodes_of_agree r' q _ id (congrArg _ (h _ (Nat.le_of_eq hd.symm))) with
    ⟨hnone, -⟩ | ⟨t₀, t', ht₀, ht', hslots⟩
  · rw [ht] at hnone
    cases hnone
  · rw [ht] at ht₀
    cases ht₀
    exact ⟨(r.depth_eq_of_agree r' q h).trans hd, t', ht',
      (show t.slots = t'.slots from hslots) ▸ hs⟩

/-- Walks that see the same slots yield the same. -/
theorem walk_congr (hf : r'.defaultFallback = r.defaultFallback) : r'.walk q = r.walk q := by
  have hdepth := r.depth_eq_of_agree r' q h
  have hnearest : r'.nearestFallback q = r.nearestFallback q := by
    unfold nearestFallback
    rw [hdepth]
    refine r.fallbackBelow_congr r' q _ hf fun d hd => ?_
    exact congrArg (Option.map Slots.notFound) (h d (Nat.le_of_lt_succ hd))
  -- agreement holds the other way round as well
  have h' : ∀ d ≤ r'.depth q,
      r'.slotsAt? (q.segments.take d) = r.slotsAt? (q.segments.take d) :=
    fun d hd => (h d (hdepth ▸ hd)).symm
  rcases r.walk_eq q with ⟨dest, hto, hw⟩ | ⟨hto, hw⟩ <;> rw [hw]
  · exact (r'.walk_eq_redirect_iff q dest _).2
      ⟨r.redirectsTo_of_agree r' q h dest hto, hnearest.symm⟩
  · exact (r'.walk_eq_done_iff q _ _).2
      ⟨fun dest hto' => hto dest (r'.redirectsTo_of_agree r q h' dest hto'),
        (r.expectedQueue_congr r' q h).symm, hnearest.symm⟩

end

/-! ## Two chains -/

section
variable (r r' : Resolver H F) (p : RoutePath) (hf : r'.defaultFallback = r.defaultFallback)
  (hl : r'.maxRedirects = r.maxRedirects)
  (h : ∀ names, r.Visits p names → r.slotsAt? names = r'.slotsAt? names)

include hf h

theorem walk_chain?_congr (i : Nat) (hi : i ≤ r.maxRedirects) (q : RoutePath)
    (hc : r.chain? p i = some q) : r'.walk q = r.walk q :=
  r.walk_congr r' q (fun d hd => h _ ⟨i, hi, q, hc, d, hd, rfl⟩) hf

theorem chain?_congr (i : Nat) (hi : i ≤ r.maxRedirects) : r'.chain? p i = r.chain? p i := by
  induction i with
  | zero => rfl
  | succ i ih =>
    rw [chain?, chain?, ih (Nat.le_of_succ_le hi)]
    cases hc : r.chain? p i with
    | none => rfl
    | some q =>
      show (r'.walk q).dest? = (r.walk q).dest?
      rw [r.walk_chain?_congr r' p hf h i (Nat.le_of_succ_le hi) q hc]

include hl

theorem resolve_congr : r'.resolve p = r.resolve p := by
  rcases r.resolve_cases p with ⟨k, hk, q, queue, f, hc, hw, he⟩ | ⟨q, dest, f, hc, hw, he⟩
  · rw [he]
    refine r'.resolve_of_done p k (hl ▸ hk) q ?_ queue f ?_
    · rw [r.chain?_congr r' p hf h k hk, hc]
    · rw [r.walk_chain?_congr r' p hf h k hk q hc, hw]
  · have hle := Nat.le_refl r.maxRedirects
    rw [he, ← hl]
    refine r'.resolve_of_redirect p q dest ?_ f ?_
    · rw [hl, r.chain?_congr r' p hf h _ hle, hc]
    · rw [r.walk_chain?_congr r' p hf h _ hle q hc, hw]

end

end Resolver

/-! ## Edits that go unnoticed -/

namespace Tree

variable (g : Keyed (Tree H F) → Keyed (Tree H F)) (a m : String) (place names : List String)
  (t : Tree H F)

theorem slots_editChildren : (t.editChildren g place).slots = t.slots := by
  cases t
  cases place <;> rfl

theorem children_editChildren_nil : (t.editChildren g []).children = g t.children := by
  cases t
  rfl

theorem child?_editChildren_cons :
    (t.editChildren g (a :: place)).child? m =
      (t.child? m).map fun c => if m = a then c.editChildren g place else c := by
  cases t with
  | node s cs =>
    exact Keyed.find?_map_value
      (fun k (c : Tree H F) => if k = a then c.editChildren g place else c) cs m

theorem slotsAt?_cons (below : List String) :
    t.slotsAt? (m :: below) = (t.child? m).bind (·.slotsAt? below) := by
  unfold slotsAt?
  rw [descend, Option.map_bind]
  rfl

/-- An edit below a node is seen only at the children for which another tree is found. -/
theorem slotsAt?_editChildren
    (h : ∀ c m below, t.descend place = some c → names = place ++ m :: below →
      (g c.children).find? m = c.children.find? m) :
    (t.editChildren g place).slotsAt? names = t.slotsAt? names := by
  cases names with
  | nil => exact congrArg some (slots_editChildren g place t)
  | cons m below =>
    rw [slotsAt?_cons, slotsAt?_cons]
    induction place generalizing t m below with
    | nil =>
      have hm : (t.editChildren g []).child? m = t.child? m := by
        rw [child?, children_editChildren_nil]
        exact h t m below rfl rfl
      rw [hm]
    | cons a place ih =>
      rw [child?_editChildren_cons]
      cases hc : t.child? m with
      | none => rfl
      | some c =>
        rw [Option.map_some, Option.bind_some, Option.bind_some]
        split
        · next hm =>
          -- the way to the edited node goes through `c`
          have hbelow : ∀ c' m' below', c.descend place = some c' →
              below = place ++ m' :: below' →
              (g c'.children).find? m' = c'.children.find? m' := by
            intro c' m' below' hc' hb
            refine h c' m' below' ?_ (by rw [hb, hm]; rfl)
            rw [descend, ← hm, hc, Option.bind_some, hc']
          cases below with
          | nil => exact congrArg some (slots_editChildren g place c)
          | cons m' below =>
            rw [slotsAt?_cons, slotsAt?_cons]
            exact ih c m' below hbelow
        · rfl

end Tree

namespace Resolver

variable (r : Resolver H F) (p : RoutePath)

/-- The way to a visited place is visited. -/
theorem visits_of_append (names below : List String) (h : r.Visits p (names ++ below)) :
    r.Visits p names := by
  obtain ⟨i, hi, q, hc, d, hd, hq⟩ := h
  refine ⟨i, hi, q, hc, min names.length d, by omega, ?_⟩
  rw [← List.take_take, ← hq, List.take_left]

/-- **Locality.**  A sitemap that agrees at the visited places resolves the path in the same way; in
particular one whose nodes have other children, as long as none of them is visited. -/
theorem resolve_local :
    (∀ s, (∀ names, r.Visits p names → (r.withSitemap s).slotsAt? names = r.slotsAt? names) →
      (r.withSitemap s).resolve p = r.resolve p) ∧
    ∀ s s' place g, r.sitemap = some s → s'.root.tree = s.root.tree.editChildren g place →
      (∀ c m, s.root.tree.descend place = some c → r.Visits p (place ++ [m]) →
        (g c.children).find? m = c.children.find? m) →
      (r.withSitemap (some s')).resolve p = r.resolve p := by
  have hagree : ∀ s, (∀ names, r.Visits p names →
      (r.withSitemap s).slotsAt? names = r.slotsAt? names) →
      (r.withSitemap s).resolve p = r.resolve p := fun s h =>
    r.resolve_congr (r.withSitemap s) p rfl rfl fun names hv => (h names hv).symm
  refine ⟨hagree, fun s s' place g hs hedit hg => hagree _ fun names hv => ?_⟩
  unfold slotsAt? withSitemap
  rw [hs, Option.bind_some, Option.bind_some, hedit]
  refine s.root.tree.slotsAt?_editChildren g place names fun c m below hc hnames => hg c m hc ?_
  refine r.visits_of_append p (place ++ [m]) below ?_
  rw [List.append_assoc]
  exact hnames ▸ hv

end Resolver

/-! ## A page below a terminal node -/

def memoPath : RoutePath := ⟨["memo"], by decide⟩

def draftPath : RoutePath := ⟨["desk", "draft"], by decide⟩

/-- Under the root, `memo` redirects to `desk/draft`, and `desk` is terminal. -/
def deskMap : Sitemap Nat Nat where
  root :=
    { tree := .node { notFound := some 0 }
        [("memo", .node { target := some (.redirect draftPath) } []),
         ("desk", .node { terminal := some 1 } [("draft", .node { wildcard := some 2 } [])])]
      distinct := by simp [Tree.Distinct, Tree.DistinctAll] }
  faultless := by rfl

/-- The same in another order, with a page more and one less. -/
def newsMap : Sitemap Nat Nat where
  root :=
    { tree := .node { notFound := some 0 }
        [("desk", .node { terminal := some 1 } []), ("news", .node { wildcard := some 3 } []),
         ("memo", .node { target := some (.redirect draftPath) } [])]
      distinct := by simp [Tree.Distinct, Tree.DistinctAll] }
  faultless := by rfl

/-- The same without the page below `desk`. -/
def clearedMap : Sitemap Nat Nat where
  root :=
    { tree := deskMap.root.tree.editChildren (Keyed.erase "draft") ["desk"]
      distinct := by
        simp [Tree.Distinct, Tree.DistinctAll, deskMap, Tree.editChildren, Keyed.erase] }
  faultless := by rfl

def desk : Resolver Nat Nat := ⟨some deskMap, 9, 1⟩

theorem desk_visits (names : List String) (h : desk.Visits memoPath names) :
    names = [] ∨ names = ["memo"] ∨ names = ["desk"] := by
  obtain ⟨i, hi, q, hc, d, hd, rfl⟩ := h
  have hend : ∀ q ∈ [memoPath, draftPath], desk.EndsAt q 1 := by decide +kernel
  have hq : q = memoPath ∨ q = draftPath := by
    obtain rfl | rfl : i = 0 ∨ i = 1 := Nat.le_one_iff_eq_zero_or_eq_one.1 hi
    · cases hc
      exact Or.inl rfl
    · have hone : desk.chain? memoPath 1 = some draftPath := by decide +kernel
      rw [hone] at hc
      cases hc
      exact Or.inr rfl
  have hd' : d ≤ 1 := Nat.le_trans hd (desk.depth_le_of_endsAt q 1 (hend q (by simpa using hq)))
  obtain rfl | rfl : d = 0 ∨ d = 1 := Nat.le_one_iff_eq_zero_or_eq_one.1 hd'
  · exact Or.inl rfl
  · rcases hq with rfl | rfl
    · exact Or.inr (Or.inl rfl)
    · exact Or.inr (Or.inr rfl)

/-- The page below `desk` is not visited, nor are other pages below the root. -/
theorem desk_resolve_other :
    (∀ names, desk.Visits memoPath names →
      (desk.withSitemap (some newsMap)).slotsAt? names = desk.slotsAt? names) ∧
    (desk.withSitemap (some newsMap)).resolve memoPath = desk.resolve memoPath ∧
    (∀ c m, deskMap.root.tree.descend ["desk"] = some c → desk.Visits memoPath (["desk"] ++ [m]) →
      (Keyed.erase "draft" c.children).find? m = c.children.find? m) ∧
    (desk.withSitemap (some clearedMap)).resolve memoPath = desk.resolve memoPath := by
  have hagree : ∀ names, desk.Visits memoPath names →
      (desk.withSitemap (some newsMap)).slotsAt? names = desk.slotsAt? names := by
    intro names hv
    rcases desk_visits names hv with rfl | rfl | rfl <;> rfl
  have hbelow : ∀ c m, deskMap.root.tree.descend ["desk"] = some c →
      desk.Visits memoPath (["desk"] ++ [m]) →
      (Keyed.erase "draft" c.children).find? m = c.children.find? m := by
    intro c m _ hv
    rcases desk_visits _ hv with h | h | h <;> simp at h
  exact ⟨hagree, (Resolver.resolve_local desk memoPath).1 (some newsMap) hagree, hbelow,
    (Resolver.resolve_local desk memoPath).2 deskMap clearedMap ["desk"] (Keyed.erase "draft")
      rfl rfl hbelow⟩

end Wayfinder
