import Wayfinder.Proofs.Route.Queue

/-!
# The addresses of nodes

The names that lead from the root of a sitemap to a node are the segments of a path, since validation
lets through no name that reading would split or drop.  So a node is found under its names however
they are spelled, and under no others:

    Spells names text → s.root.tree.Leads names t → (parse text).segments = names
                                                                         (segments_parse_of_leads)
    s.node? p = some t ↔ s.root.tree.Leads p.segments t                  (node?_eq_some_iff)

A walk that no terminal handler stops comes to the node to which its path leads, `walk_eq_walkFrom`,
and what it finds there depends on the node's own slots.
-/

namespace Wayfinder

variable {H F : Type}

namespace Tree

/-- No node that is passed through on the way of the names has a terminal handler. -/
def OpenAlong (t : Tree H F) (names : List String) : Prop :=
  ∀ above below a, above ++ below = names → below ≠ [] → t.Leads above a → a.slots.terminal = none

/-! ## Names that lead to a node -/

theorem leads_append_iff (t t' : Tree H F) (above below : List String) :
    t.Leads (above ++ below) t' ↔ ∃ a, t.Leads above a ∧ a.Leads below t' := by
  constructor
  · intro h
    induction above generalizing t with
    | nil => exact ⟨t, .here t, h⟩
    | cons name above ih =>
      cases h with
      | child hc h =>
        obtain ⟨a, habove, hbelow⟩ := ih _ h
        exact ⟨a, .child hc habove, hbelow⟩
  · rintro ⟨a, habove, hbelow⟩
    induction habove with
    | here => exact hbelow
    | child hc _ ih => exact .child hc (ih hbelow)

/-- Where names are distinct, the node to which they lead is the one found under them. -/
theorem descend_eq_some_iff (t t' : Tree H F) (ht : t.Distinct) (names : List String) :
    t.descend names = some t' ↔ t.Leads names t' := by
  constructor
  · exact t.leads_of_descend t' names
  · intro h
    induction h with
    | here => rfl
    | @child s cs name c t' names hc _ ih =>
      rw [Distinct, distinctAll_iff] at ht
      have hchild : (node s cs).child? name = some c := Keyed.find?_of_mem ht.1 hc
      rw [descend, hchild, Option.bind_some]
      exact ih (ht.2 _ hc)

/-- Below nodes in order only names that children may have lead on. -/
theorem isChildName_of_leads {t t' : Tree H F} {names : List String} (h : t.Leads names t')
    (ht : ∀ above a, t.Leads above a → a.InOrder) : ∀ name ∈ names, IsChildName name := by
  induction h with
  | here => exact nofun
  | @child s cs name c t' names hc _ ih =>
    intro n hn
    rcases List.mem_cons.1 hn with rfl | hn
    · exact (ht [] _ (.here _)).names _ hc
    · exact ih (fun above a ha => ht (name :: above) a (.child hc ha)) n hn

theorem openAlong_nil (t : Tree H F) : t.OpenAlong [] := by
  intro above below a hnames hbelow
  exact absurd (List.append_eq_nil_iff.1 hnames).2 hbelow

/-- The way is open along names if it is so at the root and, below it, along the names that follow. -/
theorem openAlong_cons_iff (s : Slots H F) (cs : List (String × Tree H F)) (name : String)
    (names : List String) :
    (node s cs).OpenAlong (name :: names) ↔
      s.terminal = none ∧ ∀ c, (name, c) ∈ cs → c.OpenAlong names := by
  constructor
  · intro h
    refine ⟨h [] _ _ rfl (List.cons_ne_nil _ _) (.here _), fun c hc => ?_⟩
    rintro above below a rfl hbelow ha
    exact h (name :: above) below a rfl hbelow (.child hc ha)
  · rintro ⟨hroot, hchildren⟩ above below a hnames hbelow ha
    cases ha with
    | here => exact hroot
    | child hc ha =>
      obtain ⟨rfl, hrest⟩ := List.cons.inj hnames
      exact hchildren _ hc _ below a hrest hbelow ha

end Tree

namespace Sitemap

variable (s : Sitemap H F) {names : List String} {t : Tree H F}

theorem node?_eq_some_iff (p : RoutePath) (t : Tree H F) :
    s.node? p = some t ↔ s.root.tree.Leads p.segments t :=
  s.root.tree.descend_eq_some_iff t s.root.distinct p.segments

theorem node?_eq_none_iff (p : RoutePath) :
    s.node? p = none ↔ ∀ t, ¬ s.root.tree.Leads p.segments t := by
  rw [Option.eq_none_iff_forall_ne_some]
  exact forall_congr' fun t => not_congr (s.node?_eq_some_iff p t)

/-- A path can hold all names that lead to a node. -/
theorem isSegment_of_leads (h : s.root.tree.Leads names t) : ∀ name ∈ names, IsSegment name := by
  have horder := (s.root.tree.fault?_eq_none_iff .root).1 s.faultless
  intro name hname
  exact (Tree.isChildName_of_leads h horder name hname).isSegment

/-- Names that lead to a node are read from each of their spellings. -/
theorem segments_parse_of_leads (h : s.root.tree.Leads names t) {text : String}
    (htext : Spells names text) : (RoutePath.parse text).segments = names :=
  (RoutePath.segments_parse_eq_iff text names).2 ⟨htext, s.isSegment_of_leads h⟩

end Sitemap

namespace Resolver

/-! ## The walk to a node -/

variable (r : Resolver H F) (p : RoutePath)

section
variable {s : Sitemap H F} {t : Tree H F} (hs : r.sitemap = some s)
  (hp : s.root.tree.Leads p.segments t)

include hs hp

theorem node?_length : r.node? p p.length = some t := by
  unfold node?
  rw [hs, Option.bind_some, s.node?_eq_some_iff, RoutePath.segments_take, RoutePath.length,
    List.take_length]
  exact hp

/-- There is a node at every depth of a path that leads to one. -/
theorem exists_node?_of_leads (d : Nat) :
    ∃ a, r.node? p d = some a ∧ s.root.tree.Leads (p.segments.take d) a := by
  rw [← List.take_append_drop d p.segments, Tree.leads_append_iff] at hp
  obtain ⟨a, habove, -⟩ := hp
  refine ⟨a, ?_, habove⟩
  unfold node?
  rw [hs, Option.bind_some, s.node?_eq_some_iff]
  exact habove

variable (hopen : s.root.tree.OpenAlong p.segments)

include hopen

theorem depth_eq_length : r.depth p = p.length := by
  obtain ⟨a, hnode, ha⟩ := r.exists_node?_of_leads p hs hp (r.depth p)
  rcases r.endsAt_depth p with hend | hnone | ⟨hlt, hterm⟩
  · exact hend
  · simp [hnode] at hnone
  · have hbelow : p.segments.drop (r.depth p) ≠ [] := by
      rw [ne_eq, List.drop_eq_nil_iff, Nat.not_le]
      exact hlt
    have hclosed := hopen _ _ a (List.take_append_drop (r.depth p) p.segments) hbelow ha
    simp [hnode, hclosed] at hterm

/-- The walk comes to the node with nothing left of its path. -/
theorem walk_eq_walkFrom : ∃ f queue, r.walk p = walkFrom p f queue p.length [] (some t) := by
  have hdepth := r.depth_eq_length p hs hp hopen
  have hrest : p.segments.drop p.length = [] := List.drop_eq_nil_of_le (Nat.le_refl _)
  refine ⟨r.fallbackBelow p p.length, (List.range p.length).flatMap (r.entriesAt p), ?_⟩
  rw [r.walk_eq_walkAt_of_le p p.length (Nat.le_of_eq hdepth.symm), walkAt, hrest,
    r.node?_length p hs hp]

theorem redirectsTo_iff (dest : RoutePath) :
    r.RedirectsTo p dest ↔ t.slots.target = some (.redirect dest) := by
  have hdepth := r.depth_eq_length p hs hp hopen
  have hnode := r.node?_length p hs hp
  constructor
  · rintro ⟨-, t', ht', hdest⟩
    rw [hnode] at ht'
    cases ht'
    exact hdest
  · intro hdest
    exact ⟨hdepth, t, hnode, hdest⟩

/-- A path that leads to a node without a redirect resolves there, at once. -/
theorem resolve_of_leads (hdest : ∀ dest, t.slots.target ≠ some (.redirect dest)) :
    r.resolve p = ⟨r.expectedQueue p, r.nearestFallback p, p, 0⟩ ∧
      ((r.resolve p).isMiss = false ↔ t.slots.isPage) := by
  have hdepth := r.depth_eq_length p hs hp hopen
  have hwalk : r.walk p = .done (r.expectedQueue p) (r.nearestFallback p) := by
    rw [walk_eq_done_iff]
    refine ⟨fun dest => ?_, rfl, rfl⟩
    rw [r.redirectsTo_iff p hs hp hopen]
    exact hdest dest
  have hresolve := r.resolve_of_done p 0 (Nat.zero_le _) p rfl _ _ hwalk
  refine ⟨hresolve, ?_⟩
  have hmisses : r.misses p = !t.slots.isPage := by
    rw [r.misses_of_node p t (hdepth ▸ r.node?_length p hs hp), hdepth, decide_eq_true rfl,
      Bool.true_and]
  rw [hresolve, Resolution.isMiss, r.isMiss_getLast?_expectedQueue, hmisses, Bool.not_eq_false']

end

end Resolver

/-- Without a redirect, a node is a page because of a handler. -/
theorem Slots.isPage_iff (s : Slots H F) (hs : ∀ dest, s.target ≠ some (.redirect dest)) :
    s.isPage ↔ s.wildcard.isSome ∨ ∃ h, s.target = some (.handler h) := by
  unfold isPage hasTarget
  rcases htarget : s.target with _ | (h | dest)
  · simp
  · simp
  · exact absurd htarget (hs dest)

/-! ## All nodes -/

namespace Sitemap

theorem root_of_ofNode {root : SitemapNode H F} {s : Sitemap H F} (hs : ofNode root = .ok s) :
    s.root = root := by
  rcases ofNode_of_fault? root with ⟨⟨h, hok⟩, -⟩ | ⟨e, herror, -⟩
  · rw [hok] at hs
    cases hs
    rfl
  · rw [herror] at hs
    cases hs

/-- **Every node has its address.**  In a tree that validation accepts, the names that lead to a node
are read from each of their spellings, and the node is found there.  A walk that no terminal handler
above the node stops ends at it: with the node's redirect, or with a miss unless the node has a
handler for the paths that end there.  Two nodes never share a URL, and nothing is found under a path
that leads to no node. -/
theorem nodes_addressable (root : SitemapNode H F) (s : Sitemap H F) (hs : ofNode root = .ok s) :
    (∀ names t, root.tree.Leads names t →
      Spells names ("/".intercalate names) ∧
      (∀ text, Spells names text →
        (RoutePath.parse text).segments = names ∧ s.node? (.parse text) = some t) ∧
      ∀ (r : Resolver H F) (p : RoutePath), r.sitemap = some s → p.segments = names →
        root.tree.OpenAlong names →
        (∃ f queue, r.walk p = walkFrom p f queue p.length [] (some t)) ∧
        (∀ dest, (∃ f, r.walk p = .redirect dest f) ↔ t.slots.target = some (.redirect dest)) ∧
        ((∀ dest, t.slots.target ≠ some (.redirect dest)) →
          (r.resolve p).path = p ∧ (r.resolve p).redirects = 0 ∧
          ((r.resolve p).isMiss = false ↔
            t.slots.wildcard.isSome ∨ ∃ h, t.slots.target = some (.handler h)))) ∧
    (∀ names names' t t' text text', root.tree.Leads names t → root.tree.Leads names' t' →
      Spells names text → Spells names' text' →
      (RoutePath.parse text).toUrl = (RoutePath.parse text').toUrl → names = names' ∧ t = t') ∧
    ∀ p, s.node? p = none ↔ ∀ t, ¬ root.tree.Leads p.segments t := by
  obtain rfl := root_of_ofNode hs
  refine ⟨?node, ?apart, s.node?_eq_none_iff⟩
  case node =>
    intro names t ht
    refine ⟨spells_intercalate names, fun text htext => ?_, ?_⟩
    · have hread := s.segments_parse_of_leads ht htext
      refine ⟨hread, (s.node?_eq_some_iff _ t).2 ?_⟩
      rw [hread]
      exact ht
    · rintro r p hr rfl hopen
      refine ⟨r.walk_eq_walkFrom p hr ht hopen, fun dest => ?_, fun hdest => ?_⟩
      · rw [← r.redirectsTo_iff p hr ht hopen dest]
        simp only [r.walk_eq_redirect_iff, exists_and_left, exists_eq, and_true]
      · obtain ⟨hresolve, hmiss⟩ := r.resolve_of_leads p hr ht hopen hdest
        refine ⟨by rw [hresolve], by rw [hresolve], ?_⟩
        rw [hmiss, t.slots.isPage_iff hdest]
  case apart =>
    intro names names' t t' text text' ht ht' htext htext' hurl
    have hparse : RoutePath.parse text = RoutePath.parse text' := by
      rw [← RoutePath.parse_toUrl (.parse text), hurl, RoutePath.parse_toUrl]
    have hnames : names = names' := by
      rw [← s.segments_parse_of_leads ht htext, ← s.segments_parse_of_leads ht' htext', hparse]
    subst hnames
    refine ⟨rfl, Option.some.inj ?_⟩
    rw [← (s.root.tree.descend_eq_some_iff t s.root.distinct names).2 ht,
      ← (s.root.tree.descend_eq_some_iff t' s.root.distinct names).2 ht']

end Sitemap

/-- A gallery with a blue room, and an old way to it. -/
def gallery : Sitemap Unit Unit where
  root := .ofClauses [.child "rooms" (.ofClauses [.intermediate (), .child "blue" (.ofClauses
    [.target ()])]), .child "azure" (.ofClauses [.redirect (.parse "rooms/blue")])]
  faultless := by rfl

/-- Under more separators than needed the room is still found. -/
theorem gallery_addressable :
    Sitemap.ofNode gallery.root = .ok gallery ∧
    (gallery.node? (.parse "//rooms/blue/")).isSome ∧
    ((⟨some gallery, (), 16⟩ : Resolver Unit Unit).resolve (.parse "//rooms/blue/")).isMiss =
      false := by
  have haccept : Sitemap.ofNode gallery.root = .ok gallery := rfl
  have hspells : Spells ["rooms", "blue"] "//rooms/blue/" :=
    .separator (.separator (.segment "rooms" (.segment "blue" .empty)))
  have htree : gallery.root.tree = .node {} [("rooms", .node { intermediate := some () }
      [("blue", .node { target := some (.handler ()) } [])]),
    ("azure", .node { target := some (.redirect (.parse "rooms/blue")) } [])] := rfl
  have hleads : gallery.root.tree.Leads ["rooms", "blue"]
      (.node { target := some (.handler ()) } []) := by
    rw [htree]
    exact .child List.mem_cons_self (.child List.mem_cons_self (.here _))
  have hopen : gallery.root.tree.OpenAlong ["rooms", "blue"] := by
    rw [htree]
    simp [Tree.openAlong_cons_iff, Tree.openAlong_nil]
  obtain ⟨hnode, -, -⟩ := Sitemap.nodes_addressable gallery.root gallery haccept
  obtain ⟨-, hfound, hwalks⟩ := hnode _ _ hleads
  obtain ⟨hread, hfound⟩ := hfound _ hspells
  obtain ⟨-, -, hends⟩ := hwalks ⟨some gallery, (), 16⟩ (.parse "//rooms/blue/") rfl hread hopen
  obtain ⟨-, -, hmiss⟩ := hends (by simp [Tree.slots])
  exact ⟨haccept, by rw [hfound]; rfl, hmiss.2 (Or.inr ⟨(), rfl⟩)⟩

end Wayfinder
