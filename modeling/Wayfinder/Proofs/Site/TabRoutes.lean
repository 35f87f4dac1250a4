import Wayfinder.Proofs.Navigation.Recording
import Wayfinder.Proofs.Navigation.Replay
import Wayfinder.Proofs.Route.Addresses

/-!
# Where tabs lead

A sitemap gets one tab for each top-level page, and a click on a tab navigates to the path of its
name.  That path is for the tab, as names of children are segments:

    tab.isFor tab.route ↔ tab.name ≠ "" ∧ separator ∉ tab.name.toList           (isFor_route_iff)

What the navigation selects is the tab of the path that is shown in the end.  A terminal handler at
the root or a handler at the page itself sees to it that this is the tab that was clicked.
-/

namespace Wayfinder

variable {σ ω ι H F : Type}

/-! ## Definitions -/

/-- The routine leaves the tabs as they are, whether it succeeds or fails. -/
def Routine.LeavesTabs (r : Routine (Host ω) ι) : Prop :=
  ∀ input h, (r.run input h).2.tabs = h.tabs

/-- The path that a navigation has shown, also one whose fallback failed. -/
def finalPath : Except NavigateError Navigation → RoutePath
  | .ok nav => nav.path
  | .error e => e.path

namespace Navigator

/-- No handler and no fallback that the navigator calls touches the tabs. -/
structure LeavesTabs (n : Navigator ω) : Prop where
  handlers : ∀ s path t directive handler, n.resolver.sitemap = some s → s.node? path = some t →
    t.slots.handler? directive = some handler → handler.LeavesTabs
  fallbacks : ∀ s path t f, n.resolver.sitemap = some s → s.node? path = some t →
    t.slots.notFound = some f → f.LeavesTabs
  default : n.resolver.defaultFallback.LeavesTabs

/-- A navigation to `path` shows `shown` and selects its tab, if there is one, and no other: this is
so on the host `ready`, on which the first handler is called, and if no handler and no fallback
touches the tabs it stays so. -/
structure Highlights (n : Navigator ω) (h : Host ω) (path shown : RoutePath) (ready : Host ω) :
    Prop where
  shown_eq : finalPath (n.navigate path h).1 = shown
  opening : n.Performs h (n.opening shown true) ready
  calls : ∃ calls, (∀ e ∈ calls, e.1.IsCallOf (n.resolver.resolve path)) ∧
    n.Performs ready calls (n.navigate path h).2
  names_eq : ready.tabs.tabs.map (·.name) = h.tabs.tabs.map (·.name)
  selected_iff : ∀ tab ∈ ready.tabs.tabs, tab.selected = true ↔ shown.head? = some tab.name
  tabs_eq : n.LeavesTabs → (n.navigate path h).2.tabs = ready.tabs

end Navigator

/-! ## The route of a tab -/

namespace Tab

/-- A name that a path can hold is the whole route. -/
theorem segments_route (tab : Tab) (h : IsSegment tab.name) : tab.route.segments = [tab.name] := by
  rw [route, RoutePath.segments_ofSegments, List.flatMap_singleton, segmentsOf_of_isSegment _ h]

/-- The route of a tab is for the tab exactly if a path can hold its name. -/
theorem isFor_route_iff (tab : Tab) :
    tab.isFor tab.route = true ↔ tab.name ≠ "" ∧ separator ∉ tab.name.toList := by
  rw [isFor, decide_eq_true_iff]
  constructor
  · intro h
    exact tab.route.canonical _ (List.mem_of_head? h)
  · intro h
    rw [RoutePath.head?, tab.segments_route h, List.head?_singleton]

end Tab

/-! ## The tabs of a sitemap -/

namespace TabBar

section
variable (s : Sitemap H F)

theorem mem_names_ofSitemap (name : String) :
    name ∈ (ofSitemap s : TabBar σ).tabs.map (·.name) ↔
      ∃ t, s.root.tree.child? name = some t ∧ t.slots.target.isSome := by
  simp only [names_ofSitemap, List.mem_map, List.mem_filter, Prod.exists, exists_and_right,
    exists_eq_right]
  constructor
  · rintro ⟨t, hmem, htarget⟩
    exact ⟨t, Keyed.find?_of_mem s.root.nodup_childNames hmem, htarget⟩
  · rintro ⟨t, hchild, htarget⟩
    exact ⟨t, Keyed.mem_of_find? hchild, htarget⟩

/-- The name of a tab leads to its page. -/
theorem leads_of_mem_ofSitemap (tab : Tab) (h : tab ∈ (ofSitemap s : TabBar σ).tabs) :
    ∃ t, s.root.tree.child? tab.name = some t ∧ s.root.tree.Leads [tab.name] t := by
  obtain ⟨t, hchild, -⟩ := (mem_names_ofSitemap (σ := σ) s tab.name).1 (List.mem_map_of_mem h)
  refine ⟨t, hchild, ?_⟩
  have hmem := Keyed.mem_of_find? hchild
  cases htree : s.root.tree with
  | node slots children =>
    rw [htree] at hmem
    exact .child hmem (.here t)

theorem isSegment_of_mem_ofSitemap (tab : Tab) (h : tab ∈ (ofSitemap s : TabBar σ).tabs) :
    IsSegment tab.name := by
  obtain ⟨t, -, hleads⟩ := leads_of_mem_ofSitemap s tab h
  exact s.isSegment_of_leads hleads tab.name List.mem_cons_self

end

/-- Where names differ, a path that starts with the name of a tab selects this tab alone. -/
theorem filter_selected_after (tabs : List Tab) (path : RoutePath)
    (hnames : (tabs.map (·.name)).Nodup) (name : String) (hname : name ∈ tabs.map (·.name))
    (hpath : path.head? = some name) :
    (tabs.map (·.after path)).filter (·.selected) = [⟨name, true⟩] := by
  obtain ⟨tab, htab, rfl⟩ := List.mem_map.1 hname
  have hafter : tab.after path = ⟨tab.name, true⟩ := by
    rw [Tab.after, Tab.isFor, decide_eq_true hpath]
  have hmem : ⟨tab.name, true⟩ ∈ (tabs.map (·.after path)).filter (·.selected) := by
    rw [← hafter]
    exact List.mem_filter.2 ⟨List.mem_map_of_mem htab, by rw [hafter]⟩
  obtain ⟨only, honly⟩ := List.length_eq_one_iff.1
    (Nat.le_antisymm (length_filter_after tabs path hnames) (List.length_pos_of_mem hmem))
  rw [honly, List.mem_singleton] at hmem
  rw [honly, hmem]

end TabBar

/-! ## Where a route leads -/

namespace Resolver

section
variable (r : Resolver H F) (p : RoutePath) {s : Sitemap H F} (hs : r.sitemap = some s)

include hs

/-- A terminal handler at the root ends every walk there, but that of the root's own path. -/
theorem resolve_of_terminal_root (hroot : s.root.slots.terminal.isSome) (hp : 0 < p.length) :
    (r.resolve p).isMiss = false ∧ (r.resolve p).redirects = 0 ∧ (r.resolve p).path = p := by
  have hnode : r.node? p 0 = some s.root.tree := by
    rw [node?_zero, hs]
    rfl
  have hdepth : r.depth p = 0 := by
    refine Nat.le_zero.1 (r.depth_le_of_endsAt p 0 (Or.inr (Or.inr ⟨hp, ?_⟩)))
    rw [hnode]
    exact hroot
  have hwalk : r.walk p = .done (r.expectedQueue p) (r.nearestFallback p) := by
    refine (r.walk_eq_done_iff p _ _).2 ⟨?_, rfl, rfl⟩
    rintro dest ⟨hend, -⟩
    omega
  have hmisses : r.misses p = false := by
    rw [r.misses_of_node p s.root.tree (hdepth ▸ hnode), hdepth]
    simp [Nat.ne_of_lt hp]
  rw [r.resolve_of_done p 0 (Nat.zero_le _) p rfl _ _ hwalk]
  exact ⟨(r.isMiss_getLast?_expectedQueue p).trans hmisses, rfl, rfl⟩

/-- A path of one segment ends at the child of that name, if the root has no terminal handler. -/
theorem resolve_of_child {name : String} (hp : p.segments = [name]) {t : Tree H F}
    (ht : s.root.tree.Leads [name] t) {handler : H} (htarget : t.slots.target = some (.handler handler))
    (hroot : s.root.slots.terminal = none) :
    (r.resolve p).isMiss = false ∧ (r.resolve p).redirects = 0 ∧ (r.resolve p).path = p := by
  have hopen : s.root.tree.OpenAlong p.segments := by
    rw [hp]
    cases htree : s.root.tree with
    | node slots children =>
      rw [SitemapNode.slots, htree] at hroot
      exact (Tree.openAlong_cons_iff slots children name []).2
        ⟨hroot, fun c _ => c.openAlong_nil⟩
  obtain ⟨hresolve, hmiss⟩ := r.resolve_of_leads p hs (hp ▸ ht) hopen fun dest => by simp [htarget]
  refine ⟨hmiss.2 ?_, by rw [hresolve], by rw [hresolve]⟩
  simp [Slots.isPage, Slots.hasTarget, htarget]

end

end Resolver

/-! ## What a click selects -/

namespace Navigator

variable (n : Navigator ω)

theorem finalPath_navigate (path : RoutePath) (h : Host ω) :
    finalPath (n.navigate path h).1 = (n.resolver.resolve path).path := by
  rcases n.fst_load path true h with ⟨outcome, he⟩ | ⟨cause, he⟩ <;> rw [navigate, he] <;> rfl

/-- Calls of handlers and fallbacks that leave the tabs alone, one after the other. -/
theorem tabs_calls (hn : n.LeavesTabs) (path : RoutePath) {calls : Log ω} {h h' : Host ω}
    (hcalls : ∀ e ∈ calls, e.1.IsCallOf (n.resolver.resolve path)) (hl : n.Performs h calls h') :
    h'.tabs = h.tabs := by
  induction hl with
  | nil h => rfl
  | @cons a res log h h₁ h' ha _ ih =>
    have hrest := ih fun e he => hcalls e (List.mem_cons_of_mem _ he)
    refine hrest.trans ?_
    have hcall := hcalls _ List.mem_cons_self
    cases a with
    | handle handler remaining =>
      obtain ⟨directive, node, he⟩ := hcall
      obtain ⟨s, t, hs, ht, hh⟩ := n.resolver.handler_of_mem_queue path _ _ _ _ he
      have hkept := hn.handlers s node t directive handler hs ht hh remaining h
      rwa [show handler.run remaining h = (res, h₁) from ha] at hkept
    | recover fallback place error =>
      obtain ⟨rfl, -⟩ := hcall
      have hleaves : (n.resolver.resolve path).fallback.LeavesTabs := by
        rcases n.resolver.fallback_resolve_cases path with hd | ⟨s, node, t, hs, ht, hf⟩
        · rw [hd]
          exact hn.default
        · exact hn.fallbacks s node t _ hs ht hf
      have hkept := hleaves (place, error) h
      rwa [show (n.resolver.resolve path).fallback.run (place, error) h = (res, h₁) from ha] at hkept
    | _ => exact hcall.elim

/-- A navigation selects the tab of the path that it shows. -/
theorem highlights_navigate (hselect : n.selectTab = some Host.selectTab) (path : RoutePath)
    (h : Host ω) (hends : ∀ c, h.tabs.HasCallback c → Callback.Ends c) :
    n.Highlights h path (n.resolver.resolve path).path
      (n.enter (n.resolver.resolve path).path true h) := by
  obtain ⟨log, hcourse, hperforms⟩ := (n.load_eq_iff path true h _ _).1 (Prod.eta _).symm
  obtain ⟨calls, rfl, hcalls, -⟩ := n.calls_of_course _ hcourse
  obtain ⟨ready, hopening, hrest⟩ := (n.performs_append_iff _ _ _ _).1 hperforms
  obtain rfl := (n.performs_opening_iff _ _ _ _).1 hopening
  have htabs := n.tabs_enter (n.resolver.resolve path).path true h hselect
  refine ⟨n.finalPath_navigate path h, hopening, ⟨calls, hcalls, hrest⟩, ?_, fun tab htab => ?_,
    fun hleaves => n.tabs_calls hleaves path hcalls hrest⟩
  · rw [htabs, h.tabs.tabs_select _ _ hends, List.map_map]
    rfl
  · rw [htabs] at htab
    rw [h.tabs.selected_of_mem_select _ _ hends tab htab, Tab.isFor, decide_eq_true_iff]

end Navigator

/-- **A tab leads to its page.**  A sitemap has one tab for each top-level page, in order and under
different names.  The route of a tab is the path of its name, and it is for the tab.  Whoever
navigates there finds the tab selected of the path that is shown in the end, if there is one, and no
other; and if the page has a handler, or the root a terminal one, that is the route itself, reached
without a redirect and without a miss. -/
theorem tabs_lead_to_pages (s : Sitemap (Handler (Host ω)) (Fallback (Host ω))) :
    let tabs := (TabBar.ofSitemap s : TabBar (Page ω)).tabs
    ((tabs.map (·.name)).Nodup ∧ (tabs.map (·.name)).Sublist s.root.childNames ∧
      ∀ name, name ∈ tabs.map (·.name) ↔
        ∃ t, s.root.tree.child? name = some t ∧ t.slots.target.isSome) ∧
    (∀ tab ∈ tabs, tab.route.segments = [tab.name] ∧ tab.isFor tab.route = true ∧
      ∀ (n : Navigator ω) (h : Host ω), n.resolver.sitemap = some s →
        n.selectTab = some Host.selectTab → h.tabs.tabs.map (·.name) = tabs.map (·.name) →
        (∀ c, h.tabs.HasCallback c → Callback.Ends c) →
        ∃ ready, n.Highlights h tab.route (n.resolver.resolve tab.route).path ready ∧
          ((∃ t handler, s.root.tree.child? tab.name = some t ∧
              t.slots.target = some (.handler handler)) ∨ s.root.slots.terminal.isSome →
            (n.resolver.resolve tab.route).isMiss = false ∧
            (n.resolver.resolve tab.route).redirects = 0 ∧
            (n.resolver.resolve tab.route).path = tab.route ∧
            ready.tabs.tabs.filter (·.selected) = [⟨tab.name, true⟩])) ∧
    ∀ tab : Tab, tab.isFor tab.route = true ↔ tab.name ≠ "" ∧ separator ∉ tab.name.toList := by
  intro tabs
  have hnodup : (tabs.map (·.name)).Nodup := TabBar.nodup_names_ofSitemap s
  refine ⟨⟨hnodup, TabBar.sublist_names_ofSitemap s, TabBar.mem_names_ofSitemap s⟩,
    fun tab htab => ?_, Tab.isFor_route_iff⟩
  have hname := TabBar.isSegment_of_mem_ofSitemap s tab htab
  have hroute := tab.segments_route hname
  refine ⟨hroute, tab.isFor_route_iff.2 hname, fun n h hs hselect hnames hends => ?_⟩
  refine ⟨_, n.highlights_navigate hselect tab.route h hends, fun hpage => ?_⟩
  obtain ⟨hmiss, hredirects, hpath⟩ : (n.resolver.resolve tab.route).isMiss = false ∧
      (n.resolver.resolve tab.route).redirects = 0 ∧
      (n.resolver.resolve tab.route).path = tab.route := by
    cases hroot : s.root.slots.terminal with
    | some handler =>
      refine n.resolver.resolve_of_terminal_root tab.route hs (by rw [hroot]; rfl) ?_
      rw [RoutePath.length, hroute]
      exact Nat.one_pos
    | none =>
      obtain ⟨t, handler, hchild, htarget⟩ : ∃ t handler, s.root.tree.child? tab.name = some t ∧
          t.slots.target = some (.handler handler) := by
        simpa [hroot] using hpage
      obtain ⟨t', hchild', hleads⟩ := TabBar.leads_of_mem_ofSitemap s tab htab
      obtain rfl := Option.some.inj (hchild'.symm.trans hchild)
      exact n.resolver.resolve_of_child tab.route hs hroute hleads htarget hroot
  refine ⟨hmiss, hredirects, hpath, ?_⟩
  rw [hpath, n.tabs_enter _ _ _ hselect, h.tabs.tabs_select _ _ hends]
  refine TabBar.filter_selected_after _ tab.route (hnames ▸ hnodup) tab.name ?_ ?_
  · rw [hnames]
    exact List.mem_map_of_mem htab
  · rw [RoutePath.head?, hroute, List.head?_singleton]

/-! ## The tab of a kiosk out of order -/

theorem ends_kioskHost (c : Callback (Page (List String))) (hc : kioskHost.tabs.HasCallback c) :
    c.Ends := by
  rcases hc with hc | hc <;> cases hc
  exact fun _ _ _ => ⟨_, rfl⟩

theorem leavesTabs_kiosk : kiosk.LeavesTabs where
  handlers := by
    intro s path t directive handler hs ht hh
    cases hs
    rw [(slots_kioskMap path t ht).2 directive handler hh]
    exact fun _ _ => rfl
  fallbacks := by
    intro s path t f hs ht hf
    cases hs
    rw [(slots_kioskMap path t ht).1 f hf]
    exact fun _ _ => rfl
  default := fun _ _ => rfl

/-- The only tab of the kiosk leads to its order, and there it is the tab that is selected, also
after the handler and the fallback have failed. -/
theorem kiosk_tab_leads :
    kiosk.resolver.sitemap = some kioskMap ∧ kiosk.selectTab = some Host.selectTab ∧
    (∀ c, kioskHost.tabs.HasCallback c → Callback.Ends c) ∧ kiosk.LeavesTabs ∧
    ∃ tab : Tab, (TabBar.ofSitemap kioskMap : TabBar (Page (List String))).tabs = [tab] ∧
      kioskHost.tabs.tabs.map (·.name) = [tab.name] ∧
      tab.route = orderPath ∧ (kiosk.resolver.resolve tab.route).isMiss = false ∧
      (kiosk.navigate tab.route kioskHost).1 = .error ⟨orderPath, .message "closed"⟩ ∧
      (kiosk.navigate tab.route kioskHost).2.tabs.tabs.filter (·.selected) = [⟨"order", true⟩] := by
  have htab : ⟨"order", false⟩ ∈
      (TabBar.ofSitemap kioskMap : TabBar (Page (List String))).tabs := List.mem_singleton_self _
  have hroute : (⟨"order", false⟩ : Tab).route = orderPath := by decide
  obtain ⟨ready, hhighlights, hpage⟩ := ((tabs_lead_to_pages kioskMap).2.1 _ htab).2.2 kiosk
    kioskHost rfl rfl rfl ends_kioskHost
  obtain ⟨hmiss, -, -, hselected⟩ := hpage (Or.inl ⟨_, brew, rfl, rfl⟩)
  refine ⟨rfl, rfl, ends_kioskHost, leavesTabs_kiosk, _, rfl, rfl, hroute, hmiss, ?_, ?_⟩
  · rw [hroute]
    decide +kernel
  · rw [hhighlights.tabs_eq leavesTabs_kiosk]
    exact hselected

end Wayfinder
