import Wayfinder.Proofs.Navigation.Replay
import Wayfinder.Proofs.Route.Spelling
import Wayfinder.Proofs.Tabs.Selection
import Wayfinder.Site.Basic

/-!
# What a site shows

A site shows its state in three places: the entries of the history, the current one among them, and
the tab bar.  Whatever is asked of it, and whatever fails on the way, they agree: each entry tells
one path in three ways, a navigation leaves its own entry current and newest, and the selected tab
is that of the path that was shown last.

    (s.serve st request).host.tabs = st.host.tabs, where nothing is shown
    (s.serve st request).host.tabs = (st.host.tabs.select path _).1, where path is    (tabs_serve)

Handlers and fallbacks may do to the page what they like, but leave the history and the tabs alone;
callbacks of the tab bar leave the history alone and do not select.
-/

namespace Wayfinder

variable {ω ι τ : Type}

/-! ## Definitions -/

/-- The routine touches neither history nor tabs, whether it succeeds or fails. -/
def Routine.LeavesFrame (r : Routine (Host ω) ι) : Prop :=
  ∀ input h, (r.run input h).2.tabs = h.tabs ∧ (r.run input h).2.page.history = h.page.history

namespace Navigator

/-- What a request comes to: a navigation, an error, or nothing at the end of the history. -/
def answer (n : Navigator ω) (h : Host ω) : Request → Except HistoryError (Option Navigation)
  | .navigate path =>
    match (n.navigate path h).1 with
    | .ok nav => .ok (some nav)
    | .error e => .error (.navigation e)
  | .pop state => (n.popState state h).1.map some
  | .popValue state => (n.popStateValue state h).1.map some
  | .move d => (n.replay d h).1

/-- The path that the last of the requests to show anything has shown. -/
def lastShown? (n : Navigator ω) : List Request → Host ω → Option RoutePath
  | [], _ => none
  | request :: requests, h =>
    (n.lastShown? requests (n.serve h request)).or (replayedPath? (n.answer h request))

end Navigator

/-- The path that a navigation has shown, also one whose fallback failed. -/
def shownPath? : Except SiteError Navigation → Option RoutePath
  | .ok nav => some nav.path
  | .error (.navigation e) => some e.path
  | .error _ => none

namespace Site

/-- No handler and no fallback of the site touches history or tabs. -/
structure LeavesFrame (s : Site ω) : Prop where
  handlers : ∀ path t directive handler, s.sitemap.node? path = some t →
    t.slots.handler? directive = some handler → handler.LeavesFrame
  fallbacks : ∀ path t f, s.sitemap.node? path = some t → t.slots.notFound = some f → f.LeavesFrame

/-- The entry tells its path in three ways. -/
structure Describes (s : Site ω) (r : HistoryRecord) : Prop where
  url_eq : r.url = r.state.path.toUrl
  parse_url : RoutePath.parse r.url = r.state.path
  title_eq : r.title = s.config.titleFor r.state.path

/-- The tabs of the site stand above the page, none of them selected yet; their callbacks leave the
history alone and do not select. -/
structure Opens (s : Site ω) (h : Host ω) : Prop where
  tabs_eq : h.tabs.tabs = s.tabs.tabs
  quiet : h.Quiet
  ends : ∀ c, h.tabs.HasCallback c → Callback.Ends c

/-- The site after a request. -/
def serve (s : Site ω) (st : SiteState ω τ) : Request → SiteState ω τ
  | .navigate path => (s.navigate path st).2
  | request => { st with host := s.navigator.serve st.host request }

/-- The site after requests in order. -/
def serveAll (s : Site ω) (requests : List Request) (st : SiteState ω τ) : SiteState ω τ :=
  requests.foldl s.serve st

end Site

/-! ## The current entry -/

namespace History

variable (h : History) (r : HistoryRecord)

theorem current?_push : (h.push r).current? = some r := List.getElem?_concat_length

theorem getLast?_push : (h.push r).entries.getLast? = some r := by
  simp [push]

end History

/-! ## Navigations and the tabs -/

namespace Routine

theorem LeavesFrame.leavesHistory {r : Routine (Host ω) ι} (hr : r.LeavesFrame) :
    r.LeavesHistory := by
  intro input h hq
  obtain ⟨htabs, hhistory⟩ := hr input h
  refine ⟨?_, hhistory⟩
  unfold Host.Quiet
  rw [htabs]
  exact hq

end Routine

namespace Navigator

variable (n : Navigator ω)

theorem tabs_runQueue (queue : List (QueueEntry (Handler (Host ω))))
    (hqueue : ∀ directive node handler remaining,
      .action directive node handler remaining ∈ queue → handler.LeavesFrame) (h : Host ω) :
    (runQueue queue h).2.tabs = h.tabs := by
  induction queue generalizing h with
  | nil => rfl
  | cons e queue ih =>
    cases e with
    | miss e => rfl
    | action directive node handler remaining =>
      have hfirst := (hqueue _ _ _ _ List.mem_cons_self remaining h).1
      have hrest := ih fun directive node handler remaining he =>
        hqueue directive node handler remaining (List.mem_cons_of_mem _ he)
      rw [runQueue_action]
      rcases hrun : handler.run remaining h with ⟨_ | _, h₁⟩ <;> rw [hrun] at hfirst
      · exact hfirst
      · exact (hrest h₁).trans hfirst

/-- After its opening a navigation leaves the tabs alone. -/
theorem tabs_present (r : Resolution (Handler (Host ω)) (Fallback (Host ω)))
    (hqueue : ∀ directive node handler remaining,
      .action directive node handler remaining ∈ r.queue → handler.LeavesFrame)
    (hfall : r.fallback.LeavesFrame) (record : Bool) (h : Host ω) :
    (n.present r record h).2.tabs = (n.enter r.path record h).tabs := by
  have hrun := tabs_runQueue r.queue hqueue (n.enter r.path record h)
  unfold present
  rcases hq : runQueue r.queue (n.enter r.path record h) with ⟨error | _, h₁⟩ <;> rw [hq] at hrun
  · have hrecover := (hfall (r.path, error) h₁).1
    rcases hf : r.fallback.run (r.path, error) h₁ with ⟨cause | _, h₂⟩ <;> rw [hf] at hrecover <;>
      simp only [hf] <;> exact hrecover.trans hrun
  · exact hrun

/-- A replay of a state shows the path to which the state's path resolves. -/
theorem replayedPath?_popState (state : HistoryState) (h : Host ω) :
    replayedPath? ((n.popState state h).1.map some) =
      some (n.resolver.resolve state.path).path := by
  unfold popState
  rcases hl : n.load state.path false h with ⟨result, h₁⟩
  rcases n.fst_load state.path false h with ⟨outcome, he⟩ | ⟨cause, he⟩ <;>
    rw [hl] at he <;> cases he <;> rfl

theorem replayedPath?_navigate (path : RoutePath) (h : Host ω) :
    replayedPath? (n.answer h (.navigate path)) = some (n.resolver.resolve path).path := by
  simp only [answer, navigate]
  rcases n.fst_load path true h with ⟨outcome, he⟩ | ⟨cause, he⟩ <;> rw [he] <;> rfl

/-- A value is refused, and nothing happens, or it is replayed as the state that it holds. -/
theorem popStateValue_cases (value : Json) (h : Host ω) :
    (replayedPath? ((n.popStateValue value h).1.map some) = none ∧
        (n.popStateValue value h).2 = h) ∨
      ∃ state, n.popStateValue value h = n.popState state h := by
  unfold popStateValue
  split
  · exact Or.inl ⟨rfl, rfl⟩
  · split
    · next state _ => exact Or.inr ⟨state, rfl⟩
    · exact Or.inl ⟨rfl, rfl⟩

/-- Nothing happens at the end of the history; elsewhere a state is replayed under the same tabs. -/
theorem replay_eq (d : Direction) (h : Host ω) :
    n.replay d h = (.ok none, h) ∨
      ∃ state h₁, h₁.tabs = h.tabs ∧
        n.replay d h = ((n.popState state h₁).1.map some, (n.popState state h₁).2) := by
  rw [replay_eq_replayMove]
  unfold replayMove
  split
  · exact Or.inl rfl
  · next history state _ => exact Or.inr ⟨state, h.onPage fun p => { p with history }, rfl, rfl⟩

/-- A request shows a path by loading it under the same tabs, or it leaves the tabs alone. -/
theorem serve_shows (h : Host ω) (request : Request) :
    (replayedPath? (n.answer h request) = none ∧ (n.serve h request).tabs = h.tabs) ∨
      ∃ path record h₁, h₁.tabs = h.tabs ∧
        replayedPath? (n.answer h request) = some (n.resolver.resolve path).path ∧
        n.serve h request = (n.load path record h₁).2 := by
  cases request with
  | navigate path => exact Or.inr ⟨path, true, h, rfl, n.replayedPath?_navigate path h, rfl⟩
  | pop state =>
    exact Or.inr ⟨state.path, false, h, rfl, n.replayedPath?_popState state h,
      n.snd_popState state h⟩
  | popValue value =>
    rcases n.popStateValue_cases value h with ⟨hnone, hsame⟩ | ⟨state, he⟩
    · exact Or.inl ⟨hnone, congrArg Host.tabs hsame⟩
    · refine Or.inr ⟨state.path, false, h, rfl, ?_, ?_⟩
      · simpa only [answer, he] using n.replayedPath?_popState state h
      · simpa only [serve, he] using n.snd_popState state h
  | move d =>
    rcases n.replay_eq d h with he | ⟨state, h₁, htabs, he⟩
    · refine Or.inl ⟨?_, ?_⟩
      · simp only [answer, he, replayedPath?, Option.map_none]
      · simp only [serve, he]
    · refine Or.inr ⟨state.path, false, h₁, htabs, ?_, ?_⟩
      · simpa only [answer, he] using n.replayedPath?_popState state h₁
      · simpa only [serve, he] using n.snd_popState state h₁

end Navigator

/-! ## Sites -/

namespace Site

variable (s : Site ω)

theorem host_serve (st : SiteState ω τ) (request : Request) :
    (s.serve st request).host = s.navigator.serve st.host request := by
  cases request with
  | navigate path =>
    simp only [serve, navigate, Navigator.serve]
    rcases s.navigator.navigate path st.host with ⟨_ | _, _⟩ <;> rfl
  | _ => rfl

theorem host_serveAll (requests : List Request) (st : SiteState ω τ) :
    (s.serveAll requests st).host = s.navigator.serveAll requests st.host := by
  unfold serveAll Navigator.serveAll
  induction requests generalizing st with
  | nil => rfl
  | cons request requests ih => rw [List.foldl_cons, List.foldl_cons, ih, host_serve]

theorem shownPath?_navigate (path : RoutePath) (st : SiteState ω τ) :
    shownPath? (s.navigate path st).1 = some (s.navigator.resolver.resolve path).path := by
  have hresult : shownPath? (s.navigate path st).1 =
      replayedPath? (s.navigator.answer st.host (.navigate path)) := by
    simp only [navigate, Navigator.answer]
    rcases s.navigator.navigate path st.host with ⟨_ | _, _⟩ <;> rfl
  rw [hresult, Navigator.replayedPath?_navigate]

section
variable (hs : s.LeavesFrame)

include hs

theorem leavesHistory_navigator : s.navigator.LeavesHistory where
  selectTab := by
    intro select hselect path
    cases hselect
    exact leavesHistory_selectTab path
  handlers := by
    intro sitemap path t directive handler hsitemap ht hh
    cases hsitemap
    exact (hs.handlers path t directive handler ht hh).leavesHistory
  fallbacks := by
    intro sitemap path t f hsitemap ht hf
    cases hsitemap
    exact (hs.fallbacks path t f ht hf).leavesHistory
  default := fun _ _ hq => ⟨hq, rfl⟩

/-- A navigation selects the path that it shows, and does nothing else to the tabs. -/
theorem tabs_load (path : RoutePath) (record : Bool) (h : Host ω) :
    (s.navigator.load path record h).2.tabs =
      (h.tabs.select (s.navigator.resolver.resolve path).path h.page).1 := by
  unfold Navigator.load
  rw [Navigator.tabs_present, s.navigator.tabs_enter _ _ _ rfl]
  · intro directive node handler remaining he
    obtain ⟨sitemap, t, hsitemap, ht, hh⟩ :=
      s.navigator.resolver.handler_of_mem_queue path directive node handler remaining he
    cases hsitemap
    exact hs.handlers node t directive handler ht hh
  · rcases s.navigator.resolver.fallback_resolve_cases path with
      hd | ⟨sitemap, place, t, hsitemap, ht, hf⟩
    · rw [hd]
      exact fun _ _ => ⟨rfl, rfl⟩
    · cases hsitemap
      exact hs.fallbacks place t _ ht hf

/-- Either nothing is shown and the tabs stay as they are, or a path is shown and selected. -/
theorem tabs_serve (h : Host ω) (request : Request) :
    (replayedPath? (s.navigator.answer h request) = none ∧
        (s.navigator.serve h request).tabs = h.tabs) ∨
      ∃ path page, replayedPath? (s.navigator.answer h request) = some path ∧
        (s.navigator.serve h request).tabs = (h.tabs.select path page).1 := by
  rcases s.navigator.serve_shows h request with hnone | ⟨path, record, h₁, htabs, hshown, he⟩
  · exact Or.inl hnone
  · refine Or.inr ⟨_, h₁.page, hshown, ?_⟩
    rw [he, s.tabs_load hs, htabs]

/-- A run of requests leaves the tabs as selecting the last path shown sets them. -/
theorem tabs_serveAll (requests : List Request) (h : Host ω)
    (hends : ∀ c, h.tabs.HasCallback c → Callback.Ends c) :
    (s.navigator.serveAll requests h).tabs.tabs =
      (s.navigator.lastShown? requests h).elim h.tabs.tabs fun path =>
        h.tabs.tabs.map (·.after path) := by
  unfold Navigator.serveAll
  induction requests generalizing h with
  | nil => rfl
  | cons request requests ih =>
    rw [List.foldl_cons]
    unfold Navigator.lastShown?
    rcases s.tabs_serve hs h request with ⟨hnone, htabs⟩ | ⟨path, page, hshown, htabs⟩
    · rw [ih _ (by rwa [htabs]), htabs, hnone, Option.or_none]
    · have hends' : ∀ c, (s.navigator.serve h request).tabs.HasCallback c → Callback.Ends c := by
        intro c hc
        rw [htabs, TabBar.hasCallback_select] at hc
        exact hends c hc
      rw [ih _ hends', htabs, h.tabs.tabs_select path page hends, hshown]
      cases s.navigator.lastShown? requests (s.navigator.serve h request) with
      | none => rfl
      | some path' => exact TabBar.after_after path path' h.tabs.tabs

/-- An entry that was not there at the start tells its path in three ways. -/
theorem describes_of_mem_entries (requests : List Request) (h : Host ω) (hq : h.Quiet)
    (r : HistoryRecord) (hr : r ∈ (s.navigator.serveAll requests h).page.history.entries) :
    r ∈ h.page.history.entries ∨ s.Describes r := by
  rcases s.navigator.mem_entries_serveAll (s.leavesHistory_navigator hs) h hq requests r hr with
    hold | ⟨path, -, hrec⟩
  · exact Or.inl hold
  · refine Or.inr ⟨hrec.url_eq, ?_, hrec.title_eq⟩
    rw [hrec.url_eq, RoutePath.parse_toUrl]

/-- A navigation leaves its entry current and newest, whether its fallback fails or not. -/
theorem current?_navigate (path : RoutePath) (st : SiteState ω τ) (hq : st.host.Quiet) :
    ∃ r, (s.navigate path st).2.host.page.history.current? = some r ∧
      (s.navigate path st).2.host.page.history.entries.getLast? = some r ∧
      shownPath? (s.navigate path st).1 = some r.state.path ∧
      r.state.path = (s.navigator.resolver.resolve path).path := by
  obtain ⟨-, now, hh⟩ :=
    s.navigator.history_load (s.leavesHistory_navigator hs) path true st.host hq
  have hhost : (s.navigate path st).2.host = (s.navigator.load path true st.host).2 :=
    s.host_serve st (.navigate path)
  rw [hhost, hh, s.shownPath?_navigate]
  exact ⟨_, History.current?_push _ _, History.getLast?_push _ _, rfl, rfl⟩

/-- **Page, history and tabs agree.**  After any requests, every new entry of the history tells one
path as its state, its URL and its title; a navigation leaves its entry current and newest, with
the path that it has shown; and the selected tab, one at most, is the one for the path shown
last. -/
theorem serveAll_agrees (start : SiteState ω τ) (hopen : s.Opens start.host)
    (requests : List Request) :
    (∀ r ∈ (s.serveAll requests start).host.page.history.entries,
      r ∈ start.host.page.history.entries ∨ s.Describes r) ∧
    (∀ path, ∃ r,
      (s.navigate path (s.serveAll requests start)).2.host.page.history.current? = some r ∧
      (s.navigate path (s.serveAll requests start)).2.host.page.history.entries.getLast? =
        some r ∧
      shownPath? (s.navigate path (s.serveAll requests start)).1 = some r.state.path ∧
      r.state.path = (s.navigator.resolver.resolve path).path) ∧
    (s.serveAll requests start).host.tabs.tabs.map (·.name) = s.tabs.tabs.map (·.name) ∧
    (∀ tab ∈ (s.serveAll requests start).host.tabs.tabs, tab.selected ↔
      ∃ path, s.navigator.lastShown? requests start.host = some path ∧
        path.head? = some tab.name) ∧
    ((s.serveAll requests start).host.tabs.tabs.filter (·.selected)).length ≤ 1 := by
  have hquiet : (s.serveAll requests start).host.Quiet := by
    rw [host_serveAll]
    exact s.navigator.quiet_serveAll (s.leavesHistory_navigator hs) _ hopen.quiet requests
  have htabs := s.tabs_serveAll hs requests start.host hopen.ends
  rw [← s.host_serveAll, hopen.tabs_eq] at htabs
  refine ⟨?_, fun path => s.current?_navigate hs path _ hquiet, ?_⟩
  · rw [host_serveAll]
    exact s.describes_of_mem_entries hs requests start.host hopen.quiet
  · rw [htabs]
    cases s.navigator.lastShown? requests start.host with
    | none =>
      have hnone : ∀ tab ∈ s.tabs.tabs, tab.selected = false := fun tab htab =>
        TabBar.selected_ofSitemap s.sitemap tab htab
      refine ⟨rfl, fun tab htab => by simp [hnone tab htab], ?_⟩
      have hfilter : s.tabs.tabs.filter (·.selected) = [] :=
        List.filter_eq_nil_iff.2 fun tab htab => by simp [hnone tab htab]
      simp [hfilter]
    | some path =>
      refine ⟨?_, ?_, ?_⟩
      · simp [Tab.after, Function.comp_def]
      · intro tab htab
        obtain ⟨t, -, rfl⟩ := List.mem_map.1 htab
        simp [Tab.after, Tab.isFor]
      · have hfilter : (s.tabs.tabs.map (·.after path)).filter (·.selected) =
            (s.tabs.tabs.filter (·.isFor path)).map (·.after path) := by
          rw [List.filter_map]
          rfl
        rw [Option.elim_some, hfilter, List.length_map]
        exact length_filter_isFor _ path (TabBar.nodup_names_ofSitemap s.sitemap)

end

end Site

/-! ## A visit to a small site -/

def foyerPath : RoutePath := ⟨["foyer"], by decide⟩

def cellarPath : RoutePath := ⟨["cellar"], by decide⟩

/-- Shows a greeting. -/
def greet : Handler (Host Unit) :=
  ⟨some 0, .onAwait, fun _ h => (.ok (), h.onPage (Page.edit (.replace "welcome")))⟩

/-- Has nothing to offer. -/
def giveUp : Fallback (Host Unit) := ⟨some 0, .onCall, fun _ h => (.error (.message "closed"), h)⟩

/-- The root redirects to the foyer; there is a shop, and for all else a fallback that fails. -/
def houseMap : Sitemap (Handler (Host Unit)) (Fallback (Host Unit)) where
  root :=
    { tree := .node { target := some (.redirect foyerPath), notFound := some giveUp }
        [("foyer", .node { target := some (.handler greet) } []),
         ("shop", .node { target := some (.handler greet) } [])]
      distinct := by simp [Tree.Distinct, Tree.DistinctAll] }
  faultless := by rfl

def house : Site Unit := ⟨{ appName := "House" }, houseMap⟩

theorem leavesFrame_house : house.LeavesFrame := by
  have hslots : ∀ path t, houseMap.node? path = some t →
      (∀ f, t.slots.notFound = some f → f = giveUp) ∧
        ∀ directive handler, t.slots.handler? directive = some handler → handler = greet := by
    intro path t ht
    have hnode := Tree.mem_nodes_of_descend _ t path.segments ht
    simp only [houseMap, Tree.nodes, Tree.childNodes, List.map_cons, List.map_nil,
      List.cons_append, List.nil_append, List.mem_cons, List.not_mem_nil, or_false,
      Prod.mk.injEq] at hnode
    obtain ⟨-, hslots⟩ | ⟨-, hslots⟩ | ⟨-, hslots⟩ := hnode <;> rw [hslots] <;>
      refine ⟨by simp, fun directive handler hh => ?_⟩ <;>
      cases directive <;> simp [Slots.handler?] at hh <;> exact hh.symm
  constructor
  · intro path t directive handler ht hh
    rw [(hslots path t ht).2 directive handler hh]
    exact fun _ _ => ⟨rfl, rfl⟩
  · intro path t f ht hf
    rw [(hslots path t ht).1 f hf]
    exact fun _ _ => ⟨rfl, rfl⟩

/-- A visitor who has just arrived. -/
def houseStart : SiteState Unit Unit := house.start { notes := () } ()

theorem opens_houseStart : house.Opens houseStart.host where
  tabs_eq := rfl
  quiet := by rintro c (hc | hc) <;> cases hc
  ends := by rintro c (hc | hc) <;> cases hc

/-- Redirected to the foyer, stopped in the cellar, back in the foyer, and then a state that holds
nothing: both entries are right, and the foyer is selected. -/
theorem house_agrees :
    let requests := [.navigate .root, .navigate cellarPath, .move .back, .popValue .null]
    house.LeavesFrame ∧ house.Opens houseStart.host ∧
    (house.serveAll requests houseStart).host.page.history.length = 2 ∧
    (∀ r ∈ (house.serveAll requests houseStart).host.page.history.entries, house.Describes r) ∧
    house.navigator.lastShown? requests houseStart.host = some foyerPath ∧
    ∀ tab ∈ (house.serveAll requests houseStart).host.tabs.tabs,
      tab.selected ↔ tab.name = "foyer" := by
  intro requests
  obtain ⟨hentries, -, -, htabs, -⟩ :=
    Site.serveAll_agrees house leavesFrame_house houseStart opens_houseStart requests
  have hlast : house.navigator.lastShown? requests houseStart.host = some foyerPath := by
    decide +kernel
  refine ⟨leavesFrame_house, opens_houseStart, by decide +kernel, fun r hr => ?_, hlast,
    fun tab htab => ?_⟩
  · exact (hentries r hr).resolve_left List.not_mem_nil
  · rw [htabs tab htab, hlast]
    simp [foyerPath, RoutePath.head?, eq_comm]

end Wayfinder
