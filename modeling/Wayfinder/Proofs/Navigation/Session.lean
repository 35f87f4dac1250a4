import Wayfinder.Navigation.Replay
import Wayfinder.Proofs.Navigation.Course
import Wayfinder.Proofs.Page.History
import Wayfinder.Proofs.Route.Fallbacks
import Wayfinder.Proofs.Route.Queue
import Wayfinder.Proofs.Tabs.Callbacks

/-!
# Sessions

A session is a run of requests to one navigator: to navigate to a path, to show the page of a
state, to move in the history.  Where nothing that the navigator calls touches the history, each
request pushes the entry of a navigation, moves, or leaves the history as it is (`serve_cases`).  So
every entry stands for a navigation of the session, with the path that was shown and its title:

    entry ∈ (n.serveAll requests h).page.history.entries →
      entry ∈ h.page.history.entries ∨
        ∃ path, .navigate path ∈ requests ∧ n.Records path entry        (mem_entries_serveAll)
-/

namespace Wayfinder

variable {ω ι : Type}

/-! ## Definitions -/

/-- No callback of the tab bar touches the history. -/
def Host.Quiet (h : Host ω) : Prop :=
  ∀ c, h.tabs.HasCallback c → ∀ history, Callback.Keeps (fun page => page.history = history) c

/-- On quiet hosts, and without making them less quiet, the history is left as it is. -/
def LeavesHistory (f : Host ω → Host ω) : Prop :=
  ∀ h, h.Quiet → (f h).Quiet ∧ (f h).page.history = h.page.history

/-- The routine leaves the history as it is, whether it succeeds or fails. -/
def Routine.LeavesHistory (r : Routine (Host ω) ι) : Prop :=
  ∀ input, Wayfinder.LeavesHistory fun h => (r.run input h).2

/-- What a navigator is asked for. -/
inductive Request where
  | navigate (path : RoutePath)
  | pop (state : HistoryState)
  | popValue (state : Json)
  | move (direction : Direction)

namespace Navigator

/-- Nothing that the navigator calls touches the history. -/
structure LeavesHistory (n : Navigator ω) : Prop where
  selectTab : ∀ select, n.selectTab = some select → ∀ path, Wayfinder.LeavesHistory (select path)
  handlers : ∀ s path t directive handler, n.resolver.sitemap = some s → s.node? path = some t →
    t.slots.handler? directive = some handler → handler.LeavesHistory
  fallbacks : ∀ s path t f, n.resolver.sitemap = some s → s.node? path = some t →
    t.slots.notFound = some f → f.LeavesHistory
  default : n.resolver.defaultFallback.LeavesHistory

/-- The entry is the one of a navigation to `path`: it keeps the path that was shown. -/
structure Records (n : Navigator ω) (path : RoutePath) (entry : HistoryRecord) : Prop where
  path_eq : entry.state.path = (n.resolver.resolve path).path
  title_eq : entry.title = n.title entry.state.path
  url_eq : entry.url = entry.state.path.toUrl

/-- Move in the history and replay the entry reached, if there is one. -/
def replay (n : Navigator ω) :
    Direction → Host ω → Except HistoryError (Option Navigation) × Host ω
  | .back => n.back
  | .forward => n.forward

/-- The host after a request. -/
def serve (n : Navigator ω) (h : Host ω) : Request → Host ω
  | .navigate path => (n.navigate path h).2
  | .pop state => (n.popState state h).2
  | .popValue state => (n.popStateValue state h).2
  | .move d => (n.replay d h).2

/-- The host after requests in order. -/
def serveAll (n : Navigator ω) (requests : List Request) (h : Host ω) : Host ω :=
  requests.foldl n.serve h

end Navigator

/-! ## What leaves the history alone -/

theorem leavesHistory_onPage (f : Page ω → Page ω) (hf : ∀ p, (f p).history = p.history) :
    LeavesHistory (Host.onPage f) := fun h hq => ⟨hq, hf h.page⟩

/-- The tab bar touches the history through its callbacks only. -/
theorem leavesHistory_selectTab (path : RoutePath) :
    LeavesHistory (Host.selectTab path : Host ω → Host ω) := by
  intro h hq
  constructor
  · intro c hc
    exact hq c ((h.tabs.hasCallback_select path h.page c).1 hc)
  · exact TabBar.select_keeps (fun page : Page ω => page.history = h.page.history) h.tabs
      (fun c hc => hq c hc h.page.history) path h.page rfl

namespace Navigator

variable (n : Navigator ω)

theorem leavesHistory_runQueue (queue : List (QueueEntry (Handler (Host ω))))
    (hqueue : ∀ directive node handler remaining,
      .action directive node handler remaining ∈ queue → handler.LeavesHistory) :
    Wayfinder.LeavesHistory fun h => (runQueue queue h).2 := by
  induction queue with
  | nil => exact fun h hq => ⟨hq, rfl⟩
  | cons e queue ih =>
    cases e with
    | miss e => exact fun h hq => ⟨hq, rfl⟩
    | action directive node handler remaining =>
      intro h hq
      have hfirst := hqueue _ _ _ _ List.mem_cons_self remaining h hq
      have hrest := ih fun directive node handler remaining he =>
        hqueue directive node handler remaining (List.mem_cons_of_mem _ he)
      simp only [runQueue_action]
      rcases hrun : handler.run remaining h with ⟨_ | _, h₁⟩ <;> simp only [hrun] at hfirst ⊢
      · exact hfirst
      · obtain ⟨hq₁, hh₁⟩ := hrest h₁ hfirst.1
        exact ⟨hq₁, hh₁.trans hfirst.2⟩

/-- After its opening a navigation leaves the history alone. -/
theorem history_present (r : Resolution (Handler (Host ω)) (Fallback (Host ω)))
    (hqueue : Wayfinder.LeavesHistory fun h => (runQueue r.queue h).2)
    (hfall : r.fallback.LeavesHistory) (record : Bool) (h : Host ω)
    (hq : (n.enter r.path record h).Quiet) :
    (n.present r record h).2.Quiet ∧
      (n.present r record h).2.page.history = (n.enter r.path record h).page.history := by
  obtain ⟨hqr, hhr⟩ : (runQueue r.queue (n.enter r.path record h)).2.Quiet ∧
    (runQueue r.queue (n.enter r.path record h)).2.page.history =
      (n.enter r.path record h).page.history := hqueue _ hq
  unfold present
  rcases hrun : runQueue r.queue (n.enter r.path record h) with ⟨error | _, h₁⟩ <;>
    rw [hrun] at hqr hhr
  · have hf := hfall (r.path, error) h₁ hqr
    rcases hrec : r.fallback.run (r.path, error) h₁ with ⟨cause | _, h₂⟩ <;>
      simp only [hrec] at hf ⊢ <;> exact ⟨hf.1, hf.2.trans hhr⟩
  · exact ⟨hqr, hhr⟩

section
variable (hn : n.LeavesHistory) (path : RoutePath) (record : Bool) (h : Host ω) (hq : h.Quiet)

include hn

theorem leavesHistory_fallback : (n.resolver.resolve path).fallback.LeavesHistory := by
  rcases n.resolver.fallback_resolve_cases path with hd | ⟨s, place, t, hs, ht, hf⟩
  · rw [hd]
    exact hn.default
  · exact hn.fallbacks s place t _ hs ht hf

include hq

/-- Before the first handler a navigation pushes its entry, if it is to be recorded. -/
theorem history_enter :
    (n.enter path record h).Quiet ∧
      ∃ now, (n.enter path record h).page.history =
        if record then h.page.history.push ⟨⟨path⟩, n.title path, path.toUrl, now⟩
        else h.page.history := by
  have hselect : (n.selectTab.elim h (· path h)).Quiet ∧
      (n.selectTab.elim h (· path h)).page.history = h.page.history := by
    cases hs : n.selectTab with
    | none => exact ⟨hq, rfl⟩
    | some select => exact hn.selectTab select hs path h hq
  obtain ⟨hq', hh⟩ := hselect
  unfold enter
  cases record with
  | true =>
    refine ⟨hq', (n.selectTab.elim h (· path h)).page.now, ?_⟩
    rw [← hh]
    rfl
  | false => exact ⟨hq', h.page.now, hh⟩

theorem history_load :
    (n.load path record h).2.Quiet ∧
      ∃ now, (n.load path record h).2.page.history =
        if record then
          let shown := (n.resolver.resolve path).path
          h.page.history.push ⟨⟨shown⟩, n.title shown, shown.toUrl, now⟩
        else h.page.history := by
  obtain ⟨hqe, now, hhe⟩ := n.history_enter hn (n.resolver.resolve path).path record h hq
  have hqueue := leavesHistory_runQueue (n.resolver.resolve path).queue
    fun directive node handler remaining he => by
      obtain ⟨s, t, hs, ht, hh⟩ := n.resolver.handler_of_mem_queue path _ _ _ _ he
      exact hn.handlers s node t directive handler hs ht hh
  obtain ⟨hqp, hhp⟩ :=
    n.history_present _ hqueue (n.leavesHistory_fallback hn path) record h hqe
  exact ⟨hqp, now, hhp.trans hhe⟩

end

/-! ## Requests -/

/-- To replay a state is to load its path, unrecorded. -/
theorem popState_eq (state : HistoryState) (h : Host ω) :
    n.popState state h = ((n.load state.path false h).1.mapError .navigation,
      (n.load state.path false h).2) := by
  unfold popState
  rcases n.load state.path false h with ⟨_ | _, _⟩ <;> rfl

theorem snd_popState (state : HistoryState) (h : Host ω) :
    (n.popState state h).2 = (n.load state.path false h).2 := by
  rw [popState_eq]

theorem replay_eq_replayMove (d : Direction) (h : Host ω) :
    n.replay d h = n.replayMove (History.move d) h := by
  cases d <;> rfl

theorem replay_cases (d : Direction) (h : Host ω) :
    n.replay d h = (.ok none, h) ∧ (h.page.history.move d) = (h.page.history, none) ∨
    ∃ history state, h.page.history.move d = (history, some state) ∧
      (n.replay d h).2 = (n.popState state (h.onPage fun p => { p with history })).2 := by
  rw [replay_eq_replayMove]
  unfold replayMove
  rcases h.page.history.move_cases d with he | ⟨i, r, -, he⟩
  · rw [he]
    exact Or.inl ⟨rfl, rfl⟩
  · rw [he]
    exact Or.inr ⟨_, _, rfl, rfl⟩

section
variable (hn : n.LeavesHistory) (h : Host ω) (hq : h.Quiet)

include hn hq

theorem history_popState (state : HistoryState) :
    (n.popState state h).2.Quiet ∧ (n.popState state h).2.page.history = h.page.history := by
  obtain ⟨hq', _, hh⟩ := n.history_load hn state.path false h hq
  rw [snd_popState]
  exact ⟨hq', hh⟩

theorem history_popStateValue (state : Json) :
    (n.popStateValue state h).2.Quiet ∧
      (n.popStateValue state h).2.page.history = h.page.history := by
  unfold popStateValue
  split
  · exact ⟨hq, rfl⟩
  · split
    · exact n.history_popState hn h hq _
    · exact ⟨hq, rfl⟩

theorem history_replay (d : Direction) :
    (n.replay d h).2.Quiet ∧ (n.replay d h).2.page.history = (h.page.history.move d).1 := by
  rcases n.replay_cases d h with ⟨he, hm⟩ | ⟨history, state, hm, he⟩
  · rw [he, hm]
    exact ⟨hq, rfl⟩
  · rw [he, hm]
    exact n.history_popState hn (h.onPage fun p => { p with history }) hq state

/-- A request pushes the entry of a navigation, moves, or leaves the history as it is. -/
theorem serve_cases (request : Request) :
    (n.serve h request).Quiet ∧
      ((∃ path entry, request = .navigate path ∧ n.Records path entry ∧
          (n.serve h request).page.history = h.page.history.push entry) ∨
        (∃ d, request = .move d ∧
          (n.serve h request).page.history = (h.page.history.move d).1) ∨
        (n.serve h request).page.history = h.page.history) := by
  cases request with
  | navigate path =>
    obtain ⟨hq', now, hh⟩ := n.history_load hn path true h hq
    exact ⟨hq', Or.inl ⟨path, _, rfl, ⟨rfl, rfl, rfl⟩, hh⟩⟩
  | pop state =>
    obtain ⟨hq', hh⟩ := n.history_popState hn h hq state
    exact ⟨hq', Or.inr (Or.inr hh)⟩
  | popValue state =>
    obtain ⟨hq', hh⟩ := n.history_popStateValue hn h hq state
    exact ⟨hq', Or.inr (Or.inr hh)⟩
  | move d =>
    obtain ⟨hq', hh⟩ := n.history_replay hn h hq d
    exact ⟨hq', Or.inr (Or.inl ⟨d, rfl, hh⟩)⟩

/-- An entry that was not there before a request is the one of the request's navigation. -/
theorem mem_entries_serve (request : Request) (entry : HistoryRecord)
    (he : entry ∈ (n.serve h request).page.history.entries) :
    entry ∈ h.page.history.entries ∨ ∃ path, request = .navigate path ∧ n.Records path entry := by
  obtain ⟨-, ⟨path, pushed, hr, hrec, hh⟩ | ⟨d, -, hh⟩ | hh⟩ := n.serve_cases hn h hq request
  · rw [hh] at he
    rcases h.page.history.mem_entries_push entry pushed he with rfl | he
    · exact Or.inr ⟨path, hr, hrec⟩
    · exact Or.inl he
  · rw [hh, History.entries_move] at he
    exact Or.inl he
  · rw [hh] at he
    exact Or.inl he

theorem quiet_serveAll (requests : List Request) : (n.serveAll requests h).Quiet := by
  unfold serveAll
  induction requests generalizing h with
  | nil => exact hq
  | cons request requests ih => exact ih _ (n.serve_cases hn h hq request).1

/-- Every entry was there at the start, or a navigation of the session has pushed it. -/
theorem mem_entries_serveAll (requests : List Request) (entry : HistoryRecord)
    (he : entry ∈ (n.serveAll requests h).page.history.entries) :
    entry ∈ h.page.history.entries ∨
      ∃ path, .navigate path ∈ requests ∧ n.Records path entry := by
  unfold serveAll at he
  induction requests generalizing h with
  | nil => exact Or.inl he
  | cons request requests ih =>
    rcases ih _ (n.serve_cases hn h hq request).1 he with he | ⟨path, hpath, hrec⟩
    · rcases n.mem_entries_serve hn h hq request entry he with he | ⟨path, rfl, hrec⟩
      · exact Or.inl he
      · exact Or.inr ⟨path, List.mem_cons_self, hrec⟩
    · exact Or.inr ⟨path, List.mem_cons_of_mem _ hpath, hrec⟩

end

end Navigator

end Wayfinder
