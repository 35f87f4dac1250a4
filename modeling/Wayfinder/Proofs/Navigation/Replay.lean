import Wayfinder.Proofs.Navigation.Session
import Wayfinder.Proofs.Route.Cycles

/-!
# Replays of recorded pages

An entry of the history keeps the path to which the resolution of its page came.  Resolved again,
that path follows no redirect, unless the resolution was cut off: then it came to a path that still
redirects, and where the limit lets one redirect pass the replay goes on from there.

    (r.resolve p).IsCutOff ↔ (r.next? (r.resolve p).path).isSome               (isCutOff_iff_next?)
    r.next? q = none ∨ r.maxRedirects = 0 → (r.resolve q).path = q              (resolve_stays)
    (r.next? q).isSome → r.maxRedirects ≠ 0 → 0 < (r.resolve q).redirects       (redirects_pos)

So a move in the history shows the recorded page (`replay_recorded`), with the exception that
`stairs_replay_elsewhere` gives an instance of.
-/

namespace Wayfinder

/-! ## Paths that are resolved again -/

namespace Resolver

variable {H F : Type} (r : Resolver H F) (p q : RoutePath)

/-- A resolution is cut off if and only if it has come to a path that still redirects. -/
theorem isCutOff_iff_next? : (r.resolve p).IsCutOff ↔ (r.next? (r.resolve p).path).isSome := by
  rcases r.resolve_cases p with ⟨k, -, q, queue, f, -, hw, he⟩ | ⟨q, dest, f, -, hw, he⟩ <;>
    rw [he]
  · rw [r.next?_of_done q queue f hw]
    exact iff_of_false (r.not_isCutOff_of_done k q queue f hw) Bool.false_ne_true
  · rw [r.next?_of_redirect q dest f hw]
    exact iff_of_true ⟨_, List.mem_singleton.2 rfl⟩ rfl

/-- A path that does not redirect, or may not, resolves to itself. -/
theorem resolve_stays (h : r.next? q = none ∨ r.maxRedirects = 0) :
    (r.resolve q).path = q ∧ (r.resolve q).redirects = 0 := by
  cases hw : r.walk q with
  | done queue f =>
    rw [r.resolve_of_done q 0 (Nat.zero_le _) q rfl queue f hw]
    exact ⟨rfl, rfl⟩
  | redirect dest f =>
    have hl : r.maxRedirects = 0 := by
      refine h.resolve_left ?_
      rw [r.next?_of_redirect q dest f hw]
      exact Option.some_ne_none dest
    have hc : r.chain? q r.maxRedirects = some q := by
      rw [hl]
      rfl
    rw [r.resolve_of_redirect q q dest hc f hw]
    exact ⟨rfl, hl⟩

/-- A path that redirects is left, if the limit lets one redirect pass. -/
theorem redirects_pos (hnext : (r.next? q).isSome) (hl : r.maxRedirects ≠ 0) :
    0 < (r.resolve q).redirects := by
  rcases r.resolve_cases q with ⟨k, -, q', queue, f, hc, hw, he⟩ | ⟨q', dest, f, -, -, he⟩ <;>
    rw [he]
  · refine Nat.pos_of_ne_zero fun hk => ?_
    rw [show k = 0 from hk] at hc
    cases hc
    rw [r.next?_of_done q queue f hw] at hnext
    cases hnext
  · exact Nat.pos_of_ne_zero hl

end Resolver

/-! ## Definitions -/

variable {ω : Type}

/-- The act calls a handler or a fallback. -/
def Act.IsCall : Act ω → Prop
  | .handle _ _ => True
  | .recover _ _ _ => True
  | _ => False

/-- The path that a replay has loaded: that of the navigation, or of the fallback's failure. -/
def replayedPath? : Except HistoryError (Option Navigation) → Option RoutePath
  | .ok nav => nav.map (·.path)
  | .error (.navigation e) => some e.path
  | .error _ => none

namespace Navigator

/-- A replay that leads from the host `before` to the host `after` shows the page of the entry: it
loads the entry's path without a redirect, and when the first handler is called, on the host `ready`,
the title and the tabs are those of the entry. -/
structure Replays (n : Navigator ω) (entry : HistoryRecord) (before : Host ω)
    (result : Except HistoryError (Option Navigation)) (after : Host ω) : Prop where
  path_eq : replayedPath? result = some entry.state.path
  redirects_eq : (n.resolver.resolve entry.state.path).redirects = 0
  navigation_redirects_eq : ∀ nav, result = .ok (some nav) → nav.redirects = 0
  course : ∃ ready calls,
    n.Performs before (n.opening entry.state.path false) ready ∧
    n.Performs ready calls after ∧ (∀ act ∈ calls, act.1.IsCall) ∧
    ready.page.document.title = entry.title ∧
    (n.selectTab = some Host.selectTab →
      ready.tabs = (before.tabs.select entry.state.path before.page).1 ∧
      ((∀ c, before.tabs.HasCallback c → Callback.Ends c) →
        ∀ tab ∈ ready.tabs.tabs, tab.selected = tab.isFor entry.state.path))

/-! ## One navigation -/

variable (n : Navigator ω)

theorem fst_load (path : RoutePath) (record : Bool) (h : Host ω) :
    (∃ outcome, (n.load path record h).1 =
      .ok ⟨(n.resolver.resolve path).path, (n.resolver.resolve path).redirects, outcome⟩) ∨
    ∃ cause, (n.load path record h).1 = .error ⟨(n.resolver.resolve path).path, cause⟩ := by
  unfold load present
  rcases runQueue (n.resolver.resolve path).queue
    (n.enter (n.resolver.resolve path).path record h) with ⟨error | _, h₁⟩
  · simp only
    rcases (n.resolver.resolve path).fallback.run
      ((n.resolver.resolve path).path, error) h₁ with ⟨cause | _, h₂⟩
    · exact Or.inr ⟨cause, rfl⟩
    · exact Or.inl ⟨.recovered, rfl⟩
  · exact Or.inl ⟨.completed, rfl⟩

theorem isCall_of_mem_handled (queue : List (QueueEntry (Handler (Host ω))))
    (act : Act ω × Except Failure Unit) (h : act ∈ handled queue) : act.1.IsCall := by
  obtain ⟨e, -, he⟩ := List.mem_filterMap.1 h
  cases e with
  | miss => cases he
  | action =>
    cases he
    trivial

theorem isCall_of_fails (e : QueueEntry (Handler (Host ω))) (calls : Log ω)
    (error : NavigationError) (h : Fails e calls error) (act : Act ω × Except Failure Unit)
    (ha : act ∈ calls) : act.1.IsCall := by
  cases h with
  | miss => cases ha
  | handler =>
    rw [List.mem_singleton.1 ha]
    trivial

/-- After its opening a navigation calls handlers and the fallback, and does nothing else. -/
theorem performs_present (r : Resolution (Handler (Host ω)) (Fallback (Host ω))) (record : Bool)
    (h : Host ω) :
    ∃ calls, n.Performs (n.enter r.path record h) calls (n.present r record h).2 ∧
      ∀ act ∈ calls, act.1.IsCall := by
  unfold present
  rcases hq : runQueue r.queue (n.enter r.path record h) with ⟨error | _, h₁⟩
  · obtain ⟨ran, last, later, calls, -, -, hlast, hl⟩ := (n.runQueue_eq_error_iff _ _ _ error).1 hq
    refine ⟨handled ran ++ calls ++
      [(.recover r.fallback r.path error, (r.fallback.run (r.path, error) h₁).1)], ?_, ?_⟩
    · rw [performs_append_iff]
      refine ⟨h₁, hl, (n.performs_singleton_iff _ _ _ _).2 ?_⟩
      simp only [perform_recover, Routine.run_eq]
      rcases r.fallback.action (r.path, error) h₁ with ⟨_ | _, _⟩ <;> rfl
    · intro act hact
      rcases List.mem_append.1 hact with hact | hact
      · rcases List.mem_append.1 hact with hact | hact
        · exact isCall_of_mem_handled ran act hact
        · exact isCall_of_fails last calls error hlast act hact
      · rw [List.mem_singleton.1 hact]
        trivial
  · exact ⟨handled r.queue, ((n.runQueue_eq_ok_iff _ _ _).1 hq).2,
      fun act hact => isCall_of_mem_handled r.queue act hact⟩

theorem tabs_enter (path : RoutePath) (record : Bool) (h : Host ω)
    (hn : n.selectTab = some Host.selectTab) :
    (n.enter path record h).tabs = (h.tabs.select path h.page).1 := by
  have hselect : n.selectTab.elim h (· path h) = Host.selectTab path h := by
    rw [hn]
    rfl
  unfold enter
  rw [hselect]
  cases record <;> rfl

/-! ## Replays -/

/-- An entry whose path does not redirect, or may not, is replayed as it was recorded. -/
theorem replays_of_stays (path : RoutePath) (entry : HistoryRecord) (hrec : n.Records path entry)
    (hstay : n.resolver.next? entry.state.path = none ∨ n.resolver.maxRedirects = 0) (h : Host ω) :
    n.Replays entry h ((n.popState entry.state h).1.map some) (n.popState entry.state h).2 := by
  obtain ⟨hpath, hredirects⟩ := n.resolver.resolve_stays entry.state.path hstay
  have hresult : (n.popState entry.state h).1 = match (n.load entry.state.path false h).1 with
      | .ok nav => .ok nav
      | .error e => .error (.navigation e) := by
    unfold popState
    rcases n.load entry.state.path false h with ⟨_ | _, _⟩ <;> rfl
  refine ⟨?_, hredirects, ?_, ?_⟩
  · rw [hresult]
    rcases n.fst_load entry.state.path false h with ⟨outcome, he⟩ | ⟨cause, he⟩ <;> rw [he]
    · exact congrArg some hpath
    · exact congrArg some hpath
  · intro nav hnav
    rw [hresult] at hnav
    rcases n.fst_load entry.state.path false h with ⟨outcome, he⟩ | ⟨cause, he⟩ <;>
      rw [he] at hnav <;> cases hnav
    exact hredirects
  · obtain ⟨calls, hcalls, hall⟩ :=
      n.performs_present (n.resolver.resolve entry.state.path) false h
    rw [hpath] at hcalls
    refine ⟨n.enter entry.state.path false h, calls,
      (n.performs_opening_iff _ _ _ _).2 rfl, ?_, hall, hrec.title_eq.symm, ?_⟩
    · rw [snd_popState]
      exact hcalls
    · intro hn
      have htabs := n.tabs_enter entry.state.path false h hn
      refine ⟨htabs, fun hends tab htab => ?_⟩
      rw [htabs] at htab
      exact h.tabs.selected_of_mem_select _ _ hends tab htab

/-- **Moves show the recorded page.**  Whatever has been asked of a navigator that started with an
empty history, a move to an entry replays the page of that entry, title and tabs included, if the
navigation that pushed the entry was not cut off, or if no redirect is allowed; otherwise the replay
follows a redirect. -/
theorem replay_recorded (hn : n.LeavesHistory) (start : Host ω) (hq : start.Quiet)
    (hnew : start.page.history = {}) (requests : List Request) (d : Direction) (history : History)
    (state : HistoryState)
    (hmove : (n.serveAll requests start).page.history.move d = (history, some state)) :
    ∃ entry path,
      (n.replay d (n.serveAll requests start)).2.page.history = history ∧
      history.current? = some entry ∧ entry.state = state ∧
      .navigate path ∈ requests ∧ n.Records path entry ∧
      (¬ (n.resolver.resolve path).IsCutOff ∨ n.resolver.maxRedirects = 0 →
        n.Replays entry ((n.serveAll requests start).onPage fun p => { p with history })
          (n.replay d (n.serveAll requests start)).1 (n.replay d (n.serveAll requests start)).2) ∧
      ((n.resolver.resolve path).IsCutOff → n.resolver.maxRedirects ≠ 0 →
        0 < (n.resolver.resolve entry.state.path).redirects) := by
  have hquiet := n.quiet_serveAll hn start hq requests
  obtain ⟨entry, hmem, hcurrent, rfl⟩ := History.current?_of_move _ history d state hmove
  rcases n.mem_entries_serveAll hn start hq requests entry hmem with hold | ⟨path, hpath, hrec⟩
  · rw [hnew] at hold
    cases hold
  have hcut : (n.resolver.resolve path).IsCutOff ↔
      (n.resolver.next? entry.state.path).isSome := by
    rw [n.resolver.isCutOff_iff_next?, hrec.path_eq]
  have hreplay : n.replay d (n.serveAll requests start) =
      ((n.popState entry.state
          ((n.serveAll requests start).onPage fun p => { p with history })).1.map some,
        (n.popState entry.state
          ((n.serveAll requests start).onPage fun p => { p with history })).2) := by
    rw [replay_eq_replayMove, replayMove, hmove]
  refine ⟨entry, path, ?_, hcurrent, rfl, hpath, hrec, fun hkept => ?_, fun hc hl => ?_⟩
  · rw [(n.history_replay hn _ hquiet d).2, hmove]
  · rw [hreplay]
    refine n.replays_of_stays path entry hrec ?_ _
    rw [hcut, Option.not_isSome_iff_eq_none] at hkept
    exact hkept
  · exact n.resolver.redirects_pos _ (hcut.1 hc) hl

end Navigator

/-! ## A page two redirects away -/

def topPath : RoutePath := ⟨["top"], by decide⟩

def landingPath : RoutePath := ⟨["landing"], by decide⟩

def groundPath : RoutePath := ⟨["ground"], by decide⟩

/-- Writes on the page where one has arrived. -/
def arrive : Handler (Host Unit) :=
  ⟨some 0, .onCall, fun _ h => (.ok (), h.onPage (Page.edit (.replace "ground")))⟩

/-- Under the root, `top` redirects to `landing` and `landing` to `ground`, which is a page. -/
def stairsMap : Sitemap (Handler (Host Unit)) (Fallback (Host Unit)) where
  root :=
    { tree := .node {}
        [("top", .node { target := some (.redirect landingPath) } []),
         ("landing", .node { target := some (.redirect groundPath) } []),
         ("ground", .node { target := some (.handler arrive) } [])]
      distinct := by simp [Tree.Distinct, Tree.DistinctAll] }
  faultless := by rfl

/-- Only one redirect is allowed. -/
def stairs : Navigator Unit where
  resolver := ⟨some stairsMap, Fallback.ignore, 1⟩
  selectTab := some Host.selectTab
  title := RoutePath.toUrl

def stairsHost : Host Unit := { page := { notes := () }, tabs := .ofNames ["landing", "ground"] }

theorem quiet_stairsHost : stairsHost.Quiet := by
  rintro c (hc | hc) <;> cases hc

/-- The slots of the stairs hold no handler but one, and no fallback. -/
theorem slots_stairsMap (path : RoutePath) (t : Tree (Handler (Host Unit)) (Fallback (Host Unit)))
    (ht : stairsMap.node? path = some t) :
    t.slots.notFound = none ∧ ∀ directive handler, t.slots.handler? directive = some handler →
      handler = arrive := by
  have hnode := Tree.mem_nodes_of_descend _ t path.segments ht
  simp only [stairsMap, Tree.nodes, Tree.childNodes, List.map_cons, List.map_nil, List.cons_append,
    List.nil_append, List.mem_cons, List.not_mem_nil, or_false, Prod.mk.injEq] at hnode
  obtain ⟨-, hslots⟩ | ⟨-, hslots⟩ | ⟨-, hslots⟩ | ⟨-, hslots⟩ := hnode <;> rw [hslots] <;>
    refine ⟨rfl, fun directive handler hh => ?_⟩ <;>
    cases directive <;> simp [Slots.handler?] at hh
  exact hh.symm

theorem leavesHistory_stairs : stairs.LeavesHistory where
  selectTab := by
    rintro select hs path
    cases hs
    exact leavesHistory_selectTab path
  handlers := by
    intro s path t directive handler hs ht hh
    cases hs
    rw [(slots_stairsMap path t ht).2 directive handler hh]
    exact fun remaining => leavesHistory_onPage _ fun _ => rfl
  fallbacks := by
    intro s path t f hs ht hf
    cases hs
    rw [(slots_stairsMap path t ht).1] at hf
    cases hf
  default := fun _ _ hq => ⟨hq, rfl⟩

/-- Down the stairs, the history keeps the landing, and a move back to it arrives on the ground. -/
theorem stairs_replay_elsewhere :
    stairs.LeavesHistory ∧ stairsHost.Quiet ∧ stairsHost.page.history = {} ∧
    ∃ entry nav,
      let before := stairs.serveAll [.navigate topPath, .navigate groundPath] stairsHost
      (stairs.replay .back before).1.toOption = some (some nav) ∧
      (stairs.replay .back before).2.page.history.current? = some entry ∧
      nav.path ≠ entry.state.path ∧ nav.redirects ≠ 0 ∧
      (stairs.replay .back before).2.page.document.title ≠ entry.title := by
  refine ⟨leavesHistory_stairs, quiet_stairsHost, rfl,
    ⟨⟨landingPath⟩, landingPath.toUrl, landingPath.toUrl, .epoch⟩, ⟨groundPath, 1, .completed⟩, ?_⟩
  refine ⟨?_, ?_, by decide, by decide, ?_⟩
  · decide +kernel
  · decide +kernel
  · decide +kernel

/-- The history of a visitor who has come down the stairs twice, at the second entry. -/
def stairsHistory : History :=
  ⟨[⟨⟨landingPath⟩, landingPath.toUrl, landingPath.toUrl, .epoch⟩,
    ⟨⟨groundPath⟩, groundPath.toUrl, groundPath.toUrl, .epoch⟩], some 1⟩

/-- Forward again, the ground is shown as it was recorded. -/
theorem stairs_replay_recorded :
    let before := stairs.serveAll [.navigate topPath, .navigate groundPath, .move .back] stairsHost
    stairs.LeavesHistory ∧ stairsHost.Quiet ∧ stairsHost.page.history = {} ∧
    before.page.history.move .forward = (stairsHistory, some ⟨groundPath⟩) ∧
    ∃ entry, stairsHistory.current? = some entry ∧ entry.state.path = groundPath ∧
      stairs.Replays entry (before.onPage fun p => { p with history := stairsHistory })
        (stairs.replay .forward before).1 (stairs.replay .forward before).2 := by
  intro before
  have hmove : before.page.history.move .forward = (stairsHistory, some ⟨groundPath⟩) := by
    decide +kernel
  obtain ⟨entry, path, -, hcurrent, hstate, -, hrec, hshown, -⟩ :=
    Navigator.replay_recorded stairs leavesHistory_stairs stairsHost quiet_stairsHost rfl
      [.navigate topPath, .navigate groundPath, .move .back] .forward stairsHistory ⟨groundPath⟩ hmove
  have hpath : entry.state.path = groundPath := by rw [hstate]
  have hkept : ¬ (stairs.resolver.resolve path).IsCutOff := by
    rw [Resolver.isCutOff_iff_next?, ← hrec.path_eq, hpath]
    decide +kernel
  exact ⟨leavesHistory_stairs, quiet_stairsHost, rfl, hmove, entry, hcurrent, hpath,
    hshown (Or.inl hkept)⟩

end Wayfinder
