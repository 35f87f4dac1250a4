import Wayfinder.Proofs.Navigation.Session
import Wayfinder.Proofs.Route.Cycles
import Wayfinder.Proofs.Tabs.Selection

/-!
# What recording changes

A navigation is recorded before its first handler runs.  Where nothing that is called reads or writes
the history, the navigation that is recorded and the one that is not call the same routines with the
same results, on hosts that differ in their histories alone:

    (n.load path true h).1 = (n.load path false h).1
    (n.load path true h).2 = (n.load path false h).2.withHistory (h.page.history.push entry)

The two runs are compared act by act: an act that ignores the history does the same under any other
history (`performs_withHistory`), and the acts after the opening are calls of handlers and of the
fallback (`calls_of_course`).
-/

namespace Wayfinder

variable {ω ι : Type}

/-! ## Definitions -/

namespace Page

/-- The page with another history. -/
def withHistory (history : History) (p : Page ω) : Page ω := { p with history }

end Page

namespace Host

/-- The host with another history. -/
def withHistory (history : History) (h : Host ω) : Host ω := h.onPage (Page.withHistory history)

/-- No callback of the tab bar reads or writes the history. -/
def Blind (h : Host ω) : Prop :=
  ∀ c, h.tabs.HasCallback c → ∀ history,
    Callback.Respects (fun p p' => p' = Page.withHistory history p) c

end Host

/-- On blind hosts, and without making them see, the action neither reads nor writes the history. -/
def IgnoresHistory (f : Action (Host ω)) : Prop :=
  ∀ h, h.Blind → (f h).2.Blind ∧
    ∀ history, f (h.withHistory history) = ((f h).1, (f h).2.withHistory history)

/-- The routine neither reads nor writes the history. -/
def Routine.IgnoresHistory (r : Routine (Host ω) ι) : Prop :=
  ∀ input, Wayfinder.IgnoresHistory (r.run input)

/-- The act calls a handler of the queue with what the queue says, or the fallback. -/
def Act.IsCallOf (r : Resolution (Handler (Host ω)) (Fallback (Host ω))) : Act ω → Prop
  | .handle handler remaining => ∃ directive node, .action directive node handler remaining ∈ r.queue
  | .recover fallback path _ => fallback = r.fallback ∧ path = r.path
  | _ => False

/-- Nothing that the navigator calls reads or writes the history. -/
structure Navigator.IgnoresHistory (n : Navigator ω) : Prop where
  selectTab : ∀ select, n.selectTab = some select → ∀ path,
    Wayfinder.IgnoresHistory fun h => (.ok (), select path h)
  handlers : ∀ s path t directive handler, n.resolver.sitemap = some s → s.node? path = some t →
    t.slots.handler? directive = some handler → handler.IgnoresHistory
  fallbacks : ∀ s path t f, n.resolver.sitemap = some s → s.node? path = some t →
    t.slots.notFound = some f → f.IgnoresHistory
  default : n.resolver.defaultFallback.IgnoresHistory

/-! ## Other histories -/

namespace Host

variable (h : Host ω) (history : History)

@[simp] theorem withHistory_withHistory (history' : History) :
    (h.withHistory history).withHistory history' = h.withHistory history' := rfl

@[simp] theorem withHistory_self : h.withHistory h.page.history = h := rfl

end Host

/-- What ignores the history leaves it as it is. -/
theorem IgnoresHistory.history_eq {f : Action (Host ω)} (hf : IgnoresHistory f) (h : Host ω)
    (hq : h.Blind) : (f h).2.page.history = h.page.history := by
  have hsame := (hf h hq).2 h.page.history
  rw [Host.withHistory_self] at hsame
  exact congrArg (fun out => out.2.page.history) hsame

theorem ignoresHistory_onPage (result : Except Failure Unit) (f : Page ω → Page ω)
    (hf : ∀ p history, f (p.withHistory history) = (f p).withHistory history) :
    IgnoresHistory fun h => (result, h.onPage f) := by
  intro h hq
  refine ⟨hq, fun history => ?_⟩
  show (result, (⟨f (h.page.withHistory history), h.tabs⟩ : Host ω)) = _
  rw [hf]
  rfl

/-- The tab bar reads and writes the history through its callbacks only. -/
theorem ignoresHistory_selectTab (path : RoutePath) :
    IgnoresHistory fun h : Host ω => (.ok (), h.selectTab path) := by
  intro h hq
  constructor
  · intro c hc
    exact hq c ((h.tabs.hasCallback_select path h.page c).1 hc)
  · intro history
    obtain ⟨htabs, hpage⟩ := h.tabs.select_alike (fun c hc => hq c hc history) path h.page
      (h.page.withHistory history) rfl
    show (Except.ok (), (⟨(h.tabs.select path (h.page.withHistory history)).2,
      (h.tabs.select path (h.page.withHistory history)).1⟩ : Host ω)) = _
    rw [← htabs, hpage]
    rfl

/-- Whatever the history, a selection on a blind host makes the same calls. -/
theorem Host.observe_withHistory (h : Host ω) (hq : h.Blind) (path : RoutePath)
    (history : History) :
    (h.tabs.observe path (h.page.withHistory history)).1 = (h.tabs.observe path h.page).1 :=
  (h.tabs.observe_alike (fun c hc => hq c hc history) path h.page _ rfl).symm

namespace Navigator

variable (n : Navigator ω)

/-! ## Acts -/

/-- Acts that ignore the history do under another history what they do under this one. -/
theorem performs_withHistory {log : Log ω}
    (hlog : ∀ e ∈ log, Wayfinder.IgnoresHistory (n.perform e.1)) {h h' : Host ω} (hq : h.Blind)
    (hl : n.Performs h log h') :
    h'.Blind ∧ h'.page.history = h.page.history ∧
      ∀ history, n.Performs (h.withHistory history) log (h'.withHistory history) := by
  induction hl with
  | nil h => exact ⟨hq, rfl, fun history => .nil _⟩
  | @cons a res log h h₁ h' ha _ ih =>
    have hact := hlog _ List.mem_cons_self
    obtain ⟨hq₁, hsame⟩ := hact h hq
    have hkept := hact.history_eq h hq
    rw [ha] at hq₁ hsame hkept
    obtain ⟨hq', hrest, hperforms⟩ := ih (fun e he => hlog e (List.mem_cons_of_mem _ he)) hq₁
    exact ⟨hq', hrest.trans hkept, fun history => .cons (hsame history) (hperforms history)⟩

section
variable (r : Resolution (Handler (Host ω)) (Fallback (Host ω)))

theorem isCallOf_handled {queue : List (QueueEntry (Handler (Host ω)))}
    (hqueue : ∀ e ∈ queue, e ∈ r.queue) : ∀ e ∈ handled queue, e.1.IsCallOf r := by
  intro e he
  obtain ⟨entry, hentry, he⟩ := List.mem_filterMap.1 he
  cases entry with
  | miss error => cases he
  | action directive node handler remaining =>
    cases he
    exact ⟨directive, node, hqueue _ hentry⟩

theorem isCallOf_fails {last : QueueEntry (Handler (Host ω))} {calls : Log ω}
    {error : NavigationError} (hlast : last ∈ r.queue) (hfails : Fails last calls error) :
    ∀ e ∈ calls, e.1.IsCallOf r := by
  intro e he
  cases hfails with
  | miss error => cases he
  | handler directive node handler remaining f =>
    rw [List.mem_singleton.1 he]
    exact ⟨directive, node, hlast⟩

/-- After the opening there are calls only, and they may follow the other opening as well. -/
theorem calls_of_course {record : Bool} {log : Log ω} {result : Except NavigateError Navigation}
    (hcourse : n.Course r record log result) :
    ∃ calls, log = n.opening r.path record ++ calls ∧ (∀ e ∈ calls, e.1.IsCallOf r) ∧
      ∀ record', n.Course r record' (n.opening r.path record' ++ calls) result := by
  have hfirst {ran later : List (QueueEntry (Handler (Host ω)))}
      {last : QueueEntry (Handler (Host ω))} {calls : Log ω} {error : NavigationError}
      (hq : r.queue = ran ++ last :: later) (hlast : Fails last calls error)
      (res : Except Failure Unit) :
      ∀ e ∈ handled ran ++ calls ++ [(.recover r.fallback r.path error, res)], e.1.IsCallOf r := by
    have hran : ∀ e ∈ handled ran, e.1.IsCallOf r := by
      apply isCallOf_handled
      intro e he
      rw [hq]
      exact List.mem_append_left _ he
    have hcalls := isCallOf_fails r (by rw [hq]; simp) hlast
    intro e he
    rcases List.mem_append.1 he with he | he
    · exact (List.mem_append.1 he).elim (hran e) (hcalls e)
    · rw [List.mem_singleton.1 he]
      exact ⟨rfl, rfl⟩
  cases hcourse with
  | completed hall =>
    exact ⟨_, rfl, isCallOf_handled r fun _ he => he, fun _ => .completed hall⟩
  | recovered hq hran hlast =>
    refine ⟨_, List.append_assoc _ _ _, hfirst hq hlast _, fun record' => ?_⟩
    rw [← List.append_assoc]
    exact .recovered hq hran hlast
  | failed hq hran hlast =>
    refine ⟨_, List.append_assoc _ _ _, hfirst hq hlast _, fun record' => ?_⟩
    rw [← List.append_assoc]
    exact .failed hq hran hlast

end

/-! ## Two runs of a navigation -/

section
variable (hn : n.IgnoresHistory)

include hn

theorem ignoresHistory_select (path : RoutePath) :
    Wayfinder.IgnoresHistory (n.perform (.select path)) := by
  cases hs : n.selectTab with
  | none =>
    have hperform : n.perform (.select path) = fun h => (.ok (), h) :=
      funext fun h => n.perform_select_of_none path h hs
    rw [hperform]
    exact fun h hq => ⟨hq, fun _ => rfl⟩
  | some select =>
    have hperform : n.perform (.select path) = fun h => (.ok (), select path h) :=
      funext fun h => n.perform_select_of_some path h hs
    rw [hperform]
    exact hn.selectTab select hs path

/-- What comes before the first handler of a navigation that is not recorded. -/
theorem ignoresHistory_opening (path : RoutePath) :
    ∀ e ∈ n.opening path false, Wayfinder.IgnoresHistory (n.perform e.1) := by
  intro e he
  have hcases : e = (.select path, .ok ()) ∨ e = (.setTitle (n.title path), .ok ()) := by
    simpa [opening] using he
  rcases hcases with rfl | rfl
  · exact n.ignoresHistory_select hn path
  · exact ignoresHistory_onPage (.ok ()) _ fun _ _ => rfl

/-- What the queue and the fallback of a path call. -/
theorem ignoresHistory_call (path : RoutePath) (a : Act ω)
    (ha : a.IsCallOf (n.resolver.resolve path)) : Wayfinder.IgnoresHistory (n.perform a) := by
  cases a with
  | handle handler remaining =>
    obtain ⟨directive, node, he⟩ := ha
    obtain ⟨s, t, hs, ht, hh⟩ := n.resolver.handler_of_mem_queue path _ _ _ _ he
    exact hn.handlers s node t directive handler hs ht hh remaining
  | recover fallback place error =>
    obtain ⟨rfl, -⟩ := ha
    rcases n.resolver.fallback_resolve_cases path with hd | ⟨s, node, t, hs, ht, hf⟩
    · show Wayfinder.IgnoresHistory ((n.resolver.resolve path).fallback.run (place, error))
      rw [hd]
      exact hn.default (place, error)
    · exact hn.fallbacks s node t _ hs ht hf (place, error)
  | _ => exact ha.elim

/-- With the push before them, the calls do to the host what they do without it. -/
theorem performs_recorded (path : RoutePath) {calls : Log ω}
    (hcalls : ∀ e ∈ calls, e.1.IsCallOf (n.resolver.resolve path)) {h h' : Host ω} (hq : h.Blind)
    (hl : n.Performs h (n.opening (n.resolver.resolve path).path false ++ calls) h') :
    h'.page.history = h.page.history ∧
      ∃ entry, n.Records path entry ∧
        n.Performs h (n.opening (n.resolver.resolve path).path true ++ calls)
          (h'.withHistory (h.page.history.push entry)) := by
  obtain ⟨h₀, hopening, hrest⟩ := (n.performs_append_iff _ _ _ _).1 hl
  obtain ⟨hq₀, hkept₀, -⟩ := n.performs_withHistory (n.ignoresHistory_opening hn _) hq hopening
  obtain ⟨-, hkept, hother⟩ :=
    n.performs_withHistory (fun e he => n.ignoresHistory_call hn path e.1 (hcalls e he)) hq₀ hrest
  let shown := (n.resolver.resolve path).path
  refine ⟨hkept.trans hkept₀, ⟨⟨shown⟩, n.title shown, shown.toUrl, h₀.page.now⟩, ?_, ?_⟩
  · exact ⟨rfl, rfl, rfl⟩
  have hpush : n.perform (.push shown (n.title shown)) h₀ = (.ok (), h₀.withHistory
      (h.page.history.push ⟨⟨shown⟩, n.title shown, shown.toUrl, h₀.page.now⟩)) := by
    rw [perform_push, hkept₀]
    rfl
  have hopening' : n.opening shown true =
      n.opening shown false ++ [(.push shown (n.title shown), .ok ())] := rfl
  rw [hopening', List.append_assoc, performs_append_iff]
  exact ⟨h₀, hopening, .cons hpush (hother _)⟩

variable (path : RoutePath) (h : Host ω) (hq : h.Blind)

include hq

/-- **What recording changes.**  Recorded or not, a navigation ends with the same result, calls the
same handlers and the same fallback in the same order with the same results, and leaves the same host
but for the history: this is as it was, with one entry pushed if the navigation is recorded.  A
selection of tabs tells the same under any history.  So an entry that is replayed does what a
navigation to its path does, without the push. -/
theorem recording_only_pushes :
    (n.load path true h).1 = (n.load path false h).1 ∧
    (n.load path false h).2.page.history = h.page.history ∧
    (∃ entry, n.Records path entry ∧ (n.load path true h).2 =
      (n.load path false h).2.withHistory (h.page.history.push entry)) ∧
    (n.load path true h).2.page.document = (n.load path false h).2.page.document ∧
    (n.load path true h).2.tabs = (n.load path false h).2.tabs ∧
    (∃ calls, (∀ e ∈ calls, e.1.IsCallOf (n.resolver.resolve path)) ∧ ∀ record,
      n.Course (n.resolver.resolve path) record
        (n.opening (n.resolver.resolve path).path record ++ calls) (n.load path record h).1 ∧
      n.Performs h (n.opening (n.resolver.resolve path).path record ++ calls)
        (n.load path record h).2) ∧
    (∀ (h' : Host ω) (place : RoutePath) (history : History), h'.Blind →
      (h'.tabs.observe place (h'.page.withHistory history)).1 =
        (h'.tabs.observe place h'.page).1) ∧
    n.popState ⟨path⟩ h = ((n.navigate path h).1.mapError .navigation,
      (n.navigate path h).2.withHistory h.page.history) := by
  obtain ⟨log, hcourse, hperforms⟩ :=
    (n.present_eq_iff (n.resolver.resolve path) false h _ _).1 (Prod.eta _).symm
  obtain ⟨calls, rfl, hcalls, hboth⟩ := n.calls_of_course _ hcourse
  obtain ⟨hkept, entry, hentry, hrecorded⟩ := n.performs_recorded hn path hcalls hq hperforms
  have htrue : n.load path true h =
      ((n.load path false h).1, (n.load path false h).2.withHistory (h.page.history.push entry)) :=
    (n.present_eq_iff (n.resolver.resolve path) true h _ _).2 ⟨_, hboth true, hrecorded⟩
  have hunrecorded : (n.load path false h).2.withHistory h.page.history = (n.load path false h).2 := by
    rw [← hkept]
    exact Host.withHistory_self _
  refine ⟨by rw [htrue], hkept, ⟨entry, hentry, by rw [htrue]⟩, by rw [htrue]; rfl,
    by rw [htrue]; rfl, ⟨calls, hcalls, ?calls⟩,
    fun h' place history hq' => h'.observe_withHistory hq' place history, ?replay⟩
  case calls =>
    rintro (_ | _)
    · exact ⟨hboth false, hperforms⟩
    · rw [htrue]
      exact ⟨hboth true, hrecorded⟩
  case replay =>
    rw [navigate, htrue, Host.withHistory_withHistory, hunrecorded, popState]
    rcases n.load path false h with ⟨_ | _, _⟩ <;> rfl

end

end Navigator

/-! ## A kiosk out of order -/

def orderPath : RoutePath := ⟨["order"], by decide⟩

/-- Starts on an order and gives up. -/
def brew : Handler (Host (List String)) :=
  ⟨some 0, .onCall, fun _ h =>
    (.error (.message "no beans"), h.onPage (Page.edit (.append "one moment, ")))⟩

/-- Says why, and fails as well. -/
def apologize : Fallback (Host (List String)) :=
  ⟨some 1, .onAwait, fun (_, error) h =>
    (.error (.message "closed"), h.onPage (Page.edit (.append error.message)))⟩

def kioskMap : Sitemap (Handler (Host (List String))) (Fallback (Host (List String))) where
  root :=
    { tree := .node { notFound := some apologize }
        [("order", .node { target := some (.handler brew) } [])]
      distinct := by simp [Tree.Distinct, Tree.DistinctAll] }
  faultless := by rfl

def kiosk : Navigator (List String) where
  resolver := ⟨some kioskMap, Fallback.ignore, 16⟩
  selectTab := some Host.selectTab
  title := RoutePath.toUrl

/-- Keeps the names of the tabs that it is told of. -/
def noteTab : Callback (Page (List String)) :=
  fun tab _ p => .done { p with notes := p.notes ++ [tab.name] }

def kioskHost : Host (List String) where
  page := { notes := [] }
  tabs := ⟨[⟨"order", false⟩], some noteTab, none⟩

theorem blind_kioskHost : kioskHost.Blind := by
  rintro c (hc | hc) history
  · cases hc
    rintro tab tabs p _ rfl
    exact .done rfl
  · cases hc

/-- The kiosk holds one handler and one fallback. -/
theorem slots_kioskMap (path : RoutePath)
    (t : Tree (Handler (Host (List String))) (Fallback (Host (List String))))
    (ht : kioskMap.node? path = some t) :
    (∀ f, t.slots.notFound = some f → f = apologize) ∧
      ∀ directive handler, t.slots.handler? directive = some handler → handler = brew := by
  have hnode := Tree.mem_nodes_of_descend _ t path.segments ht
  simp only [kioskMap, Tree.nodes, Tree.childNodes, List.map_cons, List.map_nil, List.append_nil,
    List.mem_cons, List.not_mem_nil, or_false, Prod.mk.injEq] at hnode
  obtain ⟨-, hslots⟩ | ⟨-, hslots⟩ := hnode <;> rw [hslots]
  · constructor
    · intro f hf
      exact (Option.some.inj hf).symm
    · intro directive handler hh
      cases directive <;> cases hh
  · constructor
    · intro f hf
      cases hf
    · intro directive handler hh
      cases directive <;> cases hh
      rfl

theorem ignoresHistory_kiosk : kiosk.IgnoresHistory where
  selectTab := by
    rintro select hs path
    cases hs
    exact ignoresHistory_selectTab path
  handlers := by
    intro s path t directive handler hs ht hh remaining
    cases hs
    rw [(slots_kioskMap path t ht).2 directive handler hh]
    exact ignoresHistory_onPage _ _ fun _ _ => rfl
  fallbacks := by
    rintro s path t f hs ht hf ⟨place, error⟩
    cases hs
    rw [(slots_kioskMap path t ht).1 f hf]
    exact ignoresHistory_onPage _ _ fun _ _ => rfl
  default := fun _ h hq => ⟨hq, fun _ => rfl⟩

/-- An order fails in the same words whether it is recorded or not, and it is recorded all the
same. -/
theorem kiosk_recording :
    kiosk.IgnoresHistory ∧ kioskHost.Blind ∧
    (kiosk.load orderPath true kioskHost).1 = .error ⟨orderPath, .message "closed"⟩ ∧
    (kiosk.load orderPath true kioskHost).2.page.document = ⟨"/order", "one moment, no beans"⟩ ∧
    (kiosk.load orderPath false kioskHost).2.page.notes = ["order"] ∧
    ∃ entry, entry.title = "/order" ∧ (kiosk.load orderPath true kioskHost).2 =
      (kiosk.load orderPath false kioskHost).2.withHistory (({} : History).push entry) := by
  obtain ⟨hresult, -, ⟨entry, hentry, hpushed⟩, hdocument, -⟩ :=
    kiosk.recording_only_pushes ignoresHistory_kiosk orderPath kioskHost blind_kioskHost
  have htitle : kiosk.title (kiosk.resolver.resolve orderPath).path = "/order" := by decide +kernel
  rw [← hentry.path_eq, ← hentry.title_eq] at htitle
  refine ⟨ignoresHistory_kiosk, blind_kioskHost, hresult.trans ?_, hdocument.trans ?_, ?_, entry,
    htitle, hpushed⟩
  · decide +kernel
  · decide +kernel
  · decide +kernel

end Wayfinder
