import Mathlib.Data.List.Chain
import Mathlib.Data.List.Nodup
import Wayfinder.Proofs.Tabs.Callbacks

/-!
# What a tab bar tells

A selection sets all flags and then tells of tabs in their order: of each one that matches, and of
each one that was selected and does not match.  `TabBar.observe` is a selection with a note of every
call of a callback.  Where callbacks do not select again,

    (b.observe path s).1 = (events with a callback).map (⟨·, the tabs after it⟩)     (observe_eq)

and where both callbacks are there from the start, what has been told of a tab says at any time
whether it is selected:

    Tells (toldAt i paths b.tabs) (the flag of tab i after paths)                    (tells_toldAt)
-/

namespace Wayfinder

variable {σ : Type}

/-! ## Definitions -/

/-- A call of a callback: the tab that it is told of, and all tabs as it finds them. -/
structure Delivery where
  event : Tab
  seen : List Tab

/-- A reaction that hands on a log beside its state. -/
def Reaction.noting : Reaction σ → List Delivery → Reaction (σ × List Delivery)
  | .done s, log => .done (s, log)
  | .select path s next, log =>
    .select path (s, log) fun tabs s' => (next tabs s'.1).noting s'.2

/-- The callback with a note of each of its calls. -/
def Callback.noting (c : Callback σ) : Callback (σ × List Delivery) := fun tab tabs s =>
  (c tab tabs s.1).noting (s.2 ++ [⟨tab, tabs⟩])

namespace TabBar

/-- The bar with a note of each call of a callback. -/
def noting (b : TabBar σ) : TabBar (σ × List Delivery) :=
  ⟨b.tabs, b.onSelect.map Callback.noting, b.onDeselect.map Callback.noting⟩

/-- A selection: the calls that it makes, and the bar and the state after it. -/
def observe (path : RoutePath) (b : TabBar σ) (s : σ) : List Delivery × TabBar σ × σ :=
  let after := b.noting.select path (s, [])
  (after.2.2, { b with tabs := after.1.tabs }, after.2.1)

/-- Selections in order. -/
def selectAll (paths : List RoutePath) (b : TabBar σ) (s : σ) : TabBar σ × σ :=
  paths.foldl (fun b path => b.1.select path b.2) (b, s)

/-- Selections in order, with the calls that each of them makes. -/
def observeAll : List RoutePath → TabBar σ → σ → List (List Delivery) × TabBar σ × σ
  | [], b, s => ([], b, s)
  | path :: paths, b, s =>
    let first := b.observe path s
    let rest := observeAll paths first.2.1 first.2.2
    (first.1 :: rest.1, rest.2)

/-- The tabs that a selection tells of, in order, each with its place and its new flag. -/
def told (path : RoutePath) (tabs : List Tab) : List (Nat × Tab) :=
  tabs.zipIdx.filterMap fun (t, i) => (t.event? path).map (i, ·)

/-- The tabs that selections in order tell of. -/
def toldAll : List RoutePath → List Tab → List (Nat × Tab)
  | [], _ => []
  | path :: paths, tabs => told path tabs ++ toldAll paths (tabs.map (·.after path))

/-- The flags that selections in order tell of the tab at a place. -/
def toldAt (i : Nat) (paths : List RoutePath) (tabs : List Tab) : List Bool :=
  ((toldAll paths tabs).filter (·.1 = i)).map (·.2.selected)

/-- What one selection does. -/
structure Selects (b : TabBar σ) (path : RoutePath) (calls : List Delivery) (b' : TabBar σ) :
    Prop where
  names_eq : b'.tabs.map (·.name) = b.tabs.map (·.name)
  selected_iff : ∀ t ∈ b'.tabs, t.selected = true ↔ path.head? = some t.name
  /-- One event for each tab that matches and for each that was selected and does not match, in
  order, and no others. -/
  sorted : (told path b.tabs).Pairwise (·.1 < ·.1)
  mem_told : ∀ i e, (i, e) ∈ told path b.tabs ↔ ∃ t, b.tabs[i]? = some t ∧
    (path.head? = some t.name ∧ e = { t with selected := true } ∨
      path.head? ≠ some t.name ∧ t.selected = true ∧ e = { t with selected := false })
  /-- Each event is told to its callback, if there is one, when all flags are set. -/
  calls_eq : calls = ((told path b.tabs).filter fun e => (b.callbackFor e.2).isSome).map
    fun e => ⟨e.2, b'.tabs⟩

/-- What has been told of a tab says whether it is selected; and it is never told of as deselected
unless it was told of as selected since. -/
structure Tells (flags : List Bool) (selected : Bool) : Prop where
  selected_iff : selected = true ↔ flags.getLast? = some true
  head_ne : flags.head? ≠ some false
  between : ∀ earlier middle later, flags = earlier ++ false :: middle ++ false :: later →
    true ∈ middle

/-- At most one tab is selected, and it is the one that the bar calls selected. -/
structure SelectsOne (b : TabBar σ) : Prop where
  length_le : (b.tabs.filter (·.selected)).length ≤ 1
  selected?_eq : ∀ t ∈ b.tabs, t.selected = true → b.selected? = some t

end TabBar

/-! ## Tabs of different names -/

/-- Where names differ, one tab at most is for a path. -/
theorem length_filter_isFor (tabs : List Tab) (path : RoutePath)
    (h : (tabs.map (·.name)).Nodup) : (tabs.filter (·.isFor path)).length ≤ 1 := by
  have hname : ∀ name ∈ (tabs.filter (·.isFor path)).map (·.name), path.head? = some name := by
    intro name hname
    obtain ⟨tab, htab, rfl⟩ := List.mem_map.1 hname
    exact of_decide_eq_true (List.mem_filter.1 htab).2
  have hnodup : ((tabs.filter (·.isFor path)).map (·.name)).Nodup :=
    h.sublist (List.filter_sublist.map _)
  rcases hl : tabs.filter (·.isFor path) with _ | ⟨a, _ | ⟨b, rest⟩⟩
  · rw [hl]
    exact Nat.zero_le 1
  · rw [hl]
    exact Nat.le_refl 1
  · rw [hl] at hname hnodup
    have ha := hname a.name (by simp)
    have hb := hname b.name (by simp)
    rw [ha] at hb
    simp [Option.some.inj hb] at hnodup

namespace TabBar

/-- Where names differ, one tab at most is selected. -/
theorem length_filter_after (tabs : List Tab) (path : RoutePath)
    (h : (tabs.map (·.name)).Nodup) :
    ((tabs.map (·.after path)).filter (·.selected)).length ≤ 1 := by
  have hfilter : (tabs.map (·.after path)).filter (·.selected) =
      (tabs.filter (·.isFor path)).map (·.after path) := by
    rw [List.filter_map]
    rfl
  rw [hfilter, List.length_map]
  exact length_filter_isFor tabs path h

theorem selectsOne_of_length_le (b : TabBar σ)
    (h : (b.tabs.filter (·.selected)).length ≤ 1) : b.SelectsOne := by
  refine ⟨h, fun t ht hselected => ?_⟩
  have hmem : t ∈ b.tabs.filter (·.selected) := List.mem_filter.2 ⟨ht, hselected⟩
  obtain ⟨first, hfirst⟩ := List.length_eq_one_iff.1
    (Nat.le_antisymm h (List.length_pos_of_mem hmem))
  rw [hfirst] at hmem
  rw [selected?, ← List.head?_filter, hfirst, List.mem_singleton.1 hmem]
  rfl

section
variable {H F : Type} (s : Sitemap H F)

theorem names_ofSitemap : (ofSitemap s : TabBar σ).tabs.map (·.name) =
    (s.root.tree.children.filter (·.2.slots.hasTarget)).map (·.1) := by
  simp [ofSitemap, ofNames, Function.comp_def]

theorem sublist_names_ofSitemap :
    ((ofSitemap s : TabBar σ).tabs.map (·.name)).Sublist s.root.childNames := by
  rw [names_ofSitemap]
  exact List.filter_sublist.map _

/-- The tabs of a sitemap have different names, and none of them is selected. -/
theorem nodup_names_ofSitemap : ((ofSitemap s : TabBar σ).tabs.map (·.name)).Nodup :=
  s.root.nodup_childNames.sublist (sublist_names_ofSitemap s)

theorem selected_ofSitemap (tab : Tab) (h : tab ∈ (ofSitemap s : TabBar σ).tabs) :
    tab.selected = false := by
  obtain ⟨name, -, rfl⟩ := List.mem_map.1 h
  rfl

end

/-! ## The tabs that a selection tells of -/

section
variable (path : RoutePath) (tabs : List Tab)

/-- A tab is told of as selected if it matches, and as deselected if it was selected and does not. -/
theorem event?_eq_some_iff (t e : Tab) : t.event? path = some e ↔
    path.head? = some t.name ∧ e = { t with selected := true } ∨
      path.head? ≠ some t.name ∧ t.selected = true ∧ e = { t with selected := false } := by
  have hafter : t.after path = { t with selected := decide (path.head? = some t.name) } := rfl
  rw [Tab.event?, hafter, Tab.isFor]
  by_cases hfor : path.head? = some t.name
  · simpa [hfor] using eq_comm
  · cases hselected : t.selected with
    | false => simp [hfor]
    | true => simpa [hfor] using eq_comm

theorem map_snd_told : (told path tabs).map Prod.snd = tabs.filterMap (·.event? path) := by
  have hfst : tabs = tabs.zipIdx.map Prod.fst := (List.zipIdx_map_fst 0 tabs).symm
  conv_rhs => rw [hfst, List.filterMap_map]
  rw [told, List.map_filterMap]
  refine List.filterMap_congr fun e _ => ?_
  simp [Function.comp_def]

theorem pairwise_told : (told path tabs).Pairwise (·.1 < ·.1) := by
  have hplaces : tabs.zipIdx.Pairwise (·.2 < ·.2) := by
    rw [← List.pairwise_map (f := Prod.snd) (R := (· < ·)), List.zipIdx_map_snd]
    exact List.pairwise_lt_range'
  refine hplaces.filterMap _ fun a a' hlt e he e' he' => ?_
  obtain ⟨_, -, rfl⟩ := Option.map_eq_some_iff.1 he
  obtain ⟨_, -, rfl⟩ := Option.map_eq_some_iff.1 he'
  exact hlt

theorem mem_told (i : Nat) (e : Tab) :
    (i, e) ∈ told path tabs ↔ ∃ t, tabs[i]? = some t ∧ t.event? path = some e := by
  simp only [told, List.mem_filterMap, Prod.exists, List.mem_zipIdx_iff_getElem?,
    Option.map_eq_some_iff, Prod.mk.injEq]
  constructor
  · rintro ⟨t, j, ht, e', he, rfl, rfl⟩
    exact ⟨t, ht, he⟩
  · rintro ⟨t, ht, he⟩
    exact ⟨t, i, ht, e, he, rfl, rfl⟩

end

/-! ## The calls that a selection makes -/

section
variable (b : TabBar σ) (path : RoutePath) (s : σ)

theorem callbackFor_noting (event : Tab) :
    b.noting.callbackFor event = (b.callbackFor event).map Callback.noting := by
  unfold callbackFor
  split <;> rfl

variable (hb : ∀ c, b.HasCallback c → Callback.Ends c)

include hb

/-- Events are told in order, each to its callback, while the tabs stay as they are. -/
theorem deliver_noting (select : RoutePath → Scene σ → Option (Scene σ))
    (select' : RoutePath → Scene (σ × List Delivery) → Option (Scene (σ × List Delivery)))
    (events tabs : List Tab) (log : List Delivery) :
    ∃ s', b.deliver select events (tabs, s) = some (tabs, s') ∧
      b.noting.deliver select' events (tabs, s, log) =
        some (tabs, s', log ++ (events.filter fun e => (b.callbackFor e).isSome).map (⟨·, tabs⟩)) := by
  induction events generalizing s log with
  | nil => exact ⟨s, rfl, by simp [deliver]⟩
  | cons e events ih =>
    simp only [deliver, callbackFor_noting]
    cases hc : b.callbackFor e with
    | none =>
      obtain ⟨s', hplain, hnoted⟩ := ih s log
      exact ⟨s', hplain, by rw [List.filter_cons_of_neg (by simp [hc])]; exact hnoted⟩
    | some c =>
      obtain ⟨s₁, hs₁⟩ := hb c (b.hasCallback_of_callbackFor e c hc) e tabs s
      obtain ⟨s', hplain, hnoted⟩ := ih s₁ (log ++ [⟨e, tabs⟩])
      refine ⟨s', ?_, ?_⟩
      · simp only [hs₁]
        exact hplain
      · rw [List.filter_cons_of_pos (by simp [hc]), List.map_cons, List.append_cons]
        simp only [Option.map_some, Callback.noting, hs₁]
        exact hnoted

omit hb in
/-- A selection that tells its events to their end leaves what it finds there. -/
theorem select_of_deliver {nesting : Nat} (hlimit : nestingLimit = nesting + 1) (tabs : List Tab)
    (s' : σ) (h : b.deliver (b.selectWithin nesting) (b.tabs.filterMap (·.event? path))
      (b.tabs.map (·.after path), s) = some (tabs, s')) :
    b.select path s = ({ b with tabs }, s') := by
  rw [select, select?, hlimit, selectWithin, h]
  rfl

/-- What is to be seen of a selection, and that to see it is not to change it. -/
theorem observe_eq : b.observe path s =
    (((told path b.tabs).filter fun e => (b.callbackFor e.2).isSome).map
      fun e => ⟨e.2, b.tabs.map (·.after path)⟩, b.select path s) := by
  obtain ⟨nesting, hlimit⟩ : ∃ nesting, nestingLimit = nesting + 1 :=
    Nat.exists_eq_succ_of_ne_zero (by decide)
  obtain ⟨s', hplain, hnoted⟩ := b.deliver_noting s hb (b.selectWithin nesting)
    (b.noting.selectWithin nesting) (b.tabs.filterMap (·.event? path))
    (b.tabs.map (·.after path)) []
  rw [observe, b.noting.select_of_deliver path (s, []) hlimit _ _ hnoted,
    b.select_of_deliver path s hlimit _ _ hplain, ← map_snd_told, List.filter_map, List.map_map]
  rfl

end

/-! ## Calls in related states -/

/-- States related by `R`, with the same calls noted. -/
def NotedAlike (R : σ → σ → Prop) (a b : σ × List Delivery) : Prop := R a.1 b.1 ∧ a.2 = b.2

theorem noting_alike {R : σ → σ → Prop} {re re' : Reaction σ} (h : re.Alike R re')
    (log : List Delivery) : (re.noting log).Alike (NotedAlike R) (re'.noting log) := by
  induction h generalizing log with
  | done hs => exact .done ⟨hs, rfl⟩
  | select hs _ ih =>
    refine .select ⟨hs, rfl⟩ ?_
    rintro tabs ⟨t, log⟩ ⟨t', _⟩ ⟨ht, rfl⟩
    exact ih tabs t t' ht log

theorem respects_of_hasCallback_noting {R : σ → σ → Prop} {b : TabBar σ}
    (hb : ∀ c, b.HasCallback c → Callback.Respects R c) (c : Callback (σ × List Delivery))
    (hc : b.noting.HasCallback c) : c.Respects (NotedAlike R) := by
  obtain ⟨plain, hplain, rfl⟩ : ∃ plain, b.HasCallback plain ∧ plain.noting = c := by
    rcases hc with hc | hc
    · obtain ⟨plain, hplain, hnoting⟩ := Option.map_eq_some_iff.1 hc
      exact ⟨plain, Or.inl hplain, hnoting⟩
    · obtain ⟨plain, hplain, hnoting⟩ := Option.map_eq_some_iff.1 hc
      exact ⟨plain, Or.inr hplain, hnoting⟩
  rintro tab tabs ⟨t, log⟩ ⟨t', _⟩ ⟨ht, rfl⟩
  exact noting_alike (hb plain hplain tab tabs t t' ht) _

/-- In related states, a selection makes the same calls. -/
theorem observe_alike {R : σ → σ → Prop} (b : TabBar σ)
    (hb : ∀ c, b.HasCallback c → Callback.Respects R c) (path : RoutePath) (s s' : σ)
    (hs : R s s') : (b.observe path s).1 = (b.observe path s').1 :=
  (b.noting.select_alike (respects_of_hasCallback_noting hb) path (s, []) (s', [])
    ⟨hs, rfl⟩).2.2

/-! ## Selections that follow each other -/

/-- Of two selections only the second one counts. -/
theorem after_after (path path' : RoutePath) (tabs : List Tab) :
    (tabs.map (·.after path)).map (·.after path') = tabs.map (·.after path') := by
  rw [List.map_map]
  rfl

theorem name_foldl_after (paths : List RoutePath) (t : Tab) :
    (paths.foldl (fun t path => t.after path) t).name = t.name := by
  induction paths generalizing t with
  | nil => rfl
  | cons path paths ih => exact ih (t.after path)

section
variable (b : TabBar σ) (paths : List RoutePath) (s : σ)

theorem selectAll_cons (path : RoutePath) :
    b.selectAll (path :: paths) s = (b.select path s).1.selectAll paths (b.select path s).2 := rfl

theorem selectAll_concat (path : RoutePath) : b.selectAll (paths ++ [path]) s =
    (b.selectAll paths s).1.select path (b.selectAll paths s).2 := by
  rw [selectAll, List.foldl_append]
  rfl

/-- Selections change the tabs of a bar, and not its callbacks. -/
theorem hasCallback_selectAll (c : Callback σ) :
    (b.selectAll paths s).1.HasCallback c ↔ b.HasCallback c := by
  induction paths generalizing b s with
  | nil => exact Iff.rfl
  | cons path paths ih => rw [selectAll_cons, ih, hasCallback_select]

variable (hb : ∀ c, b.HasCallback c → Callback.Ends c)

include hb

theorem tabs_selectAll : (b.selectAll paths s).1.tabs =
    b.tabs.map fun t => paths.foldl (fun t path => t.after path) t := by
  induction paths generalizing b s with
  | nil => exact (List.map_id _).symm
  | cons path paths ih =>
    rw [selectAll_cons, ih _ _ fun c hc => hb c ((b.hasCallback_select path s c).1 hc),
      b.tabs_select path s hb, List.map_map]
    rfl

theorem snd_observeAll : (b.observeAll paths s).2 = b.selectAll paths s := by
  induction paths generalizing b s with
  | nil => rfl
  | cons path paths ih =>
    rw [observeAll, b.observe_eq path s hb, selectAll_cons]
    exact ih _ _ fun c hc => hb c ((b.hasCallback_select path s c).1 hc)

/-- Where both callbacks are there, every event is told. -/
theorem map_event_observeAll (hselect : b.onSelect.isSome = true)
    (hdeselect : b.onDeselect.isSome = true) :
    (b.observeAll paths s).1.flatten.map (·.event) = (toldAll paths b.tabs).map Prod.snd := by
  induction paths generalizing b s with
  | nil => rfl
  | cons path paths ih =>
    have hall (e : Nat × Tab) (_ : e ∈ told path b.tabs) :
        (b.callbackFor e.2).isSome = true := by
      unfold callbackFor
      split
      · exact hselect
      · exact hdeselect
    have hrest := ih (b.select path s).1 (b.select path s).2
      (fun c hc => hb c ((b.hasCallback_select path s c).1 hc))
      (by rw [select_fst]; exact hselect) (by rw [select_fst]; exact hdeselect)
    rw [b.tabs_select path s hb] at hrest
    rw [observeAll, b.observe_eq path s hb, toldAll, List.filter_eq_self.2 hall]
    simp only [List.flatten_cons, List.map_append, List.map_map, hrest]
    rfl

end

/-! ## What is told of one tab -/

/-- In a list in order of places a place has one entry at most. -/
theorem filter_place {α : Type} (l : List (Nat × α)) (h : l.Pairwise (·.1 < ·.1)) (i : Nat) (a : α)
    (ha : (i, a) ∈ l) : l.filter (·.1 = i) = [(i, a)] := by
  induction l with
  | nil => cases ha
  | cons e l ih =>
    obtain ⟨hfirst, hrest⟩ := List.pairwise_cons.1 h
    rcases List.mem_cons.1 ha with rfl | ha
    · have hnone : l.filter (·.1 = i) = [] :=
        List.filter_eq_nil_iff.2 fun e' he' => by simpa using Nat.ne_of_gt (hfirst e' he')
      rw [List.filter_cons_of_pos (by simp), hnone]
    · rw [List.filter_cons_of_neg (by simpa using Nat.ne_of_lt (hfirst _ ha)), ih hrest ha]

theorem toldAt_cons (i : Nat) (path : RoutePath) (paths : List RoutePath) (tabs : List Tab) (t : Tab)
    (ht : tabs[i]? = some t) : toldAt i (path :: paths) tabs =
      ((t.event? path).map (·.selected)).toList ++ toldAt i paths (tabs.map (·.after path)) := by
  have hnow : (told path tabs).filter (·.1 = i) = ((t.event? path).map (i, ·)).toList := by
    cases he : t.event? path with
    | some e =>
      exact filter_place _ (pairwise_told path tabs) i e ((mem_told path tabs i e).2 ⟨t, ht, he⟩)
    | none =>
      refine List.filter_eq_nil_iff.2 fun e he' hplace => ?_
      obtain ⟨t', ht', hevent⟩ := (mem_told path tabs e.1 e.2).1 he'
      rw [of_decide_eq_true hplace, ht] at ht'
      rw [← Option.some.inj ht', he] at hevent
      cases hevent
  rw [toldAt, toldAll, List.filter_append, hnow, List.map_append]
  cases t.event? path <;> rfl

/-- From the flag of a tab on, the flags that are told of it lead to its last flag, and a tab is told
of as deselected only when the flag before was set. -/
theorem isChain_toldAt (i : Nat) (paths : List RoutePath) (tabs : List Tab) (t : Tab)
    (ht : tabs[i]? = some t) :
    (t.selected :: toldAt i paths tabs).IsChain (fun before now => now = false → before = true) ∧
      (paths.foldl (fun t path => t.after path) t).selected =
        (t.selected :: toldAt i paths tabs).getLast (List.cons_ne_nil _ _) := by
  induction paths generalizing tabs t with
  | nil => exact ⟨.singleton _, rfl⟩
  | cons path paths ih =>
    obtain ⟨hchain, hlast⟩ := ih (tabs.map (·.after path)) (t.after path) (by simp [ht])
    have hflag : (t.after path).selected = t.isFor path := rfl
    rw [hflag] at hchain hlast
    rw [toldAt_cons i path paths tabs t ht, Tab.event?]
    rw [List.foldl_cons]
    cases hfor : t.isFor path with
    | true =>
      rw [hfor] at hchain hlast
      simp only [Bool.true_or, if_true, Option.map_some, hflag, hfor, Option.toList_some,
        List.singleton_append]
      exact ⟨List.isChain_cons_cons.2 ⟨nofun, hchain⟩, hlast⟩
    | false =>
      rw [hfor] at hchain hlast
      cases hselected : t.selected with
      | true =>
        simp only [Bool.or_true, if_true, Option.map_some, hflag, hfor, Option.toList_some,
          List.singleton_append]
        exact ⟨List.isChain_cons_cons.2 ⟨fun _ => rfl, hchain⟩, hlast⟩
      | false => exact ⟨hchain, hlast⟩

theorem true_mem_of_isChain (middle later : List Bool)
    (h : (false :: (middle ++ false :: later)).IsChain fun before now => now = false → before = true) :
    true ∈ middle := by
  induction middle with
  | nil => cases (List.isChain_cons_cons.1 h).1 rfl
  | cons flag middle ih =>
    cases flag with
    | true => exact List.mem_cons_self
    | false => exact List.mem_cons_of_mem _ (ih (List.isChain_cons_cons.1 h).2)

/-- What is told of a tab that is not selected at first tells whether it is selected. -/
theorem tells_toldAt (i : Nat) (paths : List RoutePath) (tabs : List Tab) (t : Tab)
    (ht : tabs[i]? = some t) (hnot : t.selected = false) :
    Tells (toldAt i paths tabs) (paths.foldl (fun t path => t.after path) t).selected := by
  obtain ⟨hchain, hlast⟩ := isChain_toldAt i paths tabs t ht
  rw [hnot] at hchain hlast
  rw [hlast]
  refine ⟨?_, fun hhead => ?_, fun earlier middle later hflags => ?_⟩
  · cases hflags : toldAt i paths tabs with
    | nil => simp
    | cons flag flags =>
      rw [List.getLast_cons (List.cons_ne_nil _ _),
        List.getLast?_eq_some_getLast (List.cons_ne_nil _ _), Option.some.injEq]
  · obtain ⟨flags, hflags⟩ := List.head?_eq_some_iff.1 hhead
    rw [hflags] at hchain
    cases (List.isChain_cons_cons.1 hchain).1 rfl
  · rw [hflags, List.append_assoc] at hchain
    exact true_mem_of_isChain middle later hchain.tail.right_of_append

/-! ## All together -/

section
variable (b : TabBar σ) (hb : ∀ c, b.HasCallback c → Callback.Ends c)

include hb

theorem selects_observe (path : RoutePath) (s : σ) :
    b.Selects path (b.observe path s).1 (b.select path s).1 where
  names_eq := by
    rw [b.tabs_select path s hb, List.map_map]
    rfl
  selected_iff := by
    intro t ht
    rw [b.selected_of_mem_select path s hb t ht, Tab.isFor, decide_eq_true_iff]
  sorted := pairwise_told path b.tabs
  mem_told := by
    intro i e
    simp only [mem_told, event?_eq_some_iff]
  calls_eq := by rw [b.observe_eq path s hb, b.tabs_select path s hb]

/-- Names that differ at first differ always, and as long as no tab was selected at first, one at
most is selected at any time. -/
theorem selectsOne_selectAll (hnames : (b.tabs.map (·.name)).Nodup)
    (hnew : ∀ t ∈ b.tabs, t.selected = false) (paths : List RoutePath) (s : σ) :
    (b.selectAll paths s).1.SelectsOne := by
  refine selectsOne_of_length_le _ ?_
  rcases List.eq_nil_or_concat paths with rfl | ⟨paths, path, rfl⟩
  · have hnone : b.tabs.filter (·.selected) = [] :=
      List.filter_eq_nil_iff.2 fun t ht => by simp [hnew t ht]
    simp [selectAll, hnone]
  · have hends : ∀ c, (b.selectAll paths s).1.HasCallback c → c.Ends :=
      fun c hc => hb c ((b.hasCallback_selectAll paths s c).1 hc)
    rw [List.concat_eq_append, selectAll_concat, tabs_select _ path _ hends]
    refine length_filter_after _ path ?_
    rw [b.tabs_selectAll paths s hb, List.map_map]
    simpa only [Function.comp_def, name_foldl_after] using hnames

end

/-- **What is told is what is selected.**  Where callbacks do not select again, a selection selects
the tabs for its path and no others, whatever was selected before, and then tells in order of the
tabs that are selected now and of those that no longer are.  From a new bar on, one tab at most is
ever selected if names differ, as those from a sitemap do; and if both callbacks are there, what
they have been told of a tab says whether it is selected. -/
theorem selections_tell (b : TabBar σ) (hb : ∀ c, b.HasCallback c → Callback.Ends c) :
    (∀ path s, (b.observe path s).2 = b.select path s ∧
      b.Selects path (b.observe path s).1 (b.select path s).1) ∧
    ((b.tabs.map (·.name)).Nodup → ∀ path s, (b.select path s).1.SelectsOne) ∧
    ((∀ t ∈ b.tabs, t.selected = false) → ∀ paths s,
      (b.observeAll paths s).2 = b.selectAll paths s ∧
      ((b.tabs.map (·.name)).Nodup → (b.selectAll paths s).1.SelectsOne) ∧
      (b.onSelect.isSome = true → b.onDeselect.isSome = true →
        (b.observeAll paths s).1.flatten.map (·.event) = (toldAll paths b.tabs).map Prod.snd ∧
        ∀ i t, (b.selectAll paths s).1.tabs[i]? = some t →
          Tells (toldAt i paths b.tabs) t.selected)) ∧
    ∀ (H F : Type) (sitemap : Sitemap H F),
      ((ofSitemap sitemap : TabBar σ).tabs.map (·.name)).Nodup ∧
        ∀ t ∈ (ofSitemap sitemap : TabBar σ).tabs, t.selected = false := by
  refine ⟨fun path s => ⟨?_, b.selects_observe hb path s⟩, fun hnames path s => ?_,
    fun hnew paths s => ⟨b.snd_observeAll paths s hb,
      fun hnames => b.selectsOne_selectAll hb hnames hnew paths s, fun hselect hdeselect => ?_⟩,
    fun H F sitemap => ⟨nodup_names_ofSitemap sitemap, selected_ofSitemap sitemap⟩⟩
  · rw [b.observe_eq path s hb]
  · refine selectsOne_of_length_le _ ?_
    rw [b.tabs_select path s hb]
    exact length_filter_after b.tabs path hnames
  · refine ⟨b.map_event_observeAll paths s hb hselect hdeselect, fun i t ht => ?_⟩
    rw [b.tabs_selectAll paths s hb, List.getElem?_map] at ht
    obtain ⟨first, hfirst, rfl⟩ := Option.map_eq_some_iff.1 ht
    exact tells_toldAt i paths b.tabs first hfirst (hnew first (List.mem_of_getElem? hfirst))

end TabBar

/-! ## A hallway -/

/-- Notes the tab's name behind a mark. -/
def jots (mark : String) : Callback (List String) := fun tab _ notes =>
  .done (notes ++ [mark ++ tab.name])

/-- Two tabs, with a note of all that is told of them. -/
def hallway : TabBar (List String) :=
  ⟨[⟨"home", false⟩, ⟨"docs", false⟩], some (jots "+"), some (jots "-")⟩

/-- A page of the docs, home, and a page that has no tab. -/
def hallwayPaths : List RoutePath :=
  [⟨["docs", "intro"], by decide⟩, ⟨["home"], by decide⟩, ⟨["elsewhere"], by decide⟩]

/-- Each tab is told of as selected and then as deselected, and neither is selected at the end. -/
theorem hallway_tells :
    (∀ c, hallway.HasCallback c → Callback.Ends c) ∧
      (hallway.selectAll hallwayPaths []).2 = ["+docs", "+home", "-docs", "-home"] ∧
      ∀ (i : Nat) t, (hallway.selectAll hallwayPaths []).1.tabs[i]? = some t →
        TabBar.Tells [true, false] t.selected := by
  have hends : ∀ c, hallway.HasCallback c → Callback.Ends c := by
    rintro c (hc | hc) <;> cases hc <;> exact fun _ _ _ => ⟨_, rfl⟩
  obtain ⟨-, -, hrun, -⟩ := TabBar.selections_tell hallway hends
  obtain ⟨-, -, htells⟩ := hrun (by decide) hallwayPaths []
  refine ⟨hends, by rfl, fun i t ht => ?_⟩
  have hflags := (htells rfl rfl).2 i t ht
  have hi : i < 2 := (List.getElem?_eq_some_iff.1 ht).1
  have htold : ∀ i < 2, TabBar.toldAt i hallwayPaths hallway.tabs = [true, false] := by decide
  rwa [htold i hi] at hflags

end Wayfinder
