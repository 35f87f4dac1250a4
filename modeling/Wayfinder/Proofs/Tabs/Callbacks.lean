import Wayfinder.Tabs.TabBar

/-!
# What callbacks leave alone

A selection hands the state on from callback to callback.  Callbacks that react alike to states
which a relation holds together make a selection leave the same tabs and related states, however
deep selections nest; so what every callback keeps, the selection keeps:

    (∀ c, b.HasCallback c → c.Respects R) → R s s' →
      (b.select path s).1 = (b.select path s').1 ∧ R (b.select path s).2 (b.select path s').2
                                                                            (select_alike)
    (∀ c, b.HasCallback c → c.Keeps I) → I s → I (b.select path s).2        (select_keeps)

Callbacks that never select again leave the flags as the selection has set them:

    (∀ c, b.HasCallback c → c.Ends) →
      (b.select path s).1.tabs = b.tabs.map (·.after path)                  (tabs_select)
-/

namespace Wayfinder

variable {σ : Type}

/-! ## Definitions -/

/-- Two reactions select the same paths and end, each time in related states, as long as the
selections that they make leave the same tabs and related states. -/
inductive Reaction.Alike (R : σ → σ → Prop) : Reaction σ → Reaction σ → Prop
  | done {s s' : σ} (hs : R s s') : Alike R (.done s) (.done s')
  | select {path : RoutePath} {s s' : σ} {next next' : List Tab → σ → Reaction σ} (hs : R s s')
      (hnext : ∀ tabs t t', R t t' → Alike R (next tabs t) (next' tabs t')) :
      Alike R (.select path s next) (.select path s' next')

/-- Called in related states, a callback reacts alike. -/
def Callback.Respects (R : σ → σ → Prop) (c : Callback σ) : Prop :=
  ∀ tab tabs s s', R s s' → (c tab tabs s).Alike R (c tab tabs s')

/-- A reaction that starts with `I` selects again only with `I`, and ends with `I`, as long as the
selections that it makes keep `I`. -/
inductive Reaction.Keeps (I : σ → Prop) : Reaction σ → Prop
  | done {s : σ} (hs : I s) : Keeps I (.done s)
  | select {path : RoutePath} {s : σ} {next : List Tab → σ → Reaction σ} (hs : I s)
      (hnext : ∀ tabs s', I s' → Keeps I (next tabs s')) : Keeps I (.select path s next)

/-- Called with `I`, a callback keeps `I`. -/
def Callback.Keeps (I : σ → Prop) (c : Callback σ) : Prop :=
  ∀ tab tabs s, I s → (c tab tabs s).Keeps I

/-- A callback never selects again. -/
def Callback.Ends (c : Callback σ) : Prop := ∀ tab tabs s, ∃ s', c tab tabs s = .done s'

namespace TabBar

/-- The callback is one of the bar's. -/
def HasCallback (b : TabBar σ) (c : Callback σ) : Prop :=
  b.onSelect = some c ∨ b.onDeselect = some c

theorem hasCallback_of_callbackFor (b : TabBar σ) (event : Tab) (c : Callback σ)
    (h : b.callbackFor event = some c) : b.HasCallback c := by
  unfold callbackFor at h
  split at h
  · exact Or.inl h
  · exact Or.inr h

/-! ## Selections in related states -/

/-- Scenes with the same tabs and related states. -/
def Match (R : σ → σ → Prop) (a b : Scene σ) : Prop := a.1 = b.1 ∧ R a.2 b.2

section
variable {R : σ → σ → Prop} (b : TabBar σ) (select : RoutePath → Scene σ → Option (Scene σ))
  (hselect : ∀ path tabs s s', R s s' →
    Option.Rel (Match R) (select path (tabs, s)) (select path (tabs, s')))

include hselect

theorem react_alike {re re' : Reaction σ} (hre : re.Alike R re') (tabs : List Tab) :
    Option.Rel (Match R) (react select re tabs) (react select re' tabs) := by
  induction hre generalizing tabs with
  | done hs => exact .some ⟨rfl, hs⟩
  | @select path s s' next next' hs _ ih =>
    have hnested := hselect path tabs s s' hs
    unfold react
    generalize select path (tabs, s) = scene at hnested
    generalize select path (tabs, s') = scene' at hnested
    cases hnested with
    | none => exact .none
    | @some a a' hmatch =>
      obtain ⟨htabs, ht⟩ := hmatch
      show Option.Rel (Match R) (react select (next a.1 a.2) a.1) (react select (next' a'.1 a'.2) a'.1)
      rw [← htabs]
      exact ih a.1 a.2 a'.2 ht a.1

theorem deliver_alike (hb : ∀ c, b.HasCallback c → Callback.Respects R c) (events tabs : List Tab)
    (s s' : σ) (hs : R s s') :
    Option.Rel (Match R) (b.deliver select events (tabs, s)) (b.deliver select events (tabs, s')) := by
  induction events generalizing tabs s s' with
  | nil => exact .some ⟨rfl, hs⟩
  | cons e events ih =>
    unfold deliver
    split
    · exact ih tabs s s' hs
    · next c hc =>
      have hre := hb c (b.hasCallback_of_callbackFor e c hc) e tabs s s' hs
      have hreact := react_alike select hselect hre tabs
      generalize react select (c e tabs s) tabs = scene at hreact
      generalize react select (c e tabs s') tabs = scene' at hreact
      cases hreact with
      | none => exact .none
      | @some a a' hmatch =>
        obtain ⟨htabs, ht⟩ := hmatch
        show Option.Rel (Match R) (b.deliver select events (a.1, a.2))
          (b.deliver select events (a'.1, a'.2))
        rw [← htabs]
        exact ih a.1 a.2 a'.2 ht

end

section
variable {R : σ → σ → Prop} (b : TabBar σ) (hb : ∀ c, b.HasCallback c → Callback.Respects R c)
  (path : RoutePath)

include hb

theorem selectWithin_alike (nesting : Nat) (tabs : List Tab) (s s' : σ) (hs : R s s') :
    Option.Rel (Match R) (b.selectWithin nesting path (tabs, s))
      (b.selectWithin nesting path (tabs, s')) := by
  induction nesting generalizing path tabs s s' with
  | zero => exact .none
  | succ nesting ih =>
    -- the selections that callbacks make nest less deep
    exact deliver_alike b (b.selectWithin nesting) (fun path tabs s s' hs => ih path tabs s s' hs) hb
      _ _ s s' hs

/-- In related states, a selection leaves the same bar and related states. -/
theorem select_alike (s s' : σ) (hs : R s s') :
    (b.select path s).1 = (b.select path s').1 ∧ R (b.select path s).2 (b.select path s').2 := by
  have hrel := selectWithin_alike b hb path nestingLimit b.tabs s s' hs
  unfold select select?
  generalize b.selectWithin nestingLimit path (b.tabs, s) = scene at hrel
  generalize b.selectWithin nestingLimit path (b.tabs, s') = scene' at hrel
  cases hrel with
  | none => exact ⟨rfl, hs⟩
  | @some a a' hmatch =>
    obtain ⟨htabs, ht⟩ := hmatch
    exact ⟨congrArg (fun tabs => { b with tabs }) htabs, ht⟩

end

/-! ## Properties that callbacks keep -/

theorem alike_of_keeps {I : σ → Prop} {re : Reaction σ} (hre : re.Keeps I) :
    re.Alike (fun s s' => s' = s ∧ I s) re := by
  induction hre with
  | done hs => exact .done ⟨rfl, hs⟩
  | select hs _ ih =>
    refine .select ⟨rfl, hs⟩ ?_
    rintro tabs _ t ⟨rfl, ht⟩
    exact ih tabs t ht

/-- What all callbacks of a bar keep, a selection keeps. -/
theorem select_keeps (I : σ → Prop) (b : TabBar σ)
    (hb : ∀ c, b.HasCallback c → Callback.Keeps I c) (path : RoutePath) (s : σ) (hs : I s) :
    I (b.select path s).2 := by
  have hrespects : ∀ c, b.HasCallback c → Callback.Respects (fun s s' => s' = s ∧ I s) c := by
    rintro c hc tab tabs _ t ⟨rfl, ht⟩
    exact alike_of_keeps (hb c hc tab tabs t ht)
  exact (b.select_alike hrespects path s s ⟨rfl, hs⟩).2.2

/-! ## The bar after a selection -/

section
variable (b : TabBar σ) (path : RoutePath) (s : σ)

/-- A selection changes the tabs of a bar, and not its callbacks. -/
theorem select_fst : (b.select path s).1 = { b with tabs := (b.select path s).1.tabs } := by
  unfold select select?
  cases b.selectWithin nestingLimit path (b.tabs, s) <;> rfl

theorem hasCallback_select (c : Callback σ) :
    (b.select path s).1.HasCallback c ↔ b.HasCallback c := by
  rw [select_fst]
  rfl

variable (hb : ∀ c, b.HasCallback c → Callback.Ends c)

include hb

theorem deliver_of_ends (select : RoutePath → Scene σ → Option (Scene σ)) (events tabs : List Tab) :
    ∃ s', b.deliver select events (tabs, s) = some (tabs, s') := by
  induction events generalizing s with
  | nil => exact ⟨s, rfl⟩
  | cons e events ih =>
    unfold deliver
    split
    · exact ih s
    · next c hc =>
      obtain ⟨s₁, hs₁⟩ := hb c (b.hasCallback_of_callbackFor e c hc) e tabs s
      rw [hs₁]
      exact ih s₁

/-- Where no callback selects again, a selection leaves the flags that it sets. -/
theorem tabs_select : (b.select path s).1.tabs = b.tabs.map (·.after path) := by
  obtain ⟨nesting, hlimit⟩ : ∃ nesting, nestingLimit = nesting + 1 :=
    Nat.exists_eq_succ_of_ne_zero (by decide)
  obtain ⟨s', hs'⟩ := b.deliver_of_ends s hb (b.selectWithin nesting)
    (b.tabs.filterMap (·.event? path)) (b.tabs.map (·.after path))
  unfold select select?
  rw [hlimit, selectWithin, hs']
  rfl

/-- Then the selected tabs are those for the path. -/
theorem selected_of_mem_select (tab : Tab) (htab : tab ∈ (b.select path s).1.tabs) :
    tab.selected = tab.isFor path := by
  rw [b.tabs_select path s hb] at htab
  obtain ⟨t, -, rfl⟩ := List.mem_map.1 htab
  rfl

end

end TabBar

end Wayfinder
