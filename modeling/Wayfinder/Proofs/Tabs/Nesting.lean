import Wayfinder.Proofs.Tabs.Selection

/-!
# Selections within selections

A callback may select again, and the callbacks of that selection as well.  Then a selection makes
calls, in which selections are made, in which calls are made, and so on: `Calls` and `Selections`.
Read from left to right such a tree is a list of notes, and a note of all that happens, taken while
it happens, is one:

    b.select? nesting path s = some (b', s') →
      ∃ calls, b.tracing.select? nesting path (s, log) = some (_, s', log ++ calls.notes)

The selection that has begun last has set the flags, whichever it is (`Sees`), so these are the flags
that stay; and each selection tells of what it has found at its own start (`Tells`), whatever has
become of it since.
-/

namespace Wayfinder

variable {σ : Type}

/-! ## Calls and the selections made in them -/

mutual

/-- The calls that a selection makes, in order: the tab that the callback is told of, all tabs as
it finds them, and the selections that it makes. -/
inductive Calls where
  | none
  | call (event : Tab) (seen : List Tab) (made : Selections) (later : Calls)

/-- The selections that a callback makes, in order: the path, all tabs as the selection finds them,
and the calls that it makes. -/
inductive Selections where
  | none
  | select (path : RoutePath) (found : List Tab) (calls : Calls) (later : Selections)

end

/-- What is noted while a selection goes on. -/
inductive Note where
  /-- a callback is called with a tab, and finds these tabs -/
  | called (event : Tab) (seen : List Tab)
  /-- the callback has come to its end -/
  | returned
  /-- a callback selects a path among these tabs -/
  | began (path : RoutePath) (found : List Tab)
  /-- the selection has come to its end -/
  | ended

namespace Note

/-- The path of a selection that begins. -/
def path? : Note → Option RoutePath
  | began path _ => some path
  | _ => none

/-- The tabs at the time of the note, where they are noted. -/
def tabs? : Note → Option (List Tab)
  | called _ seen => some seen
  | began _ found => some found
  | _ => none

end Note

/-- The path of the selection that has begun last, where one of `path` was under way at first. -/
def lastBegun (path : RoutePath) (log : List Note) : RoutePath :=
  (log.filterMap Note.path?).getLast?.getD path

/-- At each note the flags are those that the selection begun last has set. -/
def Sees (tabs : List Tab) (path : RoutePath) (log : List Note) : Prop :=
  ∀ earlier note later, log = earlier ++ note :: later →
    ∀ found ∈ note.tabs?, found = tabs.map (·.after (lastBegun path earlier))

/-- The tabs that are told of. -/
def Calls.events : Calls → List Tab
  | .none => []
  | .call event _ _ later => event :: later.events

mutual

/-- The notes of calls in order, each around those of the selections made in it. -/
def Calls.notes : Calls → List Note
  | .none => []
  | .call event seen made later => .called event seen :: (made.notes ++ .returned :: later.notes)

/-- The notes of selections in order, each around those of the calls that it makes. -/
def Selections.notes : Selections → List Note
  | .none => []
  | .select path found calls later => .began path found :: (calls.notes ++ .ended :: later.notes)

end

mutual

/-- Every selection made in the calls, however deep, has the property. -/
def Calls.All (P : RoutePath → List Tab → Calls → Prop) : Calls → Prop
  | .none => True
  | .call _ _ made later => made.All P ∧ later.All P

/-- All selections, and those made in their calls, have the property. -/
def Selections.All (P : RoutePath → List Tab → Calls → Prop) : Selections → Prop
  | .none => True
  | .select path found calls later => P path found calls ∧ calls.All P ∧ later.All P

end

/-! ## Taking notes -/

/-- A reaction that notes the selections that it makes, and its end. -/
def Reaction.tracing : Reaction σ → List Tab → List Note → Reaction (σ × List Note)
  | .done s, _, log => .done (s, log ++ [.returned])
  | .select path s next, tabs, log =>
    .select path (s, log ++ [.began path tabs]) fun tabs s' =>
      (next tabs s'.1).tracing tabs (s'.2 ++ [.ended])

/-- A callback that notes that it is called, the selections that it makes, and its end. -/
def Callback.tracing (c : Callback σ) : Callback (σ × List Note) := fun tab tabs s =>
  (c tab tabs s.1).tracing tabs (s.2 ++ [.called tab tabs])

namespace TabBar

/-- The bar with callbacks that take notes. -/
def tracing (b : TabBar σ) : TabBar (σ × List Note) :=
  ⟨b.tabs, b.onSelect.map Callback.tracing, b.onDeselect.map Callback.tracing⟩

/-- A selection of `path` that has found the tabs `found` tells of each tab for which there is a
callback, once and in order: of those that match, and of those that were selected and do not. -/
structure TellsOf (b : TabBar σ) (path : RoutePath) (found : List Tab) (calls : Calls) : Prop where
  events_eq : calls.events =
    ((told path found).filter fun e => (b.callbackFor e.2).isSome).map Prod.snd
  sorted : (told path found).Pairwise (·.1 < ·.1)
  mem_told : ∀ i e, (i, e) ∈ told path found ↔ ∃ t, found[i]? = some t ∧
    (path.head? = some t.name ∧ e = { t with selected := true } ∨
      path.head? ≠ some t.name ∧ t.selected = true ∧ e = { t with selected := false })

end TabBar

/-! ## Notes and calls -/

theorem lastBegun_append (path : RoutePath) (log log' : List Note) :
    lastBegun path (log ++ log') = lastBegun (lastBegun path log) log' := by
  unfold lastBegun
  rw [List.filterMap_append, List.getLast?_append]
  cases (log'.filterMap Note.path?).getLast? <;> rfl

theorem lastBegun_cons (path : RoutePath) (note : Note) (log : List Note) :
    lastBegun path (note :: log) = lastBegun (note.path?.getD path) log := by
  rw [← List.singleton_append, lastBegun_append]
  cases note <;> rfl

theorem sees_nil (tabs : List Tab) (path : RoutePath) : Sees tabs path [] := by
  intro earlier note later h
  simp at h

theorem sees_cons_iff (tabs : List Tab) (path : RoutePath) (note : Note) (log : List Note) :
    Sees tabs path (note :: log) ↔
      (∀ found ∈ note.tabs?, found = tabs.map (·.after path)) ∧
        Sees tabs (note.path?.getD path) log := by
  constructor
  · intro h
    refine ⟨h [] note log rfl, fun earlier note' later hlog found hfound => ?_⟩
    have hrest := h (note :: earlier) note' later (by rw [hlog, List.cons_append]) found hfound
    rwa [lastBegun_cons] at hrest
  · rintro ⟨hnote, hrest⟩ earlier note' later hlog found hfound
    cases earlier with
    | nil =>
      obtain ⟨rfl, -⟩ := List.cons.inj hlog
      exact hnote found hfound
    | cons first earlier =>
      obtain ⟨rfl, htail⟩ := List.cons.inj hlog
      rw [lastBegun_cons]
      exact hrest earlier note' later htail found hfound

theorem sees_append_iff (tabs : List Tab) (path : RoutePath) (log log' : List Note) :
    Sees tabs path (log ++ log') ↔ Sees tabs path log ∧ Sees tabs (lastBegun path log) log' := by
  induction log generalizing path with
  | nil => exact (and_iff_right (sees_nil tabs path)).symm
  | cons note log ih => rw [List.cons_append, sees_cons_iff, sees_cons_iff, ih, lastBegun_cons, and_assoc]

section
variable (tabs : List Tab) (path inner : RoutePath) (event : Tab) (found : List Tab)

theorem lastBegun_call (made : Selections) (later : Calls) :
    lastBegun path (Calls.call event found made later).notes =
      lastBegun (lastBegun path made.notes) later.notes := by
  rw [Calls.notes, lastBegun_cons, lastBegun_append, lastBegun_cons]
  rfl

theorem lastBegun_select (calls : Calls) (later : Selections) :
    lastBegun path (Selections.select inner found calls later).notes =
      lastBegun (lastBegun inner calls.notes) later.notes := by
  rw [Selections.notes, lastBegun_cons, lastBegun_append, lastBegun_cons]
  rfl

theorem sees_call_iff (made : Selections) (later : Calls) :
    Sees tabs path (Calls.call event found made later).notes ↔ found = tabs.map (·.after path) ∧
      Sees tabs path made.notes ∧ Sees tabs (lastBegun path made.notes) later.notes := by
  rw [Calls.notes, sees_cons_iff, sees_append_iff, sees_cons_iff]
  simp [Note.tabs?, Note.path?]

theorem sees_select_iff (calls : Calls) (later : Selections) :
    Sees tabs path (Selections.select inner found calls later).notes ↔
      found = tabs.map (·.after path) ∧ Sees tabs inner calls.notes ∧
        Sees tabs (lastBegun inner calls.notes) later.notes := by
  rw [Selections.notes, sees_cons_iff, sees_append_iff, sees_cons_iff]
  simp [Note.tabs?, Note.path?]

end

mutual

/-- The notes of calls tell where they end and what was done in them. -/
theorem Calls.eq_of_notes : (calls other : Calls) → (rest rest' : List Note) →
    calls.notes ++ .ended :: rest = other.notes ++ .ended :: rest' → calls = other ∧ rest = rest'
  | .none, .none, rest, rest', h => ⟨rfl, (List.cons.inj h).2⟩
  | .none, .call .., _, _, h => by simp [Calls.notes] at h
  | .call .., .none, _, _, h => by simp [Calls.notes] at h
  | .call event seen made later, .call event' seen' made' later', rest, rest', h => by
    simp only [Calls.notes, List.cons_append, List.append_assoc, List.cons.injEq,
      Note.called.injEq] at h
    obtain ⟨⟨rfl, rfl⟩, h⟩ := h
    obtain ⟨rfl, hlater⟩ := made.eq_of_notes made' _ _ h
    obtain ⟨rfl, hrest⟩ := later.eq_of_notes later' rest rest' hlater
    exact ⟨rfl, hrest⟩

theorem Selections.eq_of_notes : (made other : Selections) → (rest rest' : List Note) →
    made.notes ++ .returned :: rest = other.notes ++ .returned :: rest' →
      made = other ∧ rest = rest'
  | .none, .none, rest, rest', h => ⟨rfl, (List.cons.inj h).2⟩
  | .none, .select .., _, _, h => by simp [Selections.notes] at h
  | .select .., .none, _, _, h => by simp [Selections.notes] at h
  | .select path found calls later, .select path' found' calls' later', rest, rest', h => by
    simp only [Selections.notes, List.cons_append, List.append_assoc, List.cons.injEq,
      Note.began.injEq] at h
    obtain ⟨⟨rfl, rfl⟩, h⟩ := h
    obtain ⟨rfl, hlater⟩ := calls.eq_of_notes calls' _ _ h
    obtain ⟨rfl, hrest⟩ := later.eq_of_notes later' rest rest' hlater
    exact ⟨rfl, hrest⟩

end

/-- Notes are those of one tree of calls only. -/
theorem Calls.notes_inj {calls other : Calls} (h : calls.notes = other.notes) : calls = other :=
  (calls.eq_of_notes other [] [] (by rw [h])).1

namespace TabBar

/-! ## One selection, given those made in its calls -/

/-- A selection that leaves the tabs `left` may have made these calls. -/
structure Comprises (b : TabBar σ) (path : RoutePath) (found : List Tab) (calls : Calls)
    (left : List Tab) : Prop where
  left_eq : left = found.map (·.after (lastBegun path calls.notes))
  sees : Sees found path calls.notes
  tellsOf : b.TellsOf path found calls
  nested : calls.All b.TellsOf

/-- Whatever `select` selects, `select'` selects with a note of the calls that are made. -/
def TracedBy (b : TabBar σ) (select : RoutePath → Scene σ → Option (Scene σ))
    (select' : RoutePath → Scene (σ × List Note) → Option (Scene (σ × List Note))) : Prop :=
  ∀ path tabs s left s', select path (tabs, s) = some (left, s') →
    ∃ calls : Calls, b.Comprises path tabs calls left ∧
      ∀ log, select' path (tabs, s, log) = some (left, s', log ++ calls.notes)

section
variable {b : TabBar σ} {select : RoutePath → Scene σ → Option (Scene σ)}
  {select' : RoutePath → Scene (σ × List Note) → Option (Scene (σ × List Note))}
  (hselect : b.TracedBy select select')

include hselect

/-- The selections that a callback makes.  At any time the tabs are those that it was called among,
with the flags that the selection begun last has set. -/
theorem react_traced (re : Reaction σ) (base : List Tab) (path : RoutePath) (left : List Tab)
    (s' : σ) (h : react select re (base.map (·.after path)) = some (left, s')) :
    ∃ made : Selections, left = base.map (·.after (lastBegun path made.notes)) ∧
      Sees base path made.notes ∧ made.All b.TellsOf ∧
      ∀ log, react select' (re.tracing (base.map (·.after path)) log) (base.map (·.after path)) =
        some (left, s', log ++ (made.notes ++ [.returned])) := by
  induction re generalizing path with
  | done s =>
    obtain ⟨rfl, rfl⟩ := Prod.mk.inj (Option.some.inj h)
    exact ⟨.none, rfl, sees_nil base path, trivial, fun log => rfl⟩
  | select inner s next ih =>
    unfold react at h
    split at h
    · next between s₁ hinner =>
      obtain ⟨calls, hcalls, htraced⟩ := hselect _ _ _ _ _ hinner
      -- the inner selection sets the flags of the same tabs, whatever they were before
      have hbetween : between = base.map (·.after (lastBegun inner calls.notes)) := by
        rw [hcalls.left_eq, after_after]
      have hsees : Sees base inner calls.notes := by
        intro earlier note later hlog found hfound
        rw [hcalls.sees earlier note later hlog found hfound, after_after]
      subst hbetween
      obtain ⟨later, hleft, hlater, hall, htail⟩ := ih _ _ (lastBegun inner calls.notes) h
      refine ⟨.select inner (base.map (·.after path)) calls later, ?_, ?_,
        ⟨hcalls.tellsOf, hcalls.nested, hall⟩, fun log => ?_⟩
      · rw [hleft, lastBegun_select]
      · exact (sees_select_iff ..).2 ⟨rfl, hsees, hlater⟩
      · simp only [Reaction.tracing, react, htraced]
        rw [htail, Selections.notes]
        simp only [List.append_assoc, List.cons_append, List.nil_append]
    · cases h

/-- The calls that tell of events, in order, where there is a callback. -/
theorem deliver_traced (events : List Tab) (base : List Tab) (path : RoutePath) (s : σ)
    (left : List Tab) (s' : σ)
    (h : b.deliver select events (base.map (·.after path), s) = some (left, s')) :
    ∃ calls : Calls, left = base.map (·.after (lastBegun path calls.notes)) ∧
      Sees base path calls.notes ∧ calls.All b.TellsOf ∧
      calls.events = events.filter (fun e => (b.callbackFor e).isSome) ∧
      ∀ log, b.tracing.deliver select' events (base.map (·.after path), s, log) =
        some (left, s', log ++ calls.notes) := by
  have hcallback : ∀ e, b.tracing.callbackFor e = (b.callbackFor e).map Callback.tracing := by
    intro e
    unfold callbackFor
    split <;> rfl
  induction events generalizing path s with
  | nil =>
    obtain ⟨rfl, rfl⟩ := Prod.mk.inj (Option.some.inj h)
    exact ⟨.none, rfl, sees_nil base path, trivial, rfl, fun log => by simp [deliver, Calls.notes]⟩
  | cons e events ih =>
    unfold deliver at h
    cases hc : b.callbackFor e with
    | none =>
      simp only [hc] at h
      obtain ⟨calls, hleft, hsees, hall, hevents, htraced⟩ := ih path s h
      refine ⟨calls, hleft, hsees, hall, ?_, fun log => ?_⟩
      · rw [hevents, List.filter_cons_of_neg (by simp [hc])]
      · rw [← htraced log, deliver]
        simp only [hcallback, hc, Option.map_none]
    | some c =>
      simp only [hc] at h
      obtain ⟨⟨between, s₁⟩, hreact, hrest⟩ := Option.bind_eq_some_iff.1 h
      obtain ⟨made, rfl, hmade, hmadeAll, hreturns⟩ := react_traced hselect _ base path _ _ hreact
      obtain ⟨later, hleft, hlater, hall, hevents, htraced⟩ := ih _ s₁ hrest
      refine ⟨.call e (base.map (·.after path)) made later, ?_, ?_, ⟨hmadeAll, hall⟩, ?_,
        fun log => ?_⟩
      · rw [hleft, lastBegun_call]
      · exact (sees_call_iff ..).2 ⟨rfl, hmade, hlater⟩
      · rw [List.filter_cons_of_pos (by simp [hc]), ← hevents]
        rfl
      · rw [deliver]
        simp only [hcallback, hc, Option.map_some, Callback.tracing, hreturns, Option.bind_some]
        rw [htraced, Calls.notes]
        simp only [List.append_assoc, List.cons_append, List.nil_append]

end

/-! ## Selections to any depth -/

section
variable (b : TabBar σ)

/-- The selections that callbacks make nest less deep. -/
theorem selectWithin_traced (nesting : Nat) :
    b.TracedBy (b.selectWithin nesting) (b.tracing.selectWithin nesting) := by
  induction nesting with
  | zero =>
    intro path tabs s left s' h
    cases h
  | succ nesting ih =>
    intro path tabs s left s' h
    obtain ⟨calls, hleft, hsees, hall, hevents, htraced⟩ := deliver_traced ih _ tabs path s left s' h
    refine ⟨calls, ⟨hleft, hsees, ⟨?_, pairwise_told path tabs, ?_⟩, hall⟩, htraced⟩
    · rw [hevents, ← map_snd_told, List.filter_map]
      rfl
    · intro i e
      simp only [mem_told, event?_eq_some_iff]

/-- A selection of `select` is one of `select'`. -/
def Extends (select select' : RoutePath → Scene σ → Option (Scene σ)) : Prop :=
  ∀ path scene left, select path scene = some left → select' path scene = some left

theorem react_extends {select select' : RoutePath → Scene σ → Option (Scene σ)}
    (hselect : Extends select select') (re : Reaction σ) (tabs : List Tab) (left : Scene σ)
    (h : react select re tabs = some left) : react select' re tabs = some left := by
  induction re generalizing tabs with
  | done s => exact h
  | select path s next ih =>
    unfold react at h ⊢
    split at h
    · next between s₁ hinner =>
      rw [hselect _ _ _ hinner]
      exact ih _ _ _ h
    · cases h

theorem deliver_extends {select select' : RoutePath → Scene σ → Option (Scene σ)}
    (hselect : Extends select select') (events : List Tab) (scene left : Scene σ)
    (h : b.deliver select events scene = some left) : b.deliver select' events scene = some left := by
  induction events generalizing scene with
  | nil => exact h
  | cons e events ih =>
    unfold deliver at h ⊢
    split at h
    · exact ih _ h
    · obtain ⟨between, hreact, hrest⟩ := Option.bind_eq_some_iff.1 h
      rw [react_extends hselect _ _ _ hreact, Option.bind_some]
      exact ih _ hrest

/-- A greater bound on the nesting changes nothing. -/
theorem selectWithin_extends {nesting nesting' : Nat} (hle : nesting ≤ nesting') :
    Extends (b.selectWithin nesting) (b.selectWithin nesting') := by
  induction nesting generalizing nesting' with
  | zero =>
    intro path scene left h
    cases h
  | succ nesting ih =>
    obtain ⟨more, rfl⟩ : ∃ more, nesting' = more + 1 :=
      ⟨nesting' - 1, by omega⟩
    exact fun path scene left h => b.deliver_extends (ih (by omega)) _ _ _ h

/-- **Selections within selections.**  A selection in which callbacks select again, to any depth at
which they come to an end, makes a tree of calls.  This is what is noted of it from left to right, so
the calls of a selection lie between those of the callback that made it, and no other tree has the
same notes.  Every selection of the tree tells once and in order of what it has found at its start;
and the flags are at any time, and in the end, those that the selection begun last has set. -/
theorem selections_nest (nesting : Nat) (path : RoutePath) (s s' : σ) (b' : TabBar σ)
    (h : b.select? nesting path s = some (b', s')) :
    b' = { b with tabs := b'.tabs } ∧
    (nesting ≤ nestingLimit → b.select path s = (b', s')) ∧
    ∃ (calls : Calls) (log : List Note),
      b.tracing.select? nesting path (s, []) =
        some ({ b.tracing with tabs := b'.tabs }, s', log) ∧
      (∀ other : Calls, other.notes = log ↔ other = calls) ∧
      b'.tabs.map (·.name) = b.tabs.map (·.name) ∧
      (∀ t ∈ b'.tabs, t.selected = true ↔ (lastBegun path log).head? = some t.name) ∧
      Sees b.tabs path log ∧ b.TellsOf path b.tabs calls ∧ calls.All b.TellsOf := by
  unfold select? at h
  obtain ⟨⟨left, s₁⟩, hwithin, hout⟩ := Option.map_eq_some_iff.1 h
  obtain ⟨rfl, rfl⟩ := Prod.mk.inj hout
  obtain ⟨calls, hcalls, htraced⟩ := b.selectWithin_traced nesting path b.tabs s left s₁ hwithin
  refine ⟨rfl, fun hle => ?_, calls, calls.notes, ?_,
    fun other => ⟨Calls.notes_inj, fun he => by rw [he]⟩, ?_, fun t ht => ?_, hcalls.sees,
    hcalls.tellsOf, hcalls.nested⟩
  · rw [select, select?, b.selectWithin_extends hle _ _ _ hwithin]
    rfl
  · have hnoted := htraced []
    rw [List.nil_append] at hnoted
    rw [select?, show b.tracing.tabs = b.tabs from rfl, hnoted]
    rfl
  · rw [hcalls.left_eq, List.map_map]
    rfl
  · rw [hcalls.left_eq] at ht
    obtain ⟨tab, -, rfl⟩ := List.mem_map.1 ht
    rw [Tab.after, Tab.isFor, decide_eq_true_iff]

end

end TabBar

/-! ## A corridor -/

/-- Whoever comes through the first door of a corridor is sent on to the second one. -/
def corridor : TabBar (List String) where
  tabs := [⟨"foyer", false⟩, ⟨"study", true⟩]
  onSelect := some fun tab _ s =>
    if tab.name = "foyer" then .select (.parse "study/desk") (s ++ ["in foyer"]) fun _ s => .done s
    else .done (s ++ ["in " ++ tab.name])
  onDeselect := some fun tab _ s => .done (s ++ ["out of " ++ tab.name])

/-- The second selection is the last to begin, so its tab stays selected, although the first one
ends after it, with the news that it has found that tab selected. -/
theorem corridor_nests :
    (corridor.select? 2 (.parse "foyer") []).map (·.2) =
        some ["in foyer", "out of foyer", "in study", "out of study"] ∧
      ∃ b' s', corridor.select? 2 (.parse "foyer") [] = some (b', s') ∧
        ∀ t ∈ b'.tabs, t.selected = true ↔ "study" = t.name := by
  refine ⟨by decide +kernel, _, _, rfl, ?_⟩
  obtain ⟨-, -, calls, log, htraced, -, -, hflags, -⟩ :=
    corridor.selections_nest 2 (.parse "foyer") [] _ _ rfl
  have hlast : (lastBegun (.parse "foyer") log).head? = some "study" := by
    obtain rfl := (Prod.mk.inj (Prod.mk.inj (Option.some.inj htraced)).2).2
    decide +kernel
  intro t ht
  rw [hflags t ht, hlast, Option.some.injEq]

end Wayfinder
