import Wayfinder.Proofs.Navigation.Recording
import Wayfinder.Proofs.Navigation.Replay
import Wayfinder.Proofs.Page.Timeline

/-!
# Moves in a session

A move comes to the entry beside the current one and replays it.  Whatever the replay comes to, the
entries stay as they are and the cursor has gone one step, so that the opposite move leads back; at
the end of the history nothing happens at all:

    d.Steps i j → d.opposite.Steps j i                                          (steps_opposite)
    h.cursor = some i → d.Steps i j → h.entries[j]? = some entry →
      h.move d = (⟨h.entries, some j⟩, some entry.state)                        (move_of_steps)
    h.AtEnd d → h.move d = (h, none)                                            (move_of_atEnd)

That there is an entry beside the current one wherever the history does not end rests on its cursor,
which a run of requests keeps on an entry (`exists_timeline_serveAll`).
-/

namespace Wayfinder

variable {ω : Type}

/-! ## Definitions -/

/-- From index `i`, one step in the direction leads to index `j`; older entries come first. -/
def Direction.Steps : Direction → Nat → Nat → Prop
  | back, i, j => i = j + 1
  | forward, i, j => j = i + 1

/-- Nothing lies further on in the direction: there are no entries, or the current one is the oldest
or the newest. -/
def History.AtEnd (h : History) : Direction → Prop
  | .back => h.entries = [] ∨ h.cursor = some 0
  | .forward => h.entries = [] ∨ ∃ i, h.cursor = some i ∧ i + 1 = h.entries.length

namespace Navigator

/-- A move on the host comes to an entry, at index `j`.  The entries stay as they are, and what is
done to the host, with its cursor on the entry, is to load the path of the entry's state, once and
without recording it.  If the fallback of that navigation fails, the error tells the path that was
loaded. -/
structure MovesTo (n : Navigator ω) (d : Direction) (h : Host ω) (j : Nat)
    (entry : HistoryRecord) : Prop where
  entry_eq : h.page.history.entries[j]? = some entry
  entries_eq : (n.replay d h).2.page.history.entries = h.page.history.entries
  cursor_eq : (n.replay d h).2.page.history.cursor = some j
  course : ∃ log result, n.Course (n.resolver.resolve entry.state.path) false log result ∧
    n.Performs (h.withHistory ⟨h.page.history.entries, some j⟩) log (n.replay d h).2 ∧
    (n.replay d h).1 = (result.mapError HistoryError.navigation).map some
  error_eq : ∀ e, (n.replay d h).1 = .error e →
    ∃ cause, e = .navigation ⟨(n.resolver.resolve entry.state.path).path, cause⟩

end Navigator

/-! ## Moves in a history -/

theorem Direction.steps_opposite {d : Direction} {i j : Nat} (h : d.Steps i j) :
    d.opposite.Steps j i := by
  cases d <;> exact h

namespace History

variable (h : History) (d : Direction)

theorem moveTo_some {j : Nat} {entry : HistoryRecord} (he : h.entries[j]? = some entry) :
    h.moveTo (some j) = (⟨h.entries, some j⟩, some entry.state) := by
  simp only [moveTo, Option.bind_some, he, Option.map_some]

theorem moveTo_none {index : Option Nat} (hi : ∀ j, index = some j → h.entries[j]? = none) :
    h.moveTo index = (h, none) := by
  cases index with
  | none => rfl
  | some j => simp only [moveTo, Option.bind_some, hi j rfl, Option.map_none]

/-- A move comes to the entry that is one step away. -/
theorem move_of_steps {i j : Nat} {entry : HistoryRecord} (hi : h.cursor = some i)
    (hstep : d.Steps i j) (he : h.entries[j]? = some entry) :
    h.move d = (⟨h.entries, some j⟩, some entry.state) := by
  cases d with
  | back =>
    obtain rfl : i = j + 1 := hstep
    show h.moveTo (h.cursor.bind fun i => if i = 0 then none else some (i - 1)) = _
    rw [hi]
    exact h.moveTo_some he
  | forward =>
    obtain rfl : j = i + 1 := hstep
    show h.moveTo (h.cursor.map (· + 1)) = _
    rw [hi]
    exact h.moveTo_some he

/-- At its end a history stays as it is. -/
theorem move_of_atEnd (hend : h.AtEnd d) : h.move d = (h, none) := by
  cases d with
  | back =>
    apply h.moveTo_none
    rcases hend with hnil | hzero
    · simp [hnil]
    · simp [hzero]
  | forward =>
    apply h.moveTo_none
    rcases hend with hnil | ⟨i, hi, hlast⟩
    · simp [hnil]
    · simp [hi, hlast]

/-- Short of the end there is a current entry and another one a step away. -/
theorem exists_steps (hcursor : ∀ i, h.cursor = some i → i < h.entries.length)
    (hnone : h.cursor = none ↔ h.entries = []) (hend : ¬ h.AtEnd d) :
    ∃ i j, h.cursor = some i ∧ d.Steps i j ∧ i < h.entries.length ∧ j < h.entries.length := by
  have hne : h.entries ≠ [] := by
    intro hnil
    cases d <;> exact hend (Or.inl hnil)
  obtain ⟨i, hi⟩ := Option.ne_none_iff_exists'.1 fun hc => hne (hnone.1 hc)
  have hlt := hcursor i hi
  cases d with
  | back =>
    have hpos : i ≠ 0 := by
      rintro rfl
      exact hend (Or.inr hi)
    exact ⟨i, i - 1, hi, by unfold Direction.Steps; omega, hlt, by omega⟩
  | forward =>
    have hlast : i + 1 ≠ h.entries.length := fun hl => hend (Or.inr ⟨i, hi, hl⟩)
    exact ⟨i, i + 1, hi, rfl, hlt, by omega⟩

end History

/-! ## Replays of moves -/

namespace Navigator

variable (n : Navigator ω)

section
variable (hn : n.LeavesHistory) {d : Direction} {h : Host ω} (hq : h.Quiet) {i j : Nat}
  {entry : HistoryRecord} (hi : h.page.history.cursor = some i) (hstep : d.Steps i j)
  (he : h.page.history.entries[j]? = some entry)

include hi hstep he

theorem replay_of_steps :
    n.replay d h =
      (((n.load entry.state.path false
          (h.withHistory ⟨h.page.history.entries, some j⟩)).1.mapError .navigation).map some,
        (n.load entry.state.path false (h.withHistory ⟨h.page.history.entries, some j⟩)).2) := by
  rw [replay_eq_replayMove, replayMove, h.page.history.move_of_steps d hi hstep he]
  simp only [popState_eq]
  rfl

include hn hq

/-- A step away from the current entry, a move comes to the entry there. -/
theorem movesTo_of_steps : n.MovesTo d h j entry := by
  have hreplay := n.replay_of_steps hi hstep he
  have hhistory := (n.history_replay hn h hq d).2
  rw [h.page.history.move_of_steps d hi hstep he] at hhistory
  obtain ⟨log, hcourse, hperforms⟩ :=
    (n.present_eq_iff (n.resolver.resolve entry.state.path) false _ _ _).1 (Prod.eta _).symm
  refine ⟨he, by rw [hhistory], by rw [hhistory], ⟨log, _, hcourse, ?_, ?_⟩, ?_⟩
  · rw [hreplay]
    exact hperforms
  · rw [hreplay]
    rfl
  · intro e herror
    rw [hreplay] at herror
    rcases n.fst_load entry.state.path false (h.withHistory ⟨h.page.history.entries, some j⟩) with
      ⟨outcome, hload⟩ | ⟨cause, hload⟩ <;> rw [hload] at herror <;> cases herror
    exact ⟨cause, rfl⟩

end

/-! ## Runs -/

section
variable (hn : n.LeavesHistory) (h : Host ω) (hq : h.Quiet)

include hn hq

theorem exists_timeline_serve (t : Timeline) (ht : h.page.history = t.toHistory)
    (request : Request) : ∃ t' : Timeline, (n.serve h request).page.history = t'.toHistory := by
  obtain ⟨-, ⟨_, entry, -, -, hh⟩ | ⟨d, -, hh⟩ | hh⟩ := n.serve_cases hn h hq request
  · exact ⟨t.push entry, by rw [hh, ht, t.push_toHistory]⟩
  · exact ⟨(t.move d).1, by rw [hh, ht, t.move_toHistory]⟩
  · exact ⟨t, hh.trans ht⟩

/-- At all times of a run the history is that of a timeline. -/
theorem exists_timeline_serveAll (t : Timeline) (ht : h.page.history = t.toHistory)
    (requests : List Request) :
    ∃ t' : Timeline, (n.serveAll requests h).page.history = t'.toHistory := by
  unfold serveAll
  induction requests generalizing h t with
  | nil => exact ⟨t, ht⟩
  | cons request requests ih =>
    obtain ⟨t', ht'⟩ := n.exists_timeline_serve hn h hq t ht request
    exact ih _ (n.serve_cases hn h hq request).1 t' ht'

end

/-- **Moves keep the entries.**  Whatever has been asked of a navigator, a move at the end of the
history does nothing and yields nothing.  Elsewhere it goes one step and replays the entry there,
whose fallback may fail, and the opposite move leads back to the entry that was current. -/
theorem replay_keeps_entries (hn : n.LeavesHistory) (start : Host ω) (hq : start.Quiet)
    (past : List HistoryRequest) (hstart : start.page.history = History.ofRequests past)
    (requests : List Request) (d : Direction) :
    let h := n.serveAll requests start
    (h.page.history.AtEnd d → n.replay d h = (.ok none, h)) ∧
    (¬ h.page.history.AtEnd d → ∃ i j current entry, h.page.history.cursor = some i ∧
      h.page.history.current? = some current ∧ d.Steps i j ∧ n.MovesTo d h j entry ∧
      n.MovesTo d.opposite (n.replay d h).2 i current) := by
  intro h
  have hquiet : h.Quiet := n.quiet_serveAll hn start hq requests
  constructor
  · intro hend
    rw [replay_eq_replayMove, replayMove, h.page.history.move_of_atEnd d hend]
  · intro hend
    obtain ⟨t, ht⟩ := n.exists_timeline_serveAll hn start hq _
      (hstart.trans (Timeline.foldl_toHistory .unvisited past)) requests
    obtain ⟨i, j, hi, hstep, hil, hjl⟩ := h.page.history.exists_steps d
      (by rw [ht]; exact t.cursor_lt) (by rw [ht]; exact t.cursor_toHistory) hend
    have hcurrent := List.getElem?_eq_getElem hil
    have hmoves := n.movesTo_of_steps hn hquiet hi hstep (List.getElem?_eq_getElem hjl)
    refine ⟨i, j, h.page.history.entries[i], _, hi, ?_, hstep, hmoves, ?_⟩
    · rw [History.current?, hi]
      exact hcurrent
    · refine n.movesTo_of_steps hn (n.history_replay hn h hquiet d).1 hmoves.cursor_eq
        (Direction.steps_opposite hstep) ?_
      rw [hmoves.entries_eq]
      exact hcurrent

end Navigator

/-! ## The kiosk again -/

theorem quiet_kioskHost : kioskHost.Quiet := by
  rintro c (hc | hc) history
  · cases hc
    intro tab tabs p hp
    exact .done hp
  · cases hc

theorem leavesHistory_kiosk : kiosk.LeavesHistory where
  selectTab := by
    rintro select hs path
    cases hs
    exact leavesHistory_selectTab path
  handlers := by
    intro s path t directive handler hs ht hh remaining
    cases hs
    rw [(slots_kioskMap path t ht).2 directive handler hh]
    exact leavesHistory_onPage _ fun _ => rfl
  fallbacks := by
    rintro s path t f hs ht hf ⟨place, error⟩
    cases hs
    rw [(slots_kioskMap path t ht).1 f hf]
    exact leavesHistory_onPage _ fun _ => rfl
  default := fun _ _ hq => ⟨hq, rfl⟩

/-- An order and the way out have failed, and so do their replays; but the kiosk has gone back to the
order, and it finds the way out again. -/
theorem kiosk_moves :
    let h := kiosk.serveAll [.navigate orderPath, .navigate .root] kioskHost
    kiosk.LeavesHistory ∧ kioskHost.Quiet ∧ kioskHost.page.history = History.ofRequests [] ∧
    (kiosk.replay .forward h).1.toOption = some none ∧
    ∃ current entry, current.state.path = .root ∧ entry.state.path = orderPath ∧
      kiosk.MovesTo .back h 0 entry ∧ (kiosk.replay .back h).1.toOption = none ∧
      kiosk.MovesTo .forward (kiosk.replay .back h).2 1 current := by
  intro h
  have hhistory : h.page.history = ⟨[⟨⟨orderPath⟩, "/order", "/order", .epoch⟩,
    ⟨⟨.root⟩, "/", "/", .epoch⟩], some 1⟩ := by decide +kernel
  have hmoves := kiosk.replay_keeps_entries leavesHistory_kiosk kioskHost quiet_kioskHost [] rfl
    [.navigate orderPath, .navigate .root]
  have hforward : (kiosk.replay .forward h).1.toOption = some none := by
    rw [(hmoves .forward).1 (by rw [hhistory]; exact Or.inr ⟨1, rfl, rfl⟩)]
    rfl
  obtain ⟨i, j, current, entry, hi, hcurrent, hstep, hback, hforth⟩ :=
    (hmoves .back).2 (by rw [hhistory]; rintro (h | h) <;> cases h)
  rw [hhistory] at hi hcurrent
  obtain rfl : 1 = i := Option.some.inj hi
  obtain rfl : j = 0 := Nat.succ.inj hstep.symm
  have hentry := hback.entry_eq
  rw [hhistory] at hentry
  refine ⟨leavesHistory_kiosk, quiet_kioskHost, rfl, hforward, current, entry, ?_, ?_, hback, ?_,
    hforth⟩
  · cases hcurrent
    rfl
  · cases hentry
    rfl
  · decide +kernel

end Wayfinder
