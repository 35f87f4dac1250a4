import Wayfinder.Page.History

/-!
# Moves in a history

A move leaves the entries as they are and comes to the entry whose state it yields; a push adds one
entry and may drop others:

    h.move d = (h', some state) → h'.current? = some r ∧ r.state = state     (current?_of_move)
    r ∈ (h.push r').entries → r = r' ∨ r ∈ h.entries                         (mem_entries_push)
-/

namespace Wayfinder

/-- The two ways to go in a history. -/
inductive Direction where
  | back
  | forward
deriving DecidableEq

namespace History

/-- Move one entry in a direction, and yield the state of the entry reached. -/
def move : Direction → History → History × Option HistoryState
  | .back => back
  | .forward => forward

variable (h h' : History) (d : Direction) (index : Option Nat)

theorem moveTo_cases :
    h.moveTo index = (h, none) ∨
      ∃ i r, h.entries[i]? = some r ∧ h.moveTo index = (⟨h.entries, some i⟩, some r.state) := by
  unfold moveTo
  split
  · next i r hi =>
    obtain ⟨j, -, hj⟩ := Option.bind_eq_some_iff.1 hi
    obtain ⟨r', hr', hpair⟩ := Option.map_eq_some_iff.1 hj
    cases hpair
    exact Or.inr ⟨_, _, hr', rfl⟩
  · exact Or.inl rfl

/-- A move comes to an entry, or stays where it is. -/
theorem move_cases :
    h.move d = (h, none) ∨
      ∃ i r, h.entries[i]? = some r ∧ h.move d = (⟨h.entries, some i⟩, some r.state) := by
  cases d <;> exact h.moveTo_cases _

theorem entries_move : (h.move d).1.entries = h.entries := by
  rcases h.move_cases d with he | ⟨i, r, -, he⟩ <;> rw [he]

/-- A move yields the state of the entry that is current afterwards. -/
theorem current?_of_move (state : HistoryState) (hmove : h.move d = (h', some state)) :
    ∃ r ∈ h.entries, h'.current? = some r ∧ r.state = state := by
  rcases h.move_cases d with he | ⟨i, r, hr, he⟩ <;> rw [he] at hmove
  · cases hmove
  · cases hmove
    exact ⟨r, List.mem_of_getElem? hr, hr, rfl⟩

theorem mem_entries_push (r r' : HistoryRecord) (hr : r ∈ (h.push r').entries) :
    r = r' ∨ r ∈ h.entries := by
  rcases List.mem_append.1 hr with hr | hr
  · exact Or.inr (List.mem_of_mem_take hr)
  · exact Or.inl (List.mem_singleton.1 hr)

end History

end Wayfinder
