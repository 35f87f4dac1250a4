import Wayfinder.Proofs.Page.History

/-!
# The history as a timeline

To a visitor a history is a page, the pages behind it and those ahead.  A push puts the current page
behind and forgets what was ahead; a move takes the nearest page on one side, if there is one, and
leaves the current one on the other.  The entries with their cursor are the same:

    t.toHistory.push r = (t.push r).toHistory                                  (push_toHistory)
    t.toHistory.move d = ((t.move d).1.toHistory, (t.move d).2)                (move_toHistory)

So a history that starts empty is at all times that of a timeline, its cursor stands on an entry
whenever there is one, and the forms of the operations that fail where an index is out of range do
not fail.
-/

namespace Wayfinder

/-! ## Definitions -/

/-- Nothing has been visited, or a page is current, with others behind and ahead of it; on both
sides the nearest comes first. -/
inductive Timeline where
  | unvisited
  | visited (behind : List HistoryRecord) (current : HistoryRecord) (ahead : List HistoryRecord)

namespace Timeline

/-- Visit a new page. -/
def push (r : HistoryRecord) : Timeline → Timeline
  | unvisited => visited [] r []
  | visited behind current _ => visited (current :: behind) r []

/-- Move to the nearest page in a direction, and yield its state. -/
def move : Direction → Timeline → Timeline × Option HistoryState
  | .back, visited (r :: behind) current ahead =>
    (visited behind r (current :: ahead), some r.state)
  | .forward, visited behind current (r :: ahead) =>
    (visited (current :: behind) r ahead, some r.state)
  | _, t => (t, none)

/-- All pages, the oldest first. -/
def entries : Timeline → List HistoryRecord
  | unvisited => []
  | visited behind current ahead => behind.reverse ++ current :: ahead

def current? : Timeline → Option HistoryRecord
  | unvisited => none
  | visited _ current _ => some current

def isEmpty : Timeline → Bool
  | unvisited => true
  | visited .. => false

/-- The timeline as a list of entries with a cursor. -/
def toHistory : Timeline → History
  | unvisited => {}
  | visited behind current ahead => ⟨behind.reverse ++ current :: ahead, some behind.length⟩

end Timeline

/-- The other way. -/
def Direction.opposite : Direction → Direction
  | back => forward
  | forward => back

/-- What a history is asked for. -/
inductive HistoryRequest where
  | push (r : HistoryRecord)
  | move (d : Direction)

def History.serve (h : History) : HistoryRequest → History
  | .push r => h.push r
  | .move d => (h.move d).1

def Timeline.serve (t : Timeline) : HistoryRequest → Timeline
  | .push r => t.push r
  | .move d => (t.move d).1

/-- The history after requests in order, empty at the start. -/
def History.ofRequests (requests : List HistoryRequest) : History := requests.foldl serve {}

/-- The timeline after requests in order, with nothing visited at the start. -/
def Timeline.ofRequests (requests : List HistoryRequest) : Timeline :=
  requests.foldl serve unvisited

namespace History

/-! ### Operations that fail out of range

An entry is taken by an index that has to be in range, and a difference is taken only of a number
that is large enough; `none` stands for a failure. -/

def checkedCurrent (h : History) : Option (Option HistoryRecord) :=
  match h.cursor with
  | none => some none
  | some i => (h.entries[i]?).map some

/-- Set the cursor to an index, and yield the state of the entry there. -/
def checkedMoveTo (h : History) (i : Nat) : Option (History × Option HistoryState) :=
  (h.entries[i]?).map fun r => (⟨h.entries, some i⟩, some r.state)

def checkedMove (h : History) : Direction → Option (History × Option HistoryState)
  | .back =>
    match h.cursor with
    | none => some (h, none)
    | some 0 => some (h, none)
    | some (i + 1) => h.checkedMoveTo i
  | .forward =>
    match h.cursor with
    | none => some (h, none)
    | some i => if h.entries.length ≤ i + 1 then some (h, none) else h.checkedMoveTo (i + 1)

def checkedPush (h : History) (r : HistoryRecord) : Option History :=
  let entries := h.entries.take (h.cursor.elim 0 (· + 1)) ++ [r]
  match entries.length with
  | 0 => none
  | n + 1 => some ⟨entries, some n⟩

/-- The history shows what the timeline shows, answers as it does, and takes no entry and no
difference out of range. -/
structure Refines (h : History) (t : Timeline) : Prop where
  entries_eq : h.entries = t.entries
  current?_eq : h.current? = t.current?
  length_eq : h.length = t.entries.length
  isEmpty_eq : h.entries.isEmpty = t.isEmpty
  push_eq : ∀ r, h.push r = (t.push r).toHistory
  move_eq : ∀ d, h.move d = ((t.move d).1.toHistory, (t.move d).2)
  /-- A move that has come to an entry can be taken back. -/
  move_opposite : ∀ d h' state, h.move d = (h', some state) →
    h'.move d.opposite = (h, h.current?.map (·.state))
  cursor_eq_none_iff : h.cursor = none ↔ h.entries = []
  cursor_lt : ∀ i, h.cursor = some i → i < h.entries.length
  checkedCurrent_eq : h.checkedCurrent = some h.current?
  checkedPush_eq : ∀ r, h.checkedPush r = some (h.push r)
  checkedMove_eq : ∀ d, h.checkedMove d = some (h.move d)

end History

/-! ## The two agree -/

namespace Timeline

variable (t : Timeline) (r : HistoryRecord) (d : Direction)

theorem entries_toHistory : t.toHistory.entries = t.entries := by
  cases t <;> rfl

theorem current?_toHistory : t.toHistory.current? = t.current? := by
  cases t with
  | unvisited => rfl
  | visited behind current ahead => simp [toHistory, History.current?, current?]

theorem isEmpty_entries : t.entries.isEmpty = t.isEmpty := by
  cases t with
  | unvisited => rfl
  | visited behind current ahead => simp [entries, isEmpty]

theorem push_toHistory : t.toHistory.push r = (t.push r).toHistory := by
  cases t with
  | unvisited => rfl
  | visited behind current ahead =>
    have hkept : (behind.reverse ++ current :: ahead).take (behind.length + 1) =
        behind.reverse ++ [current] := by
      rw [← List.length_reverse, List.take_length_add_append]
      rfl
    simp [toHistory, History.push, push, hkept]

/-- The entry behind the current one is the nearest of those behind it. -/
theorem back_toHistory :
    t.toHistory.move .back = ((t.move .back).1.toHistory, (t.move .back).2) := by
  cases t with
  | unvisited => rfl
  | visited behind current ahead =>
    cases behind with
    | nil => rfl
    | cons b behind => simp [toHistory, History.move, History.back, History.moveTo, move]

theorem forward_toHistory :
    t.toHistory.move .forward = ((t.move .forward).1.toHistory, (t.move .forward).2) := by
  cases t with
  | unvisited => rfl
  | visited behind current ahead =>
    cases ahead with
    | nil => simp [toHistory, History.move, History.forward, History.moveTo, move]
    | cons a ahead => simp [toHistory, History.move, History.forward, History.moveTo, move]

theorem move_toHistory : t.toHistory.move d = ((t.move d).1.toHistory, (t.move d).2) := by
  cases d
  · exact t.back_toHistory
  · exact t.forward_toHistory

/-- A move and the move back. -/
theorem move_opposite (t' : Timeline) (state : HistoryState) (h : t.move d = (t', some state)) :
    t'.move d.opposite = (t, t.current?.map (·.state)) := by
  cases t with
  | unvisited => cases d <;> cases h
  | visited behind current ahead =>
    cases d with
    | back =>
      cases behind with
      | nil => cases h
      | cons b behind =>
        cases h
        rfl
    | forward =>
      cases ahead with
      | nil => cases h
      | cons a ahead =>
        cases h
        rfl

/-! ## The cursor -/

theorem cursor_toHistory : t.toHistory.cursor = none ↔ t.toHistory.entries = [] := by
  cases t <;> simp [toHistory]

theorem cursor_lt (i : Nat) (h : t.toHistory.cursor = some i) : i < t.toHistory.entries.length := by
  cases t with
  | unvisited => cases h
  | visited behind current ahead =>
    cases h
    simp [toHistory]

end Timeline

/-! ## Nothing is out of range -/

namespace History

variable (h : History) (hcursor : ∀ i, h.cursor = some i → i < h.entries.length)

include hcursor

theorem checkedCurrent_eq : h.checkedCurrent = some h.current? := by
  unfold checkedCurrent current?
  cases hc : h.cursor with
  | none => rfl
  | some i => simp [hcursor i hc]

omit hcursor in
theorem checkedPush_eq (r : HistoryRecord) : h.checkedPush r = some (h.push r) := by
  unfold checkedPush push
  simp

omit hcursor in
theorem checkedMoveTo_eq (i : Nat) (hi : i < h.entries.length) :
    h.checkedMoveTo i = some (h.moveTo (some i)) := by
  simp [checkedMoveTo, moveTo, hi]

theorem checkedMove_eq (d : Direction) : h.checkedMove d = some (h.move d) := by
  obtain ⟨entries, cursor⟩ := h
  cases cursor with
  | none => cases d <;> rfl
  | some i =>
    have hi : i < entries.length := hcursor i rfl
    cases d with
    | back =>
      cases i with
      | zero => rfl
      | succ i => exact checkedMoveTo_eq _ i (Nat.lt_of_succ_lt hi)
    | forward =>
      by_cases hlast : entries.length ≤ i + 1
      · simp [checkedMove, move, forward, moveTo, hlast]
      · simpa [checkedMove, move, forward, hlast] using
          checkedMoveTo_eq ⟨entries, some i⟩ (i + 1) (Nat.lt_of_not_le hlast)

end History

/-! ## Whole histories -/

theorem Timeline.serve_toHistory (t : Timeline) (request : HistoryRequest) :
    t.toHistory.serve request = (t.serve request).toHistory := by
  cases request with
  | push r => exact t.push_toHistory r
  | move d => exact congrArg Prod.fst (t.move_toHistory d)

theorem Timeline.foldl_toHistory (t : Timeline) (requests : List HistoryRequest) :
    requests.foldl History.serve t.toHistory = (requests.foldl Timeline.serve t).toHistory := by
  induction requests generalizing t with
  | nil => rfl
  | cons request requests ih =>
    rw [List.foldl_cons, List.foldl_cons, t.serve_toHistory, ih]

theorem Timeline.refines_toHistory (t : Timeline) : t.toHistory.Refines t where
  entries_eq := t.entries_toHistory
  current?_eq := t.current?_toHistory
  length_eq := congrArg List.length t.entries_toHistory
  isEmpty_eq := by rw [t.entries_toHistory, t.isEmpty_entries]
  push_eq := t.push_toHistory
  move_eq := t.move_toHistory
  move_opposite := by
    intro d h' state hmove
    rw [t.move_toHistory] at hmove
    obtain ⟨rfl, hstate⟩ := Prod.mk.inj hmove
    have hback := t.move_opposite d _ state (Prod.ext rfl hstate)
    rw [move_toHistory, hback, t.current?_toHistory]
  cursor_eq_none_iff := t.cursor_toHistory
  cursor_lt := t.cursor_lt
  checkedCurrent_eq := t.toHistory.checkedCurrent_eq t.cursor_lt
  checkedPush_eq := t.toHistory.checkedPush_eq
  checkedMove_eq := t.toHistory.checkedMove_eq t.cursor_lt

/-- **A history is a timeline.**  Whatever has been pushed, and wherever one has moved, since a
history was empty, it is that of the timeline on which the same has been done. -/
theorem History.refines_timeline (requests : List HistoryRequest) :
    History.ofRequests requests = (Timeline.ofRequests requests).toHistory ∧
      (History.ofRequests requests).Refines (Timeline.ofRequests requests) := by
  have he : History.ofRequests requests = (Timeline.ofRequests requests).toHistory :=
    Timeline.foldl_toHistory .unvisited requests
  exact ⟨he, he ▸ Timeline.refines_toHistory _⟩

end Wayfinder
