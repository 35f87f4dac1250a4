import Wayfinder.Json.Decoder
import Wayfinder.Route.Encoding
import Wayfinder.Time.Rfc3339

/-!
# Browser history

The entries of a history in the order in which they were pushed, and a cursor on the current one.
A push drops the entries ahead of the cursor; a move to an older or newer entry keeps all entries.
-/

namespace Wayfinder

/-! ## Entries -/

/-- What an entry keeps so that its page can be shown again. -/
structure HistoryState where
  path : RoutePath
deriving DecidableEq

structure HistoryRecord where
  state : HistoryState
  title : String
  url : String
  pushedAt : Timestamp
deriving DecidableEq

/-! ## The history -/

/-- Pushed entries and the index of the current one. -/
structure History where
  entries : List HistoryRecord := []
  cursor : Option Nat := none
deriving DecidableEq, Inhabited

namespace History

/-- The entry under the cursor. -/
def current? (h : History) : Option HistoryRecord := h.cursor.bind (h.entries[·]?)

def length (h : History) : Nat := h.entries.length

/-- Push an entry behind the current one, in place of those ahead of it. -/
def push (r : HistoryRecord) (h : History) : History :=
  let kept := h.entries.take (h.cursor.elim 0 (· + 1))
  ⟨kept ++ [r], some kept.length⟩

/-- Move to another entry, if there is one at the index. -/
def moveTo (index : Option Nat) (h : History) : History × Option HistoryState :=
  match index.bind fun i => (h.entries[i]?).map (i, ·) with
  | some (i, r) => (⟨h.entries, some i⟩, some r.state)
  | none => (h, none)

/-- Move to the entry before the current one, and yield its state. -/
def back (h : History) : History × Option HistoryState :=
  h.moveTo (h.cursor.bind fun i => if i = 0 then none else some (i - 1))

/-- Move to the entry behind the current one, and yield its state. -/
def forward (h : History) : History × Option HistoryState := h.moveTo (h.cursor.map (· + 1))

end History

/-! ## JSON -/

def HistoryState.toJson (s : HistoryState) : Json := .object [("path", s.path.toJson)]

/-- The fields of a state that have been read. -/
structure HistoryState.Draft where
  path : Option RoutePath := none

def HistoryState.record : Decoder.Record Draft HistoryState where
  name := "HistoryState"
  fields := [Decoder.field "path" RoutePath.decoder (·.path) fun p d => { d with path := some p }]
  blank := {}
  finish
    | ⟨some path⟩ => .ok ⟨path⟩
    | _ => .error "path"

def HistoryState.decoder : Decoder HistoryState := record.decoder

def Timestamp.toJson (t : Timestamp) : Json := .string t.format

def Timestamp.decoder : Decoder Timestamp :=
  .scalar "an RFC 3339 formatted date and time string" fun s =>
    match Timestamp.parse s with
    | .ok t => .ok t
    | .error e => .error e.message

def HistoryRecord.toJson (r : HistoryRecord) : Json :=
  .object [("state", r.state.toJson), ("title", .string r.title), ("url", .string r.url),
    ("pushed_at", r.pushedAt.toJson)]

/-- The fields of a record that have been read. -/
structure HistoryRecord.Draft where
  state : Option HistoryState := none
  title : Option String := none
  url : Option String := none
  pushedAt : Option Timestamp := none

def HistoryRecord.record : Decoder.Record Draft HistoryRecord where
  name := "HistoryRecord"
  fields :=
    [Decoder.field "state" HistoryState.decoder (·.state) fun x d => { d with state := some x },
     Decoder.field "title" .string (·.title) fun x d => { d with title := some x },
     Decoder.field "url" .string (·.url) fun x d => { d with url := some x },
     Decoder.field "pushed_at" Timestamp.decoder (·.pushedAt) fun x d =>
       { d with pushedAt := some x }]
  blank := {}
  finish
    | ⟨some state, some title, some url, some pushedAt⟩ => .ok ⟨state, title, url, pushedAt⟩
    | ⟨none, _, _, _⟩ => .error "state"
    | ⟨_, none, _, _⟩ => .error "title"
    | ⟨_, _, none, _⟩ => .error "url"
    | ⟨_, _, _, none⟩ => .error "pushed_at"

def HistoryRecord.decoder : Decoder HistoryRecord := record.decoder

end Wayfinder
