import Wayfinder.Page.History

/-!
# Journals

A journal is a named collection of JSON entries that come from a URL.
-/

namespace Wayfinder

/-- A journal.  One that has not been loaded has no entries and no time of its last change. -/
structure Journal where
  name : String
  /-- where the entries come from -/
  url : String
  entries : Option Json := none
  updatedAt : Option Timestamp := none

namespace Journal

/-- The journal with other entries, at a time. -/
def setEntries (entries : Json) (now : Timestamp) (j : Journal) : Journal :=
  { j with entries := some entries, updatedAt := some now }

def isLoaded (j : Journal) : Bool := j.entries.isSome

/-- The number of entries, if they have been loaded. -/
def entryCount? (j : Journal) : Option Nat := j.entries.map Json.size

/-! ## JSON -/

def toJson (j : Journal) : Json :=
  .object [("name", .string j.name), ("url", .string j.url), ("entries", j.entries.getD .null),
    ("updated_at", j.updatedAt.elim .null Timestamp.toJson)]

/-- The fields of a journal that have been read. -/
structure Draft where
  name : Option String := none
  url : Option String := none
  entries : Option (Option Json) := none
  updatedAt : Option (Option Timestamp) := none

def record : Decoder.Record Draft Journal where
  name := "Journal"
  fields :=
    [Decoder.field "name" .string (·.name) fun x d => { d with name := some x },
     Decoder.field "url" .string (·.url) fun x d => { d with url := some x },
     Decoder.field "entries" (.option .value) (·.entries) fun x d => { d with entries := some x },
     Decoder.field "updated_at" (.option Timestamp.decoder) (·.updatedAt) fun x d =>
       { d with updatedAt := some x }]
  blank := {}
  finish
    | ⟨some name, some url, entries, updatedAt⟩ => .ok ⟨name, url, entries.join, updatedAt.join⟩
    | ⟨none, _, _, _⟩ => .error "name"
    | ⟨_, none, _, _⟩ => .error "url"

def decoder : Decoder Journal := record.decoder

end Journal

end Wayfinder
