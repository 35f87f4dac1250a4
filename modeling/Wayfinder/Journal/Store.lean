import Wayfinder.Fetch.Fetcher
import Wayfinder.Journal.Basic
import Wayfinder.Journal.Search

/-!
# The journals of a site

Journals in the order in which their names were first created.  To create a journal again resets it
and keeps its place.  An operation on a journal leaves all others as they are, and one that fails
changes nothing.
-/

namespace Wayfinder

variable {τ : Type}

inductive JournalError where
  | notFound (name : String)
  | notLoaded (name : String)
  | fetch (cause : FetchError)
deriving DecidableEq

def JournalError.message : JournalError → String
  | notFound name => "Journal not found: " ++ name
  | notLoaded name => "Journal " ++ name ++ " has not been loaded"
  | fetch cause => "Fetch error: " ++ cause.message

/-- Journals by name. -/
abbrev Journals := Keyed Journal

namespace Journals

/-- The names in order. -/
def names (js : Journals) : List String := Keyed.keys js

/-- Create a journal that has not been loaded. -/
def create (name url : String) (js : Journals) : Journals := Keyed.put name { name, url } js

def get (name : String) (js : Journals) : Except JournalError Journal :=
  match Keyed.find? js name with
  | some j => .ok j
  | none => .error (.notFound name)

/-- Replace the entries of a journal. -/
def setEntries (name : String) (entries : Json) (now : Timestamp) (js : Journals) :
    Except JournalError Journals :=
  (js.get name).map fun j => Keyed.put name (j.setEntries entries now) js

/-- Fetch the entries of a journal. -/
def update [DomainMapping] (send : Transport τ) (f : Fetcher) (name : String) (now : Timestamp)
    (js : Journals) (w : Web τ) : Except JournalError Unit × Journals × Web τ :=
  match js.get name with
  | .error e => (.error e, js, w)
  | .ok j =>
    match f.fetchJson send j.url w with
    | (.ok entries, w) => (.ok (), Keyed.put name (j.setEntries entries now) js, w)
    | (.error e, w) => (.error (.fetch e), js, w)

/-- Search in the entries of a journal. -/
def search (name term : String) (fields : List String) (mode : CaseMode) (js : Journals) :
    Except JournalError (List String) :=
  match js.get name with
  | .error e => .error e
  | .ok j =>
    match j.entries with
    | some entries => .ok (searchEntries entries term fields mode)
    | none => .error (.notLoaded name)

end Journals

end Wayfinder
