import Wayfinder.Json.Basic
import Wayfinder.Text.Digits
import Wayfinder.Text.LowerCase
import Wayfinder.Text.Substring

/-!
# Search in entries

Entries are the members of an object or the items of an array; the first are known by their keys,
the others by their positions.  An entry is found if one of the fields asked for reaches, through
arrays only, a text in which the term occurs.  An empty text is never found.
-/

namespace Wayfinder

/-- Whether capital and small letters are told apart. -/
inductive CaseMode where
  | sensitive
  | insensitive
deriving DecidableEq, Repr

/-- A text as it is compared. -/
def CaseMode.fold : CaseMode → String → List Char
  | sensitive, s => s.toList
  | insensitive, s => (Text.toLower s).toList

namespace Search

/-- Whether the term occurs in a text. -/
def textMatches (mode : CaseMode) (term text : String) : Bool :=
  text ≠ "" && Text.occursIn (mode.fold term) (mode.fold text)

mutual

/-- Whether a value is such a text or reaches one through arrays. -/
def valueMatches (mode : CaseMode) (term : String) : Json → Bool
  | .string s => textMatches mode term s
  | .array items => anyMatches mode term items
  | _ => false

/-- Whether one of the values does. -/
def anyMatches (mode : CaseMode) (term : String) : List Json → Bool
  | [] => false
  | v :: vs => valueMatches mode term v || anyMatches mode term vs

end

/-- Whether one of the fields of an entry matches. -/
def entryMatches (mode : CaseMode) (term : String) (fields : List String) (entry : Json) : Bool :=
  fields.any fun field => (entry.member? field).any (valueMatches mode term)

/-- The entries of a collection with what they are known by. -/
def entriesOf : Json → Keyed Json
  | .object members => members
  | .array items => items.zipIdx.map fun (v, i) => (String.ofList (Text.digits i), v)
  | _ => []

end Search

/-- What the entries are known by in which one of the fields matches the term, in order. -/
def searchEntries (entries : Json) (term : String) (fields : List String) (mode : CaseMode) :
    List String :=
  ((Search.entriesOf entries).filter (Search.entryMatches mode term fields ·.2)).map (·.1)

end Wayfinder
