import Wayfinder.Text.Pieces

/-!
# Route paths

A route path is an ordered list of segments.  A segment is a non-empty text without the
separator `/`; the type carries that, so every path is in normal form.  `RoutePath.parse` reads a
text and `RoutePath.ofSegments` a list of texts; both drop leading, trailing and doubled
separators, and a list item may itself hold several segments.

    (parse s).segments      = the non-empty pieces of s between separators     (segments_parse)
    (ofSegments l).segments = the segments of its items, one after the other   (segments_ofSegments)
-/

namespace Wayfinder

/-- What stands between two segments in a path text or a URL. -/
def separator : Char := '/'

/-- A segment is a non-empty text without the separator. -/
def IsSegment (s : String) : Prop := s ≠ "" ∧ separator ∉ s.toList

instance (s : String) : Decidable (IsSegment s) := by unfold IsSegment; infer_instance

/-! ## Splitting at the separator -/

/-- The segments of a text: its non-empty pieces. -/
def segmentsOf (s : String) : List String :=
  ((Text.pieces (· = separator) s.toList).filter (· ≠ [])).map String.ofList

theorem isSegment_of_mem_segmentsOf {s t : String} (h : t ∈ segmentsOf s) : IsSegment t := by
  simp only [segmentsOf, List.mem_map, List.mem_filter, decide_eq_true_eq] at h
  obtain ⟨p, ⟨hp, hne⟩, rfl⟩ := h
  refine ⟨fun e => hne ?_, ?_⟩
  · simpa using congrArg String.toList e
  · rw [String.toList_ofList]
    exact fun h => by simpa using Text.isSeparator_of_mem_pieces hp _ h

/-! ## Paths -/

/-- An ordered list of segments.  The empty path stands for the root. -/
structure RoutePath where
  segments : List String
  canonical : ∀ s ∈ segments, IsSegment s
deriving DecidableEq

namespace RoutePath

/-- The empty path. -/
def root : RoutePath := ⟨[], by simp⟩

instance : Inhabited RoutePath := ⟨root⟩

/-- The path that a text denotes. -/
def parse (s : String) : RoutePath := ⟨segmentsOf s, fun _ h => isSegment_of_mem_segmentsOf h⟩

/-- The path that a list of texts denotes, each read like a path of its own. -/
def ofSegments (l : List String) : RoutePath :=
  ⟨l.flatMap segmentsOf, fun _ h => by
    obtain ⟨s, _, hs⟩ := List.mem_flatMap.1 h
    exact isSegment_of_mem_segmentsOf hs⟩

/-- The path that a name leads to from the end of `p`. -/
def child (p : RoutePath) (name : String) : RoutePath := ofSegments (p.segments ++ [name])

/-- The number of segments. -/
def length (p : RoutePath) : Nat := p.segments.length

/-- Whether the path is the root. -/
def isRoot (p : RoutePath) : Bool := p.segments.isEmpty

/-- The first segment. -/
def head? (p : RoutePath) : Option String := p.segments.head?

/-- The path without its first `n` segments. -/
def drop (n : Nat) (p : RoutePath) : RoutePath :=
  ⟨p.segments.drop n, fun s h => p.canonical s (List.mem_of_mem_drop h)⟩

/-- The path of the first `n` segments. -/
def take (n : Nat) (p : RoutePath) : RoutePath :=
  ⟨p.segments.take n, fun s h => p.canonical s (List.mem_of_mem_take h)⟩

/-- The segments with a separator between each two. -/
def join (p : RoutePath) : String := "/".intercalate p.segments

/-- The visible address of the path, always rooted. -/
def toUrl (p : RoutePath) : String := "/" ++ p.join

instance : ToString RoutePath := ⟨join⟩

@[simp] theorem segments_root : root.segments = [] := rfl
@[simp] theorem segments_parse (s : String) : (parse s).segments = segmentsOf s := rfl
@[simp] theorem segments_ofSegments (l : List String) :
    (ofSegments l).segments = l.flatMap segmentsOf := rfl
@[simp] theorem segments_drop (n : Nat) (p : RoutePath) :
    (p.drop n).segments = p.segments.drop n := rfl
@[simp] theorem segments_take (n : Nat) (p : RoutePath) :
    (p.take n).segments = p.segments.take n := rfl

@[ext] theorem ext {p q : RoutePath} (h : p.segments = q.segments) : p = q := by
  cases p; cases q; cases h; rfl

end RoutePath

end Wayfinder
