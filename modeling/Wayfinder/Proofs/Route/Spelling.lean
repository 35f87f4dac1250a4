import Wayfinder.Route.Path

/-!
# Spellings of paths

A path is spelled by its segments with separators between them, and with any number of further
separators before, between and after them.  Reading puts together what stands on both sides of a
separator, so the spellings of a path are the texts from which it is read:

    segmentsOf (a ++ "/" ++ b) = segmentsOf a ++ segmentsOf b            (segmentsOf_append)
    parse text = p ↔ Spells p.segments text                              (parse_eq_iff)
    parse p.join = p                                                     (parse_join)
    parse p.toUrl = p                                                    (parse_toUrl)
-/

namespace Wayfinder

/-! ## Segments of texts -/

theorem segmentsOf_append (a b : String) :
    segmentsOf (a ++ "/" ++ b) = segmentsOf a ++ segmentsOf b := by
  have hcs : (a ++ "/" ++ b).toList = a.toList ++ separator :: b.toList := by
    simp [separator]
  unfold segmentsOf
  rw [hcs, Text.pieces_append_cons _ _ _ (by simp), List.filter_append, List.map_append]

theorem segmentsOf_empty : segmentsOf "" = [] := by
  simp [segmentsOf, Text.pieces]

theorem segmentsOf_of_isSegment (s : String) (h : IsSegment s) : segmentsOf s = [s] := by
  have hne : s.toList ≠ [] := by simpa using h.1
  have hpieces : Text.pieces (· = separator) s.toList = [s.toList] :=
    Text.pieces_of_forall_not _ fun c hc => by
      have : c ≠ separator := fun e => h.2 (e ▸ hc)
      simpa using this
  simp [segmentsOf, hpieces, hne]

theorem segmentsOf_separator (s : String) : segmentsOf ("/" ++ s) = segmentsOf s := by
  have h := segmentsOf_append "" s
  rwa [segmentsOf_empty, List.nil_append, String.empty_append] at h

/-- Segments of a path are read as they are, one by one. -/
theorem flatMap_segmentsOf (l : List String) (h : ∀ s ∈ l, IsSegment s) :
    l.flatMap segmentsOf = l := by
  induction l with
  | nil => rfl
  | cons s l ih =>
    rw [List.flatMap_cons, segmentsOf_of_isSegment s (h s List.mem_cons_self),
      ih fun t ht => h t (List.mem_cons_of_mem s ht), List.singleton_append]

/-! ## Spellings -/

/-- The text is made of the names in their order with separators between them; there may be more
separators than needed. -/
inductive Spells : List String → String → Prop
  | empty : Spells [] ""
  | last (name : String) : Spells [name] name
  | separator {names : List String} {text : String} (h : Spells names text) :
      Spells names ("/" ++ text)
  | segment (name : String) {names : List String} {text : String} (h : Spells names text) :
      Spells (name :: names) (name ++ "/" ++ text)

/-- Segments are read from each of their spellings. -/
theorem Spells.segmentsOf_eq {names : List String} {text : String} (h : Spells names text)
    (hnames : ∀ name ∈ names, IsSegment name) : segmentsOf text = names := by
  induction h with
  | empty => exact segmentsOf_empty
  | last name => exact segmentsOf_of_isSegment name (hnames name List.mem_cons_self)
  | separator h ih =>
    rw [segmentsOf_separator]
    exact ih hnames
  | segment name h ih =>
    have hname := segmentsOf_of_isSegment name (hnames name List.mem_cons_self)
    have htail := ih fun n hn => hnames n (List.mem_cons_of_mem name hn)
    rw [segmentsOf_append, hname, htail, List.singleton_append]

/-- A text spells the segments that are read from it.  The induction is on the length of the text,
which is cut at its first separator. -/
theorem spells_segmentsOf (text : String) : Spells (segmentsOf text) text := by
  by_cases hsep : separator ∈ text.toList
  · obtain ⟨before, after, hcut, hbefore⟩ := List.eq_append_cons_of_mem hsep
    have htext : text = String.ofList before ++ "/" ++ String.ofList after := by
      apply String.toList_inj.1
      simpa [separator] using hcut
    have hshort : after.length < text.length := by
      rw [← String.length_toList, hcut, List.length_append, List.length_cons]
      omega
    have ih := spells_segmentsOf (String.ofList after)
    rw [htext, segmentsOf_append]
    by_cases hempty : before = []
    · subst hempty
      rw [String.ofList_nil, segmentsOf_empty, List.nil_append, String.empty_append]
      exact .separator ih
    · have hname : IsSegment (String.ofList before) :=
        ⟨by simpa using hempty, by simpa using hbefore⟩
      rw [segmentsOf_of_isSegment _ hname, List.singleton_append]
      exact .segment _ ih
  · by_cases hempty : text = ""
    · rw [hempty, segmentsOf_empty]
      exact .empty
    · rw [segmentsOf_of_isSegment text ⟨hempty, hsep⟩]
      exact .last text
termination_by text.length

theorem spells_intercalate (names : List String) : Spells names ("/".intercalate names) := by
  induction names with
  | nil => exact .empty
  | cons name names ih =>
    cases names with
    | nil => exact .last name
    | cons next names =>
      rw [String.intercalate_cons_cons]
      exact .segment name ih

/-! ## Paths -/

namespace RoutePath

/-- What is read from a text are the segments that it spells. -/
theorem segments_parse_eq_iff (text : String) (names : List String) :
    (parse text).segments = names ↔ Spells names text ∧ ∀ name ∈ names, IsSegment name := by
  constructor
  · rintro rfl
    exact ⟨spells_segmentsOf text, (parse text).canonical⟩
  · rintro ⟨hspells, hnames⟩
    exact hspells.segmentsOf_eq hnames

variable (p : RoutePath)

theorem ofSegments_segments : ofSegments p.segments = p :=
  RoutePath.ext (flatMap_segmentsOf p.segments p.canonical)

/-- A name that is a segment is added to a path as it is. -/
theorem segments_child (name : String) (h : IsSegment name) :
    (p.child name).segments = p.segments ++ [name] := by
  rw [child, segments_ofSegments, List.flatMap_append, flatMap_segmentsOf p.segments p.canonical,
    List.flatMap_singleton, segmentsOf_of_isSegment name h]

/-- A path is read from its spellings and from no other text. -/
theorem parse_eq_iff (text : String) : parse text = p ↔ Spells p.segments text := by
  rw [RoutePath.ext_iff, segments_parse_eq_iff]
  exact and_iff_left p.canonical

theorem parse_join : parse p.join = p := (p.parse_eq_iff _).2 (spells_intercalate p.segments)

/-- The separator in front of a URL is not part of the path. -/
theorem parse_toUrl : parse p.toUrl = p :=
  (p.parse_eq_iff _).2 (.separator (spells_intercalate p.segments))

end RoutePath

end Wayfinder
