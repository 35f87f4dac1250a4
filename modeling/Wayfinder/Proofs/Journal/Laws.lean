import Wayfinder.Proofs.Journal.Answers

/-!
# Searches of one collection

What one search finds follows from what others find in the same entries.  More fields find what
each of them finds, merged in the order of the entries, so that fields may come in any order and
more than once.  A term finds all that a longer term finds in which it occurs, and the empty term
finds all that any term finds.

    search (F ++ G) = (keys entries).filter (in search F, or in search G)     (searchEntries_append)
    Occurs mode term term' → search term' is a sublist of search term
                                                                 (searchEntries_sublist_of_occurs)

The first law rests on keys that are distinct: an answer is then what the collection has of it
(`searchEntries_eq_filter`).
-/

namespace Wayfinder

open Text

namespace Search

section
variable (entries : Json) (term : String) (fields : List String) (mode : CaseMode)

/-! ## Entries and their keys -/

theorem searchEntries_sublist_keys :
    (searchEntries entries term fields mode).Sublist (Keyed.keys (entriesOf entries)) :=
  List.filter_sublist.map _

theorem mem_searchEntries (key : String) : key ∈ searchEntries entries term fields mode ↔
    ∃ entry, (key, entry) ∈ entriesOf entries ∧ entryMatches mode term fields entry = true := by
  simp only [searchEntries, List.mem_map, List.mem_filter]
  constructor
  · rintro ⟨⟨_, entry⟩, hentry, rfl⟩
    exact ⟨entry, hentry⟩
  · rintro ⟨entry, hentry⟩
    exact ⟨(key, entry), hentry, rfl⟩

variable {entries}

theorem nodup_keys_entriesOf (hkeys : entries.DistinctKeys) :
    (Keyed.keys (entriesOf entries)).Nodup := by
  cases entries with
  | object members => exact (Json.distinctKeys_object.1 hkeys).1
  | array items =>
    have hrange : (items.zipIdx.map (·.2)).Nodup := by
      rw [List.zipIdx_map_snd]
      exact List.nodup_range'
    have hnames : Keyed.keys (entriesOf (.array items)) =
        (items.zipIdx.map (·.2)).map toString := by
      simp only [entriesOf, Keyed.keys, List.map_map]
      rfl
    rw [hnames]
    exact hrange.map toString_injective
  | null | bool | number | string => exact List.nodup_nil

/-- Under distinct keys an answer keeps its keys from the collection's. -/
theorem searchEntries_eq_filter (hkeys : entries.DistinctKeys) :
    searchEntries entries term fields mode =
      (Keyed.keys (entriesOf entries)).filter (· ∈ searchEntries entries term fields mode) :=
  eq_filter_of_sublist (nodup_keys_entriesOf hkeys)
    (searchEntries_sublist_keys entries term fields mode)

/-! ## Fields -/

theorem entryMatches_append (fields' : List String) (entry : Json) :
    entryMatches mode term (fields ++ fields') entry =
      (entryMatches mode term fields entry || entryMatches mode term fields' entry) :=
  List.any_append

theorem mem_searchEntries_append (entries : Json) (fields' : List String) (key : String) :
    key ∈ searchEntries entries term (fields ++ fields') mode ↔
      key ∈ searchEntries entries term fields mode ∨
        key ∈ searchEntries entries term fields' mode := by
  simp only [mem_searchEntries, entryMatches_append, Bool.or_eq_true, and_or_left, exists_or]

/-- More fields find what each of them finds, in the order of the entries. -/
theorem searchEntries_append (hkeys : entries.DistinctKeys) (fields' : List String) :
    searchEntries entries term (fields ++ fields') mode =
      (Keyed.keys (entriesOf entries)).filter fun key =>
        key ∈ searchEntries entries term fields mode ∨
          key ∈ searchEntries entries term fields' mode := by
  rw [searchEntries_eq_filter term (fields ++ fields') mode hkeys]
  exact List.filter_congr fun key _ => by simp only [mem_searchEntries_append]

/-- The order of fields and how often they come do not matter. -/
theorem searchEntries_congr (entries : Json) {fields fields' : List String}
    (h : ∀ field, field ∈ fields ↔ field ∈ fields') :
    searchEntries entries term fields mode = searchEntries entries term fields' mode := by
  have hmatches (entry : Json) :
      entryMatches mode term fields entry = entryMatches mode term fields' entry := by
    rw [Bool.eq_iff_iff, entryMatches_iff, entryMatches_iff]
    simp only [h]
  unfold searchEntries
  simp only [hmatches]

theorem searchEntries_nil (entries : Json) : searchEntries entries term [] mode = [] := by
  refine List.eq_nil_iff_forall_not_mem.2 fun key hkey => ?_
  obtain ⟨entry, -, hmatch⟩ := (mem_searchEntries entries term [] mode key).1 hkey
  cases hmatch

/-! ## Terms -/

/-- A text that holds a term holds what occurs in the term. -/
theorem textMatches_of_occurs {term term' text : String} (h : Occurs mode term term')
    (hmatch : textMatches mode term' text = true) : textMatches mode term text = true := by
  obtain ⟨hne, hinfix⟩ := (textMatches_iff mode term' text).1 hmatch
  exact (textMatches_iff mode term text).2 ⟨hne, ((occurs_iff mode term term').1 h).trans hinfix⟩

/-- A longer term finds no more. -/
theorem searchEntries_sublist_of_occurs (entries : Json) {term term' : String}
    (h : Occurs mode term term') :
    (searchEntries entries term' fields mode).Sublist
      (searchEntries entries term fields mode) := by
  refine searchEntries_sublist entries term' term fields fields mode mode fun entry hmatch => ?_
  obtain ⟨field, hfield, v, hv, text, htext, hmatch⟩ :=
    (entryMatches_iff mode term' fields entry).1 hmatch
  exact (entryMatches_iff mode term fields entry).2
    ⟨field, hfield, v, hv, text, htext, textMatches_of_occurs mode h hmatch⟩

end

/-- **Searches of one collection.**  A search in two lists of fields finds what is found in the one
or in the other, each key once and in the order of the entries; the order of fields and their
repetition do not matter, and no fields find nothing.  A term finds, in the same order, whatever a
term finds in which it occurs, and the empty term whatever any term finds. -/
theorem searchEntries_algebra (entries : Json) (hkeys : entries.DistinctKeys) (mode : CaseMode)
    (term : String) :
    (∀ fields fields', searchEntries entries term (fields ++ fields') mode =
      (Keyed.keys (entriesOf entries)).filter fun key =>
        key ∈ searchEntries entries term fields mode ∨
          key ∈ searchEntries entries term fields' mode) ∧
    (Keyed.keys (entriesOf entries)).Nodup ∧
    (∀ fields fields', (∀ field, field ∈ fields ↔ field ∈ fields') →
      searchEntries entries term fields mode = searchEntries entries term fields' mode) ∧
    searchEntries entries term [] mode = [] ∧
    (∀ fields term', Occurs mode term term' →
      (searchEntries entries term' fields mode).Sublist
        (searchEntries entries term fields mode)) ∧
    ∀ fields, (searchEntries entries term fields mode).Sublist
      (searchEntries entries "" fields mode) := by
  refine ⟨fun fields fields' => searchEntries_append term fields mode hkeys fields',
    nodup_keys_entriesOf hkeys, fun fields fields' => searchEntries_congr term mode entries,
    searchEntries_nil term mode entries,
    fun fields term' => searchEntries_sublist_of_occurs fields mode entries, fun fields => ?_⟩
  exact searchEntries_sublist_of_occurs fields mode entries (occurs_empty mode term)

/-- Three books: a tag within a list of tags, a title that says nothing, and no tags. -/
def library : Json :=
  .object [("odes", .object [("title", .string "Odes"),
      ("tags", .array [.string "", .array [.string "verse"]])]),
    ("psalms", .object [("tags", .string "old verse"), ("title", .string "")]),
    ("songs", .object [("title", .string "verses")])]

/-- Tags find the first two books and titles the third, so both together find all three, however
they are listed, and the longer term finds one of them. -/
theorem library_search : library.DistinctKeys ∧
    searchEntries library "verse" ["title"] .sensitive = ["songs"] ∧
    searchEntries library "verse" ["tags"] .sensitive = ["odes", "psalms"] ∧
    searchEntries library "verse" ["title", "tags"] .sensitive = ["odes", "psalms", "songs"] ∧
    searchEntries library "verse" ["tags", "title", "tags"] .sensitive =
      ["odes", "psalms", "songs"] ∧
    Occurs .sensitive "verse" "verses" ∧
    (searchEntries library "verses" ["title", "tags"] .sensitive).Sublist
      (searchEntries library "verse" ["title", "tags"] .sensitive) := by
  have hkeys : library.DistinctKeys :=
    (by simp [library, Keyed.keys] : library.IsPlain).distinctKeys
  have htitle : searchEntries library "verse" ["title"] .sensitive = ["songs"] := by
    decide +kernel
  have htags : searchEntries library "verse" ["tags"] .sensitive = ["odes", "psalms"] := by
    decide +kernel
  have hoccurs : Occurs .sensitive "verse" "verses" := ⟨"", "s", by decide⟩
  obtain ⟨happend, -, hlisted, -, hnarrow, -⟩ :=
    searchEntries_algebra library hkeys .sensitive "verse"
  have hboth : searchEntries library "verse" ["title", "tags"] .sensitive =
      ["odes", "psalms", "songs"] := by
    have h := happend ["title"] ["tags"]
    rwa [htitle, htags] at h
  refine ⟨hkeys, htitle, htags, hboth, ?_, hoccurs, hnarrow _ _ hoccurs⟩
  rw [hlisted ["tags", "title", "tags"] ["title", "tags"] (by simp), hboth]

end Search

end Wayfinder
