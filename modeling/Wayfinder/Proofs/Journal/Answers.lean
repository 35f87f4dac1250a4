import Mathlib.Data.List.Sort
import Wayfinder.Proofs.Journal.Search
import Wayfinder.Proofs.Json.RoundTrip

/-!
# The answer to a search

An entry answers a search if it is an object with one of the fields asked for, and the value of the
field reaches, through arrays, a text that is not empty and holds the term.  The answer lists the
keys or the positions of these entries, in order:

    searchEntries entries term fields mode = found ↔ IsAnswer mode term fields entries found

Keys come as a sublist of the collection's keys, which are distinct, so that it is settled by its
members (`eq_filter_of_sublist`); positions come in increasing order.
-/

namespace Wayfinder

open Text

/-! ## Definitions -/

/-- The value reaches no text but empty ones. -/
inductive Json.Mute : Json → Prop
  | null : Mute .null
  | bool (b : Bool) : Mute (.bool b)
  | number (n : Number) : Mute (.number n)
  | empty : Mute (.string "")
  | array {items : List Json} (hitems : ∀ v ∈ items, Mute v) : Mute (.array items)
  | object (members : List (String × Json)) : Mute (.object members)

namespace Search

/-- The text holds the term as it stands, or both do in lower case. -/
def Occurs : CaseMode → String → String → Prop
  | .sensitive, term, text => ∃ u v, text = u ++ term ++ v
  | .insensitive, term, text => ∃ u v, toLower text = u ++ toLower term ++ v

/-- One of the fields of an entry reaches a text that holds the term. -/
def Answers (mode : CaseMode) (term : String) (fields : List String) (entry : Json) : Prop :=
  ∃ members, entry = .object members ∧ ∃ field ∈ fields, ∃ v, (field, v) ∈ members ∧
    ∃ text, v.Reaches text ∧ text ≠ "" ∧ Occurs mode term text

/-- One of the fields of an entry is not mute. -/
def Speaks (fields : List String) (entry : Json) : Prop :=
  ∃ members, entry = .object members ∧ ∃ field ∈ fields, ∃ v, (field, v) ∈ members ∧ ¬ v.Mute

/-- What a search in a value should find: keys of an object or positions in an array. -/
inductive IsAnswer (mode : CaseMode) (term : String) (fields : List String) :
    Json → List String → Prop
  | keys {members : List (String × Json)} {found : List String}
      (horder : found.Sublist (Keyed.keys members))
      (hmem : ∀ key, key ∈ found ↔
        ∃ entry, (key, entry) ∈ members ∧ Answers mode term fields entry) :
      IsAnswer mode term fields (.object members) found
  | positions {items : List Json} {found : List Nat} (horder : found.Pairwise (· < ·))
      (hmem : ∀ i, i ∈ found ↔ ∃ entry, items[i]? = some entry ∧ Answers mode term fields entry) :
      IsAnswer mode term fields (.array items) (found.map toString)
  | none {v : Json} (hmembers : ∀ members, v ≠ .object members) (hitems : ∀ items, v ≠ .array items) :
      IsAnswer mode term fields v []

end Search

/-! ## Mute values -/

namespace Json

theorem mute_or_reaches : (v : Json) → v.Mute ∨ ∃ text, v.Reaches text ∧ text ≠ ""
  | .null => Or.inl .null
  | .bool b => Or.inl (.bool b)
  | .number n => Or.inl (.number n)
  | .object members => Or.inl (.object members)
  | .string s => by
    by_cases hs : s = ""
    · exact Or.inl (hs ▸ .empty)
    · exact Or.inr ⟨s, .here s, hs⟩
  | .array items => by
    by_cases hall : ∀ v ∈ items, v.Mute
    · exact Or.inl (.array hall)
    · push Not at hall
      obtain ⟨v, hv, hnot⟩ := hall
      obtain ⟨text, htext, hne⟩ := (mute_or_reaches v).resolve_left hnot
      exact Or.inr ⟨text, .item hv htext, hne⟩

theorem Mute.eq_empty {v : Json} (hv : v.Mute) {text : String} (h : v.Reaches text) :
    text = "" := by
  induction h with
  | here s =>
    cases hv
    rfl
  | item hw _ ih =>
    cases hv with
    | array hitems => exact ih (hitems _ hw)

theorem not_mute_iff (v : Json) : ¬ v.Mute ↔ ∃ text, v.Reaches text ∧ text ≠ "" :=
  ⟨v.mute_or_reaches.resolve_left, fun ⟨_, h, hne⟩ hv => hne (hv.eq_empty h)⟩

end Json

namespace Search

/-! ## Entries -/

section
variable (mode : CaseMode) (term : String) (fields : List String)

theorem infix_iff (needle text : String) :
    needle.toList <:+: text.toList ↔ ∃ u v, text = u ++ needle ++ v := by
  constructor
  · rintro ⟨u, v, h⟩
    refine ⟨String.ofList u, String.ofList v, String.toList_inj.1 ?_⟩
    simp [← h]
  · rintro ⟨u, v, rfl⟩
    exact ⟨u.toList, v.toList, by simp⟩

theorem occurs_iff (text : String) : Occurs mode term text ↔ mode.fold term <:+: mode.fold text := by
  cases mode <;> exact (infix_iff _ _).symm

theorem occurs_empty (text : String) : Occurs mode "" text := by
  rw [occurs_iff]
  cases mode <;> simp [CaseMode.fold, toList_toLower, lowerFrom]

/-- Under distinct keys an entry matches if it answers. -/
theorem entryMatches_iff_answers {entry : Json} (hkeys : entry.DistinctKeys) :
    entryMatches mode term fields entry = true ↔ Answers mode term fields entry := by
  rw [entryMatches_iff]
  simp only [textMatches_iff, ← occurs_iff]
  constructor
  · rintro ⟨field, hfield, v, hv, htext⟩
    unfold Json.member? at hv
    split at hv
    · exact ⟨_, rfl, field, hfield, v, Keyed.mem_of_find? hv, htext⟩
    · cases hv
  · rintro ⟨members, rfl, field, hfield, v, hv, htext⟩
    exact ⟨field, hfield, v, Keyed.find?_of_mem (Json.distinctKeys_object.1 hkeys).1 hv, htext⟩

theorem speaks_of_answers {entry : Json} (h : Answers mode term fields entry) :
    Speaks fields entry := by
  obtain ⟨members, rfl, field, hfield, v, hv, text, htext, hne, -⟩ := h
  exact ⟨members, rfl, field, hfield, v, hv, v.not_mute_iff.2 ⟨text, htext, hne⟩⟩

/-- The empty term asks for a text only. -/
theorem answers_empty_iff (entry : Json) :
    Answers mode "" fields entry ↔ Speaks fields entry := by
  refine ⟨speaks_of_answers mode "" fields, ?_⟩
  rintro ⟨members, rfl, field, hfield, v, hv, hnot⟩
  obtain ⟨text, htext, hne⟩ := v.not_mute_iff.1 hnot
  exact ⟨members, rfl, field, hfield, v, hv, text, htext, hne, occurs_empty mode text⟩

end

/-! ## Lists that are settled by their members -/

/-- A sublist of distinct elements keeps those that it has. -/
theorem eq_filter_of_sublist {α : Type} [DecidableEq α] {found l : List α} (hl : l.Nodup)
    (h : found.Sublist l) : found = l.filter (· ∈ found) := by
  induction h with
  | slnil => rfl
  | cons a h ih =>
    rw [List.nodup_cons] at hl
    rw [List.filter_cons_of_neg (by simpa using fun ha => hl.1 (h.subset ha))]
    exact ih hl.2
  | cons_cons a h ih =>
    rw [List.nodup_cons] at hl
    rw [List.filter_cons_of_pos (by simp)]
    refine congrArg (a :: ·) ((ih hl.2).trans (List.filter_congr fun b hb => ?_))
    have hne : b ≠ a := fun heq => hl.1 (heq ▸ hb)
    simp [hne]

theorem eq_of_sublist_of_mem_iff {α : Type} [DecidableEq α] {found found' l : List α}
    (hl : l.Nodup) (h : found.Sublist l) (h' : found'.Sublist l)
    (hmem : ∀ a, a ∈ found ↔ a ∈ found') : found = found' := by
  rw [eq_filter_of_sublist hl h, eq_filter_of_sublist hl h']
  exact List.filter_congr fun a _ => by simp only [hmem]

/-! ## Collections -/

section
variable (mode : CaseMode) (term : String) (fields : List String)

theorem IsAnswer.unique {entries : Json} (hkeys : entries.DistinctKeys) {found found' : List String}
    (h : IsAnswer mode term fields entries found) (h' : IsAnswer mode term fields entries found') :
    found = found' := by
  cases h with
  | keys horder hmem =>
    cases h' with
    | keys horder' hmem' =>
      exact eq_of_sublist_of_mem_iff (Json.distinctKeys_object.1 hkeys).1 horder horder'
        fun key => (hmem key).trans (hmem' key).symm
    | none hmembers _ => exact absurd rfl (hmembers _)
  | positions horder hmem =>
    cases h' with
    | positions horder' hmem' =>
      rw [horder.eq_of_mem_iff horder' fun i => (hmem i).trans (hmem' i).symm]
    | none _ hitems => exact absurd rfl (hitems _)
  | none hmembers hitems =>
    cases h' with
    | keys => exact absurd rfl (hmembers _)
    | positions => exact absurd rfl (hitems _)
    | none => rfl

/-- The positions of the items that match. -/
def positions (items : List Json) : List Nat :=
  (items.zipIdx.filter (entryMatches mode term fields ·.1)).map (·.2)

theorem pairwise_positions (items : List Json) :
    (positions mode term fields items).Pairwise (· < ·) := by
  have hrange : (items.zipIdx.map (·.2)).Pairwise (· < ·) := by
    rw [List.zipIdx_map_snd]
    exact List.pairwise_lt_range'
  exact hrange.sublist ((List.filter_sublist).map _)

theorem mem_positions (items : List Json) (i : Nat) :
    i ∈ positions mode term fields items ↔
      ∃ entry, items[i]? = some entry ∧ entryMatches mode term fields entry = true := by
  simp [positions, List.mk_mem_zipIdx_iff_getElem?]

theorem searchEntries_array (items : List Json) :
    searchEntries (.array items) term fields mode =
      (positions mode term fields items).map toString := by
  simp only [searchEntries, entriesOf, positions, List.filter_map, List.map_map]
  rfl

/-- Positions are told apart by what they are called. -/
theorem toString_injective : Function.Injective (toString : Nat → String) := by
  intro i j hij
  have hdigits : digits i = digits j := String.ofList_inj.1 hij
  rw [← number_digits i, hdigits, number_digits]

theorem isAnswer_searchEntries {entries : Json} (hkeys : entries.DistinctKeys) :
    IsAnswer mode term fields entries (searchEntries entries term fields mode) := by
  cases entries with
  | object members =>
    obtain ⟨-, hentries⟩ := Json.distinctKeys_object.1 hkeys
    refine .keys (List.filter_sublist.map _) fun key => ?_
    simp only [searchEntries, entriesOf, List.mem_map, List.mem_filter]
    constructor
    · rintro ⟨⟨_, entry⟩, ⟨hmem, hmatch⟩, rfl⟩
      exact ⟨entry, hmem, (entryMatches_iff_answers mode term fields (hentries _ hmem)).1 hmatch⟩
    · rintro ⟨entry, hmem, hanswers⟩
      exact ⟨(key, entry),
        ⟨hmem, (entryMatches_iff_answers mode term fields (hentries _ hmem)).2 hanswers⟩, rfl⟩
  | array items =>
    rw [searchEntries_array]
    refine .positions (pairwise_positions mode term fields items) fun i => ?_
    rw [mem_positions]
    refine exists_congr fun entry => and_congr_right fun hi => ?_
    exact entryMatches_iff_answers mode term fields
      (Json.distinctKeys_array.1 hkeys entry (List.mem_of_getElem? hi))
  | null | bool | number | string => exact .none (by simp) (by simp)

theorem nodup_of_isAnswer {entries : Json} (hkeys : entries.DistinctKeys) {found : List String}
    (h : IsAnswer mode term fields entries found) : found.Nodup := by
  cases h with
  | keys horder => exact (Json.distinctKeys_object.1 hkeys).1.sublist horder
  | positions horder =>
    exact horder.nodup.map toString_injective
  | none => exact List.nodup_nil

end

/-- **Search.**  A search finds, each once, the keys or the positions of the entries that answer it,
in their order, and nothing where there are no entries.  What answers has a field that is not mute;
for the empty term that is enough. -/
theorem searchEntries_eq_iff (entries : Json) (hkeys : entries.DistinctKeys) (term : String)
    (fields : List String) (mode : CaseMode) :
    (∀ found, searchEntries entries term fields mode = found ↔
      IsAnswer mode term fields entries found) ∧
    (searchEntries entries term fields mode).Nodup ∧
    ∀ entry, (Answers mode term fields entry → Speaks fields entry) ∧
      (Answers mode "" fields entry ↔ Speaks fields entry) := by
  have hanswer := isAnswer_searchEntries mode term fields hkeys
  refine ⟨fun found => ⟨?_, ?_⟩, nodup_of_isAnswer mode term fields hkeys hanswer, fun entry =>
    ⟨speaks_of_answers mode term fields, answers_empty_iff mode fields entry⟩⟩
  · rintro rfl
    exact hanswer
  · exact hanswer.unique mode term fields hkeys

/-- Two pages: one with a text two arrays deep, one with fields that say nothing. -/
def catalogue : Json :=
  .object [("intro", .object [("tags", .array [.string "", .array [.string "Systems"]])]),
    ("draft", .object [("title", .null), ("tags", .string "")])]

/-- The empty term finds the page that has a text, in one mode as in the other. -/
theorem catalogue_answer : catalogue.DistinctKeys ∧
    searchEntries catalogue "" ["title", "tags"] .insensitive = ["intro"] := by
  have hkeys : catalogue.DistinctKeys :=
    (by simp [catalogue, Keyed.keys] : catalogue.IsPlain).distinctKeys
  obtain ⟨hfound, -, hspeaks⟩ :=
    searchEntries_eq_iff catalogue hkeys "" ["title", "tags"] .insensitive
  refine ⟨hkeys, (hfound ["intro"]).2 (.keys (by decide) fun key => ?_)⟩
  have htags : (Json.array [.string "", .array [.string "Systems"]]).Reaches "Systems" :=
    .item (List.mem_cons_of_mem _ List.mem_cons_self) (.item List.mem_cons_self (.here "Systems"))
  have hintro : Speaks ["title", "tags"]
      (.object [("tags", .array [.string "", .array [.string "Systems"]])]) :=
    ⟨_, rfl, "tags", by decide, _, List.mem_cons_self,
      (Json.not_mute_iff _).2 ⟨"Systems", htags, by decide⟩⟩
  have hdraft : ¬ Speaks ["title", "tags"]
      (.object [("title", .null), ("tags", .string "")]) := by
    rintro ⟨members, hmembers, field, -, v, hv, hnot⟩
    cases hmembers
    simp only [List.mem_cons, List.not_mem_nil, or_false, Prod.mk.injEq] at hv
    rcases hv with ⟨-, rfl⟩ | ⟨-, rfl⟩
    · exact hnot .null
    · exact hnot .empty
  simp only [(hspeaks _).2, List.mem_cons, List.not_mem_nil, or_false, Prod.mk.injEq]
  constructor
  · rintro rfl
    exact ⟨_, Or.inl ⟨rfl, rfl⟩, hintro⟩
  · rintro ⟨entry, ⟨rfl, rfl⟩ | ⟨rfl, rfl⟩, hentry⟩
    · rfl
    · exact absurd hentry hdraft

end Search

end Wayfinder
