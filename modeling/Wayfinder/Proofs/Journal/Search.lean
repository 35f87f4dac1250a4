import Mathlib.Data.List.Basic
import Wayfinder.Journal.Search
import Wayfinder.Proofs.Text.LowerCase

/-!
# What a search finds

An entry is found by the texts that its fields reach:

    valueMatches mode term v ↔ ∃ s, v.Reaches s ∧ textMatches mode term s   (valueMatches_iff)

A search that does not tell capital letters from small ones finds what one that does finds, unless
lower case gives a sigma of the term another form inside a text than it has at an end of the term.
-/

namespace Wayfinder

open Text

/-- The value is a text or reaches it through arrays. -/
inductive Json.Reaches : Json → String → Prop
  | here (s : String) : Reaches (.string s) s
  | item {items : List Json} {v : Json} {s : String} (hv : v ∈ items) (hs : Reaches v s) :
      Reaches (.array items) s

namespace Search

/-! ## Matches -/

section
variable (mode : CaseMode) (term : String)

theorem textMatches_iff (text : String) :
    textMatches mode term text = true ↔ text ≠ "" ∧ mode.fold term <:+: mode.fold text := by
  rw [textMatches, Bool.and_eq_true, decide_eq_true_iff, occursIn_iff]

theorem anyMatches_iff (vs : List Json) :
    anyMatches mode term vs = true ↔ ∃ v ∈ vs, valueMatches mode term v = true := by
  induction vs with
  | nil => simp [anyMatches]
  | cons v vs ih => rw [anyMatches, Bool.or_eq_true, ih, List.exists_mem_cons_iff]

theorem exists_reaches_of_valueMatches :
    (v : Json) → valueMatches mode term v = true →
      ∃ s, v.Reaches s ∧ textMatches mode term s = true
  | .string s, h => ⟨s, .here s, by rwa [valueMatches] at h⟩
  | .array items, h => by
    rw [valueMatches, anyMatches_iff] at h
    obtain ⟨v, hv, h⟩ := h
    obtain ⟨s, hs, hmatch⟩ := exists_reaches_of_valueMatches v h
    exact ⟨s, .item hv hs, hmatch⟩
  | .null, h | .bool _, h | .number _, h | .object _, h => by simp [valueMatches] at h

theorem valueMatches_of_reaches {v : Json} {s : String} (h : v.Reaches s)
    (hmatch : textMatches mode term s = true) : valueMatches mode term v = true := by
  induction h with
  | here s => rwa [valueMatches]
  | item hv _ ih =>
    rw [valueMatches, anyMatches_iff]
    exact ⟨_, hv, ih hmatch⟩

/-- A value matches by a text that it reaches. -/
theorem valueMatches_iff (v : Json) : valueMatches mode term v = true ↔
    ∃ s, v.Reaches s ∧ textMatches mode term s = true :=
  ⟨exists_reaches_of_valueMatches mode term v,
    fun ⟨_, hs, hmatch⟩ => valueMatches_of_reaches mode term hs hmatch⟩

theorem entryMatches_iff (fields : List String) (entry : Json) :
    entryMatches mode term fields entry = true ↔
      ∃ field ∈ fields, ∃ v, entry.member? field = some v ∧
        ∃ s, v.Reaches s ∧ textMatches mode term s = true := by
  rw [entryMatches, List.any_eq_true]
  refine exists_congr fun field => and_congr_right fun _ => ?_
  cases entry.member? field with
  | none => simp
  | some v => simp [valueMatches_iff]

end

/-! ## Two modes -/

/-- Where each match of one search is a match of another, the second one finds as much. -/
theorem searchEntries_sublist (entries : Json) (term term' : String) (fields fields' : List String)
    (mode mode' : CaseMode) (h : ∀ entry, entryMatches mode term fields entry = true →
      entryMatches mode' term' fields' entry = true) :
    (searchEntries entries term fields mode).Sublist
      (searchEntries entries term' fields' mode') := by
  unfold searchEntries
  refine (List.monotone_filter_right _ fun e he => ?_).map _
  exact h e.2 he

section
variable (term text : String)

/-- A text with the term in it matches in lower case as well, if no sigma changes its form there. -/
theorem textMatches_of_keepsForms (u v : List Char) (htext : text.toList = u ++ term.toList ++ v)
    (hne : text ≠ "") (hkeeps : KeepsForms u.reverse term.toList v) :
    textMatches .insensitive term text = true := by
  refine (textMatches_iff _ term text).2 ⟨hne, ?_⟩
  simp only [CaseMode.fold, toList_toLower, htext]
  exact infix_of_keepsForms term.toList u v hkeeps

theorem textMatches_of_formsFixed (hfixed : FormsFixed term.toList)
    (h : textMatches .sensitive term text = true) : textMatches .insensitive term text = true := by
  obtain ⟨hne, u, v, htext⟩ := (textMatches_iff _ term text).1 h
  exact textMatches_of_keepsForms term text u v htext.symm hne
    (keepsForms_of_formsFixed u.reverse term.toList v hfixed)

/-- A collection with one entry, which has one field. -/
def shelf (text : String) : Json := .array [.object [("title", .string text)]]

theorem searchEntries_shelf (mode : CaseMode) : searchEntries (shelf text) term ["title"] mode =
    if textMatches mode term text then ["0"] else [] := by
  have hkey : String.ofList (digits 0) = "0" := by decide
  cases h : textMatches mode term text <;>
    simp [searchEntries, entriesOf, shelf, entryMatches, Json.member?, Keyed.find?, valueMatches, h,
      hkey]

/-- Where the form of a sigma is not fixed, some text that holds the term is lost. -/
theorem exists_lost (h : ¬ FormsFixed term.toList) : ∃ text,
    textMatches .sensitive term text = true ∧ textMatches .insensitive term text = false := by
  obtain ⟨u, v, hnot⟩ := exists_not_infix term.toList h
  refine ⟨String.ofList (u ++ term.toList ++ v), ?_, ?_⟩
  · refine (textMatches_iff _ term _).2 ⟨fun hempty => hnot ?_, ?_⟩
    · have hnil : u ++ term.toList ++ v = [] := by simpa using congrArg String.toList hempty
      simp only [List.append_eq_nil_iff] at hnil
      rw [hnil.1.1, hnil.1.2, hnil.2]
      exact List.infix_rfl
    · simp only [CaseMode.fold, String.toList_ofList]
      exact ⟨u, v, rfl⟩
  · refine Bool.eq_false_iff.2 fun hmatch => hnot ?_
    have hinfix := ((textMatches_iff _ term _).1 hmatch).2
    simpa only [CaseMode.fold, toList_toLower, String.toList_ofList] using hinfix

end

/-- **Search without regard to case.**  It finds whatever is found with regard to case, in the same
order, in any entries and fields, exactly if the term fixes the forms of its sigmas.  Whatever the
term, an entry that it does not find has the term only where a sigma changes its form. -/
theorem searchEntries_insensitive (term : String) :
    ((∀ entries fields, (searchEntries entries term fields .sensitive).Sublist
        (searchEntries entries term fields .insensitive)) ↔ FormsFixed term.toList) ∧
      ∀ fields entry, entryMatches .insensitive term fields entry = false →
        ∀ field ∈ fields, ∀ v, entry.member? field = some v → ∀ text, v.Reaches text → text ≠ "" →
          ∀ before after, text.toList = before ++ term.toList ++ after →
            ¬ KeepsForms before.reverse term.toList after := by
  refine ⟨⟨fun hsublist => ?_, fun hfixed entries fields => ?_⟩, ?_⟩
  · by_contra hnot
    obtain ⟨text, hfound, hlost⟩ := exists_lost term hnot
    have h := hsublist (shelf text) ["title"]
    rw [searchEntries_shelf, searchEntries_shelf, hfound, hlost] at h
    simp at h
  · refine searchEntries_sublist entries term term fields fields _ _ fun entry h => ?_
    obtain ⟨field, hfield, v, hv, text, htext, hmatch⟩ := (entryMatches_iff _ term fields entry).1 h
    exact (entryMatches_iff _ term fields entry).2
      ⟨field, hfield, v, hv, text, htext, textMatches_of_formsFixed term text hfixed hmatch⟩
  · intro fields entry hlost field hfield v hv text htext hne before after hparts hkeeps
    have hmatch := textMatches_of_keepsForms term text before after hparts hne hkeeps
    rw [(entryMatches_iff _ term fields entry).2
      ⟨field, hfield, v, hv, text, htext, hmatch⟩] at hlost
    cases hlost

/-- At the end of a word a sigma takes a form that it does not have inside. -/
theorem sigma_lost : ¬ (searchEntries (shelf "ΑΣΑ") "ΑΣ" ["title"] .sensitive).Sublist
    (searchEntries (shelf "ΑΣΑ") "ΑΣ" ["title"] .insensitive) := by
  have halpha : lowerChar 'Α' = 'α' := by
    rw [lowerChar_eq, caseRows, Array.toList_map]
    decide +kernel
  have hcased (cs : List Char) : startsCased ('Α' :: cs) = true := by
    refine startsCased_of_cased 'Α' cs ?_ ?_ <;> rw [CodeRanges.has_eq_any] <;> decide +kernel
  have hterm : (toLower "ΑΣ").toList = ['α', 'ς'] := by
    rw [toList_toLower, show "ΑΣ".toList = ['Α', 'Σ'] from rfl]
    simp only [lowerFrom, lowerAt, halpha, hcased]
    decide
  have htext : (toLower "ΑΣΑ").toList = ['α', 'σ', 'α'] := by
    rw [toList_toLower, show "ΑΣΑ".toList = ['Α', 'Σ', 'Α'] from rfl]
    simp only [lowerFrom, lowerAt, halpha, hcased]
    decide
  have hfound : textMatches .sensitive "ΑΣ" "ΑΣΑ" = true := by decide
  have hlost : textMatches .insensitive "ΑΣ" "ΑΣΑ" = false := by
    simp only [textMatches, CaseMode.fold, hterm, htext]
    decide
  rw [searchEntries_shelf, searchEntries_shelf, hfound, hlost]
  decide

end Search

end Wayfinder
