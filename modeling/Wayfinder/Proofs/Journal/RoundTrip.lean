import Wayfinder.Proofs.Journal.Store
import Wayfinder.Proofs.Json.Decoder
import Wayfinder.Proofs.Time.RoundTrip

/-!
# Journals that are read as they were written

The text of a journal is read back if its entries hold no floating-point number and nest at most
126 deep: the reader goes 127 levels deep, and the journal itself takes one.  What comes back is the
journal, save that entries that are null are taken for none (`decodeText_print`).  Entries that nest
deeper are refused (`decodeText_deep`).
-/

namespace Wayfinder

open Json

variable {τ : Type}

namespace Journal

/-- Objects in the entries have each key once, and the time is in the calendar. -/
structure IsSound (j : Journal) : Prop where
  entries : ∀ v ∈ j.entries, v.DistinctKeys
  updatedAt : ∀ t ∈ j.updatedAt, t.IsValid

/-- The journal that its text gives back: null is no entries. -/
def restored (j : Journal) : Journal :=
  match j.entries with
  | some .null => { j with entries := none }
  | _ => j

theorem restored_eq_self {j : Journal} (h : j.entries ≠ some .null) : j.restored = j := by
  unfold restored
  split
  · exact absurd ‹_› h
  · rfl

theorem restored_eq (j : Journal) : j.restored = { j with entries := j.restored.entries } := by
  unfold restored
  split <;> rfl

/-! ## Fields -/

section
variable {depth : Nat} {entries : Option Json}

theorem entries_takes {j : Journal} (h : ∀ v ∈ j.entries, v.IsPlain ∧ v.nesting < depth) :
    (Decoder.option .value).Takes depth (j.entries.getD .null).write j.restored.entries := by
  obtain ⟨name, url, entries, updatedAt⟩ := j
  rcases entries with _ | v
  · exact Decoder.option_takes_null
  obtain ⟨hplain, hdepth⟩ := h v rfl
  by_cases hnull : v = .null
  · subst hnull
    exact Decoder.option_takes_null
  · rw [restored_eq_self (by simpa using hnull)]
    exact Decoder.option_takes (Decoder.isPresent_write hplain.noFloats hnull)
      (Decoder.value_takes hplain hdepth)

theorem entries_refuses {v : Json} (hplain : v.IsPlain) (hpos : 0 < depth)
    (hdepth : depth ≤ v.nesting) : (Decoder.option .value).Refuses depth v.write := by
  have hnull : v ≠ .null := by
    rintro rfl
    exact Nat.not_le.2 hpos hdepth
  exact Decoder.option_refuses (Decoder.isPresent_write hplain.noFloats hnull)
    (Decoder.value_refuses hplain hpos hdepth)

theorem updatedAt_takes {updatedAt : Option Timestamp} (h : ∀ t ∈ updatedAt, t.IsValid) :
    (Decoder.option Timestamp.decoder).Takes depth (updatedAt.elim .null Timestamp.toJson).write
      updatedAt := by
  rcases updatedAt with _ | t
  · exact Decoder.option_takes_null
  · have hparse := Timestamp.parse_format (h t rfl)
    refine Decoder.option_takes (Decoder.isPresent_writeString t.format) ?_
    exact Decoder.scalar_takes (by simp only [hparse])

end

/-! ## Whole journals -/

section
variable {j : Journal} (hsound : j.IsSound) (hfloat : ∀ v ∈ j.entries, v.NoFloats)

include hsound hfloat

/-- A journal is given back by its text if its entries do not nest too deep. -/
theorem decodeText_print (hdepth : ∀ v ∈ j.entries, v.nesting ≤ 126) :
    decoder.decodeText j.toJson.print = .ok j.restored := by
  have hentries : ∀ v ∈ j.entries, v.IsPlain ∧ v.nesting < 127 := fun v hv =>
    ⟨⟨hsound.entries v hv, hfloat v hv⟩, Nat.lt_succ_of_le (hdepth v hv)⟩
  have hfills : record.Fills (depthLimit - 1) record.blank
      [("name", .string j.name), ("url", .string j.url), ("entries", j.entries.getD .null),
        ("updated_at", j.updatedAt.elim .null Timestamp.toJson)]
      ⟨some j.name, some j.url, some j.restored.entries, some j.updatedAt⟩ :=
    .cons rfl rfl (Decoder.field_takes (Decoder.string_takes j.name) _) <|
    .cons rfl rfl (Decoder.field_takes (Decoder.string_takes j.url) _) <|
    .cons rfl rfl (Decoder.field_takes (entries_takes hentries) _) <|
    .cons rfl rfl (Decoder.field_takes (updatedAt_takes hsound.updatedAt) _) .nil
  have hfinish : record.finishDraft
      ⟨some j.name, some j.url, some j.restored.entries, some j.updatedAt⟩ = .ok j.restored :=
    congrArg Except.ok (restored_eq j).symm
  exact Decoder.decodeText_of_takes (Decoder.Record.decoder_takes (by decide) hfills hfinish)

/-- It is refused if they do. -/
theorem decodeText_deep {v : Json} (hv : v ∈ j.entries) (hdepth : 126 < v.nesting) :
    TooDeep (decoder.decodeText j.toJson.print) := by
  have hplain : v.IsPlain := ⟨hsound.entries v hv, hfloat v hv⟩
  have hgetD : j.entries.getD .null = v := by rw [Option.mem_def.1 hv, Option.getD_some]
  have hoverfills : record.Overfills (depthLimit - 1) record.blank
      [("name", .string j.name), ("url", .string j.url), ("entries", j.entries.getD .null),
        ("updated_at", j.updatedAt.elim .null Timestamp.toJson)] :=
    .there rfl rfl (Decoder.field_takes (Decoder.string_takes j.name) _) <|
    .there rfl rfl (Decoder.field_takes (Decoder.string_takes j.url) _) <|
    .here rfl rfl
      (Decoder.field_refuses (hgetD ▸ entries_refuses hplain (by decide) hdepth) _)
  exact Decoder.decodeText_of_refuses (Decoder.Record.decoder_refuses (by decide) hoverfills)

end

theorem IsSound.setEntries {j : Journal} {entries : Json} {now : Timestamp}
    (hentries : entries.DistinctKeys) (hnow : now.IsValid) :
    (j.setEntries entries now).IsSound :=
  ⟨fun _ hv => Option.some.inj hv ▸ hentries, fun _ ht => Option.some.inj ht ▸ hnow⟩

end Journal

/-! ## Journals that managers hold -/

/-- The entries that a body holds have each key once in every object. -/
theorem Exchange.distinctKeys_of_entries {x : Exchange} {entries : Json}
    (h : x.entries = .ok entries) : entries.DistinctKeys := by
  obtain ⟨r, -, h⟩ := exists_of_bind_eq_ok h
  obtain ⟨bytes, -, h⟩ := exists_of_bind_eq_ok h
  unfold Json.ofBytes at h
  split at h
  · rename_i v hparse
    obtain ⟨text, -, hparse⟩ := Option.map_eq_some_iff.1 hparse
    exact Except.ok.inj h ▸ distinctKeys_of_parse hparse
  · cases h

/-- Entries that are set have each key once in every object, and times are in the calendar. -/
def JournalStep.IsSound : JournalStep → Prop
  | set _ entries now => entries.DistinctKeys ∧ now.IsValid
  | update _ now => now.IsValid
  | _ => True

namespace Journals

/-- Every journal is sound. -/
def IsSound (js : Journals) : Prop := ∀ name j, js.get name = .ok j → j.IsSound

theorem isSound_nil : IsSound [] := fun _ _ h => by cases h

theorem IsSound.put {js : Journals} (h : js.IsSound) {j : Journal} (hj : j.IsSound)
    (name : String) : IsSound (Keyed.put name j js) := by
  intro name' j' hget
  rw [get_put] at hget
  split at hget
  · rwa [← Except.ok.inj hget]
  · exact h name' j' hget

section
variable [DomainMapping] (send : Transport τ)

/-- A call keeps journals sound. -/
theorem isSound_perform (f : Fetcher) {step : JournalStep} (hstep : step.IsSound)
    {s : JournalState τ} (h : s.journals.IsSound) :
    (perform send f step s).2.journals.IsSound := by
  cases step with
  | get name | names | search name term fields mode => exact h
  | create name url =>
    have hj : Journal.IsSound { name, url } := ⟨by simp, by simp⟩
    exact h.put hj name
  | set name entries now =>
    have hj {j : Journal} : (j.setEntries entries now).IsSound := .setEntries hstep.1 hstep.2
    rcases get_cases s.journals name with ⟨-, hget⟩ | ⟨-, j, hget⟩
    · simpa only [perform, setEntries, hget, Except.map] using h
    · simpa only [perform, setEntries, hget, Except.map] using h.put hj name
  | update name now =>
    rcases update_cases f s.journals name with hget | ⟨j, hget, ⟨e, hresolve⟩ | ⟨u, hresolve⟩⟩
    · simpa only [perform, update_unknown send f now _ hget] using h
    · simpa only [perform, update_unresolved send f now _ hget hresolve] using h
    · simp only [perform, update_answered send f now _ hget hresolve]
      cases hentries : Exchange.entries ⟨u, (send u s.web.wire).1⟩ with
      | error e => exact h
      | ok entries =>
        exact h.put (.setEntries (Exchange.distinctKeys_of_entries hentries) hstep) name

theorem isSound_performAll (calls : List (Fetcher × JournalStep))
    (hcalls : ∀ call ∈ calls, call.2.IsSound) {s : JournalState τ} (h : s.journals.IsSound) :
    (performAll send calls s).journals.IsSound := by
  induction calls generalizing s with
  | nil => exact h
  | cons call calls ih =>
    exact ih (fun call hcall => hcalls call (List.mem_cons_of_mem _ hcall))
      (isSound_perform send call.1 (hcalls call List.mem_cons_self) h)

/-- **Journals as text.**  Whatever managers were called, a journal that they hold without
floating-point numbers is given back by its text if its entries nest at most 126 deep, save that
null is taken for no entries; it is refused for its depth if they nest deeper. -/
theorem decodeText_held (web : Web τ) (calls : List (Fetcher × JournalStep))
    (hcalls : ∀ call ∈ calls, call.2.IsSound) {name : String} {j : Journal}
    (hj : (performAll send calls { web }).journals.get name = .ok j)
    (hfloat : ∀ v ∈ j.entries, v.NoFloats) :
    ((∀ v ∈ j.entries, v.nesting ≤ 126) → j.entries ≠ some .null →
      Journal.decoder.decodeText j.toJson.print = .ok j) ∧
    (j.entries = some .null →
      Journal.decoder.decodeText j.toJson.print = .ok { j with entries := none }) ∧
    ((∃ v ∈ j.entries, 126 < v.nesting) → TooDeep (Journal.decoder.decodeText j.toJson.print)) := by
  have hsound : j.IsSound := isSound_performAll send calls hcalls isSound_nil name j hj
  refine ⟨fun hdepth hnull => ?_, fun hnull => ?_, fun ⟨v, hv, hdepth⟩ => ?_⟩
  · rw [Journal.decodeText_print hsound hfloat hdepth, Journal.restored_eq_self hnull]
  · rw [Journal.decodeText_print hsound hfloat (by rw [hnull]; simp [nesting])]
    simp [Journal.restored, hnull]
  · exact Journal.decodeText_deep hsound hfloat hv hdepth

end

/-! ## A blog -/

section
attribute [local instance] DomainMapping.asciiOnly

/-- One entry, with marks that are escaped in its key and its text. -/
def blogEntries : Json :=
  .object [("2024/\"hello\"", .object [("text", .string "Hello\nWorld"),
    ("tags", .array [.string "intro", .null]), ("rank", .number (.int ⟨-5, by decide⟩))])]

/-- A journal is created and its entries are set. -/
def blogCalls (entries : Json) : List (Fetcher × JournalStep) :=
  [({}, .create "blog" "/blog.json"), ({}, .set "blog" entries .epoch)]

/-- The journal that is held then. -/
def blog (entries : Json) : Journal := ⟨"blog", "/blog.json", some entries, some .epoch⟩

theorem epoch_isValid : Timestamp.epoch.IsValid where
  date := by decide
  hour := by decide
  minute := by decide
  second := by decide
  nano := .inl (by decide)

theorem get_blog (entries : Json) : (performAll .unreachable (blogCalls entries)
    { web := { wire := () } }).journals.get "blog" = .ok (blog entries) := rfl

theorem isSound_blogCalls {entries : Json} (h : entries.DistinctKeys) :
    ∀ call ∈ blogCalls entries, call.2.IsSound := by
  intro call hcall
  simp only [blogCalls, List.mem_cons, List.not_mem_nil, or_false] at hcall
  rcases hcall with rfl | rfl
  · trivial
  · exact ⟨h, epoch_isValid⟩

/-- It is given back as it was. -/
theorem blog_restored : (∀ call ∈ blogCalls blogEntries, call.2.IsSound) ∧
    (performAll .unreachable (blogCalls blogEntries) { web := { wire := () } }).journals.get "blog" =
      .ok (blog blogEntries) ∧
    (∀ v ∈ (blog blogEntries).entries, v.NoFloats) ∧
    Journal.decoder.decodeText (blog blogEntries).toJson.print = .ok (blog blogEntries) := by
  have hplain : blogEntries.IsPlain := by simp [blogEntries]
  have hcalls := isSound_blogCalls hplain.distinctKeys
  have hfloat : ∀ v ∈ (blog blogEntries).entries, v.NoFloats := by
    simpa [blog] using hplain.noFloats
  have hdepth : ∀ v ∈ (blog blogEntries).entries, v.nesting ≤ 126 := by
    simp [blog, blogEntries, nesting, nestingOfMembers, nestingOfItems]
  have hnull : (blog blogEntries).entries ≠ some .null := by simp [blog, blogEntries]
  exact ⟨hcalls, get_blog blogEntries, hfloat,
    (decodeText_held _ _ _ hcalls (get_blog blogEntries) hfloat).1 hdepth hnull⟩

/-- Lists within lists. -/
def tower : Nat → Json
  | 0 => .array []
  | n + 1 => .array [tower n]

theorem isPlain_tower (n : Nat) : (tower n).IsPlain := by
  induction n with
  | zero => simp [tower]
  | succ n ih => simpa [tower] using ih

theorem nesting_tower (n : Nat) : (tower n).nesting = n + 1 := by
  induction n with
  | zero => rfl
  | succ n ih => simp [tower, nesting, nestingOfItems, ih]

/-- Managers hold a journal that comes back without its entries, which are null, and one that does
not come back, since its lists nest 127 deep. -/
theorem blog_lost :
    ((performAll .unreachable (blogCalls .null) { web := { wire := () } }).journals.get "blog" =
        .ok (blog .null) ∧
      ¬ ∃ j, Journal.decoder.decodeText (blog .null).toJson.print = .ok j ∧
        j.isLoaded = (blog .null).isLoaded) ∧
    (performAll .unreachable (blogCalls (tower 126)) { web := { wire := () } }).journals.get
        "blog" = .ok (blog (tower 126)) ∧
      ¬ ∃ j, Journal.decoder.decodeText (blog (tower 126)).toJson.print = .ok j := by
  have hsound {entries : Json} (h : entries.IsPlain) : (blog entries).IsSound :=
    .setEntries (j := { name := "blog", url := "/blog.json" }) h.distinctKeys epoch_isValid
  have hfloat {entries : Json} (h : entries.IsPlain) :
      ∀ v ∈ (blog entries).entries, v.NoFloats := by
    simpa [blog] using h.noFloats
  refine ⟨⟨get_blog .null, ?_⟩, get_blog (tower 126), ?_⟩
  · have hread := Journal.decodeText_print (hsound isPlain_null) (hfloat isPlain_null)
      (by simp [blog, nesting])
    rintro ⟨j, hj, hloaded⟩
    obtain rfl := Except.ok.inj (hread.symm.trans hj)
    cases hloaded
  · have hplain := isPlain_tower 126
    obtain ⟨e, he, -⟩ := Journal.decodeText_deep (hsound hplain) (hfloat hplain) rfl
      (by rw [nesting_tower]; decide)
    rintro ⟨j, hj⟩
    cases he.symm.trans hj

end

end Journals

end Wayfinder
