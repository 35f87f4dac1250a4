import Wayfinder.Proofs.Json.Decoder
import Wayfinder.Site.Error

/-!
# Configuration texts

A text that holds some settings of a configuration is read as those settings over the defaults, in
whatever order they stand and whatever else is there under other names:

    readConfig (object members).print = .ok (c.only settings)               (readConfig_overlay)

The text of a whole configuration gives it back, unless its application has no name.
-/

namespace Wayfinder

open Json

/-- What a configuration settles. -/
inductive Setting where
  | appName
  | maxRedirects
  | logFilter
  | fetchBaseUrl
deriving DecidableEq

namespace Setting

/-- The name of a setting in a text. -/
def key : Setting → String
  | appName => "app_name"
  | maxRedirects => "max_redirects"
  | logFilter => "log_filter"
  | fetchBaseUrl => "fetch_base_url"

def all : List Setting := [appName, maxRedirects, logFilter, fetchBaseUrl]

/-- The setting of a name. -/
def ofKey? (key : String) : Option Setting := all.find? (·.key = key)

@[simp] theorem ofKey?_key (s : Setting) : ofKey? s.key = some s := by cases s <;> rfl

theorem ofKey?_eq_none_iff {key : String} : ofKey? key = none ↔ ∀ s : Setting, s.key ≠ key := by
  have hall (s : Setting) : s ∈ all := by cases s <;> decide
  simp [ofKey?, hall]

/-- What is no name of a setting is no field. -/
theorem field?_eq_none [DomainMapping] {key : String} (h : ∀ s : Setting, s.key ≠ key) :
    Config.record.field? key = none := by
  have hnames : Config.record.fields.map (·.name) = all.map Setting.key := rfl
  refine List.find?_eq_none.2 fun f hf hname => ?_
  have hmem : f.name ∈ all.map Setting.key := hnames ▸ List.mem_map_of_mem hf
  obtain ⟨s, -, hs⟩ := List.mem_map.1 hmem
  exact h s (hs.trans (of_decide_eq_true hname))

/-- The settings that members are for. -/
def listed (ms : List (String × Json)) : List Setting := ms.filterMap (ofKey? ·.1)

theorem listed_cons_none {m : String × Json} (h : ofKey? m.1 = none) (ms : List (String × Json)) :
    listed (m :: ms) = listed ms :=
  List.filterMap_cons_none h

theorem listed_cons_some {m : String × Json} {s : Setting} (h : ofKey? m.1 = some s)
    (ms : List (String × Json)) : listed (m :: ms) = s :: listed ms :=
  List.filterMap_cons_some h

theorem listed_append (ms ms' : List (String × Json)) :
    listed (ms ++ ms') = listed ms ++ listed ms' :=
  List.filterMap_append

end Setting

namespace Config

variable (c : Config)

/-- The value of a setting in JSON. -/
def value : Setting → Json
  | .appName => .string c.appName
  | .maxRedirects => .ofNat c.maxRedirects
  | .logFilter => .string c.logFilter
  | .fetchBaseUrl => c.fetchBaseUrl.elim .null (.string ·.serialize)

/-- A setting as the member of an object. -/
def member (s : Setting) : String × Json := (s.key, c.value s)

/-- The configuration with these settings, and with the defaults of the others. -/
def only (settings : List Setting) : Config where
  appName := if .appName ∈ settings then c.appName else ({} : Config).appName
  maxRedirects := if .maxRedirects ∈ settings then c.maxRedirects else ({} : Config).maxRedirects
  logFilter := if .logFilter ∈ settings then c.logFilter else ({} : Config).logFilter
  fetchBaseUrl := if .fetchBaseUrl ∈ settings then c.fetchBaseUrl else ({} : Config).fetchBaseUrl

theorem toJson_eq : c.toJson = .object (Setting.all.map c.member) := rfl

/-- The draft that has these settings. -/
def draft (settings : List Setting) : Draft where
  appName := if .appName ∈ settings then some c.appName else none
  maxRedirects := if .maxRedirects ∈ settings then some c.maxRedirects else none
  logFilter := if .logFilter ∈ settings then some c.logFilter else none
  fetchBaseUrl := if .fetchBaseUrl ∈ settings then some c.fetchBaseUrl else none

theorem overlay_draft (settings : List Setting) :
    (c.draft settings).overlay {} = c.only settings := by
  simp only [Draft.overlay, draft, only, Config.mk.injEq]
  refine ⟨?_, ?_, ?_, ?_⟩ <;> split <;> rfl

variable {c}

theorem only_congr {settings settings' : List Setting} (h : ∀ s, s ∈ settings ↔ s ∈ settings') :
    c.only settings = c.only settings' := by
  simp only [only, h]

section
variable {settings : List Setting} {others ms : List (String × Json)}
  (hothers : ∀ m ∈ others, ∀ s : Setting, s.key ≠ m.1)
  (hperm : ms.Perm (settings.map c.member ++ others))

include hothers hperm

theorem listed_perm : (Setting.listed ms).Perm settings := by
  have hsettings : Setting.listed (settings.map c.member) = settings := by
    simp [Setting.listed, List.filterMap_map, Function.comp_def, member]
  have hnone : Setting.listed others = [] :=
    List.filterMap_eq_nil_iff.2 fun m hm => Setting.ofKey?_eq_none_iff.2 (hothers m hm)
  have hlisted : (Setting.listed ms).Perm (Setting.listed (settings.map c.member ++ others)) :=
    hperm.filterMap _
  rwa [Setting.listed_append, hsettings, hnone, List.append_nil] at hlisted

theorem eq_member_of_ofKey? {m : String × Json} (hm : m ∈ ms) {s : Setting}
    (hkey : Setting.ofKey? m.1 = some s) : m = c.member s := by
  rcases List.mem_append.1 (hperm.mem_iff.1 hm) with hm | hm
  · obtain ⟨s', -, rfl⟩ := List.mem_map.1 hm
    rw [member, Setting.ofKey?_key] at hkey
    rw [Option.some.inj hkey]
  · rw [Setting.ofKey?_eq_none_iff.2 (hothers m hm)] at hkey
    cases hkey

end

/-! ## Reading members -/

variable [DomainMapping] (hmax : c.maxRedirects < 0x10000000000000000)
  (hurl : ∀ u ∈ c.fetchBaseUrl, Url.parse u.serialize = .ok u)

theorem urlDecoder_takes {depth : Nat} {u : Url} (h : Url.parse u.serialize = .ok u) :
    urlDecoder.Takes depth (writeString u.serialize) u :=
  Decoder.scalar_takes (by simp only [h])

include hurl in
theorem fetchBaseUrl_takes {depth : Nat} :
    (Decoder.option urlDecoder).Takes depth (c.value .fetchBaseUrl).write c.fetchBaseUrl := by
  rw [value]
  cases hbase : c.fetchBaseUrl with
  | none => exact Decoder.option_takes_null
  | some u =>
    exact Decoder.option_takes (Decoder.isPresent_writeString _) (urlDecoder_takes (hurl u hbase))

include hmax hurl

/-- The field of a setting tells whether a draft has it, and takes it from its text. -/
theorem exists_field (s : Setting) (settings : List Setting) (depth : Nat) :
    ∃ f, record.field? s.key = some f ∧
      (f.isSet (c.draft settings) = true ↔ s ∈ settings) ∧
      ∀ rest, EndsNumber rest → f.ofText depth ((c.value s).write ++ rest) (c.draft settings) =
        .ok (c.draft (settings ++ [s]), rest) := by
  cases s with
  | appName =>
    refine ⟨_, rfl, Option.isSome_ite, fun rest hrest => ?_⟩
    refine (Decoder.field_takes (Decoder.string_takes c.appName) _ _ hrest).trans ?_
    simp [draft]
  | maxRedirects =>
    refine ⟨_, rfl, Option.isSome_ite, fun rest hrest => ?_⟩
    refine (Decoder.field_takes (Decoder.size_takes hmax) _ _ hrest).trans ?_
    simp [draft]
  | logFilter =>
    refine ⟨_, rfl, Option.isSome_ite, fun rest hrest => ?_⟩
    refine (Decoder.field_takes (Decoder.string_takes c.logFilter) _ _ hrest).trans ?_
    simp [draft]
  | fetchBaseUrl =>
    refine ⟨_, rfl, Option.isSome_ite, fun rest hrest => ?_⟩
    refine (Decoder.field_takes (fetchBaseUrl_takes hurl) _ _ hrest).trans ?_
    simp [draft]

/-- Members of which each setting is at most one fill a draft that lacks these settings. -/
theorem fills_draft (depth : Nat) (ms : List (String × Json)) (settings : List Setting)
    (hms : ∀ m ∈ ms, ∀ s, Setting.ofKey? m.1 = some s → m = c.member s)
    (hnodup : (settings ++ Setting.listed ms).Nodup) :
    record.Fills depth (c.draft settings) ms (c.draft (settings ++ Setting.listed ms)) := by
  induction ms generalizing settings with
  | nil =>
    rw [Setting.listed, List.filterMap_nil, List.append_nil]
    exact .nil
  | cons m ms ih =>
    have hrest : ∀ m ∈ ms, ∀ s, Setting.ofKey? m.1 = some s → m = c.member s :=
      fun m hm => hms m (List.mem_cons_of_mem _ hm)
    cases hkey : Setting.ofKey? m.1 with
    | none =>
      rw [Setting.listed_cons_none hkey] at hnodup ⊢
      exact .unknown (Setting.field?_eq_none (Setting.ofKey?_eq_none_iff.1 hkey))
        (ih settings hrest hnodup)
    | some s =>
      obtain rfl := hms m List.mem_cons_self s hkey
      rw [Setting.listed_cons_some hkey] at hnodup ⊢
      have hlacks : s ∉ settings := fun hs =>
        (List.nodup_append.1 hnodup).2.2 s hs s List.mem_cons_self rfl
      obtain ⟨f, hfield, hset, htake⟩ := exists_field hmax hurl s settings depth
      rw [List.append_cons] at hnodup ⊢
      exact .cons hfield (Bool.eq_false_iff.2 fun h => hlacks (hset.1 h)) htake
        (ih (settings ++ [s]) hrest hnodup)

/-- Some settings and whatever else, in any order, are read as the settings over the defaults. -/
theorem decodeText_members (settings : List Setting) (others ms : List (String × Json))
    (hnodup : settings.Nodup) (hothers : ∀ m ∈ others, ∀ s : Setting, s.key ≠ m.1)
    (hperm : ms.Perm (settings.map c.member ++ others)) :
    decoder.decodeText (object ms).print = .ok (c.only settings) := by
  have hlisted := listed_perm hothers hperm
  have hms : ∀ m ∈ ms, ∀ s, Setting.ofKey? m.1 = some s → m = c.member s := fun m hm s =>
    eq_member_of_ofKey? hothers hperm hm
  have hfills := fills_draft hmax hurl (depthLimit - 1) ms [] hms (hlisted.nodup_iff.2 hnodup)
  have hfinish : record.finishDraft (c.draft (Setting.listed ms)) = .ok (c.only settings) := by
    rw [← only_congr fun s => hlisted.mem_iff, ← overlay_draft]
    rfl
  exact Decoder.decodeText_of_takes (Decoder.Record.decoder_takes (by decide) hfills hfinish)

end Config

/-! ## Whole texts -/

theorem readConfig_of_decodeText [DomainMapping] {text : String} {c : Config}
    (h : Config.decoder.decodeText text = .ok c) :
    readConfig text = if Text.allBlank c.appName then .error (.config "app_name cannot be empty")
      else .ok c := by
  simp only [readConfig, Config.parse, h]
  by_cases hblank : Text.allBlank c.appName = true
  · rw [if_pos hblank, if_pos hblank]
    rfl
  · rw [if_neg hblank, if_neg hblank]

/-- **A configuration text overlays the defaults.**  Of a configuration whose application has a
name, any of its settings, in any order and among whatever members under other names, are read as
these settings over the defaults; its own text gives it back.  The text of a configuration whose
application has no name is refused for that. -/
theorem readConfig_overlay [DomainMapping] (c : Config)
    (hmax : c.maxRedirects < 0x10000000000000000)
    (hurl : ∀ u ∈ c.fetchBaseUrl, Url.parse u.serialize = .ok u) :
    (Text.allBlank c.appName = false →
      (∀ (settings : List Setting) (others ms : List (String × Json)), settings.Nodup →
        (∀ m ∈ others, ∀ s : Setting, s.key ≠ m.1) →
        ms.Perm (settings.map c.member ++ others) →
        readConfig (object ms).print = .ok (c.only settings)) ∧
      readConfig c.toJson.print = .ok c) ∧
    (Text.allBlank c.appName = true →
      readConfig c.toJson.print = .error (.config "app_name cannot be empty")) := by
  have hwhole : Config.decoder.decodeText c.toJson.print = .ok c := by
    rw [Config.toJson_eq]
    have hperm : (Setting.all.map c.member).Perm (Setting.all.map c.member ++ []) := by
      rw [List.append_nil]
    exact Config.decodeText_members hmax hurl Setting.all [] _ (by decide) (by simp) hperm
  refine ⟨fun hname => ⟨fun settings others ms hnodup hothers hperm => ?_, ?_⟩, fun hblank => ?_⟩
  · have hnamed : Text.allBlank (c.only settings).appName = false := by
      simp only [Config.only]
      split
      · exact hname
      · decide
    have hread := Config.decodeText_members hmax hurl settings others ms hnodup hothers hperm
    rw [readConfig_of_decodeText hread, hnamed]
    rfl
  · rw [readConfig_of_decodeText hwhole, hname]
    rfl
  · rw [readConfig_of_decodeText hwhole, hblank]
    rfl

/-! ## A site of documents -/

section
attribute [local instance] DomainMapping.asciiOnly

def docsBase : Url := ⟨"http", some ⟨"", none, "[::1]", some 8080⟩, "/docs/", none, none⟩

/-- A name with marks that are escaped, and as many redirects as there may be. -/
def docs : Config where
  appName := "Docs\n\"α\""
  maxRedirects := 0xFFFFFFFFFFFFFFFF
  logFilter := ""
  fetchBaseUrl := some docsBase

/-- A name that is almost that of a setting, twice. -/
def docsOthers : List (String × Json) :=
  [("App_name", .array [.number (.float ⟨true, 3, -1⟩),
    .object [("app_name", .null), ("app_name", .string "")]]), ("App_name", .bool true)]

/-- Two settings behind others are read over the defaults, the whole configuration is given back,
and without a name it is refused. -/
theorem docs_read :
    docs.maxRedirects < 0x10000000000000000 ∧
    (∀ u ∈ docs.fetchBaseUrl, Url.parse u.serialize = .ok u) ∧
    Text.allBlank docs.appName = false ∧
    (∀ m ∈ docsOthers, ∀ s : Setting, s.key ≠ m.1) ∧
    readConfig
        (object ([Setting.maxRedirects, .appName].map docs.member ++ docsOthers).reverse).print =
      .ok { appName := docs.appName, maxRedirects := docs.maxRedirects } ∧
    readConfig docs.toJson.print = .ok docs ∧
    Text.allBlank "\t " = true ∧
    readConfig ({ docs with appName := "\t " } : Config).toJson.print =
      .error (.config "app_name cannot be empty") := by
  have hmax : docs.maxRedirects < 0x10000000000000000 := by decide
  have hbase : Url.parse docsBase.serialize = .ok docsBase := by decide +kernel
  have hurl : ∀ u ∈ docs.fetchBaseUrl, Url.parse u.serialize = .ok u := by
    rintro _ ⟨⟩
    exact hbase
  have hname : Text.allBlank docs.appName = false := by decide
  have hothers : ∀ m ∈ docsOthers, ∀ s : Setting, s.key ≠ m.1 := by
    simp only [docsOthers, List.mem_cons, List.not_mem_nil, or_false]
    rintro m (rfl | rfl) s <;> cases s <;> decide
  obtain ⟨hread, hwhole⟩ := (readConfig_overlay docs hmax hurl).1 hname
  have hblank : Text.allBlank "\t " = true := by decide
  exact ⟨hmax, hurl, hname, hothers,
    hread [.maxRedirects, .appName] docsOthers _ (by decide) hothers (List.reverse_perm _), hwhole,
    hblank, (readConfig_overlay { docs with appName := "\t " } hmax hurl).2 hblank⟩

end

end Wayfinder
