import Wayfinder.Page.History
import Wayfinder.Proofs.Json.Decoder
import Wayfinder.Proofs.Route.Spelling
import Wayfinder.Site.Config
import Wayfinder.Tabs.Tab

/-!
# Paths and their encodings

Whatever a path is made of, it holds the segments that were spelled: those of a text, of each text
in a list, or of each string in a JSON array.  The joined text, the URL and the JSON text of a path
are each read back as the path, and so no two paths have any of them in common, nor the title of a
page:

    decoder.decodeText (Json.array (items.map .string)).print = .ok (ofSegments items)
                                                                         (decodeText_items)
    decoder.decodeText p.toJson.print = .ok p                            (decodeText_print)
-/

namespace Wayfinder

namespace RoutePath

/-! ## Paths in JSON -/

/-- Strings are items of a list, at any depth. -/
theorem takesItems_string (depth : Nat) (items : List String) :
    Decoder.string.TakesItems depth Json.string items :=
  fun item _ => ⟨(Json.isPlain_string item).noFloats, Decoder.string_takes item⟩

/-- An array of strings is taken as the path of its items. -/
theorem decoder_takes {depth : Nat} (hdepth : 1 < depth) (items : List String) :
    decoder.Takes depth (Json.array (items.map .string)).write (ofSegments items) :=
  Decoder.map_takes ofSegments (Decoder.list_takes hdepth (takesItems_string (depth - 1) items))

theorem decodeText_items (items : List String) :
    decoder.decodeText (Json.array (items.map .string)).print = .ok (ofSegments items) :=
  Decoder.decodeText_of_takes (decoder_takes (by decide) items)

theorem ofValue_items (items : List String) :
    decoder.ofValue (Json.array (items.map .string)) = .ok (ofSegments items) := by
  have hitems : (Decoder.list .string).ofValue (Json.array (items.map .string)) = .ok items :=
    Decoder.list_ofValue fun _ _ => rfl
  show ((Decoder.list .string).ofValue _).map ofSegments = _
  rw [hitems]
  rfl

variable (p : RoutePath)

theorem decodeText_print : decoder.decodeText p.toJson.print = .ok p := by
  have h := decodeText_items p.segments
  rwa [ofSegments_segments] at h

theorem ofValue_toJson : decoder.ofValue p.toJson = .ok p := by
  have h := ofValue_items p.segments
  rwa [ofSegments_segments] at h

/-! ## What tells paths apart -/

variable {p} {q : RoutePath}

theorem join_inj : p.join = q.join ↔ p = q :=
  (Function.LeftInverse.injective parse_join).eq_iff

theorem toUrl_inj : p.toUrl = q.toUrl ↔ p = q :=
  (Function.LeftInverse.injective parse_toUrl).eq_iff

end RoutePath

/-- Titles under one application name are as different as their paths. -/
theorem Config.titleFor_inj {c c' : Config} (h : c.appName = c'.appName) {p q : RoutePath} :
    c.titleFor p = c'.titleFor q ↔ p = q := by
  rw [titleFor, titleFor, h, String.append_right_inj, RoutePath.join_inj]

/-! ## States of history entries -/

namespace HistoryState

/-- A state is read from an object that holds an array of strings as its path. -/
theorem decodeText_items (items : List String) :
    decoder.decodeText (Json.object [("path", .array (items.map .string))]).print =
      .ok ⟨.ofSegments items⟩ := by
  have hfills : record.Fills (Json.depthLimit - 1) record.blank
      [("path", .array (items.map .string))] ⟨some (.ofSegments items)⟩ :=
    .cons rfl rfl (Decoder.field_takes (RoutePath.decoder_takes (by decide) items) _) .nil
  exact Decoder.decodeText_of_takes (Decoder.Record.decoder_takes (by decide) hfills rfl)

theorem ofValue_items (items : List String) :
    decoder.ofValue (Json.object [("path", .array (items.map .string))]) =
      .ok ⟨.ofSegments items⟩ := by
  have hfield : record.draftOfMembers record.blank [("path", .array (items.map .string))] =
      .ok ⟨some (.ofSegments items)⟩ := by
    show ((RoutePath.decoder.ofValue _).map _).bind _ = _
    rw [RoutePath.ofValue_items]
    rfl
  show (record.draftOfMembers record.blank _).bind record.finishDraft = _
  rw [hfield]
  rfl

variable (s : HistoryState)

theorem decodeText_print : decoder.decodeText s.toJson.print = .ok s := by
  have h := decodeText_items s.path.segments
  rwa [RoutePath.ofSegments_segments] at h

theorem ofValue_toJson : decoder.ofValue s.toJson = .ok s := by
  have h := ofValue_items s.path.segments
  rwa [RoutePath.ofSegments_segments] at h

end HistoryState

/-! ## All encodings -/

/-- **Paths and their encodings.**  A path made of a text, a list, JSON, a redirect or a tab has the
segments that are spelled there.  Every path has segments only, is cut in two anywhere without loss,
and is given back by its joined text, by its URL and by its JSON text, which tell all paths apart, as
titles do.  A state of a history entry is given back by its JSON text as well. -/
theorem RoutePath.encodings_faithful {H F : Type} :
    (∀ text names, (parse text).segments = names ↔
      Spells names text ∧ ∀ name ∈ names, IsSegment name) ∧
    (∀ items, (ofSegments items).segments = items.flatMap fun item => (parse item).segments) ∧
    (∀ text, decoder.decodeText text =
      ((Decoder.list .string).decodeText text).map ofSegments) ∧
    (∀ items, decoder.decodeText (Json.array (items.map .string)).print =
      .ok (ofSegments items)) ∧
    (∀ (n : SitemapNode H F) (dest : RoutePath),
      (n.apply (.redirect dest)).slots.target = some (.redirect dest)) ∧
    (∀ t : Tab, t.route = parse t.name) ∧
    (∀ p : RoutePath, (∀ s ∈ p.segments, s ≠ "" ∧ separator ∉ s.toList) ∧
      parse p.join = p ∧ parse p.toUrl = p ∧ ofSegments p.segments = p ∧
      decoder.decodeText p.toJson.print = .ok p ∧ decoder.ofValue p.toJson = .ok p ∧
      ∀ n, (p.take n).segments ++ (p.drop n).segments = p.segments ∧
        (p.take n).length = min n p.length) ∧
    (∀ p q : RoutePath, (p.join = q.join ↔ p = q) ∧ (p.toUrl = q.toUrl ↔ p = q) ∧
      (p.toJson.print = q.toJson.print ↔ p = q) ∧
      ∀ c c' : Config, c.appName = c'.appName → (c.titleFor p = c'.titleFor q ↔ p = q)) ∧
    (∀ items, HistoryState.decoder.decodeText
      (Json.object [("path", .array (items.map .string))]).print = .ok ⟨ofSegments items⟩) ∧
    (∀ s : HistoryState, HistoryState.decoder.decodeText s.toJson.print = .ok s ∧
      HistoryState.decoder.ofValue s.toJson = .ok s) ∧
    ∀ s s' : HistoryState, s.toJson.print = s'.toJson.print ↔ s = s' := by
  refine ⟨segments_parse_eq_iff, fun _ => rfl, Decoder.decodeText_map ofSegments, decodeText_items,
    fun _ _ => rfl, ?tab, ?path, ?tellPaths, HistoryState.decodeText_items, ?state,
    Decoder.print_inj_of_decodeText HistoryState.decodeText_print⟩
  case tab =>
    intro t
    apply RoutePath.ext
    exact List.flatMap_singleton segmentsOf t.name
  case path =>
    intro p
    refine ⟨p.canonical, p.parse_join, p.parse_toUrl, p.ofSegments_segments, p.decodeText_print,
      p.ofValue_toJson, fun n => ⟨?_, ?_⟩⟩
    · exact List.take_append_drop n p.segments
    · exact List.length_take
  case tellPaths =>
    intro p q
    exact ⟨join_inj, toUrl_inj, Decoder.print_inj_of_decodeText decodeText_print p q,
      fun _ _ h => Config.titleFor_inj h⟩
  case state =>
    intro s
    exact ⟨s.decodeText_print, s.ofValue_toJson⟩

/-- Quotes and backslashes stay in their segments, and separators do not. -/
example : (RoutePath.ofSegments ["", "a\"b/\\"]).toJson.print = "[\"a\\\"b\",\"\\\\\"]" := by
  decide +kernel

end Wayfinder
