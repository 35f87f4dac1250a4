import Mathlib.Logic.Relation
import Wayfinder.Navigation.Navigator
import Wayfinder.Proofs.Route.Encoding

/-!
# Texts and lists denote the same paths

To read a path is to read its parts one after the other, however they are put together: a text of
two parts with a separator between them has the segments of the first part and then those of the
second.  So a list denotes the path of the text into which it is joined, and a separator more,
where there is an end or another separator, is not seen.  Nothing else is overlooked:

    ofSegments items = parse ("/".intercalate items)                       (ofSegments_eq_parse)
    parse a = parse b ↔ Relation.EqvGen AddsSeparator a b                      (parse_eq_parse_iff)

The second statement goes through the joined text of a path, which has no separator too many: every
text gets there by the removal of separators.
-/

namespace Wayfinder

/-- The second text has a separator more than the first one, where it is not needed: at the start,
at the end, or beside another one. -/
inductive AddsSeparator : String → String → Prop
  | front (text : String) : AddsSeparator text ("/" ++ text)
  | back (text : String) : AddsSeparator text (text ++ "/")
  | beside (before after : String) :
      AddsSeparator (before ++ "/" ++ after) (before ++ "/" ++ "/" ++ after)

/-! ## Joined texts -/

theorem segmentsOf_intercalate (items : List String) :
    segmentsOf ("/".intercalate items) = items.flatMap segmentsOf := by
  induction items with
  | nil => exact segmentsOf_empty
  | cons item items ih =>
    cases items with
    | nil => exact (List.flatMap_singleton segmentsOf item).symm
    | cons next items =>
      rw [String.intercalate_cons_cons, segmentsOf_append, ih]
      exact List.flatMap_cons.symm

/-! ## Separators that are not needed -/

theorem segmentsOf_append_separator (text : String) :
    segmentsOf (text ++ "/") = segmentsOf text := by
  have h := segmentsOf_append text ""
  rwa [String.append_empty, segmentsOf_empty, List.append_nil] at h

/-- A text and its spelling with a separator more have the same segments. -/
theorem AddsSeparator.segmentsOf_eq {a b : String} (h : AddsSeparator a b) :
    segmentsOf a = segmentsOf b := by
  cases h with
  | front => exact (segmentsOf_separator a).symm
  | back => exact (segmentsOf_append_separator a).symm
  | beside before after =>
    rw [segmentsOf_append, segmentsOf_append, segmentsOf_append_separator]

/-- Behind another part, a separator at the start of a text stands beside one. -/
theorem AddsSeparator.behind {a b : String} (h : AddsSeparator a b) (part : String) :
    AddsSeparator (part ++ "/" ++ a) (part ++ "/" ++ b) := by
  cases h with
  | front => simpa only [String.append_assoc] using AddsSeparator.beside part a
  | back => simpa only [String.append_assoc] using AddsSeparator.back (part ++ "/" ++ a)
  | beside before after =>
    simpa only [String.append_assoc] using AddsSeparator.beside (part ++ "/" ++ before) after

theorem eqvGen_behind {a b : String} (h : Relation.EqvGen AddsSeparator a b) (part : String) :
    Relation.EqvGen AddsSeparator (part ++ "/" ++ a) (part ++ "/" ++ b) := by
  induction h with
  | rel a b h => exact .rel _ _ (h.behind part)
  | refl a => exact .refl _
  | symm a b _ ih => exact .symm _ _ ih
  | trans a b c _ _ ih ih' => exact .trans _ _ _ ih ih'

/-- Every spelling of some names comes down to the one with no separator too many. -/
theorem Spells.eqvGen_intercalate {names : List String} {text : String} (h : Spells names text) :
    Relation.EqvGen AddsSeparator text ("/".intercalate names) := by
  induction h with
  | empty => exact .refl _
  | last name => exact .refl _
  | @separator names text _ ih => exact .trans _ _ _ (.symm _ _ (.rel _ _ (.front text))) ih
  | @segment name names text _ ih =>
    refine .trans _ _ _ (eqvGen_behind ih name) ?_
    cases names with
    | nil =>
      have hback : AddsSeparator name (name ++ "/" ++ "/".intercalate []) := by
        rw [String.intercalate_nil, String.append_empty]
        exact .back name
      exact .symm _ _ (.rel _ _ hback)
    | cons next names =>
      rw [← String.intercalate_cons_cons]
      exact .refl _

namespace RoutePath

/-! ## Texts and lists -/

/-- A list is the path of its items joined. -/
theorem ofSegments_eq_parse (items : List String) :
    ofSegments items = parse ("/".intercalate items) :=
  RoutePath.ext (segmentsOf_intercalate items).symm

/-- Two texts are read as one path if and only if they differ in separators that are not needed. -/
theorem parse_eq_parse_iff (a b : String) :
    parse a = parse b ↔ Relation.EqvGen AddsSeparator a b := by
  constructor
  · intro h
    have ha : Relation.EqvGen AddsSeparator a (parse a).join :=
      (spells_segmentsOf a).eqvGen_intercalate
    have hb : Relation.EqvGen AddsSeparator b (parse b).join :=
      (spells_segmentsOf b).eqvGen_intercalate
    rw [h] at ha
    exact .trans _ _ _ ha (.symm _ _ hb)
  · intro h
    induction h with
    | rel a b h => exact RoutePath.ext h.segmentsOf_eq
    | refl a => rfl
    | symm a b _ ih => exact ih.symm
    | trans a b c _ _ ih ih' => exact ih.trans ih'

/-- A path in JSON is that of its strings joined, or is refused as no list of strings. -/
theorem decodeText_eq_parse (text : String) : decoder.decodeText text =
    ((Decoder.list .string).decodeText text).map fun items => parse ("/".intercalate items) := by
  have hjoined : ofSegments = fun items => parse ("/".intercalate items) :=
    funext ofSegments_eq_parse
  rw [← hjoined]
  exact Decoder.decodeText_map ofSegments text

/-- **Paths are read part by part.**  The path of two parts with a separator between them has the
segments of the first and then those of the second; that of a list has those of its items and is
the path of the items joined, wherever a path is asked for; and a path is that of its own segments.
Texts are read as the same path if and only if one becomes the other by separators that are added
or taken away at its start, at its end or beside others. -/
theorem parse_homomorphic {ω H F : Type} :
    (∀ a b, (parse (a ++ "/" ++ b)).segments = (parse a).segments ++ (parse b).segments) ∧
    (∀ items, ofSegments items = parse ("/".intercalate items) ∧
      (ofSegments items).segments = items.flatMap fun item => (parse item).segments) ∧
    (∀ p : RoutePath, ofSegments p.segments = p) ∧
    (∀ (n : Navigator ω) (items : List String) (h : Host ω),
      n.navigate (ofSegments items) h = n.navigate (parse ("/".intercalate items)) h) ∧
    (∀ (n : SitemapNode H F) (items : List String),
      (n.apply (.redirect (ofSegments items))).slots.target =
        some (.redirect (parse ("/".intercalate items)))) ∧
    (∀ text, decoder.decodeText text =
      ((Decoder.list .string).decodeText text).map fun items => parse ("/".intercalate items)) ∧
    (∀ items, HistoryState.decoder.decodeText
      (Json.object [("path", .array (items.map .string))]).print =
        .ok ⟨parse ("/".intercalate items)⟩) ∧
    ∀ a b, parse a = parse b ↔ Relation.EqvGen AddsSeparator a b := by
  refine ⟨segmentsOf_append, fun items => ⟨ofSegments_eq_parse items, rfl⟩,
    ofSegments_segments, fun n items h => ?navigate, fun n items => ?redirect,
    decodeText_eq_parse, fun items => ?state, parse_eq_parse_iff⟩
  case navigate => rw [ofSegments_eq_parse]
  case redirect =>
    rw [← ofSegments_eq_parse]
    rfl
  case state =>
    rw [← ofSegments_eq_parse]
    exact HistoryState.decodeText_items items

/-- Two items, of which one is empty and the other one has a part of its own. -/
example : ofSegments ["", "a//b/"] = parse "/a/b" := by decide

end RoutePath

end Wayfinder
