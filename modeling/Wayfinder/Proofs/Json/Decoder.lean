import Wayfinder.Json.Decoder
import Wayfinder.Proofs.Json.Skipping

/-!
# Decoders on written texts

A decoder *takes* a value from a text if it reads it whatever follows, provided that this is no
part of a number; it *refuses* a text as too deep if it runs into the limit of its depth.  A list is
taken from the text of an array whose items are taken one by one, and a record from the text of an
object whose members fill its fields one after the other; members that are no fields are passed over.
-/

namespace Wayfinder

open Json

namespace Decoder

variable {α D : Type}

/-- The decoder takes the value from the text. -/
def Takes (d : Decoder α) (depth : Nat) (cs : List Char) (a : α) : Prop :=
  ∀ rest, EndsNumber rest → d.ofText depth (cs ++ rest) = .ok (a, rest)

/-- The decoder refuses the text for its depth. -/
def Refuses (d : Decoder α) (depth : Nat) (cs : List Char) : Prop :=
  ∀ rest, EndsNumber rest → TooDeep (d.ofText depth (cs ++ rest))

section
variable {depth : Nat}

/-! ## Scalars and options -/

theorem scalar_takes {expected : String} {parse : String → Except String α} {s : String} {a : α}
    (h : parse s = .ok a) : (scalar expected parse).Takes depth (writeString s) a := by
  intro rest _
  have hquote (r : List Char) : skipSpace ('"' :: r) = '"' :: r := skipSpace_cons (by decide) r
  simp only [scalar, writeString_eq, hquote, readString_escaped, h, bind, Except.bind]

theorem string_takes (s : String) : string.Takes depth (writeString s) s := scalar_takes rfl

/-- A natural number that 64 bits hold. -/
theorem size_takes {n : Nat} (hn : n < 0x10000000000000000) :
    size.Takes depth (Json.ofNat n).write n := by
  intro rest hrest
  have hread := readNumber_digits hn hrest false
  obtain ⟨c, cs, hdigits, hc, -⟩ := Text.digits_eq_cons n
  -- the reader looks for a sign first, and a digit is none
  obtain ⟨hspace, -, hminus, -⟩ := of_isDigit hc
  have hwrite : (Json.ofNat n).write = Text.digits n := by
    rw [Json.ofNat, dif_pos hn]
    rfl
  rw [hdigits, List.cons_append] at hread
  rw [hwrite, hdigits, List.cons_append]
  simp only [size, skipSpace_cons hspace, hc, if_true, hread, integerNumber, Bool.false_eq_true,
    if_false]
  rw [dif_pos hn]
  rfl

theorem value_takes {v : Json} (h : v.IsPlain) (hdepth : v.nesting < depth) :
    value.Takes depth v.write v :=
  fun _ hrest => read_write h hdepth hrest

theorem value_refuses {v : Json} (h : v.IsPlain) (hpos : 0 < depth) (hdepth : depth ≤ v.nesting) :
    value.Refuses depth v.write :=
  fun rest _ => read_deep h hpos hdepth rest

variable {d : Decoder α}

theorem option_takes_null : (option d).Takes depth null.write none := fun _ _ => rfl

/-- A text that starts neither with a blank nor as null does. -/
def IsPresent (cs : List Char) : Prop := ∃ c rest, cs = c :: rest ∧ isSpace c = false ∧ c ≠ 'n'

theorem ofText_option {cs : List Char} (hcs : IsPresent cs) (rest : List Char) :
    (option d).ofText depth (cs ++ rest) =
      (d.ofText depth (cs ++ rest)).map fun (a, r) => (some a, r) := by
  obtain ⟨c, cs, rfl, hspace, hc⟩ := hcs
  rw [List.cons_append]
  simp only [option, skipSpace_cons hspace]
  split
  · rename_i heq
    exact absurd (List.cons.inj heq).1 hc
  · rfl

theorem option_takes {cs : List Char} (hcs : IsPresent cs) {a : α} (h : d.Takes depth cs a) :
    (option d).Takes depth cs (some a) := by
  intro rest hrest
  rw [ofText_option hcs, h rest hrest]
  rfl

theorem option_refuses {cs : List Char} (hcs : IsPresent cs) (h : d.Refuses depth cs) :
    (option d).Refuses depth cs := by
  intro rest hrest
  obtain ⟨e, he, hcause⟩ := h rest hrest
  rw [ofText_option hcs, he]
  exact ⟨e, rfl, hcause⟩

theorem isPresent_writeString (s : String) : IsPresent (writeString s) :=
  ⟨'"', _, rfl, by decide⟩

/-- Every value but null is present. -/
theorem isPresent_write {v : Json} (hfloat : v.NoFloats) (hnull : v ≠ null) :
    IsPresent v.write := by
  obtain ⟨c, cs, hwrite, hspace, -, hc⟩ := write_eq_cons hfloat
  exact ⟨c, cs, hwrite, hspace, mt hc hnull⟩

end

/-! ## Lists and what is made of a value -/

section
variable {β : Type} {depth : Nat} {d : Decoder α} {cs : List Char} {a : α}

theorem map_takes (f : α → β) (h : d.Takes depth cs a) : (d.map f).Takes depth cs (f a) := by
  intro rest hrest
  simp only [map, h rest hrest, Except.map]

theorem decodeText_map (f : α → β) (text : String) :
    (d.map f).decodeText text = (d.decodeText text).map f := by
  simp only [decodeText, map, bind, Except.bind]
  cases d.ofText depthLimit text.toList with
  | error e => rfl
  | ok result =>
    obtain ⟨a, rest⟩ := result
    simp only [Except.map, readEnd]
    split <;> rfl

/-- Each item is taken from its text, which has no number that could be taken for another. -/
def TakesItems (d : Decoder α) (depth : Nat) (encode : α → Json) (items : List α) : Prop :=
  ∀ a ∈ items, (encode a).NoFloats ∧ d.Takes depth (encode a).write a

variable {encode : α → Json}

theorem itemsOfText_step {fuel : Nat} {first : Bool} {before : List α} {s rest : List Char}
    (hnext : nextItem first s = .ok (some ((encode a).write ++ rest), []))
    (htake : d.Takes depth (encode a).write a) (hrest : EndsNumber rest) :
    d.itemsOfText depth (fuel + 1) first before s =
      d.itemsOfText depth fuel false (a :: before) rest := by
  simp only [itemsOfText, hnext, htake rest hrest]

theorem itemsOfText_end (fuel : Nat) (first : Bool) (before : List α) (rest : List Char) :
    d.itemsOfText depth (fuel + 1) first before (']' :: rest) = .ok (before.reverse, rest) := by
  simp only [itemsOfText, nextItem_end]

/-- The items behind the first one are taken one by one. -/
theorem itemsOfText_writeItems (items before : List α) (h : d.TakesItems depth encode items)
    (fuel : Nat) (hfuel : items.length < fuel) (rest : List Char) :
    d.itemsOfText depth fuel false before (writeItems (items.map encode) ++ rest) =
      .ok (before.reverse ++ items, rest) := by
  induction items generalizing fuel before with
  | nil =>
    obtain ⟨fuel, rfl⟩ := Nat.exists_eq_add_one_of_ne_zero (by omega : fuel ≠ 0)
    rw [List.append_nil]
    exact itemsOfText_end fuel false before rest
  | cons a items ih =>
    obtain ⟨fuel, rfl⟩ := Nat.exists_eq_add_one_of_ne_zero (by omega : fuel ≠ 0)
    obtain ⟨hfloat, htake⟩ := h a List.mem_cons_self
    have hitems : d.TakesItems depth encode items := fun b hb => h b (List.mem_cons_of_mem a hb)
    have hfuel' : items.length < fuel := by simpa using hfuel
    rw [List.map_cons, writeItems, List.cons_append, List.cons_append, List.append_assoc,
      itemsOfText_step (nextItem_write_comma hfloat _) htake (endsNumber_writeItems _ rest),
      ih (a :: before) hitems fuel hfuel', List.reverse_cons, List.append_assoc,
      List.singleton_append]

theorem length_le_writeItems (vs : List Json) : vs.length ≤ (writeItems vs).length := by
  induction vs with
  | nil => exact Nat.zero_le _
  | cons v vs ih =>
    simp only [writeItems, List.length_cons, List.length_append, List.cons_append]
    omega

/-- **Lists as text.**  A list is taken from an array of its items. -/
theorem list_takes (hdepth : 1 < depth) {items : List α}
    (h : d.TakesItems (depth - 1) encode items) :
    (list d).Takes depth (Json.array (items.map encode)).write items := by
  intro rest _
  have hopen (r : List Char) : (list d).ofText depth ('[' :: r) =
      d.itemsOfText (depth - 1) (r.length + 1) true [] r := by
    have hspace : skipSpace ('[' :: r) = '[' :: r := skipSpace_cons (by decide) r
    simp only [list, hspace, Nat.not_le.2 hdepth, if_false]
  cases items with
  | nil =>
    rw [List.map_nil, write, List.cons_append, hopen, List.singleton_append]
    exact itemsOfText_end _ true [] rest
  | cons a items =>
    obtain ⟨hfloat, htake⟩ := h a List.mem_cons_self
    have hitems : d.TakesItems (depth - 1) encode items :=
      fun b hb => h b (List.mem_cons_of_mem a hb)
    have hlength := length_le_writeItems (items.map encode)
    have hpos := length_pos_write hfloat
    rw [List.map_cons, write, List.cons_append, List.cons_append, List.append_assoc, hopen,
      itemsOfText_step (nextItem_write_first hfloat _) htake (endsNumber_writeItems _ rest)]
    apply itemsOfText_writeItems items [a] hitems
    rw [List.length_map] at hlength
    simp only [List.length_append]
    omega

theorem list_ofValue {items : List α} (h : ∀ a ∈ items, d.ofValue (encode a) = .ok a) :
    (list d).ofValue (Json.array (items.map encode)) = .ok items := by
  show (items.map encode).mapM d.ofValue = .ok items
  induction items with
  | nil => rfl
  | cons a items ih =>
    have htail := ih fun b hb => h b (List.mem_cons_of_mem a hb)
    rw [List.map_cons, List.mapM_cons, h a List.mem_cons_self, htail]
    rfl

end

/-! ## Records -/

namespace Record

variable (r : Record D α) (depth : Nat)

/-- The members fill fields of a draft, each one that it lacks; those that are no fields are passed
over, whatever they hold. -/
inductive Fills : D → List (String × Json) → D → Prop
  | nil {draft : D} : Fills draft [] draft
  | unknown {draft last : D} {key : String} {v : Json} {ms : List (String × Json)}
      (hfield : r.field? key = none) (h : Fills draft ms last) : Fills draft ((key, v) :: ms) last
  | cons {draft next last : D} {key : String} {v : Json} {ms : List (String × Json)} {f : Field D}
      (hfield : r.field? key = some f) (hset : f.isSet draft = false)
      (htake : ∀ rest, EndsNumber rest → f.ofText depth (v.write ++ rest) draft = .ok (next, rest))
      (h : Fills next ms last) : Fills draft ((key, v) :: ms) last

/-- The members fill fields of a draft up to one whose value is refused for its depth. -/
inductive Overfills : D → List (String × Json) → Prop
  | here {draft : D} {key : String} {v : Json} {ms : List (String × Json)} {f : Field D}
      (hfield : r.field? key = some f) (hset : f.isSet draft = false)
      (hrefuse : ∀ rest, EndsNumber rest → TooDeep (f.ofText depth (v.write ++ rest) draft)) :
      Overfills draft ((key, v) :: ms)
  | there {draft next : D} {key : String} {v : Json} {ms : List (String × Json)} {f : Field D}
      (hfield : r.field? key = some f) (hset : f.isSet draft = false)
      (htake : ∀ rest, EndsNumber rest → f.ofText depth (v.write ++ rest) draft = .ok (next, rest))
      (h : Overfills next ms) : Overfills draft ((key, v) :: ms)

variable {r depth}

section
variable {fuel : Nat} {first : Bool} {draft next : D} {key : String} {v : Json} {f : Field D}
  {s rest : List Char}

theorem membersOfText_step
    (hnext : nextKey first s =
      .ok (some (key.toList.flatMap escapedChar ++ '"' :: ':' :: (v.write ++ rest)), []))
    (hfield : r.field? key = some f) (hset : f.isSet draft = false)
    (htake : f.ofText depth (v.write ++ rest) draft = .ok (next, rest)) :
    r.membersOfText depth (fuel + 1) first draft s =
      r.membersOfText depth fuel false next rest := by
  simp only [membersOfText, hnext, readString_escaped, hfield, hset, readColon_colon, Except.bind,
    htake, Bool.false_eq_true, if_false]

theorem membersOfText_unknown
    (hnext : nextKey first s =
      .ok (some (key.toList.flatMap escapedChar ++ '"' :: ':' :: (v.write ++ rest)), []))
    (hfield : r.field? key = none) (hrest : EndsNumber rest) :
    r.membersOfText depth (fuel + 1) first draft s =
      r.membersOfText depth fuel false draft rest := by
  simp only [membersOfText, hnext, readString_escaped, hfield, readColon_colon, Except.bind,
    skip_write v hrest]

theorem tooDeep_membersOfText
    (hnext : nextKey first s =
      .ok (some (key.toList.flatMap escapedChar ++ '"' :: ':' :: (v.write ++ rest)), []))
    (hfield : r.field? key = some f) (hset : f.isSet draft = false)
    (hrefuse : TooDeep (f.ofText depth (v.write ++ rest) draft)) :
    TooDeep (r.membersOfText depth (fuel + 1) first draft s) := by
  obtain ⟨e, he, hcause⟩ := hrefuse
  refine ⟨e.settle closeObject, ?_, ?_⟩
  · simp only [membersOfText, hnext, readString_escaped, hfield, hset, readColon_colon, Except.bind,
      he, Bool.false_eq_true, if_false]
  · rw [← hcause, Fault.settle]
    split <;> rfl

end

theorem length_lt_writeMembers (ms : List (String × Json)) :
    ms.length < (writeMembers ms).length := by
  induction ms with
  | nil => simp [writeMembers]
  | cons m ms ih =>
    simp only [writeMembers, List.length_cons, List.length_append, List.cons_append]
    omega

/-- The text of a member and those after it has a character more than there are members. -/
theorem length_lt_member (key : String) (v : Json) (ms : List (String × Json))
    (rest : List Char) :
    ms.length < ('"' :: (key.toList.flatMap escapedChar ++
      '"' :: ':' :: (v.write ++ (writeMembers ms ++ rest)))).length := by
  have hlength := length_lt_writeMembers ms
  simp only [List.length_cons, List.length_append]
  omega

/-- A record is taken from members that fill its fields. -/
theorem membersOfText_fills {draft last : D} {ms : List (String × Json)}
    (h : r.Fills depth draft ms last) {a : α} (hfinish : r.finishDraft last = .ok a) (fuel : Nat)
    (hfuel : ms.length < fuel) (rest : List Char) :
    r.membersOfText depth fuel false draft (writeMembers ms ++ rest) = .ok (a, rest) := by
  induction h generalizing fuel with
  | nil =>
    obtain ⟨fuel, rfl⟩ := Nat.exists_eq_add_one_of_ne_zero (by omega : fuel ≠ 0)
    have hend : writeMembers [] ++ rest = '\x7d' :: rest := rfl
    simp only [membersOfText, hend, nextKey_end, hfinish]
  | unknown hfield h ih =>
    obtain ⟨fuel, rfl⟩ := Nat.exists_eq_add_one_of_ne_zero (by omega : fuel ≠ 0)
    rw [write_member_comma, membersOfText_unknown (nextKey_comma _) hfield
      (endsNumber_writeMembers _ rest)]
    exact ih hfinish fuel (by simpa using hfuel)
  | cons hfield hset htake h ih =>
    obtain ⟨fuel, rfl⟩ := Nat.exists_eq_add_one_of_ne_zero (by omega : fuel ≠ 0)
    rw [write_member_comma, membersOfText_step (nextKey_comma _) hfield hset
      (htake _ (endsNumber_writeMembers _ rest))]
    exact ih hfinish fuel (by simpa using hfuel)

theorem membersOfText_overfills {draft : D} {ms : List (String × Json)}
    (h : r.Overfills depth draft ms) (fuel : Nat) (hfuel : ms.length ≤ fuel) (rest : List Char) :
    TooDeep (r.membersOfText depth fuel false draft (writeMembers ms ++ rest)) := by
  induction h generalizing fuel with
  | here hfield hset hrefuse =>
    obtain ⟨fuel, rfl⟩ := Nat.exists_eq_add_one_of_ne_zero (by rintro rfl; simp at hfuel : fuel ≠ 0)
    rw [write_member_comma]
    exact tooDeep_membersOfText (nextKey_comma _) hfield hset
      (hrefuse _ (endsNumber_writeMembers _ rest))
  | there hfield hset htake h ih =>
    obtain ⟨fuel, rfl⟩ := Nat.exists_eq_add_one_of_ne_zero (by rintro rfl; simp at hfuel : fuel ≠ 0)
    rw [write_member_comma, membersOfText_step (nextKey_comma _) hfield hset
      (htake _ (endsNumber_writeMembers _ rest))]
    exact ih fuel (by simpa using hfuel)

theorem ofText_object (hdepth : 1 < depth) (rest : List Char) :
    r.decoder.ofText depth ('\x7b' :: rest) =
      r.membersOfText (depth - 1) (rest.length + 1) true r.blank rest := by
  have hspace : skipSpace ('\x7b' :: rest) = '\x7b' :: rest := skipSpace_cons (by decide) _
  simp only [decoder, hspace, Nat.not_le.2 hdepth, if_false]

/-- **Records as text.**  A record is taken from an object that fills its fields. -/
theorem decoder_takes (hdepth : 1 < depth) {last : D} {ms : List (String × Json)}
    (h : r.Fills (depth - 1) r.blank ms last) {a : α} (hfinish : r.finishDraft last = .ok a) :
    r.decoder.Takes depth (object ms).write a := by
  intro rest _
  cases h with
  | nil =>
    rw [write, List.cons_append, ofText_object hdepth, List.singleton_append]
    simp only [membersOfText, nextKey_end, hfinish]
  | @unknown _ _ key v ms hfield h =>
    rw [write_member_first, ofText_object hdepth, membersOfText_unknown (nextKey_first _) hfield
      (endsNumber_writeMembers ms rest)]
    exact membersOfText_fills h hfinish _ (length_lt_member key v ms rest) rest
  | @cons _ _ _ key v ms f hfield hset htake h =>
    rw [write_member_first, ofText_object hdepth, membersOfText_step (nextKey_first _) hfield hset
      (htake _ (endsNumber_writeMembers ms rest))]
    exact membersOfText_fills h hfinish _ (length_lt_member key v ms rest) rest

/-- It is refused for its depth if one of the values is that fill its fields. -/
theorem decoder_refuses (hdepth : 1 < depth) {ms : List (String × Json)}
    (h : r.Overfills (depth - 1) r.blank ms) : r.decoder.Refuses depth (object ms).write := by
  intro rest _
  cases h with
  | @here _ key v ms f hfield hset hrefuse =>
    rw [write_member_first, ofText_object hdepth]
    exact tooDeep_membersOfText (nextKey_first _) hfield hset
      (hrefuse _ (endsNumber_writeMembers ms rest))
  | @there _ _ key v ms f hfield hset htake h =>
    rw [write_member_first, ofText_object hdepth, membersOfText_step (nextKey_first _) hfield hset
      (htake _ (endsNumber_writeMembers ms rest))]
    exact membersOfText_overfills h _ (length_lt_member key v ms rest).le rest

/-! ### Records as values -/

theorem draftOfMembers_of_unknown (r : Record D α) (draft : D) (ms : List (String × Json))
    (h : ∀ m ∈ ms, r.field? m.1 = none) : r.draftOfMembers draft ms = .ok draft := by
  induction ms with
  | nil => rfl
  | cons m ms ih =>
    obtain ⟨key, v⟩ := m
    rw [draftOfMembers, h _ List.mem_cons_self]
    exact ih fun m hm => h m (List.mem_cons_of_mem _ hm)

/-- Of distinct members of which one alone is known, that one makes the draft. -/
theorem draftOfMembers_of_mem (r : Record D α) (draft : D) (ms : List (String × Json))
    (hkeys : (Keyed.keys ms).Nodup) (key : String) (v : Json) (hmem : (key, v) ∈ ms) (f : Field D)
    (hfield : r.field? key = some f) (hothers : ∀ k, k ≠ key → r.field? k = none) :
    r.draftOfMembers draft ms = f.ofValue v draft := by
  induction ms with
  | nil => cases hmem
  | cons m ms ih =>
    obtain ⟨k, w⟩ := m
    rw [Keyed.keys_cons, List.nodup_cons] at hkeys
    rcases List.mem_cons.1 hmem with hhead | htail
    · cases hhead
      have hrest (next : D) : r.draftOfMembers next ms = .ok next := by
        refine r.draftOfMembers_of_unknown next ms fun m hm => hothers m.1 fun hk => ?_
        exact hkeys.1 (hk ▸ List.mem_map.2 ⟨m, hm, rfl⟩)
      rw [draftOfMembers, hfield]
      show (f.ofValue v draft).bind (r.draftOfMembers · ms) = _
      cases f.ofValue v draft with
      | error e => rfl
      | ok next => exact hrest next
    · have hk : k ≠ key := by
        rintro rfl
        exact hkeys.1 (List.mem_map.2 ⟨_, htail, rfl⟩)
      rw [draftOfMembers, hothers k hk]
      exact ih hkeys.2 htail

end Record

section
variable {d : Decoder α} {depth : Nat} {name : String} {get : D → Option α} {set : α → D → D}
  {cs : List Char}

theorem field_takes {a : α} (h : d.Takes depth cs a) (draft : D) (rest : List Char)
    (hrest : EndsNumber rest) :
    (field name d get set).ofText depth (cs ++ rest) draft = .ok (set a draft, rest) := by
  simp only [field, h rest hrest, Except.map]

theorem field_refuses (h : d.Refuses depth cs) (draft : D) (rest : List Char)
    (hrest : EndsNumber rest) :
    TooDeep ((field name d get set).ofText depth (cs ++ rest) draft) := by
  obtain ⟨e, he, hcause⟩ := h rest hrest
  exact ⟨e, by simp only [field, he, Except.map], hcause⟩

/-! ## Whole texts -/

variable {v : Json}

theorem decodeText_of_takes {a : α} (h : d.Takes depthLimit v.write a) :
    d.decodeText v.print = .ok a := by
  have hread := h [] endsNumber_nil
  rw [List.append_nil] at hread
  simp only [decodeText, print, String.toList_ofList, hread, bind, Except.bind]
  rfl

/-- Values that are read back have texts of their own. -/
theorem print_inj_of_decodeText {encode : α → Json}
    (h : ∀ a, d.decodeText (encode a).print = .ok a) (a b : α) :
    (encode a).print = (encode b).print ↔ a = b := by
  constructor
  · intro htext
    have ha := h a
    rw [htext, h b] at ha
    exact (Except.ok.inj ha).symm
  · rintro rfl
    rfl

theorem decodeText_of_refuses (h : d.Refuses depthLimit v.write) :
    TooDeep (d.decodeText v.print) := by
  obtain ⟨e, he, hcause⟩ := h [] endsNumber_nil
  rw [List.append_nil] at he
  exact ⟨e, by simp only [decodeText, print, String.toList_ofList, he, bind, Except.bind], hcause⟩

end

end Decoder

end Wayfinder
