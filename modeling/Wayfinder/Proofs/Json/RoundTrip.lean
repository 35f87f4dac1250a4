import Wayfinder.Json.Parser
import Wayfinder.Proofs.Json.Scalar

/-!
# JSON values that are read as they were written

A value without floating-point numbers, whose objects have each key once, is read back from its
text if it nests less deep than the reader goes; otherwise the reader refuses it for its depth.

    v.nesting < depth → readValue fuel depth (v.write ++ rest) = .ok (v, rest)   (readValue_write)
    depth ≤ v.nesting → readValue fuel depth (v.write ++ rest) is refused        (readValue_deep)

What a reader makes of any text has each key once, since a member that comes again replaces the
one before it.
-/

namespace Wayfinder

namespace Json

/-! ## Parts of a value -/

/-- A value is a part of itself, and the parts of its items and members are its parts. -/
inductive Part (v : Json) : Json → Prop
  | self : Part v v
  | item {w : Json} {items : List Json} (hmem : w ∈ items) (h : Part v w) : Part v (array items)
  | member {key : String} {w : Json} {members : List (String × Json)} (hmem : (key, w) ∈ members)
      (h : Part v w) : Part v (object members)

/-- No object in the value has a key twice. -/
def DistinctKeys (v : Json) : Prop :=
  ∀ members, Part (object members) v → (Keyed.keys members).Nodup

/-- No number in the value is floating point. -/
def NoFloats (v : Json) : Prop := ∀ x, ¬ Part (number (.float x)) v

/-- A value that can be written without loss. -/
structure IsPlain (v : Json) : Prop where
  distinctKeys : v.DistinctKeys
  noFloats : v.NoFloats

mutual

/-- How deep lists and objects nest in a value. -/
def nesting : Json → Nat
  | array items => nestingOfItems items + 1
  | object members => nestingOfMembers members + 1
  | _ => 0

/-- How deep they nest in the items of a list. -/
def nestingOfItems : List Json → Nat
  | [] => 0
  | v :: vs => max v.nesting (nestingOfItems vs)

/-- How deep they nest in the members of an object. -/
def nestingOfMembers : List (String × Json) → Nat
  | [] => 0
  | (_, v) :: ms => max v.nesting (nestingOfMembers ms)

end

section
variable {v : Json} {items : List Json} {members : List (String × Json)} {key : String}

theorem distinctKeys_array : (array items).DistinctKeys ↔ ∀ v ∈ items, v.DistinctKeys := by
  constructor
  · exact fun h v hv members hpart => h members (.item hv hpart)
  · rintro h members (_ | ⟨hv, hpart⟩)
    exact h _ hv members hpart

theorem distinctKeys_object : (object members).DistinctKeys ↔
    (Keyed.keys members).Nodup ∧ ∀ m ∈ members, m.2.DistinctKeys := by
  constructor
  · exact fun h => ⟨h members .self, fun m hm members' hpart => h members' (.member hm hpart)⟩
  · rintro ⟨hkeys, h⟩ members' (_ | _ | ⟨hv, hpart⟩)
    · exact hkeys
    · exact h _ hv members' hpart

theorem noFloats_array : (array items).NoFloats ↔ ∀ v ∈ items, v.NoFloats := by
  constructor
  · exact fun h v hv x hpart => h x (.item hv hpart)
  · rintro h x (_ | ⟨hv, hpart⟩)
    exact h _ hv x hpart

theorem noFloats_object : (object members).NoFloats ↔ ∀ m ∈ members, m.2.NoFloats := by
  constructor
  · exact fun h m hm x hpart => h x (.member hm hpart)
  · rintro h x (_ | _ | ⟨hv, hpart⟩)
    exact h _ hv x hpart

theorem isPlain_iff : v.IsPlain ↔ v.DistinctKeys ∧ v.NoFloats :=
  ⟨fun h => ⟨h.distinctKeys, h.noFloats⟩, fun h => ⟨h.1, h.2⟩⟩

@[simp] theorem isPlain_null : null.IsPlain := ⟨by rintro _ ⟨⟩, by rintro _ ⟨⟩⟩

@[simp] theorem isPlain_int (i : Integer) : (number (.int i)).IsPlain :=
  ⟨by rintro _ ⟨⟩, by rintro _ ⟨⟩⟩

@[simp] theorem isPlain_string (s : String) : (string s).IsPlain := ⟨by rintro _ ⟨⟩, by rintro _ ⟨⟩⟩

@[simp] theorem isPlain_array : (array items).IsPlain ↔ ∀ v ∈ items, v.IsPlain := by
  simp only [isPlain_iff, distinctKeys_array, noFloats_array, forall_and]

@[simp] theorem isPlain_object : (object members).IsPlain ↔
    (Keyed.keys members).Nodup ∧ ∀ m ∈ members, m.2.IsPlain := by
  simp only [isPlain_iff, distinctKeys_object, noFloats_object, forall_and, and_assoc]

theorem IsPlain.item (h : (array items).IsPlain) (hv : v ∈ items) : v.IsPlain :=
  isPlain_array.1 h v hv

theorem IsPlain.member (h : (object members).IsPlain) (hv : (key, v) ∈ members) : v.IsPlain :=
  (isPlain_object.1 h).2 (key, v) hv

end

/-! ## What a written value starts with -/

/-- A text that starts with no blank. -/
theorem skipSpace_cons {c : Char} (h : isSpace c = false) (rest : List Char) :
    skipSpace (c :: rest) = c :: rest := by
  simp [skipSpace, h]

theorem of_isDigit {c : Char} (h : c.isDigit = true) :
    isSpace c = false ∧ c ≠ ']' ∧ c ≠ '-' ∧ c ≠ 'n' ∧ c ≠ 't' ∧ c ≠ 'f' := by
  refine ⟨Bool.eq_false_iff.2 fun hspace => ?_, ?_, ?_, ?_, ?_, ?_⟩
  · simp only [isSpace, Bool.or_eq_true, decide_eq_true_eq] at hspace
    rcases hspace with ((rfl | rfl) | rfl) | rfl <;> revert h <;> decide
  all_goals rintro rfl; revert h; decide

theorem write_eq_cons {v : Json} (h : v.NoFloats) :
    ∃ c cs, v.write = c :: cs ∧ isSpace c = false ∧ c ≠ ']' ∧ (c = 'n' → v = null) := by
  cases v with
  | null => exact ⟨'n', _, rfl, by decide, by decide, fun _ => rfl⟩
  | bool b => cases b <;> exact ⟨_, _, rfl, by decide, by decide, nofun⟩
  | number n =>
    cases n with
    | float x => exact absurd .self (h x)
    | int i =>
      obtain ⟨n | n, hfits⟩ := i
      · obtain ⟨c, cs, hdigits, hc, -⟩ := Text.digits_eq_cons n
        obtain ⟨hspace, hend, -, hnull, -⟩ := of_isDigit hc
        exact ⟨c, cs, hdigits, hspace, hend, fun h => absurd h hnull⟩
      · exact ⟨'-', _, rfl, by decide, by decide, nofun⟩
  | string s => exact ⟨'"', _, rfl, by decide, by decide, nofun⟩
  | array items => cases items <;> exact ⟨'[', _, rfl, by decide, by decide, nofun⟩
  | object members =>
    cases members with
    | nil => exact ⟨'\x7b', _, rfl, by decide, by decide, nofun⟩
    | cons m ms => exact ⟨'\x7b', _, rfl, by decide, by decide, nofun⟩

theorem endsNumber_writeItems (vs : List Json) (rest : List Char) :
    EndsNumber (writeItems vs ++ rest) := by
  cases vs <;> simp [writeItems]

theorem endsNumber_writeMembers (ms : List (String × Json)) (rest : List Char) :
    EndsNumber (writeMembers ms ++ rest) := by
  cases ms <;> simp [writeMembers]

/-! ## Between items and members -/

section
variable {c : Char} (hspace : isSpace c = false) (hc : c ≠ ']')

include hspace hc

theorem nextItem_first (rest : List Char) :
    nextItem true (c :: rest) = .ok (some (c :: rest), []) := by
  simp only [nextItem, skipSpace_cons hspace, hc, if_false, if_true]

theorem nextItem_comma (rest : List Char) :
    nextItem false (',' :: c :: rest) = .ok (some (c :: rest), []) := by
  have hcomma : skipSpace (',' :: c :: rest) = ',' :: c :: rest := skipSpace_cons (by decide) _
  simp only [nextItem, hcomma, skipSpace_cons hspace]
  simp [hc]

end

theorem nextItem_end (first : Bool) (rest : List Char) :
    nextItem first (']' :: rest) = .ok (none, rest) := rfl

theorem nextKey_first (rest : List Char) : nextKey true ('"' :: rest) = .ok (some rest, []) := rfl

theorem nextKey_comma (rest : List Char) :
    nextKey false (',' :: '"' :: rest) = .ok (some rest, []) := rfl

theorem nextKey_end (first : Bool) (rest : List Char) :
    nextKey first ('\x7d' :: rest) = .ok (none, rest) := rfl

theorem readColon_colon (rest : List Char) : readColon (':' :: rest) = .ok rest := rfl

theorem nextItem_write_first {v : Json} (h : v.NoFloats) (rest : List Char) :
    nextItem true (v.write ++ rest) = .ok (some (v.write ++ rest), []) := by
  obtain ⟨c, cs, hwrite, hspace, hc, -⟩ := write_eq_cons h
  rw [hwrite, List.cons_append]
  exact nextItem_first hspace hc _

theorem nextItem_write_comma {v : Json} (h : v.NoFloats) (rest : List Char) :
    nextItem false (',' :: (v.write ++ rest)) = .ok (some (v.write ++ rest), []) := by
  obtain ⟨c, cs, hwrite, hspace, hc, -⟩ := write_eq_cons h
  rw [hwrite, List.cons_append]
  exact nextItem_comma hspace hc _

/-! ## Values that are read back -/

section
variable (fuel depth : Nat) (first : Bool)

theorem readValue_quote (rest : List Char) :
    readValue (fuel + 1) depth ('"' :: rest) = (readString rest).map fun (t, r) => (string t, r) :=
  rfl

theorem readValue_bracket (rest : List Char) :
    readValue (fuel + 1) depth ('[' :: rest) =
      if depth ≤ 1 then .error (.next .recursionLimit ('[' :: rest))
      else readItems fuel (depth - 1) true [] rest :=
  rfl

theorem readValue_brace (rest : List Char) :
    readValue (fuel + 1) depth ('\x7b' :: rest) =
      if depth ≤ 1 then .error (.next .recursionLimit ('\x7b' :: rest))
      else readMembers fuel (depth - 1) true [] rest :=
  rfl

theorem readValue_int (i : Integer) {rest : List Char} (hrest : EndsNumber rest) :
    readValue (fuel + 1) depth (Text.intDigits i.value ++ rest) =
      .ok (number (.int i), rest) := by
  obtain ⟨n | n, hlow, hhigh⟩ := i
  · have hn : n < 0x10000000000000000 := by
      simp only [Int.ofNat_eq_natCast] at hhigh
      omega
    have hread := readNumber_digits hn hrest false
    obtain ⟨c, cs, hdigits, hc, -⟩ := Text.digits_eq_cons n
    obtain ⟨hspace, -, hminus, hnull, htrue, hfalse⟩ := of_isDigit hc
    simp only [Text.intDigits]
    rw [hdigits, List.cons_append] at hread ⊢
    simp only [readValue, skipSpace_cons hspace, hnull, htrue, hfalse, hminus, hc, if_false,
      if_true, hread, integerNumber, Bool.false_eq_true]
    rw [dif_pos hn]
    rfl
  · have hn : n + 1 ≤ 0x8000000000000000 := by
      simp only [Int.negSucc_eq] at hlow
      omega
    have hread := readNumber_digits (n := n + 1) (by simp only [significandLimit]; omega) hrest true
    have hminus : skipSpace ('-' :: (Text.digits (n + 1) ++ rest)) =
        '-' :: (Text.digits (n + 1) ++ rest) := skipSpace_cons (by decide) _
    simp only [Text.intDigits, List.cons_append, readValue, hminus, Char.reduceEq, if_false,
      if_true, hread, integerNumber]
    rw [dif_pos ⟨by omega, hn⟩]
    rfl

theorem readItems_step {v : Json} {before : List Json} {s r : List Char}
    (hnext : nextItem first s = .ok (some (v.write ++ r), []))
    (hv : readValue fuel depth (v.write ++ r) = .ok (v, r)) :
    readItems (fuel + 1) depth first before s = readItems fuel depth false (v :: before) r := by
  simp only [readItems, hnext, hv]

theorem readItems_end (before : List Json) (rest : List Char) :
    readItems (fuel + 1) depth first before (']' :: rest) = .ok (array before.reverse, rest) := by
  simp only [readItems, nextItem_end]

theorem readMembers_step {key : String} {v : Json} {before : Keyed Json} {s r : List Char}
    (hnext : nextKey first s =
      .ok (some (key.toList.flatMap escapedChar ++ '"' :: ':' :: (v.write ++ r)), []))
    (hv : readValue fuel depth (v.write ++ r) = .ok (v, r)) :
    readMembers (fuel + 1) depth first before s =
      readMembers fuel depth false (before.put key v) r := by
  simp only [readMembers, hnext, readString_escaped, readColon_colon, hv]

theorem readMembers_end (before : Keyed Json) (rest : List Char) :
    readMembers (fuel + 1) depth first before ('\x7d' :: rest) = .ok (object before, rest) := by
  simp only [readMembers, nextKey_end]

end

theorem length_pos_write {v : Json} (h : v.NoFloats) : 0 < v.write.length := by
  obtain ⟨c, cs, hwrite, -⟩ := write_eq_cons h
  rw [hwrite]
  exact Nat.zero_lt_succ _

theorem length_pos_writeItems (vs : List Json) : 0 < (writeItems vs).length := by
  cases vs <;> simp [writeItems]

theorem length_pos_writeMembers (ms : List (String × Json)) : 0 < (writeMembers ms).length := by
  cases ms <;> simp [writeMembers]

theorem write_member_first (key : String) (v : Json) (ms : List (String × Json))
    (rest : List Char) :
    (object ((key, v) :: ms)).write ++ rest = '\x7b' :: '"' :: (key.toList.flatMap escapedChar ++
      '"' :: ':' :: (v.write ++ (writeMembers ms ++ rest))) := by
  simp [write, writeString]

theorem write_member_comma (key : String) (v : Json) (ms : List (String × Json))
    (rest : List Char) :
    writeMembers ((key, v) :: ms) ++ rest = ',' :: '"' :: (key.toList.flatMap escapedChar ++
      '"' :: ':' :: (v.write ++ (writeMembers ms ++ rest))) := by
  simp [writeMembers, writeString]

/- Each step of a reader takes a character at least, so the length of what was written is fuel
enough.  What stands behind a value matters only to numbers, which do not end by themselves. -/

mutual

/-- A value that does not nest too deep is read as it was written. -/
theorem readValue_write : (v : Json) → v.IsPlain → (fuel depth : Nat) → (rest : List Char) →
    v.write.length ≤ fuel → v.nesting < depth → EndsNumber rest →
    readValue fuel depth (v.write ++ rest) = .ok (v, rest)
  | null, _, fuel + 1, depth, rest, _, _, _ => rfl
  | bool true, _, fuel + 1, depth, rest, _, _, _ => rfl
  | bool false, _, fuel + 1, depth, rest, _, _, _ => rfl
  | number (.int i), _, fuel + 1, depth, rest, _, _, hrest => readValue_int fuel depth i hrest
  | number (.float x), hplain, _, _, _, _, _, _ => absurd .self (hplain.noFloats x)
  | string s, _, fuel + 1, depth, rest, _, _, _ => by
    rw [write, writeString_eq, readValue_quote, readString_escaped]
    rfl
  | array [], _, fuel + 1, depth, rest, hfuel, hdepth, _ => by
    have hne : fuel ≠ 0 := by
      rintro rfl
      simp [write] at hfuel
    obtain ⟨fuel, rfl⟩ := Nat.exists_eq_add_one_of_ne_zero hne
    rw [nesting, nestingOfItems] at hdepth
    exact (if_neg (Nat.not_le.2 hdepth)).trans (readItems_end _ _ _ _ _)
  | array (v :: vs), hplain, fuel + 1, depth, rest, hfuel, hdepth, _ => by
    have hv : v.IsPlain := hplain.item List.mem_cons_self
    have hpos := length_pos_write hv.noFloats
    have hpos' := length_pos_writeItems vs
    simp only [write, List.length_cons, List.length_append, List.cons_append] at hfuel
    simp only [nesting, nestingOfItems] at hdepth
    obtain ⟨fuel, rfl⟩ := Nat.exists_eq_add_one_of_ne_zero (by omega : fuel ≠ 0)
    have hread := readValue_write v hv fuel (depth - 1) (writeItems vs ++ rest) (by omega)
      (by omega) (endsNumber_writeItems vs rest)
    have hrest := readItems_write vs (fun w hw => hplain.item (List.mem_cons_of_mem v hw)) fuel
      (depth - 1) [v] rest (by omega) (by omega)
    rw [write, List.cons_append, List.cons_append, List.append_assoc, readValue_bracket,
      if_neg (by omega), readItems_step _ _ _ (nextItem_write_first hv.noFloats _) hread, hrest]
    rfl
  | object [], _, fuel + 1, depth, rest, hfuel, hdepth, _ => by
    have hne : fuel ≠ 0 := by
      rintro rfl
      simp [write] at hfuel
    obtain ⟨fuel, rfl⟩ := Nat.exists_eq_add_one_of_ne_zero hne
    rw [nesting, nestingOfMembers] at hdepth
    exact (if_neg (Nat.not_le.2 hdepth)).trans (readMembers_end _ _ _ _ _)
  | object ((key, v) :: ms), hplain, fuel + 1, depth, rest, hfuel, hdepth, _ => by
    have hv : v.IsPlain := hplain.member List.mem_cons_self
    have hpos := length_pos_write hv.noFloats
    have hpos' := length_pos_writeMembers ms
    simp only [write, writeString, List.length_cons, List.length_append, List.cons_append] at hfuel
    simp only [nesting, nestingOfMembers] at hdepth
    obtain ⟨fuel, rfl⟩ := Nat.exists_eq_add_one_of_ne_zero (by omega : fuel ≠ 0)
    have hread := readValue_write v hv fuel (depth - 1) (writeMembers ms ++ rest) (by omega)
      (by omega) (endsNumber_writeMembers ms rest)
    have hrest := readMembers_write ms (fun m hm => hplain.member (List.mem_cons_of_mem _ hm)) fuel
      (depth - 1) [(key, v)] rest (hplain.distinctKeys _ .self) (by omega) (by omega)
    rw [write_member_first, readValue_brace, if_neg (by omega),
      readMembers_step _ _ _ (nextKey_first _) hread]
    exact hrest
  | _, hplain, 0, _, _, hfuel, _, _ =>
    absurd hfuel (Nat.not_le.2 (length_pos_write hplain.noFloats))

/-- So are the items after those that have been read. -/
theorem readItems_write : (vs : List Json) → (∀ v ∈ vs, v.IsPlain) → (fuel depth : Nat) →
    (before : List Json) → (rest : List Char) → (writeItems vs).length ≤ fuel →
    nestingOfItems vs < depth →
    readItems fuel depth false before (writeItems vs ++ rest) =
      .ok (array (before.reverse ++ vs), rest)
  | [], _, fuel + 1, depth, before, rest, _, _ => by
    rw [writeItems, List.append_nil]
    exact readItems_end fuel depth false before rest
  | v :: vs, hplain, fuel + 1, depth, before, rest, hfuel, hdepth => by
    have hv : v.IsPlain := hplain v List.mem_cons_self
    have hpos := length_pos_write hv.noFloats
    have hpos' := length_pos_writeItems vs
    simp only [writeItems, List.length_cons, List.length_append, List.cons_append] at hfuel
    simp only [nestingOfItems] at hdepth
    have hread := readValue_write v hv fuel depth (writeItems vs ++ rest) (by omega) (by omega)
      (endsNumber_writeItems vs rest)
    have hrest := readItems_write vs (fun w hw => hplain w (List.mem_cons_of_mem v hw)) fuel depth
      (v :: before) rest (by omega) (by omega)
    rw [writeItems, List.cons_append, List.cons_append, List.append_assoc,
      readItems_step _ _ _ (nextItem_write_comma hv.noFloats _) hread, hrest,
      List.reverse_cons, List.append_assoc, List.singleton_append]
  | vs, _, 0, _, _, _, hfuel, _ => absurd hfuel (Nat.not_le.2 (length_pos_writeItems vs))

/-- So are the members. -/
theorem readMembers_write : (ms : List (String × Json)) → (∀ m ∈ ms, m.2.IsPlain) →
    (fuel depth : Nat) → (before : Keyed Json) → (rest : List Char) →
    (Keyed.keys (before ++ ms)).Nodup → (writeMembers ms).length ≤ fuel →
    nestingOfMembers ms < depth →
    readMembers fuel depth false before (writeMembers ms ++ rest) =
      .ok (object (before ++ ms), rest)
  | [], _, fuel + 1, depth, before, rest, _, _, _ => by
    rw [writeMembers, List.append_nil]
    exact readMembers_end fuel depth false before rest
  | (key, v) :: ms, hplain, fuel + 1, depth, before, rest, hkeys, hfuel, hdepth => by
    have hv : v.IsPlain := hplain (key, v) List.mem_cons_self
    have hpos := length_pos_write hv.noFloats
    have hpos' := length_pos_writeMembers ms
    simp only [writeMembers, List.length_cons, List.length_append, List.cons_append] at hfuel
    simp only [nestingOfMembers] at hdepth
    have hread := readValue_write v hv fuel depth (writeMembers ms ++ rest) (by omega) (by omega)
      (endsNumber_writeMembers ms rest)
    have hsplit : before ++ (key, v) :: ms = before ++ [(key, v)] ++ ms := by simp
    have hkey : key ∉ Keyed.keys before := by
      rw [Keyed.keys, List.map_append, List.map_cons] at hkeys
      exact fun hmem => (List.nodup_append.1 hkeys).2.2 key hmem key List.mem_cons_self rfl
    have hrest := readMembers_write ms (fun m hm => hplain m (List.mem_cons_of_mem _ hm)) fuel depth
      (before ++ [(key, v)]) rest (hsplit ▸ hkeys) (by omega) (by omega)
    rw [write_member_comma, readMembers_step _ _ _ (nextKey_comma _) hread,
      Keyed.put_of_not_mem hkey, hrest, hsplit]
  | ms, _, 0, _, _, _, _, hfuel, _ => absurd hfuel (Nat.not_le.2 (length_pos_writeMembers ms))

end

/-! ## Values that nest too deep -/

/-- What was read was refused for its depth. -/
def TooDeep {α : Type} (result : Except Fault α) : Prop :=
  ∃ e, result = .error e ∧ e.cause = .recursionLimit

section
variable {fuel depth : Nat} {first : Bool} {s r : List Char} {v : Json}

theorem tooDeep_list (hdepth : depth ≤ 1) (rest : List Char) :
    TooDeep (readValue (fuel + 1) depth ('[' :: rest)) :=
  ⟨_, (readValue_bracket fuel depth rest).trans (if_pos hdepth), rfl⟩

theorem tooDeep_object (hdepth : depth ≤ 1) (rest : List Char) :
    TooDeep (readValue (fuel + 1) depth ('\x7b' :: rest)) :=
  ⟨_, (readValue_brace fuel depth rest).trans (if_pos hdepth), rfl⟩

/-- A list nests too deep at its next item or behind it. -/
theorem tooDeep_item {before : List Json}
    (hnext : nextItem first s = .ok (some (v.write ++ r), []))
    (h : TooDeep (readValue fuel depth (v.write ++ r)) ∨
      readValue fuel depth (v.write ++ r) = .ok (v, r) ∧
        TooDeep (readItems fuel depth false (v :: before) r)) :
    TooDeep (readItems (fuel + 1) depth first before s) := by
  rcases h with ⟨e, hread, he⟩ | ⟨hread, hrest⟩
  · exact ⟨e, by simp only [readItems, hnext, hread], he⟩
  · rwa [readItems_step _ _ _ hnext hread]

theorem tooDeep_member {key : String} {before : Keyed Json}
    (hnext : nextKey first s =
      .ok (some (key.toList.flatMap escapedChar ++ '"' :: ':' :: (v.write ++ r)), []))
    (h : TooDeep (readValue fuel depth (v.write ++ r)) ∨
      readValue fuel depth (v.write ++ r) = .ok (v, r) ∧
        TooDeep (readMembers fuel depth false (before.put key v) r)) :
    TooDeep (readMembers (fuel + 1) depth first before s) := by
  rcases h with ⟨e, hread, he⟩ | ⟨hread, hrest⟩
  · exact ⟨e, by simp only [readMembers, hnext, readString_escaped, readColon_colon, hread], he⟩
  · rwa [readMembers_step _ _ _ hnext hread]

end

mutual

/-- A value that nests too deep is refused. -/
theorem readValue_deep : (v : Json) → v.IsPlain → (fuel depth : Nat) → (rest : List Char) →
    v.write.length ≤ fuel → 0 < depth → depth ≤ v.nesting →
    TooDeep (readValue fuel depth (v.write ++ rest))
  | array [], _, fuel + 1, depth, rest, _, _, hdepth => tooDeep_list hdepth _
  | array (v :: vs), hplain, fuel + 1, depth, rest, hfuel, hpos, hdepth => by
    have hv : v.IsPlain := hplain.item List.mem_cons_self
    rw [write, List.cons_append, List.cons_append, List.append_assoc]
    by_cases h : depth ≤ 1
    · exact tooDeep_list h _
    have hlength := length_pos_write hv.noFloats
    have hlength' := length_pos_writeItems vs
    simp only [write, List.length_cons, List.length_append, List.cons_append] at hfuel
    simp only [nesting, nestingOfItems] at hdepth
    obtain ⟨fuel, rfl⟩ := Nat.exists_eq_add_one_of_ne_zero (by omega : fuel ≠ 0)
    rw [readValue_bracket, if_neg h]
    refine tooDeep_item (nextItem_write_first hv.noFloats _) ?_
    by_cases hnest : depth - 1 ≤ v.nesting
    · exact .inl (readValue_deep v hv fuel _ _ (by omega) (by omega) hnest)
    · exact .inr ⟨readValue_write v hv fuel _ _ (by omega) (by omega)
          (endsNumber_writeItems vs rest),
        readItems_deep vs (fun w hw => hplain.item (List.mem_cons_of_mem v hw)) fuel _ [v] rest
          (by omega) (by omega) (by omega)⟩
  | object [], _, fuel + 1, depth, rest, _, _, hdepth => tooDeep_object hdepth _
  | object ((key, v) :: ms), hplain, fuel + 1, depth, rest, hfuel, hpos, hdepth => by
    have hv : v.IsPlain := hplain.member List.mem_cons_self
    rw [write_member_first]
    by_cases h : depth ≤ 1
    · exact tooDeep_object h _
    have hlength := length_pos_write hv.noFloats
    simp only [write, writeString, List.length_cons, List.length_append, List.cons_append] at hfuel
    simp only [nesting, nestingOfMembers] at hdepth
    obtain ⟨fuel, rfl⟩ := Nat.exists_eq_add_one_of_ne_zero (by omega : fuel ≠ 0)
    rw [readValue_brace, if_neg h]
    refine tooDeep_member (nextKey_first _) ?_
    by_cases hnest : depth - 1 ≤ v.nesting
    · exact .inl (readValue_deep v hv fuel _ _ (by omega) (by omega) hnest)
    · exact .inr ⟨readValue_write v hv fuel _ _ (by omega) (by omega)
          (endsNumber_writeMembers ms rest),
        readMembers_deep ms (fun m hm => hplain.member (List.mem_cons_of_mem _ hm)) fuel _ _ rest
          (by omega) (by omega) (by omega)⟩
  | null, _, _, _, _, _, hpos, hdepth | bool _, _, _, _, _, _, hpos, hdepth
  | number _, _, _, _, _, _, hpos, hdepth | string _, _, _, _, _, _, hpos, hdepth =>
    absurd hdepth (Nat.not_le.2 hpos)
  | v, hplain, 0, _, _, hfuel, _, _ =>
    absurd hfuel (Nat.not_le.2 (length_pos_write hplain.noFloats))

theorem readItems_deep : (vs : List Json) → (∀ v ∈ vs, v.IsPlain) → (fuel depth : Nat) →
    (before : List Json) → (rest : List Char) → (writeItems vs).length ≤ fuel →
    0 < depth → depth ≤ nestingOfItems vs →
    TooDeep (readItems fuel depth false before (writeItems vs ++ rest))
  | [], _, _, _, _, _, _, hpos, hdepth => absurd hdepth (Nat.not_le.2 hpos)
  | v :: vs, hplain, fuel + 1, depth, before, rest, hfuel, hpos, hdepth => by
    have hv : v.IsPlain := hplain v List.mem_cons_self
    have hlength := length_pos_write hv.noFloats
    simp only [writeItems, List.length_cons, List.length_append, List.cons_append] at hfuel
    simp only [nestingOfItems] at hdepth
    rw [writeItems, List.cons_append, List.cons_append, List.append_assoc]
    refine tooDeep_item (nextItem_write_comma hv.noFloats _) ?_
    by_cases hnest : depth ≤ v.nesting
    · exact .inl (readValue_deep v hv fuel _ _ (by omega) hpos hnest)
    · exact .inr ⟨readValue_write v hv fuel _ _ (by omega) (by omega)
          (endsNumber_writeItems vs rest),
        readItems_deep vs (fun w hw => hplain w (List.mem_cons_of_mem v hw)) fuel _ _ rest
          (by omega) hpos (by omega)⟩
  | vs, _, 0, _, _, _, hfuel, _, _ => absurd hfuel (Nat.not_le.2 (length_pos_writeItems vs))

theorem readMembers_deep : (ms : List (String × Json)) → (∀ m ∈ ms, m.2.IsPlain) →
    (fuel depth : Nat) → (before : Keyed Json) → (rest : List Char) →
    (writeMembers ms).length ≤ fuel → 0 < depth → depth ≤ nestingOfMembers ms →
    TooDeep (readMembers fuel depth false before (writeMembers ms ++ rest))
  | [], _, _, _, _, _, _, hpos, hdepth => absurd hdepth (Nat.not_le.2 hpos)
  | (key, v) :: ms, hplain, fuel + 1, depth, before, rest, hfuel, hpos, hdepth => by
    have hv : v.IsPlain := hplain (key, v) List.mem_cons_self
    have hlength := length_pos_write hv.noFloats
    simp only [writeMembers, List.length_cons, List.length_append, List.cons_append] at hfuel
    simp only [nestingOfMembers] at hdepth
    rw [write_member_comma]
    refine tooDeep_member (nextKey_comma _) ?_
    by_cases hnest : depth ≤ v.nesting
    · exact .inl (readValue_deep v hv fuel _ _ (by omega) hpos hnest)
    · exact .inr ⟨readValue_write v hv fuel _ _ (by omega) (by omega)
          (endsNumber_writeMembers ms rest),
        readMembers_deep ms (fun m hm => hplain m (List.mem_cons_of_mem _ hm)) fuel _ _ rest
          (by omega) hpos (by omega)⟩
  | ms, _, 0, _, _, _, hfuel, _, _ => absurd hfuel (Nat.not_le.2 (length_pos_writeMembers ms))

end

/-! ## Whole texts -/

/-- A text of a value is read back if it does not nest too deep. -/
theorem read_write {v : Json} (h : v.IsPlain) {depth : Nat} (hdepth : v.nesting < depth)
    {rest : List Char} (hrest : EndsNumber rest) :
    read depth (v.write ++ rest) = .ok (v, rest) :=
  readValue_write v h _ depth rest (by rw [List.length_append]; omega) hdepth hrest

/-- It is refused if it does. -/
theorem read_deep {v : Json} (h : v.IsPlain) {depth : Nat} (hpos : 0 < depth)
    (hdepth : depth ≤ v.nesting) (rest : List Char) : TooDeep (read depth (v.write ++ rest)) :=
  readValue_deep v h _ depth rest (by rw [List.length_append]; omega) hpos hdepth

/-- **Values as text.**  A value that can be written without loss is the one that its text holds,
if it nests less deep than a text may. -/
theorem parse_print {v : Json} (h : v.IsPlain) (hdepth : v.nesting < depthLimit) :
    parse v.print = .ok v := by
  have hread := read_write h hdepth endsNumber_nil
  rw [List.append_nil] at hread
  simp only [parse, print, String.toList_ofList, hread, bind, Except.bind]
  rfl

/-! ## What a reader makes of a text -/

section
variable {fuel depth : Nat} {first : Bool} {s r : List Char} {v : Json}

/-- What is read is a scalar, a list or an object. -/
theorem readValue_cases (h : readValue (fuel + 1) depth s = .ok (v, r)) :
    (∀ members, ¬ Part (object members) v) ∨
      (∃ rest, readItems fuel (depth - 1) true [] rest = .ok (v, r)) ∨
      ∃ rest, readMembers fuel (depth - 1) true [] rest = .ok (v, r) := by
  have hscalar {α : Type} {x : Except Fault α} {f : α → Json × List Char}
      (hf : ∀ a members, ¬ Part (object members) (f a).1) (hx : x.map f = .ok (v, r)) :
      ∀ members, ¬ Part (object members) v := by
    cases x with
    | error e => cases hx
    | ok a =>
      have ha : f a = (v, r) := Except.ok.inj hx
      simpa only [ha] using hf a
  simp only [readValue] at h
  split at h
  · cases h
  -- literals, numbers and strings
  iterate 6
    rcases ite_eq_iff.1 h with ⟨-, h⟩ | ⟨-, h⟩
    · exact .inl (hscalar (by rintro _ _ ⟨⟩) h)
  rcases ite_eq_iff.1 h with ⟨-, h⟩ | ⟨-, h⟩
  · rcases ite_eq_iff.1 h with ⟨-, h⟩ | ⟨-, h⟩
    · cases h
    · exact .inr (.inl ⟨_, h⟩)
  rcases ite_eq_iff.1 h with ⟨-, h⟩ | ⟨-, h⟩
  · rcases ite_eq_iff.1 h with ⟨-, h⟩ | ⟨-, h⟩
    · cases h
    · exact .inr (.inr ⟨_, h⟩)
  · cases h

/-- A list ends, or goes on behind an item. -/
theorem readItems_cases {before : List Json}
    (h : readItems (fuel + 1) depth first before s = .ok (v, r)) :
    v = array before.reverse ∨ ∃ w start rest, readValue fuel depth start = .ok (w, rest) ∧
      readItems fuel depth false (w :: before) rest = .ok (v, r) := by
  simp only [readItems] at h
  split at h
  · cases h
  · cases h
    exact .inl rfl
  · split at h
    · cases h
    · rename_i hread
      exact .inr ⟨_, _, _, hread, h⟩

/-- An object ends, or goes on behind a member. -/
theorem readMembers_cases {before : Keyed Json}
    (h : readMembers (fuel + 1) depth first before s = .ok (v, r)) :
    v = object before ∨ ∃ key w start rest, readValue fuel depth start = .ok (w, rest) ∧
      readMembers fuel depth false (before.put key w) rest = .ok (v, r) := by
  simp only [readMembers] at h
  split at h
  · cases h
  · cases h
    exact .inl rfl
  · split at h
    · cases h
    split at h
    · cases h
    split at h
    · cases h
    · rename_i hread
      exact .inr ⟨_, _, _, _, hread, h⟩

end

/-- Whatever is read has each key once in every object. -/
theorem distinctKeys_of_read (fuel : Nat) :
    (∀ depth s v r, readValue fuel depth s = .ok (v, r) → v.DistinctKeys) ∧
      (∀ depth first before s v r, (∀ w ∈ before, w.DistinctKeys) →
        readItems fuel depth first before s = .ok (v, r) → v.DistinctKeys) ∧
      ∀ depth first before s v r, (object before).DistinctKeys →
        readMembers fuel depth first before s = .ok (v, r) → v.DistinctKeys := by
  induction fuel with
  | zero => exact ⟨nofun, nofun, nofun⟩
  | succ fuel ih =>
    obtain ⟨hvalue, hitems, hmembers⟩ := ih
    refine ⟨?_, ?_, ?_⟩
    · intro depth s v r h
      rcases readValue_cases h with hscalar | ⟨rest, h⟩ | ⟨rest, h⟩
      · exact fun members hpart => absurd hpart (hscalar members)
      · exact hitems _ _ _ _ v r (by simp) h
      · exact hmembers _ _ _ _ v r (distinctKeys_object.2 (by simp)) h
    · intro depth first before s v r hbefore h
      rcases readItems_cases h with rfl | ⟨w, start, rest, hread, h⟩
      · exact distinctKeys_array.2 fun w hw => hbefore w (List.mem_reverse.1 hw)
      · refine hitems _ _ _ _ v r (fun w' hw' => ?_) h
        rcases List.mem_cons.1 hw' with rfl | hw'
        · exact hvalue _ _ _ _ hread
        · exact hbefore w' hw'
    · intro depth first before s v r hbefore h
      rcases readMembers_cases h with rfl | ⟨key, w, start, rest, hread, h⟩
      · exact hbefore
      · obtain ⟨hkeys, hvalues⟩ := distinctKeys_object.1 hbefore
        refine hmembers _ _ _ _ v r (distinctKeys_object.2 ⟨Keyed.nodup_keys_put hkeys, ?_⟩) h
        intro m hm
        rcases Keyed.mem_put hm with rfl | hm
        · exact hvalue _ _ _ _ hread
        · exact hvalues m hm

theorem distinctKeys_of_parse {text : String} {v : Json} (h : parse text = .ok v) :
    v.DistinctKeys := by
  simp only [parse, bind, Except.bind] at h
  split at h
  · cases h
  · rename_i result hread
    obtain ⟨w, rest⟩ := result
    have hw := (distinctKeys_of_read _).1 _ _ _ _ hread
    simp only [readEnd] at h
    split at h
    · rwa [← Except.ok.inj h]
    · cases h

end Json

end Wayfinder
