import Wayfinder.Proofs.Text.Reading
import Wayfinder.Url.Parser

/-!
# Texts that are read as they were written

A URL is written in printable characters of ASCII: everything else is encoded, and what is encoded
is not encoded again.  In such a text there is nothing to trim and nothing to leave out, and its
scheme, its query and its fragment are found where they were put.

    encode set (encode set cs)                  = encode set cs          (encode_encode)
    scheme? (name ++ ':' :: cs)                 = some name              (scheme?_append)
    splitTail (front ++ '?' query '#' fragment) = ⟨front, query, fragment⟩
                                                                         (splitTail_append)
-/

namespace Wayfinder

namespace Url

/-! ## Encoded texts -/

/-- Whether a set leaves the characters alone that escapes are written with. -/
def SparesEscapes (set : Char → Bool) : Prop :=
  set '%' = false ∧ ∀ n < 16, set (hexDigit n) = false

instance (set : Char → Bool) : Decidable (SparesEscapes set) :=
  inferInstanceAs (Decidable (_ ∧ _))

section
variable {set : Char → Bool}

theorem encode_of_forall_not {cs : List Char} (h : ∀ c ∈ cs, set c = false) :
    encode set cs = cs := by
  induction cs with
  | nil => rfl
  | cons c cs ih =>
    have hcs := ih fun d hd => h d (List.mem_cons_of_mem c hd)
    unfold encode at hcs ⊢
    rw [List.flatMap_cons, h c List.mem_cons_self, hcs]
    rfl

theorem encode_append (a b : List Char) : encode set (a ++ b) = encode set a ++ encode set b :=
  List.flatMap_append

/-- What an encoded text is written with: characters that were left alone, and escapes. -/
theorem mem_encode {cs : List Char} {c : Char} (h : c ∈ encode set cs) :
    (c ∈ cs ∧ set c = false) ∨ c = '%' ∨ ∃ n < 16, c = hexDigit n := by
  obtain ⟨d, hd, hc⟩ := List.mem_flatMap.1 h
  split at hc
  · right
    obtain ⟨b, -, hb⟩ := List.mem_flatMap.1 hc
    have hb256 : b.toNat < 256 := b.toNat_lt
    simp only [encodeByte, List.mem_cons, List.not_mem_nil, or_false] at hb
    rcases hb with rfl | rfl | rfl
    · exact Or.inl rfl
    · exact Or.inr ⟨_, by omega, rfl⟩
    · exact Or.inr ⟨_, Nat.mod_lt _ (by decide), rfl⟩
  · rename_i hset
    obtain rfl : c = d := by simpa using hc
    exact Or.inl ⟨hd, by simpa using hset⟩

/-- A property of what is left alone, and of escapes, is one of the encoded text. -/
theorem forall_mem_encode {p : Char → Bool} (hp : SparesEscapes p) {cs : List Char}
    (h : ∀ c ∈ cs, set c = false → p c = false) : ∀ c ∈ encode set cs, p c = false := by
  intro c hc
  rcases mem_encode hc with ⟨hmem, hset⟩ | rfl | ⟨n, hn, rfl⟩
  · exact h c hmem hset
  · exact hp.1
  · exact hp.2 n hn

theorem forall_not_encode (hset : SparesEscapes set) (cs : List Char) :
    ∀ c ∈ encode set cs, set c = false :=
  forall_mem_encode hset fun _ _ h => h

theorem encode_encode (hset : SparesEscapes set) (cs : List Char) :
    encode set (encode set cs) = encode set cs :=
  encode_of_forall_not (forall_not_encode hset cs)

theorem encode_ne_nil {cs : List Char} (h : cs ≠ []) : encode set cs ≠ [] := by
  cases cs with
  | nil => exact absurd rfl h
  | cons c cs =>
    intro he
    rw [encode, List.flatMap_cons] at he
    have hc := (List.append_eq_nil_iff.1 he).1
    split at hc
    · rw [List.flatMap_eq_nil_iff] at hc
      cases hb : String.utf8EncodeChar c with
      | nil => exact String.utf8EncodeChar_ne_nil hb
      | cons b bs => simpa [encodeByte] using hc b (by simp [hb])
    · simp at hc

end

/-! ## Printable texts -/

/-- A text without controls and without anything beyond ASCII. -/
def IsPrintable (cs : List Char) : Prop := ∀ c ∈ cs, inControls c = false

theorem toNat_of_not_inControls {c : Char} (h : inControls c = false) :
    0x20 ≤ c.toNat ∧ c.toNat < 0x7F := by
  simpa [inControls] using h

theorem not_isBreak_of_not_inControls {c : Char} (h : inControls c = false) :
    isBreak c = false := by
  cases hb : isBreak c with
  | false => rfl
  | true =>
    simp only [isBreak, Bool.or_eq_true, decide_eq_true_eq] at hb
    rcases hb with (rfl | rfl) | rfl <;> exact absurd h (by decide)

section
variable {cs : List Char}

theorem withoutBreaks_of_isPrintable (h : IsPrintable cs) : withoutBreaks cs = cs :=
  List.filter_eq_self.2 fun c hc => by simp [not_isBreak_of_not_inControls (h c hc)]

theorem dropShown_of_isPrintable (h : IsPrintable cs) (n : Nat) : dropShown n cs = cs.drop n := by
  induction n generalizing cs with
  | zero => simp [dropShown]
  | succ n ih =>
    cases cs with
    | nil => rfl
    | cons c cs =>
      have hc := not_isBreak_of_not_inControls (h c List.mem_cons_self)
      simpa [dropShown, hc] using ih fun d hd => h d (List.mem_cons_of_mem c hd)

/-- Nothing is trimmed off a text that neither starts nor ends with a blank. -/
theorem trimInput_eq_self (hfirst : cs.head?.all (0x20 < ·.toNat) = true)
    (hlast : cs.getLast?.all (0x20 < ·.toNat) = true) : trimInput cs = cs := by
  have dropBlanks {l : List Char} (hl : l.head?.all (0x20 < ·.toNat) = true) :
      l.dropWhile (fun c => decide (c.toNat ≤ 0x20)) = l := by
    cases l with
    | nil => rfl
    | cons c l =>
      have hc : ¬ c.toNat ≤ 0x20 := by simpa using hl
      rw [List.dropWhile_cons_of_neg (by simpa using hc)]
  simp only [trimInput]
  rw [dropBlanks hfirst, dropBlanks (by rwa [List.head?_reverse]), List.reverse_reverse]

end

/-- The last character of a trimmed text is no blank. -/
theorem getLast?_trimInput (cs : List Char) :
    (trimInput cs).getLast?.all (0x20 < ·.toNat) = true := by
  have h := List.head?_dropWhile_not (fun c : Char => decide (c.toNat ≤ 0x20))
    (cs.dropWhile fun c => decide (c.toNat ≤ 0x20)).reverse
  simp only [trimInput, List.getLast?_reverse]
  revert h
  cases List.head? _ <;> simp

/-! ## Letters of ASCII -/

/-- A fact about ASCII is checked character by character. -/
theorem forall_ascii {p : Char → Prop} (h : ∀ n < 128, p (Char.ofNat n)) {c : Char}
    (hc : c.toNat < 128) : p c := by
  simpa using h c.toNat hc

theorem toLower_toLower {c : Char} (hc : c.toNat < 128) : c.toLower.toLower = c.toLower :=
  forall_ascii (p := fun c => c.toLower.toLower = c.toLower) (by decide) hc

/-! ## Schemes -/

def isSchemeChar (c : Char) : Bool := c.isAlphanum || c = '+' || c = '-' || c = '.'

theorem toNat_lt_of_isSchemeChar {c : Char} (h : isSchemeChar c = true) : c.toNat < 128 := by
  have h : (((decide ('A'.val ≤ c.val ∧ c.val ≤ 'Z'.val) ||
      (decide ('a'.val ≤ c.val) && decide (c.val ≤ 'z'.val))) ||
      (decide ('0'.val ≤ c.val) && decide (c.val ≤ '9'.val))) ||
      decide (c = '+') || decide (c = '-') || decide (c = '.')) = true := h
  simp only [Bool.or_eq_true, Bool.and_eq_true, decide_eq_true_eq, UInt32.le_iff_toNat_le] at h
  have : c.toNat = c.val.toNat := rfl
  have : 'Z'.val.toNat = 90 := rfl
  have : 'z'.val.toNat = 122 := rfl
  have : '9'.val.toNat = 57 := rfl
  rcases h with ((h | rfl) | rfl) | rfl
  · omega
  all_goals decide

/-- A name of a scheme in small letters. -/
def IsSchemeName (cs : List Char) : Prop :=
  cs.head?.any Char.isAlpha = true ∧ ∀ c ∈ cs, isSchemeChar c = true ∧ c.toLower = c

theorem scheme?_eq (cs : List Char) : scheme? cs =
    let name := cs.takeWhile isSchemeChar
    if name.head?.any Char.isAlpha ∧ (cs.drop name.length).head? = some ':' then
      some (String.ofList (name.map Char.toLower))
    else none := rfl

/-- The scheme of a text is found again. -/
theorem scheme?_append {name : List Char} (hname : IsSchemeName name) (cs : List Char) :
    scheme? (name ++ ':' :: cs) = some (String.ofList name) := by
  have htake : (name ++ ':' :: cs).takeWhile isSchemeChar = name :=
    takeWhile_append_eq_left (fun c hc => (hname.2 c hc).1) (by simp [isSchemeChar])
  have hlower : name.map Char.toLower = name :=
    (List.map_congr_left fun c hc => (hname.2 c hc).2).trans (List.map_id' name)
  simp only [scheme?_eq, htake, hlower]
  rw [if_pos ⟨hname.1, by simp⟩]

/-- A scheme that is found is a name in small letters. -/
theorem isSchemeName_of_scheme? {cs : List Char} {scheme : String} (h : scheme? cs = some scheme) :
    IsSchemeName scheme.toList := by
  have hlower : ∀ n < 128, isSchemeChar (Char.ofNat n) = true →
      isSchemeChar (Char.ofNat n).toLower = true := by decide
  have halpha : ∀ n < 128, (Char.ofNat n).isAlpha = true → (Char.ofNat n).toLower.isAlpha = true := by
    decide
  simp only [scheme?_eq] at h
  split at h
  · rename_i hname
    obtain rfl := Option.some.inj h
    rw [String.toList_ofList]
    have hmem (c : Char) (hc : c ∈ cs.takeWhile isSchemeChar) : isSchemeChar c = true :=
      List.mem_takeWhile_imp hc
    refine ⟨?_, fun c hc => ?_⟩
    · cases hcs : cs.takeWhile isSchemeChar with
      | nil => simp [hcs] at hname
      | cons c name =>
        have hc := toNat_lt_of_isSchemeChar (hmem c (by simp [hcs]))
        have hfirst : c.isAlpha = true := by simpa [hcs] using hname.1
        simpa using forall_ascii (p := fun c => c.isAlpha = true → c.toLower.isAlpha = true)
          halpha hc hfirst
    · obtain ⟨d, hd, rfl⟩ := List.mem_map.1 hc
      have hd128 := toNat_lt_of_isSchemeChar (hmem d hd)
      exact ⟨forall_ascii (p := fun c => isSchemeChar c = true → isSchemeChar c.toLower = true)
        hlower hd128 (hmem d hd), toLower_toLower hd128⟩
  · simp at h

/-! ## Queries and fragments -/

/-- A part of a text behind the mark that starts it, if there is one. -/
def markedPart (mark : Char) (part : Option (List Char)) : List Char := part.elim [] (mark :: ·)

theorem splitTail_append {front : List Char} {query fragment : Option (List Char)}
    (hfront : ∀ c ∈ front, c ≠ '?' ∧ c ≠ '#') (hquery : ∀ q ∈ query, ∀ c ∈ q, c ≠ '#') :
    splitTail (front ++ markedPart '?' query ++ markedPart '#' fragment) =
      ⟨front, query, fragment⟩ := by
  have hbefore : (front ++ markedPart '?' query ++ markedPart '#' fragment).takeWhile (· ≠ '#') =
      front ++ markedPart '?' query := by
    refine takeWhile_append_eq_left (fun c hc => ?_) (by cases fragment <;> simp [markedPart])
    rcases List.mem_append.1 hc with hc | hc
    · simpa using (hfront c hc).2
    · cases query with
      | none => simp [markedPart] at hc
      | some q =>
        rcases List.mem_cons.1 hc with rfl | hc
        · decide
        · simpa using hquery q rfl c hc
  have hfirst : (front ++ markedPart '?' query).takeWhile (· ≠ '?') = front :=
    takeWhile_append_eq_left (fun c hc => by simpa using (hfront c hc).1)
      (by cases query <;> simp [markedPart])
  simp only [splitTail, hbefore, hfirst, List.drop_left]
  cases query <;> cases fragment <;> simp [markedPart]

/-- The parts of a text that is split hold none of the marks. -/
theorem splitTail_front {cs : List Char} : ∀ c ∈ (splitTail cs).front, c ≠ '?' ∧ c ≠ '#' := by
  intro c hc
  simp only [splitTail] at hc
  have hne := List.mem_takeWhile_imp hc
  have hne' := List.mem_takeWhile_imp ((List.takeWhile_prefix _).subset hc)
  exact ⟨by simpa using hne, by simpa using hne'⟩

/-- Without query and fragment a text is all front. -/
theorem splitTail_front_eq {cs : List Char} (hquery : (splitTail cs).query = none)
    (hfragment : (splitTail cs).fragment = none) : (splitTail cs).front = cs := by
  have takeWhile_eq {l : List Char} {p : Char → Bool} (h : l.drop (l.takeWhile p).length = []) :
      l.takeWhile p = l :=
    (List.takeWhile_prefix p).eq_of_length_le (List.drop_eq_nil_iff.1 h)
  simp only [splitTail] at hquery hfragment ⊢
  split at hquery
  · rename_i hnone
    split at hfragment
    · rename_i hnone'
      rw [takeWhile_eq hnone, takeWhile_eq hnone']
    · cases hfragment
  · cases hquery

end Url

end Wayfinder
