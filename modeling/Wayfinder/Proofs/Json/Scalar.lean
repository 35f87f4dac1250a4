import Wayfinder.Json.Printer
import Wayfinder.Json.Scalar
import Wayfinder.Proofs.Text.Reading

/-!
# Strings and integers as JSON text

What is written between quotes is read back, whatever the characters are, and so is every integer,
if what follows it is no part of a number.

    readString (escaped s ++ '"' :: rest)  = .ok (s, rest)                     (readString_escaped)
    readNumber false (digits n ++ rest)    = integerNumber false n rest        (readNumber_digits)
-/

namespace Wayfinder

namespace Json

/-! ## Strings -/

/-- The characters of a string as they stand between quotes. -/
theorem writeString_eq (s : String) (rest : List Char) :
    writeString s ++ rest = '"' :: (s.toList.flatMap escapedChar ++ '"' :: rest) := by
  simp [writeString]

/-- Four digits are read that two were written with. -/
theorem readHex_escaped {n : Nat} (hn : n < 32) (rest : List Char) :
    readHex ('0' :: '0' :: hexDigit (n / 16) :: hexDigit (n % 16) :: rest) = .ok (n, rest) := by
  have hdigits : ∀ n < 32, ['0', '0', hexDigit (n / 16), hexDigit (n % 16)].filterMap
      Text.hexValue? = [0, 0, n / 16, n % 16] := by decide
  simp only [readHex, List.take_succ_cons, List.take_zero, hdigits n hn, List.length_cons,
    List.length_nil, if_true, List.foldl_cons, List.foldl_nil, List.drop_succ_cons, List.drop_zero]
  rw [show 16 * (16 * (16 * (16 * 0 + 0) + 0) + n / 16) + n % 16 = n by omega]

theorem readEscape_escaped {c : Char} (hc : c.toNat < 32) (rest : List Char) :
    readEscape ('u' :: '0' :: '0' :: hexDigit (c.toNat / 16) :: hexDigit (c.toNat % 16) :: rest) =
      .ok (c, rest) := by
  have htrailing : isTrailingSurrogate c.toNat = false := by
    simp only [isTrailingSurrogate, Bool.and_eq_false_iff, decide_eq_false_iff_not]
    omega
  have hleading : isLeadingSurrogate c.toNat = false := by
    simp only [isLeadingSurrogate, Bool.and_eq_false_iff, decide_eq_false_iff_not]
    omega
  simp only [readEscape, if_true, readUnicodeEscape, readHex_escaped hc, bind, Except.bind,
    htrailing, hleading, Bool.false_eq_true, if_false, Char.ofNat_toNat]

/-- A character is escaped by a letter, by digits, or not at all. -/
theorem escapedChar_cases (c : Char) :
    (∃ l, l ≠ 'u' ∧ simpleEscape? l = some c ∧ escapedChar c = ['\\', l]) ∨
      (c.toNat < 32 ∧ escapedChar c =
        ['\\', 'u', '0', '0', hexDigit (c.toNat / 16), hexDigit (c.toNat % 16)]) ∨
      c ≠ '"' ∧ c ≠ '\\' ∧ ¬ c.toNat < 32 ∧ escapedChar c = [c] := by
  unfold escapedChar
  -- the quote, the backslash and the five controls with a letter of their own
  iterate 7
    split
    · subst_vars
      exact .inl ⟨_, by decide, by decide, rfl⟩
  split
  · exact .inr (.inl ⟨‹_›, rfl⟩)
  · exact .inr (.inr ⟨‹_›, ‹_›, ‹_›, rfl⟩)

/-- A character is read as it was written. -/
theorem readStringFrom_escapedChar (c : Char) (fuel : Nat) (before rest : List Char) :
    readStringFrom (fuel + 1) before (escapedChar c ++ rest) =
      readStringFrom fuel (c :: before) rest := by
  rcases escapedChar_cases c with ⟨l, hu, hsimple, hc⟩ | ⟨hlow, hc⟩ | ⟨hquote, hbackslash, hlow, hc⟩
  · have hescape : readEscape (l :: rest) = .ok (c, rest) := by
      simp only [readEscape, hu, if_false, hsimple]
    rw [hc]
    simp only [List.cons_append, List.nil_append, readStringFrom, Char.reduceEq, if_false, if_true,
      hescape]
  · have hescape := readEscape_escaped hlow rest
    rw [hc]
    simp only [List.cons_append, List.nil_append, readStringFrom, Char.reduceEq, if_false, if_true,
      hescape]
  · rw [hc]
    simp only [List.cons_append, List.nil_append, readStringFrom, hquote, hbackslash, hlow, if_false]

theorem readStringFrom_escaped (cs : List Char) (fuel : Nat) (before rest : List Char)
    (hfuel : cs.length < fuel) :
    readStringFrom fuel before (cs.flatMap escapedChar ++ '"' :: rest) =
      .ok (String.ofList (before.reverse ++ cs), rest) := by
  induction cs generalizing fuel before with
  | nil =>
    obtain ⟨fuel, rfl⟩ := Nat.exists_eq_add_one_of_ne_zero (by omega : fuel ≠ 0)
    simp [readStringFrom]
  | cons c cs ih =>
    obtain ⟨fuel, rfl⟩ := Nat.exists_eq_add_one_of_ne_zero (by omega : fuel ≠ 0)
    rw [List.flatMap_cons, List.append_assoc, readStringFrom_escapedChar,
      ih fuel (c :: before) (by simpa using hfuel)]
    simp

theorem length_pos_escapedChar (c : Char) : 0 < (escapedChar c).length := by
  rcases escapedChar_cases c with ⟨l, -, -, hc⟩ | ⟨-, hc⟩ | ⟨-, -, -, hc⟩ <;> simp [hc]

theorem length_le_escaped (cs : List Char) : cs.length ≤ (cs.flatMap escapedChar).length := by
  induction cs with
  | nil => exact Nat.le_refl 0
  | cons c cs ih =>
    have hc := length_pos_escapedChar c
    rw [List.flatMap_cons, List.length_append, List.length_cons]
    omega

/-- A string is read as it was written. -/
theorem readString_escaped (s : String) (rest : List Char) :
    readString (s.toList.flatMap escapedChar ++ '"' :: rest) = .ok (s, rest) := by
  have hlength := length_le_escaped s.toList
  rw [readString, readStringFrom_escaped s.toList _ [] rest (by rw [List.length_append]; omega),
    List.reverse_nil, List.nil_append, String.ofList_toList]

/-! ## Integers -/

/-- The text does not go on with a part of a number. -/
def EndsNumber (rest : List Char) : Prop :=
  ∀ c ∈ rest.head?, c.isDigit = false ∧ c ≠ '.' ∧ c ≠ 'e' ∧ c ≠ 'E'

@[simp] theorem endsNumber_nil : EndsNumber [] := nofun

@[simp] theorem endsNumber_comma (rest : List Char) : EndsNumber (',' :: rest) := by
  simp [EndsNumber]

@[simp] theorem endsNumber_bracket (rest : List Char) : EndsNumber (']' :: rest) := by
  simp [EndsNumber]

@[simp] theorem endsNumber_brace (rest : List Char) : EndsNumber ('\x7d' :: rest) := by
  simp [EndsNumber]

theorem takeUp_eq {cs : List Char} {m : Nat} (h : Nat.ofDigitChars 10 cs m < significandLimit) :
    takeUp m cs = (Nat.ofDigitChars 10 cs m, 0) := by
  induction cs generalizing m with
  | nil => rfl
  | cons c cs ih =>
    rw [Nat.ofDigitChars_cons] at h ⊢
    have hle := Text.le_ofDigitChars cs (10 * m + (c.toNat - '0'.toNat))
    have hc : 10 * m + (c.toNat - 48) < significandLimit := Nat.lt_of_le_of_lt hle h
    simp only [takeUp, hc, if_true]
    exact ih h

/-- The digits of a number are read up to their end. -/
theorem readNumber_digits {n : Nat} (hn : n < significandLimit) {rest : List Char}
    (hrest : EndsNumber rest) (negative : Bool) :
    readNumber negative (Text.digits n ++ rest) = integerNumber negative n rest := by
  obtain ⟨c, cs, hdigits, hc, hzero⟩ := Text.digits_eq_cons n
  have htake : (c :: (cs ++ rest)).takeWhile Char.isDigit = c :: cs := by
    rw [← List.cons_append]
    refine takeWhile_append_eq_left (fun d hd => ?_) ?_
    · exact Text.isDigit_of_mem_digits (n := n) (hdigits ▸ hd)
    · cases rest with
      | nil => rfl
      | cons d rest => simp [(hrest d rfl).1]
  have hds : (if c = '0' then ['0'] else (c :: (cs ++ rest)).takeWhile Char.isDigit) = c :: cs := by
    split
    · rename_i h
      rw [(hzero h).2, h]
    · exact htake
  have hup : takeUp 0 (c :: cs) = (n, 0) := by
    rw [← hdigits, takeUp_eq] <;> rw [← Text.number, Text.number_digits]
    exact hn
  have hdrop : (c :: (cs ++ rest)).drop (c :: cs).length = rest := by
    rw [← List.cons_append, List.drop_left]
  have hnext : (c = '0' && (cs ++ rest).head?.any Char.isDigit) = false := by
    by_cases h : c = '0'
    · rw [(hzero h).2, List.nil_append]
      cases rest with
      | nil => simp
      | cons d rest => simp [(hrest d rfl).1]
    · simp [h]
  rw [hdigits, List.cons_append]
  simp only [readNumber, hc, if_true, hds, hup, hdrop, hnext]
  split
  · exact absurd rfl (hrest '.' rfl).2.1
  · exact absurd rfl (hrest 'e' rfl).2.2.1
  · exact absurd rfl (hrest 'E' rfl).2.2.2
  · simp

end Json

end Wayfinder
