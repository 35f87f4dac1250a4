import Mathlib.Data.List.DropRight
import Wayfinder.Proofs.Json.RoundTrip

/-!
# Values that are passed over

A reader that has no use for a value passes over its text, whatever it holds: floating-point
numbers, keys that come twice, and lists and objects that nest however deep.

    skip (v.write ++ rest) = .ok rest                                             (skip_write)

A number is written as a whole part, which starts with a zero only if it is zero, and maybe a
fraction and an exponent.  A run of digits is passed over up to its end, so what follows each part
says where the next one begins.
-/

namespace Wayfinder

namespace Json

/-! ## Parts of numbers -/

/-- Digits, at least one. -/
def IsRun (cs : List Char) : Prop := cs ≠ [] ∧ ∀ c ∈ cs, c.isDigit = true

/-- Digits of which the first one is a zero only if it stands alone. -/
def IsWhole (cs : List Char) : Prop := IsRun cs ∧ (cs.head? = some '0' → cs = ['0'])

/-- The text does not go on with a digit. -/
def EndsRun (rest : List Char) : Prop := ∀ c ∈ rest.head?, c.isDigit = false

/-- The text after a fraction behind its digits. -/
def skipRestOfFraction : List Char → Except Fault (List Char)
  | 'e' :: rest => skipExponent rest
  | 'E' :: rest => skipExponent rest
  | rest => .ok rest

/-- The text after a number behind its whole part. -/
def skipRestOfNumber : List Char → Except Fault (List Char)
  | '.' :: rest => skipFraction rest
  | 'e' :: rest => skipExponent rest
  | 'E' :: rest => skipExponent rest
  | rest => .ok rest

theorem EndsNumber.endsRun {rest : List Char} (h : EndsNumber rest) : EndsRun rest :=
  fun c hc => (h c hc).1

theorem endsRun_mark {c : Char} (h : c.isDigit = false) (rest : List Char) :
    EndsRun (c :: rest) := by
  rintro _ ⟨⟩
  exact h

theorem isRun_digits (n : Nat) : IsRun (Text.digits n) := by
  obtain ⟨c, cs, hdigits, -⟩ := Text.digits_eq_cons n
  exact ⟨by simp [hdigits], fun c hc => Text.isDigit_of_mem_digits hc⟩

theorem isWhole_digits (n : Nat) : IsWhole (Text.digits n) := by
  refine ⟨isRun_digits n, fun h => ?_⟩
  obtain ⟨c, cs, hdigits, -, hzero⟩ := Text.digits_eq_cons n
  rw [hdigits] at h ⊢
  obtain rfl : c = '0' := by simpa using h
  rw [(hzero rfl).2]

theorem isWhole_zero : IsWhole ['0'] := isWhole_digits 0

theorem isDigit_of_mem_zeros {n : Nat} {c : Char} (h : c ∈ List.replicate n '0') :
    c.isDigit = true := by
  rw [(List.mem_replicate.1 h).2]
  rfl

/-- Zeros behind a number other than zero. -/
theorem isWhole_digits_zeros {n : Nat} (hn : n ≠ 0) (zeros : Nat) :
    IsWhole (Text.digits n ++ List.replicate zeros '0') := by
  obtain ⟨c, cs, hdigits, -, hzero⟩ := Text.digits_eq_cons n
  refine ⟨⟨by simp [hdigits], fun d hd => ?_⟩, fun h => ?_⟩
  · exact (List.mem_append.1 hd).elim Text.isDigit_of_mem_digits isDigit_of_mem_zeros
  · rw [hdigits] at h
    exact absurd (hzero (by simpa using h)).1 hn

section
variable {cs rest : List Char}

theorem IsRun.take (h : IsRun cs) {m : Nat} (hm : 0 < m) : IsRun (cs.take m) := by
  refine ⟨?_, fun c hc => h.2 c (List.mem_of_mem_take hc)⟩
  rw [Ne, List.take_eq_nil_iff]
  exact fun hnil => hnil.elim (by omega) h.1

theorem IsRun.drop (h : IsRun cs) {m : Nat} (hm : m < cs.length) : IsRun (cs.drop m) := by
  refine ⟨?_, fun c hc => h.2 c (List.mem_of_mem_drop hc)⟩
  rw [Ne, List.drop_eq_nil_iff]
  omega

theorem IsWhole.take (h : IsWhole cs) {m : Nat} (hm : 0 < m) : IsWhole (cs.take m) := by
  refine ⟨h.1.take hm, fun hzero => ?_⟩
  rw [List.head?_take, if_neg (by omega)] at hzero
  rw [h.2 hzero, List.take_of_length_le (Nat.succ_le_of_lt hm)]

theorem IsRun.eq_cons (h : IsRun cs) : ∃ c ds, cs = c :: ds ∧ c.isDigit = true := by
  obtain ⟨hne, hdigit⟩ := h
  cases cs with
  | nil => exact absurd rfl hne
  | cons c ds => exact ⟨c, ds, rfl, hdigit c List.mem_cons_self⟩

theorem dropWhile_run (h : IsRun cs) (hrest : EndsRun rest) :
    (cs ++ rest).dropWhile Char.isDigit = rest := by
  rw [List.dropWhile_append_of_pos h.2]
  cases rest with
  | nil => rfl
  | cons c rest => exact List.dropWhile_cons_of_neg (by simpa using hrest c rfl)

theorem skipExponent_run (h : IsRun cs) (hrest : EndsRun rest) {sign : List Char}
    (hsign : sign = [] ∨ sign = ['+'] ∨ sign = ['-']) :
    skipExponent (sign ++ (cs ++ rest)) = .ok rest := by
  have hdrop := dropWhile_run h hrest
  obtain ⟨c, ds, rfl, hc⟩ := h.eq_cons
  rw [List.cons_append] at hdrop ⊢
  rcases hsign with rfl | rfl | rfl
  · have hplus : c ≠ '+' := by rintro rfl; revert hc; decide
    have hminus : c ≠ '-' := by rintro rfl; revert hc; decide
    simp [skipExponent, hplus, hminus, hc, hdrop]
  · simp [skipExponent, hc, hdrop]
  · simp [skipExponent, hc, hdrop]

theorem skipFraction_run (h : IsRun cs) (hrest : EndsRun rest) :
    skipFraction (cs ++ rest) = skipRestOfFraction rest := by
  have hdrop := dropWhile_run h hrest
  have hhead : (cs ++ rest).head?.any Char.isDigit = true := by
    obtain ⟨c, ds, rfl, hc⟩ := h.eq_cons
    simpa using hc
  simp only [skipFraction, hhead, if_true, hdrop]
  rfl

theorem skipNumber_whole (h : IsWhole cs) (hrest : EndsRun rest) :
    skipNumber (cs ++ rest) = skipRestOfNumber rest := by
  obtain ⟨hrun, hzero⟩ := h
  have hdrop := dropWhile_run hrun hrest
  obtain ⟨c, ds, rfl, hc⟩ := hrun.eq_cons
  rw [List.cons_append] at hdrop ⊢
  have hnext : (c = '0' && (ds ++ rest).head?.any Char.isDigit) = false := by
    by_cases h : c = '0'
    · obtain rfl : ds = [] := by simpa [h] using hzero
      cases rest with
      | nil => simp
      | cons d rest => simp [hrest d rfl]
    · simp [h]
  have hleft : (if c = '0' then ds ++ rest else (c :: (ds ++ rest)).dropWhile Char.isDigit) =
      rest := by
    split
    · rename_i h
      obtain rfl : ds = [] := by simpa [h] using hzero
      rfl
    · exact hdrop
  simp only [skipNumber, hc, if_true, hnext, Bool.false_eq_true, if_false, hleft]
  rfl

theorem skipFraction_end (h : IsRun cs) (hrest : EndsNumber rest) :
    skipFraction (cs ++ rest) = .ok rest := by
  rw [skipFraction_run h hrest.endsRun]
  unfold skipRestOfFraction
  split
  · exact absurd rfl (hrest 'e' rfl).2.2.1
  · exact absurd rfl (hrest 'E' rfl).2.2.2
  · rfl

theorem skipFraction_exponent (h : IsRun cs) (rest : List Char) :
    skipFraction (cs ++ 'e' :: rest) = skipExponent rest :=
  skipFraction_run h (endsRun_mark (by decide) rest)

theorem skipNumber_end (h : IsWhole cs) (hrest : EndsNumber rest) :
    skipNumber (cs ++ rest) = .ok rest := by
  rw [skipNumber_whole h hrest.endsRun]
  unfold skipRestOfNumber
  split
  · exact absurd rfl (hrest '.' rfl).2.1
  · exact absurd rfl (hrest 'e' rfl).2.2.1
  · exact absurd rfl (hrest 'E' rfl).2.2.2
  · rfl

theorem skipNumber_point (h : IsWhole cs) (rest : List Char) :
    skipNumber (cs ++ '.' :: rest) = skipFraction rest :=
  skipNumber_whole h (endsRun_mark (by decide) rest)

theorem skipNumber_exponent (h : IsWhole cs) (rest : List Char) :
    skipNumber (cs ++ 'e' :: rest) = skipExponent rest :=
  skipNumber_whole h (endsRun_mark (by decide) rest)

end

/-! ## Numbers -/

/-- The first digit, the others as a fraction, and an exponent. -/
theorem skipNumber_scientific {ds power sign rest : List Char} (hds : IsWhole ds)
    (hpower : IsRun power) (hsign : sign = [] ∨ sign = ['+'] ∨ sign = ['-'])
    (hrest : EndsNumber rest) :
    skipNumber (ds.take 1 ++ (if ds.length = 1 then [] else '.' :: ds.drop 1) ++
      'e' :: sign ++ power ++ rest) = .ok rest := by
  have hfirst : IsWhole (ds.take 1) := hds.take Nat.one_pos
  have hexponent : skipExponent (sign ++ (power ++ rest)) = .ok rest :=
    skipExponent_run hpower hrest.endsRun hsign
  split
  · simpa using (skipNumber_exponent hfirst _).trans hexponent
  · have hlength : 1 < ds.length := by
      have := List.length_pos_iff.2 hds.1.1
      omega
    have hfraction := skipFraction_exponent (hds.1.drop hlength) (sign ++ (power ++ rest))
    simpa using (skipNumber_point hfirst _).trans (hfraction.trans hexponent)

/-- A decimal is passed over, if no zeros have to stand behind a zero. -/
theorem skipNumber_writeDecimal (f : Binary64.DecimalFormat) {n : Nat} {k : Int}
    (h : n ≠ 0 ∨ k ≤ 0) {rest : List Char} (hrest : EndsNumber rest) :
    skipNumber (Binary64.writeDecimal f n k ++ rest) = .ok rest := by
  have hwhole := isWhole_digits n
  simp only [Binary64.writeDecimal]
  generalize hpoint : ((Text.digits n).length : Int) + k = point
  by_cases hplain : 0 ≤ k ∧ point ≤ f.most
  · -- zeros up to the point
    have hzeros : IsWhole (Text.digits n ++ List.replicate k.toNat '0') := by
      rcases h with hn | hk
      · exact isWhole_digits_zeros hn _
      · obtain rfl : k = 0 := by omega
        simpa using hwhole
    rw [if_pos hplain, List.append_assoc, List.cons_append, skipNumber_point hzeros]
    exact skipFraction_end isWhole_zero.1 hrest
  rw [if_neg hplain]
  by_cases hinside : 0 < point ∧ point ≤ f.most
  · -- the point is among the digits
    have hfraction : IsRun ((Text.digits n).drop point.toNat) := hwhole.1.drop (by omega)
    rw [if_pos hinside, List.append_assoc, List.cons_append,
      skipNumber_point (hwhole.take (by omega))]
    exact skipFraction_end hfraction hrest
  rw [if_neg hinside]
  by_cases hbehind : -f.zeros ≤ point ∧ point ≤ 0
  · -- zeros behind the point
    have hfraction : IsRun (List.replicate (-point).toNat '0' ++ Text.digits n) := by
      refine ⟨by simp [hwhole.1.1], fun c hc => ?_⟩
      exact (List.mem_append.1 hc).elim isDigit_of_mem_zeros (hwhole.1.2 c)
    rw [if_pos hbehind, List.cons_append, List.cons_append, List.cons_append]
    exact (skipNumber_point isWhole_zero _).trans (skipFraction_end hfraction hrest)
  · rw [if_neg hbehind]
    exact skipNumber_scientific hwhole (isRun_digits _) (by split_ifs <;> simp) hrest

end Json

namespace Binary64

variable {x : Binary64}

theorem scaleTwo_num_pos (e : Int) : 0 < (scaleTwo 1 1 e).1 := by
  unfold scaleTwo
  split
  · exact Nat.mul_pos Nat.one_pos (Nat.pow_pos Nat.two_pos)
  · exact Nat.one_pos

theorem scaleTen_den_pos (e : Int) : 0 < (scaleTen 1 1 e).2 := by
  unfold scaleTen
  split
  · exact Nat.one_pos
  · exact Nat.mul_pos Nat.one_pos (Nat.pow_pos (by decide))

theorem bounds_pos (hx : x.significand ≠ 0) : 0 < x.bounds.1 := by
  unfold bounds
  dsimp only
  split <;> omega

theorem div_le_roundEven (num den : Nat) : num / den ≤ roundEven num den := by
  unfold roundEven
  dsimp only
  split_ifs <;> omega

/-- Zero rounds to no other magnitude. -/
theorem onGrid?_ne_zero (hx : x.significand ≠ 0) {k : Int} {n : Nat} (h : x.onGrid? k = some n) :
    n ≠ 0 := by
  dsimp -zeta only [onGrid?] at h
  extract_lets grid unit inside value q nearer at h
  have hlow : 0 < x.bounds.1 * unit :=
    Nat.mul_pos (bounds_pos hx) (Nat.mul_pos (scaleTwo_num_pos _) (scaleTen_den_pos _))
  have hzero : inside 0 = false := by
    unfold inside
    split <;> simp [hlow.ne']
  have hround : q ≤ nearer := div_le_roundEven value grid
  clear_value inside q nearer
  rintro rfl
  split at h
  case isTrue hinside =>
    obtain rfl : q = 0 := Nat.le_zero.1 (hround.trans (Option.some.inj h).le)
    simp [hzero] at hinside
  split at h
  case isTrue hinside =>
    cases h
    simp [hzero] at hinside
  split at h <;> cases h

/-- The digits that are written are no zeros, unless they stand far behind the point. -/
theorem shortestFrom_ne_zero (hx : x.significand ≠ 0) (k : Int) (steps : Nat) :
    (x.shortestFrom k steps).1 ≠ 0 ∨ (x.shortestFrom k steps).2 = k - steps := by
  induction steps generalizing k with
  | zero => exact .inr (by simp [shortestFrom])
  | succ steps ih =>
    unfold shortestFrom
    split
    · rename_i n hn
      exact .inl (onGrid?_ne_zero hx hn)
    · rcases ih (k - 1) with hn | hk
      · exact .inl hn
      · exact .inr (by omega)

end Binary64

namespace Json

/-- A number starts with a digit. -/
theorem exists_digit_of_skipNumber {s rest : List Char} (h : skipNumber s = .ok rest) :
    ∃ c r, s = c :: r ∧ c.isDigit = true := by
  cases s with
  | nil => cases h
  | cons c r =>
    by_cases hc : c.isDigit = true
    · exact ⟨c, r, rfl, hc⟩
    · simp only [skipNumber, hc, Bool.false_eq_true, if_false] at h
      cases h

theorem writeFloat_eq (x : Binary64) : ∃ cs, x.write = (if x.negative then ['-'] else []) ++ cs ∧
    ∀ rest, EndsNumber rest → skipNumber (cs ++ rest) = .ok rest := by
  unfold Binary64.write
  dsimp only
  split
  · exact ⟨['0', '.', '0'], rfl, fun rest hrest =>
      (skipNumber_point isWhole_zero _).trans (skipFraction_end isWhole_zero.1 hrest)⟩
  · rename_i hx
    refine ⟨_, rfl, fun rest hrest => skipNumber_writeDecimal _ ?_ hrest⟩
    rcases Binary64.shortestFrom_ne_zero hx 309 633 with hn | hk
    · exact .inl hn
    · refine .inr ?_
      rw [Binary64.shortest, hk]
      decide

/-- What is written of a number is passed over behind its sign. -/
theorem writeNumber_eq (n : Number) : ∃ sign cs, (sign = [] ∨ sign = ['-']) ∧
    writeNumber n = sign ++ cs ∧
    ∀ rest, EndsNumber rest → skipNumber (cs ++ rest) = .ok rest := by
  cases n with
  | int i =>
    obtain ⟨n | n, hfits⟩ := i
    · exact ⟨[], _, .inl rfl, rfl, fun rest hrest => skipNumber_end (isWhole_digits n) hrest⟩
    · exact ⟨['-'], _, .inr rfl, rfl,
        fun rest hrest => skipNumber_end (isWhole_digits (n + 1)) hrest⟩
  | float x =>
    obtain ⟨cs, hwrite, hskip⟩ := writeFloat_eq x
    exact ⟨_, cs, by split_ifs <;> simp, hwrite, hskip⟩

/-! ## Strings -/

theorem skipStringFrom_escapedChar (c : Char) (fuel : Nat) (rest : List Char) :
    skipStringFrom (fuel + 1) (escapedChar c ++ rest) = skipStringFrom fuel rest := by
  rcases escapedChar_cases c with ⟨l, hu, hsimple, hc⟩ | ⟨hlow, hc⟩ | ⟨hquote, hbackslash, hlow, hc⟩
  · have hescape : skipEscape (l :: rest) = .ok rest := by
      simp only [skipEscape, hu, if_false, hsimple, Option.isSome_some, if_true]
    rw [hc]
    simp only [List.cons_append, List.nil_append, skipStringFrom, Char.reduceEq, if_false, if_true,
      hescape]
  · have hescape : skipEscape ('u' :: '0' :: '0' :: hexDigit (c.toNat / 16) ::
        hexDigit (c.toNat % 16) :: rest) = .ok rest := by
      simp only [skipEscape, if_true, readHex_escaped hlow, Except.map]
    rw [hc]
    simp only [List.cons_append, List.nil_append, skipStringFrom, Char.reduceEq, if_false, if_true,
      hescape]
  · rw [hc]
    simp only [List.cons_append, List.nil_append, skipStringFrom, hquote, hbackslash, hlow, if_false]

theorem skipStringFrom_escaped (cs : List Char) (fuel : Nat) (rest : List Char)
    (hfuel : cs.length < fuel) :
    skipStringFrom fuel (cs.flatMap escapedChar ++ '"' :: rest) = .ok rest := by
  induction cs generalizing fuel with
  | nil =>
    obtain ⟨fuel, rfl⟩ := Nat.exists_eq_add_one_of_ne_zero (by omega : fuel ≠ 0)
    rfl
  | cons c cs ih =>
    obtain ⟨fuel, rfl⟩ := Nat.exists_eq_add_one_of_ne_zero (by omega : fuel ≠ 0)
    rw [List.flatMap_cons, List.append_assoc, skipStringFrom_escapedChar]
    exact ih fuel (by simpa using hfuel)

/-- A string is passed over up to its closing quote. -/
theorem skipString_escaped (s : String) (rest : List Char) :
    skipString (s.toList.flatMap escapedChar ++ '"' :: rest) = .ok rest := by
  have hlength := length_le_escaped s.toList
  exact skipStringFrom_escaped s.toList _ rest (by rw [List.length_append]; omega)

/-! ## Values -/

theorem skipSpace_skipSpace (s : List Char) : skipSpace (skipSpace s) = skipSpace s :=
  List.dropWhile_idempotent _ _

section
variable (fuel : Nat) (rest : List Char)

theorem skipValue_quote : skipValue (fuel + 1) ('"' :: rest) = skipString rest := rfl

theorem skipValue_bracket : skipValue (fuel + 1) ('[' :: rest) = skipItems fuel true rest := rfl

theorem skipValue_brace : skipValue (fuel + 1) ('\x7b' :: rest) = skipMembers fuel true rest := rfl

theorem skipMembers_first :
    skipMembers (fuel + 1) true ('"' :: rest) = skipMember fuel ('"' :: rest) := rfl

theorem skipMembers_comma :
    skipMembers (fuel + 1) false (',' :: rest) = skipMember fuel rest := rfl

variable {fuel rest}

/-- What can be passed over as a value is no end of a list. -/
theorem skipItems_first {s : List Char} (h : skipValue (fuel + 1) s = .ok rest) :
    skipItems (fuel + 2) true s = skipItems (fuel + 1) false rest := by
  cases hs : skipSpace s with
  | nil =>
    simp only [skipValue, hs] at h
    cases h
  | cons c r =>
    have hend : c ≠ ']' := by
      rintro rfl
      simp only [skipValue, hs, Char.reduceEq, if_false] at h
      cases h
    have hvalue : skipValue (fuel + 1) (c :: r) = .ok rest := by
      rw [← h, ← hs, skipValue, skipValue, skipSpace_skipSpace]
    simp only [skipItems, hs, hend, if_false, if_true, hvalue]

theorem skipItems_comma {s : List Char} (h : skipValue fuel s = .ok rest) :
    skipItems (fuel + 1) false (',' :: s) = skipItems fuel false rest := by
  have hcomma : skipSpace (',' :: s) = ',' :: s := skipSpace_cons (by decide) s
  simp only [skipItems, hcomma, Char.reduceEq, Bool.false_eq_true, if_false, if_true, h]

theorem skipMember_step {key : String} {s : List Char} (h : skipValue fuel s = .ok rest) :
    skipMember (fuel + 1) ('"' :: (key.toList.flatMap escapedChar ++ '"' :: ':' :: s)) =
      skipMembers fuel false rest := by
  have hquote (r : List Char) : skipSpace ('"' :: r) = '"' :: r := skipSpace_cons (by decide) r
  simp only [skipMember, hquote, if_true, skipString_escaped, Except.bind, readColon_colon, h]

theorem skipValue_number (n : Number) (hrest : EndsNumber rest) :
    skipValue (fuel + 1) (writeNumber n ++ rest) = .ok rest := by
  obtain ⟨sign, cs, hsign, hwrite, hskip⟩ := writeNumber_eq n
  have hnumber := hskip rest hrest
  rw [hwrite, List.append_assoc]
  rcases hsign with rfl | rfl
  · rw [List.nil_append]
    obtain ⟨c, r, hcs, hc⟩ := exists_digit_of_skipNumber hnumber
    obtain ⟨hspace, -, hminus, hnull, htrue, hfalse⟩ := of_isDigit hc
    rw [hcs] at hnumber ⊢
    simp only [skipValue, skipSpace_cons hspace, hnull, htrue, hfalse, hminus, hc, if_false,
      if_true, hnumber]
  · exact hnumber

end

/- Of two steps in a row one takes a character at least, since only the step from an object to its
next member takes none.  So twice the length of what was written is fuel enough. -/

mutual

/-- A value is passed over. -/
theorem skipValue_write : (v : Json) → (fuel : Nat) → (rest : List Char) →
    2 * v.write.length < fuel → EndsNumber rest → skipValue fuel (v.write ++ rest) = .ok rest
  | null, fuel + 1, rest, _, _ => rfl
  | bool true, fuel + 1, rest, _, _ => rfl
  | bool false, fuel + 1, rest, _, _ => rfl
  | number n, fuel + 1, rest, _, hrest => skipValue_number n hrest
  | string s, fuel + 1, rest, _, _ => by
    rw [write, writeString_eq, skipValue_quote, skipString_escaped]
  | array [], fuel + 2, rest, _, _ => rfl
  | array (v :: vs), fuel + 3, rest, hfuel, _ => by
    simp only [write, List.length_cons, List.length_append, List.cons_append] at hfuel
    have hv := skipValue_write v (fuel + 1) (writeItems vs ++ rest) (by omega)
      (endsNumber_writeItems vs rest)
    rw [write, List.cons_append, List.cons_append, List.append_assoc, skipValue_bracket,
      skipItems_first hv]
    exact skipItems_write vs (fuel + 1) rest (by omega)
  | object [], fuel + 2, rest, _, _ => rfl
  | object ((key, v) :: ms), fuel + 3, rest, hfuel, _ => by
    simp only [write, writeString, List.length_cons, List.length_append, List.cons_append] at hfuel
    have hv := skipValue_write v fuel (writeMembers ms ++ rest) (by omega)
      (endsNumber_writeMembers ms rest)
    rw [write_member_first, skipValue_brace, skipMembers_first, skipMember_step hv]
    exact skipMembers_write ms fuel rest (by omega)

/-- So is the rest of a list. -/
theorem skipItems_write : (vs : List Json) → (fuel : Nat) → (rest : List Char) →
    2 * (writeItems vs).length < fuel → skipItems fuel false (writeItems vs ++ rest) = .ok rest
  | [], fuel + 1, rest, _ => rfl
  | v :: vs, fuel + 1, rest, hfuel => by
    simp only [writeItems, List.length_cons, List.length_append, List.cons_append] at hfuel
    have hv := skipValue_write v fuel (writeItems vs ++ rest) (by omega)
      (endsNumber_writeItems vs rest)
    rw [writeItems, List.cons_append, List.cons_append, List.append_assoc, skipItems_comma hv]
    exact skipItems_write vs fuel rest (by omega)

/-- So is the rest of an object. -/
theorem skipMembers_write : (ms : List (String × Json)) → (fuel : Nat) → (rest : List Char) →
    2 * (writeMembers ms).length < fuel →
    skipMembers fuel false (writeMembers ms ++ rest) = .ok rest
  | [], fuel + 1, rest, _ => rfl
  | (key, v) :: ms, fuel + 2, rest, hfuel => by
    simp only [writeMembers, writeString, List.length_cons, List.length_append,
      List.cons_append] at hfuel
    have hv := skipValue_write v fuel (writeMembers ms ++ rest) (by omega)
      (endsNumber_writeMembers ms rest)
    rw [write_member_comma, skipMembers_comma, skipMember_step hv]
    exact skipMembers_write ms fuel rest (by omega)

end

/-- **Values that are passed over.**  What stands behind the text of a value is left of it. -/
theorem skip_write (v : Json) {rest : List Char} (hrest : EndsNumber rest) :
    skip (v.write ++ rest) = .ok rest :=
  skipValue_write v _ rest (by rw [List.length_append]; omega) hrest

end Json

end Wayfinder
