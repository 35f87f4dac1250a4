import Wayfinder.Proofs.Text.Reading
import Wayfinder.Time.Rfc3339

/-!
# Timestamps that are read as they were written

    t.IsValid → Timestamp.parse t.format = .ok t        (parse_format)

Each part of the text is read up to the mark behind it.  A leap second is written as the sixtieth
second of its minute and read as such.
-/

namespace Wayfinder

open Text

namespace Timestamp

/-- A date in the calendar and a time of its day; a leap second ends a minute. -/
structure IsValid (t : Timestamp) : Prop where
  date : t.date.isValid = true
  hour : t.hour < 24
  minute : t.minute < 60
  second : t.second < 60
  nano : t.nano < 1000000000 ∨ t.second = 59 ∧ t.nano < 2000000000

/-! ## Parts of the text -/

section
variable {ds rest : List Char} {c : Char}

theorem dropBlank_cons (h : isBlank c = false) (rest : List Char) :
    dropBlank (c :: rest) = c :: rest := by
  simp [dropBlank, h]

theorem of_isDigit (h : c.isDigit = true) : isBlank c = false ∧ c ≠ '-' ∧ c ≠ '+' := by
  have hrange : 48 ≤ c.toNat ∧ c.toNat ≤ 57 := Char.isDigit_iff_toNat.1 h
  refine ⟨?_, ?_, ?_⟩
  · simp only [isBlank, Bool.or_eq_false_iff, Bool.and_eq_false_iff, decide_eq_false_iff_not,
      beq_eq_false_iff_ne]
    omega
  all_goals rintro rfl; revert hrange; decide

theorem dropBlank_digits (hds : ∀ c ∈ ds, c.isDigit = true) (hne : ds ≠ []) (rest : List Char) :
    dropBlank (ds ++ rest) = ds ++ rest := by
  cases ds with
  | nil => exact absurd rfl hne
  | cons c ds => exact dropBlank_cons (of_isDigit (hds c List.mem_cons_self)).1 _

/-- A run of digits is read as the number that it denotes, if it fills the width or ends before. -/
theorem readNumber_digits (hds : ∀ c ∈ ds, c.isDigit = true) (hne : ds ≠ []) {width : Nat}
    (hwidth : ds.length ≤ width)
    (hrest : ds.length = width ∨ rest.head?.all (!Char.isDigit ·) = true) :
    readNumber width (ds ++ rest) = .ok (number ds, rest) := by
  have htake : ((ds ++ rest).take width).takeWhile Char.isDigit = ds := by
    rw [List.take_append, List.take_of_length_le hwidth]
    refine takeWhile_append_eq_left hds ?_
    rcases hrest with hfull | hrest
    · simp [hfull]
    · cases rest with
      | nil => simp
      | cons c rest =>
        cases width - ds.length with
        | zero => simp
        | succ n => simpa using hrest
  cases ds with
  | nil => exact absurd rfl hne
  | cons c ds =>
    simp only [readNumber, List.cons_append] at htake ⊢
    simp only [htake, List.isEmpty_cons, Bool.false_eq_true, if_false]
    rw [← List.cons_append, List.drop_left]

end

theorem padded_ne_nil {width n : Nat} : padded width n ≠ [] := by
  simp [padded, digits]

theorem readField_padded {low high n : Nat} (hlow : low ≤ n) (hhigh : n ≤ high) (hn : n < 100)
    (rest : List Char) : readField low high (padded 2 n ++ rest) = .ok (n, rest) := by
  have hlength : (padded 2 n).length = 2 := length_padded (by decide) hn
  have hdigits : ∀ c ∈ padded 2 n, c.isDigit = true := fun c => isDigit_of_mem_padded
  have hread : readNumber 2 (padded 2 n ++ rest) = .ok (n, rest) := by
    rw [readNumber_digits hdigits padded_ne_nil (by omega) (.inl hlength), number_padded]
  simp only [readField, dropBlank_digits hdigits padded_ne_nil, hread, bind, Except.bind, hlow,
    hhigh, and_self, if_true]

theorem readMark_cons {c : Char} (hc : isBlank c = false) (rest : List Char) :
    readMark c (c :: rest) = .ok ((), rest) := by
  simp only [readMark, dropBlank_cons hc, if_true]

theorem readYear_format {y : Int} (hlow : Date.firstYear ≤ y) (hhigh : y ≤ Date.lastYear)
    (rest : List Char) : readYear (formatYear y ++ '-' :: rest) = .ok (y, '-' :: rest) := by
  simp only [Date.firstYear, Date.lastYear] at hlow hhigh
  -- behind a sign all digits are read, whatever comes next
  have hsigned : readNumber (padded 4 y.natAbs ++ '-' :: rest).length
      (padded 4 y.natAbs ++ '-' :: rest) = .ok (y.natAbs, '-' :: rest) := by
    rw [readNumber_digits (fun c => isDigit_of_mem_padded) padded_ne_nil (by simp) (.inr rfl),
      number_padded]
  unfold formatYear
  split
  · rename_i hfour
    have hlength : (padded 4 y.toNat).length = 4 := length_padded (by decide) (by omega)
    have hread : readNumber 4 (padded 4 y.toNat ++ '-' :: rest) = .ok (y.toNat, '-' :: rest) := by
      rw [readNumber_digits (fun c => isDigit_of_mem_padded) padded_ne_nil (by omega) (.inl hlength),
        number_padded]
    obtain ⟨c, cs, hds⟩ := List.exists_cons_of_ne_nil (show padded 4 y.toNat ≠ [] from padded_ne_nil)
    have hc : c.isDigit = true := isDigit_of_mem_padded (hds ▸ List.mem_cons_self)
    obtain ⟨hblank, hminus, hplus⟩ := of_isDigit hc
    rw [hds, List.cons_append] at hread ⊢
    simp only [readYear, dropBlank_cons hblank]
    split
    · rename_i heq
      exact absurd (List.cons.inj heq).1 hminus
    · rename_i heq
      exact absurd (List.cons.inj heq).1 hplus
    · simp only [hread, bind, Except.bind]
      rw [if_pos (by omega), show (y.toNat : Int) = y by omega]
  · by_cases hneg : y < 0
    · have hsign : dropBlank ('-' :: (padded 4 y.natAbs ++ '-' :: rest)) =
          '-' :: (padded 4 y.natAbs ++ '-' :: rest) := dropBlank_cons (by decide) _
      rw [if_pos hneg, List.cons_append]
      simp only [readYear, hsign, hsigned, bind, Except.bind]
      rw [if_pos (by omega), show -(y.natAbs : Int) = y by omega]
    · have hsign : dropBlank ('+' :: (padded 4 y.natAbs ++ '-' :: rest)) =
          '+' :: (padded 4 y.natAbs ++ '-' :: rest) := dropBlank_cons (by decide) _
      rw [if_neg hneg, List.cons_append]
      simp only [readYear, hsign, hsigned, bind, Except.bind]
      rw [if_pos (by omega), show (y.natAbs : Int) = y by omega]

theorem readNano_format {n : Nat} (hn : n < 1000000000) :
    readNano (formatNano n ++ ['Z']) = .ok (n, ['Z']) := by
  have hread {width k : Nat} (hpos : 0 < width) (hwidth : width ≤ 9) (hk : k < 10 ^ width) :
      readNano ('.' :: padded width k ++ ['Z']) = .ok (k * 10 ^ (9 - width), ['Z']) := by
    have hlength : (padded width k).length = width := length_padded hpos hk
    have hnumber : readNumber 9 (padded width k ++ ['Z']) = .ok (k, ['Z']) := by
      rw [readNumber_digits (fun c => isDigit_of_mem_padded) padded_ne_nil (by omega) (.inr rfl),
        number_padded]
    rw [List.cons_append]
    simp only [readNano, hnumber, bind, Except.bind, List.length_append, hlength, List.length_cons,
      List.length_nil, Nat.add_sub_cancel]
    rfl
  unfold formatNano
  split
  · rename_i h
    rw [h]
    rfl
  split
  · rw [hread (by decide) (by decide) (by omega)]
    rw [show n / 1000000 * 10 ^ (9 - 3) = n by omega]
  split
  · rw [hread (by decide) (by decide) (by omega)]
    rw [show n / 1000 * 10 ^ (9 - 6) = n by omega]
  · rw [hread (by decide) (by decide) (by omega)]
    rw [show n * 10 ^ (9 - 9) = n by omega]

/-! ## The whole text -/

theorem daysIn_bounds (year : Int) (month : Nat) :
    Date.daysIn year month ≤ 31 ∧ (0 < Date.daysIn year month → 1 ≤ month ∧ month ≤ 12) := by
  unfold Date.daysIn
  split
  · split <;> omega
  all_goals omega

theorem isValid_bounds {d : Date} (h : d.isValid = true) :
    (Date.firstYear ≤ d.year ∧ d.year ≤ Date.lastYear) ∧ (1 ≤ d.month ∧ d.month ≤ 12) ∧
      1 ≤ d.day ∧ d.day ≤ 31 := by
  simp only [Date.isValid, Bool.and_eq_true, decide_eq_true_eq] at h
  obtain ⟨⟨⟨hfirst, hlast⟩, hday⟩, hdays⟩ := h
  obtain ⟨hmost, hmonth⟩ := daysIn_bounds d.year d.month
  exact ⟨⟨hfirst, hlast⟩, hmonth (by omega), hday, by omega⟩

/-- Universal time is not ahead of itself. -/
theorem ofLocal_zero {t : Timestamp} (hhour : t.hour < 24) (hminute : t.minute < 60) :
    t.ofLocal 0 = t := by
  have hpast : ¬ (t.hour : Int) * 60 + t.minute - 0 < 0 := by omega
  have hnext : ¬ 1440 ≤ (t.hour : Int) * 60 + t.minute - 0 := by omega
  have hday : (((t.hour : Int) * 60 + t.minute - 0) % 1440).toNat = t.hour * 60 + t.minute := by
    omega
  simp only [ofLocal, if_neg hpast, if_neg hnext, hday]
  rw [show (t.hour * 60 + t.minute) / 60 = t.hour by omega,
    show (t.hour * 60 + t.minute) % 60 = t.minute by omega]

/-- The parts of a text are read as they were written. -/
theorem parse_parts {date : Date} (hdate : date.isValid = true) {hour minute second nano : Nat}
    (hhour : hour < 24) (hminute : minute < 60) (hsecond : second ≤ 60) (hnano : nano < 1000000000) :
    parse (String.ofList (formatYear date.year ++ '-' :: padded 2 date.month ++
      '-' :: padded 2 date.day ++ 'T' :: padded 2 hour ++ ':' :: padded 2 minute ++
      ':' :: padded 2 second ++ formatNano nano ++ ['Z'])) =
      ofParts date hour minute second nano 0 := by
  obtain ⟨⟨hfirst, hlast⟩, ⟨hmonth, hmonth'⟩, hday, hday'⟩ := isValid_bounds hdate
  have hdash (rest : List Char) : readMark '-' ('-' :: rest) = .ok ((), rest) :=
    readMark_cons (by decide) rest
  have hcolon (rest : List Char) : readMark ':' (':' :: rest) = .ok ((), rest) :=
    readMark_cons (by decide) rest
  have hbetween (rest : List Char) : readBetween ('T' :: rest) = .ok ((), rest) := rfl
  have hzone : readZone (dropBlank ['Z']) = .ok (0, []) := rfl
  simp only [parse, String.toList_ofList, List.append_assoc, List.cons_append,
    readYear_format hfirst hlast, hdash, readField_padded hmonth hmonth' (by omega),
    readField_padded hday hday' (by omega), hbetween, readField_padded (Nat.zero_le hour)
      (by omega : hour ≤ 23) (by omega), hcolon, readField_padded (Nat.zero_le minute)
      (by omega : minute ≤ 59) (by omega), readField_padded (Nat.zero_le second) hsecond (by omega),
    readNano_format hnano, hzone, bind, Except.bind]
  rfl

/-- The parts of a timestamp in universal time are put together again. -/
theorem ofParts_eq {t : Timestamp} (h : t.IsValid) {second nano : Nat}
    (hclock : (if second = 60 then (⟨t.date, t.hour, t.minute, 59, nano + 1000000000⟩ : Timestamp)
      else ⟨t.date, t.hour, t.minute, second, nano⟩) = t) :
    ofParts t.date t.hour t.minute second nano 0 = .ok t := by
  simp only [ofParts, hclock, ofLocal_zero h.hour h.minute, h.date]
  rfl

/-- **Timestamps as text.**  A timestamp in the calendar is the one that its text denotes. -/
theorem parse_format {t : Timestamp} (h : t.IsValid) : parse t.format = .ok t := by
  have hsecond := h.second
  by_cases hleap : 1000000000 ≤ t.nano
  · obtain ⟨hlast, hnano⟩ := h.nano.resolve_left (by omega)
    simp only [format, hleap, if_true]
    rw [parse_parts h.date h.hour h.minute (by omega) (by omega)]
    refine ofParts_eq h ?_
    rw [hlast, if_pos rfl, Nat.sub_add_cancel hleap, ← hlast]
  · simp only [format, hleap, if_false]
    rw [parse_parts h.date h.hour h.minute (by omega) (by omega)]
    refine ofParts_eq h ?_
    rw [if_neg (by omega)]

end Timestamp

end Wayfinder
